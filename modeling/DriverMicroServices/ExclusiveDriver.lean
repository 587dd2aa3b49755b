import DriverMicroServices.Effects

/-! One driver, one active delivery. Only `OffersService.acceptOffer` asks whether
the driver is available, and it asks without a lock; `assignDriver` and the state
machine service do not ask. -/
namespace DriverMicroServices
open Transactions Program

/-- No driver has two active deliveries. -/
def ExclusiveDriver (db : Db) : Prop :=
  ∀ id id' row row' driverId, db.delivery id = some row → db.delivery id' = some row' →
    row.status.isActive = true → row'.status.isActive = true →
    row.driverId = some driverId → row'.driverId = some driverId → id = id'

/-- The driver has no active delivery but, perhaps, this one. -/
def freeFor (db : Db) (driverId deliveryId : Uuid) : Bool :=
  db.deliveries.all fun entry =>
    entry.1 = deliveryId ∨ entry.2.status.isActive = false ∨ entry.2.driverId ≠ some driverId

/-- What an assignment would have to find when it commits. `generateDeliveryOtp`,
whose save may bring back an old driver, stays out of the run. -/
def assignmentGuarded (request : Request) (effect : Effect Key) (db : Db) : Bool :=
  match request.operation, effect with
  | .assignDriver deliveryId driverId _, .commit => freeFor db driverId deliveryId
  | .acceptOffer offerId driverId _, .commit =>
    (db.offer offerId).all fun offer => freeFor db driverId offer.deliveryId
  | .stateMachineAcceptOffer offerId driverId, .commit =>
    (db.offer offerId).all fun offer => freeFor db driverId offer.deliveryId
  | .generateDeliveryOtp _, .autosave _ => false
  | _, _ => true

/-- A pending delivery has no driver. -/
def PendingUndriven (db : Db) : Prop :=
  ∀ id row, db.delivery id = some row → row.status = .pending → row.driverId = none

/-- What a step may leave in its row: a driver who was free for the delivery, or
the driver and the activity that the row had. -/
private structure Placed (before : Db) (id : Uuid) (row' : Delivery) : Prop where
  pending : row'.status = .pending → row'.driverId = none
  driven : ∀ driverId, row'.status.isActive = true → row'.driverId = some driverId →
    freeFor before driverId id = true ∨ ∃ row, before.delivery id = some row ∧
      row.status.isActive = true ∧ row.driverId = some driverId

private theorem placed_assigned {before : Db} {id : Uuid} {row' : Delivery} {driverId : Uuid}
    (status : row'.status = .assigned) (driver : row'.driverId = some driverId)
    (free : freeFor before driverId id = true) : Placed before id row' where
  pending impossible := by simp [status] at impossible
  driven other _ same := by
    rw [driver, Option.some.injEq] at same
    exact .inl (same ▸ free)

private theorem step_placed {inv : Db → Prop} {before : Db} {id : Uuid} {row' : Delivery}
    (guarded : assignmentGuarded request effect before = true) (undriven : PendingUndriven before)
    (step : DeliveryStep inv request before effect id (before.delivery id) row') :
    Placed before id row' := by
  generalize held : before.delivery id = stored at step
  cases step with
  | created operation =>
    exact ⟨fun _ => rfl, fun _ active => by
      simp [CreateDeliveryDto.row, DeliveryStatus.isActive] at active⟩
  | assigned operation =>
    simp only [assignmentGuarded, operation] at guarded
    exact placed_assigned (by simp) (by simp) guarded
  | updated asked change =>
    rename_i dto row
    obtain ⟨changed, allowed, rfl⟩ := change
    obtain ⟨status, driver, _⟩ := transition_saveOver request.ambient.now dto
      (mapStringToDeliveryStatus dto.status) row
    refine ⟨fun pending => ?_, fun driverId active driven => .inr ⟨row, held, ?_, driver ▸ driven⟩⟩
    · exact (mapped_status_ne_pending _ (status.symm.trans pending)).elim
    · rw [driver] at driven
      cases was : row.status <;> simp [was, allowedTransitions] at allowed
      · simp [undriven id row held was] at driven
      all_goals rfl
  | verified _ change =>
    obtain ⟨_, _, _, rfl⟩ := change
    exact ⟨fun pending => by simp at pending, fun _ active => by simp [DeliveryStatus.isActive] at active⟩
  | accepted operation offered _ =>
    simp only [assignmentGuarded, operation, offered, Option.all_some] at guarded
    exact placed_assigned (by simp) (by simp) guarded
  | stateMachineAccepted operation offered _ _ _ =>
    simp only [assignmentGuarded, operation, offered, Option.all_some] at guarded
    exact placed_assigned (by simp) (by simp) guarded
  | regenerated operation => simp [assignmentGuarded, operation] at guarded

/-- Another active delivery of a driver stands against him being free. -/
private theorem not_freeFor {db : Db} {driverId deliveryId id : Uuid} {row : Delivery}
    (held : db.delivery id = some row) (active : row.status.isActive = true)
    (driver : row.driverId = some driverId) (free : freeFor db driverId deliveryId = true) :
    id = deliveryId := by
  have entry := List.all_eq_true.mp free (id, row) ((Db.mem_deliveries db).mpr held)
  simpa [active, driver] using entry

private theorem exclusive_step {inv : Db → Prop} {before after : Db}
    (guarded : assignmentGuarded request effect before = true)
    (both : ExclusiveDriver before ∧ PendingUndriven before)
    (does : request.Does inv effect before after) :
    ExclusiveDriver after ∧ PendingUndriven after := by
  obtain ⟨exclusive, undriven⟩ := both
  rcases does_delivery does with same | ⟨id, row', step, updated⟩
  · simp only [ExclusiveDriver, PendingUndriven, same]
    exact ⟨exclusive, undriven⟩
  have others : ∀ other, other ≠ id → after.delivery other = before.delivery other :=
    fun other different => by rw [updated, Function.update_of_ne different]
  have here : after.delivery id = some row' := by simp [updated]
  have placed := step_placed guarded undriven step
  -- the changed row against any other active row of its driver
  have alone : ∀ other found driverId, other ≠ id → before.delivery other = some found →
      found.status.isActive = true → found.driverId = some driverId →
      row'.status.isActive = true → row'.driverId ≠ some driverId := by
    intro other found driverId different held active driver active' driver'
    rcases placed.driven driverId active' driver' with free | ⟨row, was, wasActive, wasDriver⟩
    · exact different (not_freeFor held active driver free)
    · exact different (exclusive other id found row driverId held was active wasActive driver wasDriver)
  constructor
  · intro first second row₁ row₂ driverId held₁ held₂ active₁ active₂ driver₁ driver₂
    by_cases same₁ : first = id <;> by_cases same₂ : second = id
    · rw [same₁, same₂]
    · rw [same₁, here] at held₁
      cases held₁
      rw [others second same₂] at held₂
      exact (alone second row₂ driverId same₂ held₂ active₂ driver₂ active₁ driver₁).elim
    · rw [same₂, here] at held₂
      cases held₂
      rw [others first same₁] at held₁
      exact (alone first row₁ driverId same₁ held₁ active₁ driver₁ active₂ driver₂).elim
    · rw [others first same₁] at held₁
      rw [others second same₂] at held₂
      exact exclusive first second row₁ row₂ driverId held₁ held₂ active₁ active₂ driver₁ driver₂
  · intro other found held pending
    by_cases same : other = id
    · rw [same, here] at held
      cases held
      exact placed.pending pending
    · rw [others other same] at held
      exact undriven other found held pending

/-- In every run from deliveries no driver has begun, whose assignments commit
only while their driver has no other active delivery, no driver ever has two. -/
theorem exclusive_driver (env : Env) (store : Db) (actions : List (Action Request)) (s : Service)
    (start : ∀ id row, store.delivery id = some row → row.driverId = none ∨ row.status.Terminal)
    (guarded : ({ store } : Service).Admits (Request.program env)
      (fun request effect db => assignmentGuarded request effect db) actions)
    (ran : ({ store } : Service).run (Request.program env) actions = some s) :
    ExclusiveDriver s.store := by
  have begun : ExclusiveDriver store ∧ PendingUndriven store := ?_
  · exact (run_keeps (fun both guarded does => exclusive_step guarded both does) env begun guarded
      ran).1
  constructor
  · intro id id' row row' driverId held held' active active' driver driver'
    rcases start id row held with none | terminal
    · simp [none] at driver
    · rcases terminal with status | status | status <;> simp [status, DeliveryStatus.isActive] at active
  · intro id row held pending
    rcases start id row held with none | terminal
    · exact none
    · rcases terminal with status | status | status <;> simp [status] at pending

section Runs
open Sample

/-- Each driver gets one of the two deliveries. -/
def oneEach : List (Action Request) :=
  alone 0 (.createOfferForDriver "x" "D1" none) 5 5 ++
    alone 1 (.acceptOffer "offer0" "x" 7) 7 18 ++ alone 2 (.assignDriver "D2" "y" "a") 8 9

theorem exclusive_driver_shop :
    ∃ s, ({ store := shop } : Service).run (Request.program env) oneEach = some s ∧
      ExclusiveDriver s.store := by
  have possible : (after shop oneEach).isSome = true := by decide +kernel
  obtain ⟨s, ran⟩ := Option.isSome_iff_exists.mp possible
  refine ⟨s, ran, exclusive_driver env shop _ s (fun _ _ held => ?_) (by decide +kernel) ran⟩
  obtain ⟨_, _, rfl⟩ := shop_delivery held
  exact .inl rfl

/-- Two offers to one driver, both accepted while he still looks available. -/
def bothAtOnce : List (Action Request) :=
  alone 0 (.createOfferForDriver "x" "D1" none) 5 5 ++
    alone 1 (.createOfferForDriver "x" "D2" none) 6 5 ++
    alone 2 (.acceptOffer "offer0" "x" 7) 7 3 ++ alone 3 (.acceptOffer "offer1" "x" 8) 8 3 ++
    List.replicate 15 (.step 2) ++ List.replicate 15 (.step 3)

theorem driver_with_two_deliveries :
    ∃ s, ({ store := shop } : Service).run (Request.program env) bothAtOnce = some s ∧
      ¬ ExclusiveDriver s.store := by
  have both : (after shop bothAtOnce).map (fun s =>
      ((Db.delivery s.store "D1").map fun row => (row.status, row.driverId),
        (Db.delivery s.store "D2").map fun row => (row.status, row.driverId))) =
      some (some (.assigned, some "x"), some (.assigned, some "x")) := by
    decide +kernel
  obtain ⟨s, ran, deliveries⟩ := Option.map_eq_some_iff.mp both
  refine ⟨s, ran, fun exclusive => ?_⟩
  obtain ⟨first, second⟩ := Prod.mk.inj deliveries
  obtain ⟨row, held, shape⟩ := Option.map_eq_some_iff.mp first
  obtain ⟨row', held', shape'⟩ := Option.map_eq_some_iff.mp second
  obtain ⟨status, driver⟩ := Prod.mk.inj shape
  obtain ⟨status', driver'⟩ := Prod.mk.inj shape'
  have same := exclusive _ _ _ _ "x" held held' (by rw [status]; rfl) (by rw [status']; rfl)
    driver driver'
  simp at same

end Runs

end DriverMicroServices
