import DriverMicroServices.Effects

/-! What an assigned delivery carries: a driver, the time of the assignment and a
code that the drop-off can be verified with. `assignDriver` and
`OffersService.acceptOffer` set all three, the state machine service sets no
code, and a status update may set `ASSIGNED` and nothing else. -/
namespace DriverMicroServices
open Transactions Program

/-- An active delivery can be completed, and a delivered one says by whom and
when. -/
structure WellFormed (row : Delivery) : Prop where
  active : row.status.isActive = true →
    row.driverId ≠ none ∧ row.assignedAt ≠ none ∧ row.deliveryOtp ≠ none
  delivered : row.status = .delivered → row.driverId ≠ none ∧ row.deliveredAt ≠ none

/-- The two ways to `ASSIGNED` that issue no code, kept from taking effect: an
acceptance by the state machine service, and an update of a pending delivery to
`ASSIGNED`, which is also what an unknown status string means. -/
def codeGuarded (request : Request) (effect : Effect Key) (db : Db) : Bool :=
  match request.operation, effect with
  | .stateMachineAcceptOffer _ _, .commit => false
  | .updateStatus deliveryId dto, .commit =>
    mapStringToDeliveryStatus dto.status ≠ .assigned ||
      (db.delivery deliveryId).all fun row => row.status ≠ .pending
  | _, _ => true

/-- Well formed, and a code is only ever held for a driver. -/
structure Issued (row : Delivery) : Prop where
  wellFormed : WellFormed row
  code : row.deliveryOtp ≠ none → row.driverId ≠ none

def AllIssued (db : Db) : Prop := ∀ id row, db.delivery id = some row → Issued row

private theorem issued_new {row : Delivery} (new : row.IsNew) : Issued row := by
  obtain ⟨dto, createdAt, rfl⟩ := new
  refine ⟨⟨fun active => ?_, fun delivered => ?_⟩, fun code => ?_⟩
  · simp [CreateDeliveryDto.row, DeliveryStatus.isActive] at active
  · simp [CreateDeliveryDto.row] at delivered
  · simp [CreateDeliveryDto.row] at code

private theorem issued_update {row : Delivery} {now : Time} {dto : UpdateDeliveryStatusDto}
    {statusEnum : DeliveryStatus} (issued : Issued row)
    (allowed : statusEnum ∈ allowedTransitions row.status)
    (coded : statusEnum = .assigned → row.status ≠ .pending) :
    Issued ((transition now dto statusEnum row.entity).saveOver row) := by
  obtain ⟨status, driver, assignedAt, otp, deliveredAt⟩ := transition_saveOver now dto statusEnum row
  obtain ⟨⟨active, _⟩, code⟩ := issued
  refine ⟨⟨?_, ?_⟩, by rwa [otp, driver]⟩
  · rw [status, driver, assignedAt, otp]
    intro becomes
    refine active ?_
    cases was : row.status <;> cases statusEnum <;>
      simp_all [allowedTransitions, DeliveryStatus.isActive]
  · rw [status, driver, deliveredAt]
    rintro rfl
    refine ⟨(active ?_).1, by simp⟩
    cases was : row.status <;> simp_all [allowedTransitions, DeliveryStatus.isActive]

private theorem issued_step {before : Db} {id : Uuid} {row' : Delivery}
    (guarded : codeGuarded request effect before = true) (all : AllIssued before)
    (step : DeliveryStep AllIssued request before effect id (before.delivery id) row') :
    Issued row' := by
  generalize held : before.delivery id = stored at step
  cases step with
  | created operation => exact issued_new ⟨_, _, rfl⟩
  | assigned operation => exact ⟨⟨by simp, by simp⟩, by simp⟩
  | updated asked change =>
    obtain ⟨changed, allowed, rfl⟩ := change
    refine issued_update (all id _ held) allowed fun assigned => ?_
    rcases asked with operation | ⟨reason, operation, rfl⟩
    · simpa [codeGuarded, operation, assigned, held] using guarded
    · simp [cancellation, mapStringToDeliveryStatus] at assigned
  | verified operation change =>
    obtain ⟨_, code, _, rfl⟩ := change
    have driven := (all id _ held).code (by simp [code])
    exact ⟨⟨by simp [DeliveryStatus.isActive], by simpa using driven⟩, by simpa using fun _ => driven⟩
  | accepted operation offered _ => exact ⟨⟨by simp, by simp⟩, by simp⟩
  | stateMachineAccepted operation => simp [codeGuarded, operation] at guarded
  | regenerated operation kept seen change =>
    -- the row that was read was well formed when it was read
    obtain ⟨⟨driverId, driver⟩, undelivered, _, rfl⟩ := change
    have read := kept _ _ seen
    rw [regenerate_saveOver]
    refine ⟨⟨fun active => ⟨by simp [driver], (read.wellFormed.active active).2.1, by simp⟩,
      fun delivered => (undelivered delivered).elim⟩, by simp [driver]⟩

/-- In every run from new deliveries in which neither of the two ways without a
code takes effect, every delivery is well formed in every state reached. -/
theorem deliveries_well_formed (env : Env) (store : Db) (actions : List (Action Request)) (s : Service)
    (fresh : ∀ id row, store.delivery id = some row → row.IsNew)
    (guarded : ({ store } : Service).Admits (Request.program env)
      (fun request effect db => codeGuarded request effect db) actions)
    (ran : ({ store } : Service).run (Request.program env) actions = some s) :
    ∀ id row, Db.delivery s.store id = some row → WellFormed row := by
  have start : AllIssued store := fun id row held => issued_new (fresh id row held)
  have kept : AllIssued s.store := by
    refine run_keeps ?_ env start guarded ran
    intro request effect before after all guarded does
    rcases does_delivery does with same | ⟨id, row', step, updated⟩
    · simpa only [AllIssued, same] using all
    · intro other row held
      by_cases same : other = id
      · rw [same, updated, Function.update_self] at held
        cases held
        exact issued_step guarded all step
      · rw [updated, Function.update_of_ne same] at held
        exact all other row held
  exact fun id row held => (kept id row held).wellFormed

section Runs
open Sample

/-- Assignment, pickup, a new code and the drop-off. -/
def dropOff : List (Action Request) :=
  alone 0 (.assignDriver "D1" "x" "a") 5 9 ++
    alone 1 (.updateStatus "D1" { status := "PICKED_UP" }) 6 11 ++
    alone 2 (.generateDeliveryOtp "D1") 7 4 ++
    alone 3 (.verifyOtp "D1" "100000" none none none) 8 10

theorem deliveries_well_formed_shop :
    ∃ s, ({ store := shop } : Service).run (Request.program env) dropOff = some s ∧
      ∀ id row, Db.delivery s.store id = some row → WellFormed row := by
  have possible : (after shop dropOff).isSome = true := by decide +kernel
  obtain ⟨s, ran⟩ := Option.isSome_iff_exists.mp possible
  exact ⟨s, ran, deliveries_well_formed env shop _ s (fun _ _ held => shop_delivery held)
    (by decide +kernel) ran⟩

/-- A pending delivery, an unknown status string: assigned, to no one. -/
theorem assigned_without_driver :
    ∃ s, ({ store := shop } : Service).run (Request.program env)
        (alone 0 (.updateStatus "D1" { status := "ARRIVED" }) 5 6) = some s ∧
      ∃ row, Db.delivery s.store "D1" = some row ∧ ¬ WellFormed row := by
  have assigned : (after shop (alone 0 (.updateStatus "D1" { status := "ARRIVED" }) 5 6)).map
      (fun s => (Db.delivery s.store "D1").map fun row => (row.status, row.driverId)) =
      some (some (.assigned, none)) := by
    decide +kernel
  obtain ⟨s, ran, delivery⟩ := Option.map_eq_some_iff.mp assigned
  obtain ⟨row, held, shape⟩ := Option.map_eq_some_iff.mp delivery
  obtain ⟨status, driver⟩ := Prod.mk.inj shape
  exact ⟨s, ran, row, held, fun wellFormed => (wellFormed.active (by rw [status]; rfl)).1 driver⟩

end Runs

end DriverMicroServices
