import DriverMicroServices.Requests
import DriverMicroServices.Transactions.LockOrder

/-! The order in which the calls lock rows. Every call takes the tables in one order,
but for the offers: the two acceptances and the expiry job lock all the offers that
match, in the order of a scan, and one acceptance does so after it has locked the
driver. So what deadlocks there are, are among these three calls. -/
namespace DriverMicroServices
open Transactions Program

/-! ## The order -/

/-- The tables in the order in which the calls lock their rows. -/
def Key.level : Key → Fin 8
  | .offer _ => 0
  | .sellerOrder _ => 1
  | .delivery _ => 2
  | .deliveryEvent _ => 3
  | .assignment _ => 4
  | .driver _ => 5
  | .outbox _ => 6
  | .dispatchDecision _ | .driverStats _ | .redis _ => 7

@[simp] theorem Key.level_values (id : String) :
    (Key.offer id).level = 0 ∧ (Key.sellerOrder id).level = 1 ∧ (Key.delivery id).level = 2 ∧
      (Key.deliveryEvent id).level = 3 ∧ (Key.assignment id).level = 4 ∧ (Key.driver id).level = 5 ∧
      (Key.outbox id).level = 6 := ⟨rfl, rfl, rfl, rfl, rfl, rfl, rfl⟩

/-- The calls that lock every offer that matches. -/
def Request.LocksOffers (request : Request) : Prop :=
  match request.operation with
  | .acceptOffer _ _ _ | .stateMachineAcceptOffer _ _ | .expireOffers => True
  | _ => False

def lockOrder : LockOrder Request Key (Fin 8) where
  rank := Key.level
  shared k := ∃ id, k = .offer id
  multi := Request.LocksOffers

/-- A piece of a transaction keeps to the order; how it ends does not matter, because
the end of the transaction gives every lock back. -/
abbrev Inside (request : Request) (held : List Key) (piece : Call α) : Prop :=
  piece.Climbs lockOrder request (fun _ _ => True) held

/-- A whole call, or a piece of it between transactions. -/
abbrev Outside (request : Request) (piece : Call α) : Prop :=
  piece.Climbs lockOrder request HandsBack []

/-! ## Rules -/

section Rules

variable {request : Request} {held : List Key} {id : Uuid} {entity : DeliveryEntity}
  {offer : DriverOffer} {exception : Exception}

theorem plain_of_level {k : Key} (above : 0 < k.level) : lockOrder.shared k → request.LocksOffers := by
  rintro ⟨id, rfl⟩
  exact absurd above (by simp)

/-- The last statement of a transaction. -/
theorem inside_last {piece : Call α} (bound : Inside request held (piece.bind fun value => .ret (.ok value))) :
    Inside request held piece := by
  rwa [bind_ret] at bound

theorem inside_throwIf [Decidable condition] {f : Unit → Call α} (rest : Inside request held (f ())) :
    Inside request held ((throwIf condition exception).bind f) := by
  unfold throwIf
  split
  · trivial
  · exact rest

private theorem inside_assertValidAssignment {f : Unit → Call α} (rest : Inside request held (f ())) :
    Inside request held ((DeliveryStateMachine.assertValidAssignment delivery).bind f) := by
  unfold DeliveryStateMachine.assertValidAssignment
  rw [bind_eq, bind_assoc]
  exact inside_throwIf (inside_throwIf rest)

theorem inside_lockDelivery {f : Option DeliveryEntity → Call α}
    (above : ∀ k ∈ held, k.level < 2) (rest : ∀ row, Inside request (.delivery id :: held) (f row)) :
    Inside request held ((lockDelivery id).bind f) :=
  ⟨.inr (.inr above), plain_of_level (by simp), fun _ => rest _⟩

theorem inside_lockOffer {f : Option DriverOffer → Call α} (locks : request.LocksOffers)
    (rest : ∀ row, Inside request (.offer id :: held) (f row)) :
    Inside request held ((lockOffer id).bind f) :=
  ⟨.inr (.inl ⟨⟨id, rfl⟩, locks⟩), fun _ => locks, rest⟩

theorem inside_saveDelivery {f : Unit → Call α} (own : .delivery id ∈ held)
    (rest : Inside request (.delivery id :: held) (f ())) :
    Inside request held ((saveDelivery id entity).bind f) := by
  refine ⟨.inl own, plain_of_level (by simp), fun row => ?_⟩
  cases row with
  | none => exact rest
  | some row => exact ⟨by simp, rest⟩

theorem inside_saveOffer {f : Unit → Call α} (own : .offer id ∈ held) (locks : request.LocksOffers)
    (rest : Inside request (.offer id :: held) (f ())) :
    Inside request held ((saveOffer id offer).bind f) := by
  refine ⟨.inl own, fun _ => locks, fun row => ?_⟩
  cases row with
  | none => exact rest
  | some row => exact ⟨by simp, rest⟩

theorem inside_insert {k : Key} {row : Row k} {f : Unit → Call α} (plain : 0 < k.level)
    (above : ∀ k' ∈ held, k'.level < k.level) (rest : Inside request (k :: held) (f ())) :
    Inside request held ((DriverMicroServices.insert k row).bind f) := by
  refine ⟨.inr (.inr above), plain_of_level plain, fun found => ?_⟩
  cases found with
  | none => exact ⟨by simp, rest⟩
  | some row => trivial

theorem inside_updateDriver {set : Driver → Driver} {f : Unit → Call α} (above : ∀ k ∈ held, k.level < 5)
    (rest : Inside request (.driver id :: held) (f ())) :
    Inside request held ((updateDriver id set).bind f) := by
  refine ⟨.inr (.inr above), plain_of_level (by simp), fun row => ?_⟩
  cases row with
  | none => exact rest
  | some row => exact ⟨by simp, rest⟩

/-- The statement locks offers only, and keeps the locks there are. -/
theorem inside_updateOffers {test : Uuid → DriverOffer → Bool} {set : DriverOffer → DriverOffer}
    {f : Unit → Call α} (locks : request.LocksOffers)
    (rest : ∀ held', (∀ k ∈ held', k ∈ held ∨ k.level = 0) → Inside request held' (f ())) :
    Inside request held ((updateOffers test set).bind f) := by
  refine (climbs_bind _ _).mpr fun seen => ?_
  refine climbs_forEach (fun held' => ∀ k ∈ held', k ∈ held ∨ k.level = 0) _ _ ?_ rest
    fun k member => .inl member
  refine fun id _ held' kept => ⟨.inr (.inl ⟨⟨id, rfl⟩, locks⟩), fun _ => locks, fun row => ?_⟩
  have grown : ∀ k ∈ (.offer id :: held' : List Key), k ∈ held ∨ k.level = 0 :=
    List.forall_mem_cons.mpr ⟨.inr rfl, kept⟩
  cases row with
  | none => exact grown
  | some row =>
    dsimp only
    split
    · exact ⟨by simp, grown⟩
    · exact grown

/-- What is held after such a statement, against a table that comes later. -/
theorem below_of_kept {held' : List Key} (kept : ∀ k ∈ held', k ∈ held ∨ k.level = 0)
    (below : ∀ k ∈ held, k.level < n) (positive : 0 < n) : ∀ k ∈ held', k.level < n := by
  intro k member
  rcases kept k member with first | level
  · exact below k first
  · rwa [level]

/-- Publishing comes last: what follows needs no row. -/
theorem inside_publish {f : Unit → Call α} (above : ∀ k ∈ held, k.level < 6)
    (rest : ∀ held, Inside request held (f ())) :
    Inside request held ((publish true eventType payload now).bind f) := by
  unfold publish
  rw [bind_eq, bind_assoc]
  refine inside_throwIf fun seen => ?_
  dsimp only [onRet]
  cases seen.row (.outbox (generateIdempotencyKey eventType payload now)) with
  | some event => exact rest held
  | none =>
    exact inside_insert (by simp) (by simpa using above) (rest _)

/-- The proof event is stored on another connection, which waits for its key. -/
theorem inside_notify {f : Unit → Call α} (above : ∀ k ∈ held, k.level < 6)
    (rest : Inside request held (f ())) :
    Inside request held ((notify eventId event deliveryId delivery now).bind f) := by
  have stores (eventType : String) (payload : OutboxPayload) :
      Inside request held ((publish false eventType payload now).bind f) := by
    unfold publish
    rw [bind_eq, bind_assoc]
    refine inside_throwIf fun seen => ?_
    dsimp only [onRet]
    cases seen.row (.outbox (generateIdempotencyKey eventType payload now)) with
    | some event => exact rest
    | none =>
      refine ⟨fun own => absurd (above _ own) (by simp), .inr above, fun found => ?_⟩
      cases found with
      | some row => trivial
      | none => exact rest
  unfold notify
  split
  · dsimp only
    split
    · exact stores _ _
    · exact stores _ _
    · exact rest
  · exact rest

theorem inside_createEvent {f : DeliveryEvent → Call α} (above : ∀ k ∈ held, k.level < 3)
    (rest : ∀ event, Inside request (.deliveryEvent id :: held) (f event)) :
    Inside request held ((createEvent id event).bind f) := by
  unfold createEvent
  rw [bind_eq, bind_assoc]
  exact inside_insert (by simp) (by simpa using above) (rest _)

theorem outside_bind {piece : Call α} {f : α → Call β} (first : Outside request piece)
    (rest : ∀ value, Outside request (f value)) : Outside request (piece.bind f) := by
  refine (climbs_bind _ _).mpr (climbs_mono (fun result held ended => ?_) _ first)
  obtain rfl : held = [] := ended
  cases result with
  | ok value => exact rest value
  | error error => rfl

theorem outside_throwIf [Decidable condition] {f : Unit → Call α} (rest : Outside request (f ())) :
    Outside request ((throwIf condition exception).bind f) := by
  unfold throwIf
  split
  · rfl
  · exact rest

theorem outside_transaction {body : Call α} (inside : Inside request [] body) :
    Outside request (transaction body) :=
  climbs_transaction inside fun _ => rfl

/-- A statement of its own, with no lock held. -/
theorem outside_autosave {k : Key} {f : Option (Row k) → Option (Row k)} {next : Option (Row k) → Call α}
    (rest : ∀ row, Outside request (next row)) : Outside request (.autosave k f next) :=
  ⟨by simp, .inr (by simp), rest⟩

theorem outside_insertNow {k : Key} {row : Row k} : Outside request (insertNow k row) :=
  outside_autosave fun found => by cases found <;> rfl

/-- Reading needs no lock. -/
theorem climbs_find {post : Except Exception β → List Key → Prop} {query : Db → α} {f : α → Call β}
    (rest : ∀ value, (f value).Climbs lockOrder request post held) :
    ((find query).bind f).Climbs lockOrder request post held := fun seen => rest (query seen)

theorem climbs_check {post : Except Exception α → List Key → Prop} {f : CapabilityCheck → Call α}
    (rest : ∀ value, (f value).Climbs lockOrder request post held) :
    ((checkDeliveryAcceptanceCapability driverId).bind f).Climbs lockOrder request post held := by
  unfold checkDeliveryAcceptanceCapability
  rw [bind_eq, bind_assoc]
  refine climbs_find fun driver => ?_
  cases driver with
  | none => exact rest _
  | some driver => exact climbs_find fun _ => rest _

end Rules

/-! ## The calls -/

section Calls

variable {request : Request} {env : Env} {amb : Ambient} {deliveryId driverId offerId : Uuid}

private theorem assignDriver_climbs (assignmentId : Uuid) :
    Outside request (assignDriver env amb deliveryId driverId assignmentId) := by
  refine outside_bind (outside_transaction ?_) fun _ => rfl
  refine inside_lockDelivery (by simp) fun row => ?_
  cases row with
  | none => trivial
  | some row =>
    refine inside_saveDelivery (by simp) ?_
    change Inside _ _ (((createEvent _ _).bind fun _ => .ret (.ok ())).bind _)
    rw [bind_assoc]
    refine inside_createEvent (by simp) fun _ => ?_
    exact inside_publish (by simp) fun _ => trivial

theorem updateStatus_climbs (dto : UpdateDeliveryStatusDto) :
    Outside request (updateStatus env amb deliveryId dto) := by
  refine outside_bind (outside_transaction ?_) fun _ => rfl
  refine inside_lockDelivery (by simp) fun row => ?_
  cases row with
  | none => trivial
  | some row =>
    dsimp only
    split
    · trivial
    refine inside_throwIf (inside_saveDelivery (by simp) ?_)
    refine inside_createEvent (by simp) fun _ => ?_
    refine inside_notify (by simp) ?_
    unfold publishStatus
    split
    · exact inside_publish (by simp) fun _ => trivial
    · trivial

private theorem verifyOtp_climbs (otp : String) (proofUrl : Option String) (driverLat driverLon : Option Rat) :
    Outside request (verifyOtp env amb deliveryId otp proofUrl driverLat driverLon) := by
  refine outside_bind (outside_transaction ?_) fun _ => rfl
  refine inside_lockDelivery (by simp) fun row => ?_
  cases row with
  | none => trivial
  | some row =>
    dsimp only
    split
    · trivial
    split
    · refine inside_throwIf (inside_throwIf ?_)
      split
      · exact inside_saveDelivery (by simp) trivial
      · refine inside_saveDelivery (by simp) ?_
        refine inside_createEvent (by simp) fun _ => ?_
        refine inside_notify (by simp) ?_
        exact inside_publish (by simp) fun _ => trivial
    · trivial

theorem createOfferForDriver_climbs (expiresInSeconds : Option Nat) :
    Outside request (OffersService.createOfferForDriver amb driverId deliveryId expiresInSeconds) := by
  refine climbs_find fun driver => ?_
  cases driver with
  | none => rfl
  | some driver =>
    refine outside_throwIf (climbs_check fun _ => outside_throwIf (climbs_find fun delivery => ?_))
    cases delivery with
    | none => rfl
    | some delivery => exact outside_throwIf (outside_bind outside_insertNow fun _ => rfl)

private theorem rejectOffer_climbs (reason : Option String) :
    Outside request (OffersService.rejectOffer amb offerId driverId reason) := by
  refine climbs_find fun offer => ?_
  cases offer with
  | none => rfl
  | some offer =>
    refine outside_throwIf (outside_throwIf (outside_bind (outside_autosave fun _ => rfl) fun _ => ?_))
    refine outside_bind (climbs_find fun delivery => ?_) fun _ => rfl
    cases delivery with
    | none => rfl
    | some delivery =>
      dsimp only
      split
      · rfl
      refine climbs_find fun offers => climbs_find fun candidates => ?_
      split
      · exact outside_bind (createOfferForDriver_climbs _) fun _ => rfl
      · rfl

private theorem acceptOffer_climbs (locks : request.LocksOffers) (acceptedAt : Time) :
    Outside request (OffersService.acceptOffer env amb offerId driverId acceptedAt) := by
  refine outside_transaction (inside_lockOffer locks fun offer => ?_)
  cases offer with
  | none => trivial
  | some offer =>
    refine inside_throwIf (inside_throwIf (inside_throwIf (climbs_check fun _ => inside_throwIf ?_)))
    refine inside_saveOffer (by simp) locks (inside_updateOffers locks fun held kept => ?_)
    -- nothing but offers is locked so far
    have low : ∀ k ∈ held, k.level < 1 := below_of_kept kept (by simp) (by simp)
    have above {n : Fin 8} (high : 1 ≤ n) : ∀ k ∈ held, k.level < n :=
      fun k member => lt_of_lt_of_le (low k member) high
    refine inside_lockDelivery (above (by decide)) fun row => ?_
    cases row with
    | none => trivial
    | some row =>
      refine inside_saveDelivery (by simp) (inside_insert (by simp) ?_ ?_)
      · simpa using above (by decide)
      refine inside_updateDriver ?_ (inside_publish ?_ fun _ => trivial)
      · simpa using above (by decide)
      · simpa using above (by decide)

private theorem stateMachineAcceptOffer_climbs (locks : request.LocksOffers) :
    Outside request (DeliveryStateMachine.acceptOffer amb offerId driverId) := by
  refine outside_bind (outside_transaction (inside_lockOffer locks fun offer => ?_)) fun _ => rfl
  cases offer.filter (·.driverId = driverId) with
  | none => trivial
  | some offer =>
    refine inside_throwIf (inside_throwIf (inside_lockDelivery (by simp) fun row => ?_))
    cases row with
    | none => trivial
    | some row =>
      refine inside_assertValidAssignment (inside_throwIf ?_)
      refine inside_saveOffer (by simp) locks (inside_saveDelivery (by simp) ?_)
      refine inside_insert (by simp) (by simp) (inside_updateDriver (by simp) ?_)
      refine inside_updateOffers locks fun held kept => ?_
      have below : ∀ k ∈ held, k.level < 6 := below_of_kept kept (by simp) (by simp)
      refine inside_last ?_
      refine inside_publish ?_ ?_
      · exact below
      · exact fun _ => trivial

/-- Every call keeps to the order, and gives its locks back. -/
theorem request_climbs (request : Request) : Outside request (request.program env) := by
  obtain ⟨operation, amb⟩ := request
  cases operation with
  | create dto =>
    refine outside_bind (outside_throwIf (outside_bind (outside_transaction ?_) fun _ => rfl))
      fun _ => rfl
    refine inside_insert (by simp) (by simp) ?_
    exact inside_last (inside_insert (by simp) (by simp) trivial)
  | assignDriver deliveryId driverId assignmentId =>
    exact outside_bind (assignDriver_climbs assignmentId) fun _ => rfl
  | updateStatus deliveryId dto => exact outside_bind (updateStatus_climbs dto) fun _ => rfl
  | verifyOtp deliveryId otp proofUrl driverLat driverLon =>
    exact outside_bind (verifyOtp_climbs otp proofUrl driverLat driverLon) fun _ => rfl
  | cancelDelivery deliveryId reason =>
    refine outside_bind (climbs_find fun row => ?_) fun delivery => ?_
    · cases row <;> rfl
    · split
      · rfl
      · exact outside_bind (updateStatus_climbs _) fun _ => rfl
  | generateDeliveryOtp deliveryId =>
    refine outside_bind (outside_bind (climbs_find fun row => ?_) fun delivery => ?_) fun _ => rfl
    · obtain ⟨_ | delivery, events⟩ := row <;> rfl
    · refine outside_throwIf (outside_throwIf (outside_bind ?_ fun _ => outside_bind outside_insertNow fun _ => rfl))
      exact climbs_find fun stored => outside_throwIf (outside_autosave fun _ => rfl)
  | createOfferForDriver driverId deliveryId expiresInSeconds =>
    exact outside_bind (createOfferForDriver_climbs expiresInSeconds) fun _ => rfl
  | acceptOffer offerId driverId acceptedAt =>
    have locks : Request.LocksOffers ⟨.acceptOffer offerId driverId acceptedAt, amb⟩ := trivial
    exact outside_bind (acceptOffer_climbs locks acceptedAt) fun _ => rfl
  | stateMachineAcceptOffer offerId driverId =>
    have locks : Request.LocksOffers ⟨.stateMachineAcceptOffer offerId driverId, amb⟩ := trivial
    exact stateMachineAcceptOffer_climbs locks
  | rejectOffer offerId driverId reason => exact outside_bind (rejectOffer_climbs reason) fun _ => rfl
  | expireOffers =>
    have locks : Request.LocksOffers ⟨.expireOffers, amb⟩ := trivial
    refine outside_bind (outside_transaction ?_) fun _ => rfl
    exact inside_last (inside_updateOffers locks fun _ _ => trivial)
  | updateDriverStatus driverId status =>
    refine outside_bind (outside_bind (climbs_find fun row => ?_) fun driver => ?_) fun _ => rfl
    · cases row <;> rfl
    · exact outside_bind (outside_autosave fun _ => rfl) fun _ => rfl

end Calls

/-! ## Runs -/

section Runs

variable {env : Env} {store : Db} {actions : List (Action Request)} {s' : Service}

/-- Calls of a run that wait for each other in a circle: one of them waits for an offer
that another has locked, and both are acceptances or the expiry job. -/
theorem deadlock_between_acceptances
    (ran : ({ store } : Service).run (Request.program env) actions = some s') {circle : Set Nat}
    (nonempty : circle.Nonempty)
    (closed : ∀ t ∈ circle, ∃ k, ∃ t' ∈ circle, s'.Waits t k t') :
    ∃ t ∈ circle, ∃ t' ∈ circle, ∃ offerId, s'.Waits t (.offer offerId) t' ∧
      (∃ thread, s'.threads t = some thread ∧ thread.label.LocksOffers) ∧
      ∃ thread, s'.threads t' = some thread ∧ thread.label.LocksOffers := by
  have ordered : s'.Ordered lockOrder :=
    System.ordered_run request_climbs (System.ordered_initial store) ran
  obtain ⟨t, member, t', member', k, waits, ⟨offerId, rfl⟩, multi, multi'⟩ :=
    System.circular_wait ordered nonempty closed
  exact ⟨t, member, t', member', offerId, waits, multi, multi'⟩

/-- Wherever a run stands, every call in progress can still be brought to its end: by steps,
and where two or more acceptances or expiries are in progress, by aborting some of these.
Every other call gets its answer, and no lock is left. -/
theorem every_call_ends
    (ran : ({ store } : Service).run (Request.program env) actions = some s') :
    ∃ more s'', System.Finishes (Request.program env) lockOrder s' more s'' := by
  obtain ⟨n, bounded⟩ := System.run_bounded (n := 0) (fun _ _ => rfl) ran
  exact System.brought_to_end request_climbs
    (System.ordered_run request_climbs (System.ordered_initial store) ran) bounded

open Sample in
/-- Two drivers are offered the delivery and accept at the same time, each up to the offer
of the other. -/
def bothAccepting : List (Action Request) :=
  alone 0 (.createOfferForDriver "x" "D1" none) 5 5 ++
  alone 1 (.createOfferForDriver "y" "D1" none) 5 5 ++
  alone 2 (.acceptOffer "offer0" "x" 7) 7 3 ++ alone 3 (.acceptOffer "offer1" "y" 7) 7 6 ++
  List.replicate 4 (.step 2)

theorem both_wait : ∃ s', Sample.after Sample.shop bothAccepting = some s' ∧
    s'.Waits 2 (.offer "offer1") 3 ∧ s'.Waits 3 (.offer "offer0") 2 := by
  have computes : (Sample.after Sample.shop bothAccepting).map (fun s =>
      ((s.threads 2).bind fun thread => thread.program.wants?, s.owner (.offer "offer1"),
        (s.threads 3).bind fun thread => thread.program.wants?, s.owner (.offer "offer0"))) =
      some (some (.offer "offer1"), some 3, some (.offer "offer0"), some 2) := by decide
  obtain ⟨s', ran, waits⟩ := Option.map_eq_some_iff.mp computes
  simp only [Prod.mk.injEq] at waits
  obtain ⟨wants₂, owned₃, wants₃, owned₂⟩ := waits
  exact ⟨s', ran, ⟨by decide, wants₂, owned₃⟩, ⟨by decide, wants₃, owned₂⟩⟩

theorem deadlock_between_acceptances_shop : ∃ s', Sample.after Sample.shop bothAccepting = some s' ∧
    ∃ t ∈ ({2, 3} : Set Nat), ∃ t' ∈ ({2, 3} : Set Nat), ∃ offerId,
      s'.Waits t (.offer offerId) t' ∧
      (∃ thread, s'.threads t = some thread ∧ thread.label.LocksOffers) ∧
      ∃ thread, s'.threads t' = some thread ∧ thread.label.LocksOffers := by
  obtain ⟨s', ran, first, second⟩ := both_wait
  have closed : ∀ t ∈ ({2, 3} : Set Nat), ∃ k, ∃ t' ∈ ({2, 3} : Set Nat), s'.Waits t k t' := by
    rintro t (rfl | rfl)
    · exact ⟨_, 3, .inr rfl, first⟩
    · exact ⟨_, 2, .inl rfl, second⟩
  exact ⟨s', ran, deadlock_between_acceptances ran ⟨2, .inl rfl⟩ closed⟩

theorem every_call_ends_shop : ∃ s', Sample.after Sample.shop bothAccepting = some s' ∧
    ∃ more s'', System.Finishes (Request.program Sample.env) lockOrder s' more s'' := by
  obtain ⟨s', ran, _⟩ := both_wait
  exact ⟨s', ran, every_call_ends ran⟩

end Runs

end DriverMicroServices
