import DriverMicroServices.DriverStats
import DriverMicroServices.OfferChain
import DriverMicroServices.Projections
import Mathlib.Algebra.Order.Field.Rat
import Mathlib.Data.Finset.Card
import Mathlib.Tactic.Linarith

/-! The counters of a driver against the deliveries he was assigned. The total is
raised by the acceptance of `DeliveryStateMachine` alone; the other two ways to
assign a delivery raise nothing, and a status that is asked for again is counted
again. Without these the four counters are the sizes of sets of deliveries. -/
namespace DriverMicroServices
open Transactions Program

/-! ## What the projections count -/

/-- The call of `DriverStatsService` that a projection is. -/
def Projection.statsCall : Projection → Option (Uuid × StatsCall)
  | .recordDeliveryCompleted driverId times => some (driverId, .recordDeliveryCompleted times)
  | .recordDeliveryFailed driverId => some (driverId, .recordDeliveryFailed)
  | .recordDeliveryCancelled driverId => some (driverId, .recordDeliveryCancelled)
  | .recordAssignmentAccepted driverId => some (driverId, .recordAssignmentAccepted)
  | _ => none

/-- The calls of `DriverStatsService` that a call made. -/
def statsCalls (turn : ServiceTurn) : List (Uuid × StatsCall) :=
  (projectionsOf turn).filterMap Projection.statsCall

/-- The statistics of all drivers after calls that came one after another. -/
def recorded (now : Time) (stats : Uuid → DriverStats) (calls : List (Uuid × StatsCall)) :
    Uuid → DriverStats :=
  calls.foldl
    (fun stats call => Function.update stats call.1 ((stats call.1).record now call.2)) stats

/-- The statistics after the calls of a history. No driver had any before. -/
def statsAfter (turns : List ServiceTurn) : Uuid → DriverStats :=
  turns.foldl (fun stats turn => recorded turn.label.ambient.now stats (statsCalls turn)) fun _ => {}

/-- How often a counter of the driver is raised. -/
def raises (driverId : Uuid) (counter : StatsCounter) (calls : List (Uuid × StatsCall)) : Nat :=
  calls.countP fun call => call.1 = driverId && call.2.counts counter

/-- How often one of the three counters of settled deliveries is raised. -/
def settlements (driverId : Uuid) (calls : List (Uuid × StatsCall)) : Nat :=
  raises driverId .completedDeliveries calls + raises driverId .failedDeliveries calls +
    raises driverId .cancelledDeliveries calls

/-- The deliveries that satisfy the test. -/
def idsWhere (test : Delivery → Bool) (db : Db) : Finset Uuid :=
  ((db.deliveries.filter fun entry => test entry.2).map Prod.fst).toFinset

/-- The delivery is this driver's. -/
def isOf (driverId : Uuid) (row : Delivery) : Bool := row.driverId = some driverId

/-- The delivery is this driver's, in a status that is counted for him. -/
def isSettledOf (driverId : Uuid) (row : Delivery) : Bool :=
  isOf driverId row && row.status.hasStats

/-- The deliveries that were assigned to the driver at some time. -/
def assignedIds (driverId : Uuid) (turns : List ServiceTurn) : Finset Uuid :=
  turns.foldr (fun turn ids => idsWhere (isOf driverId) turn.after ∪ ids) ∅

/-! ## The rates -/

/-- `completionRate` of the dispatch scoring. -/
def DriverStats.completionRate (stats : DriverStats) : Rat :=
  stats.completedDeliveries / stats.acceptanceCount

/-- `calculateCompletionRateScore`. -/
def calculateCompletionRateScore (stats : DriverStats) : Rat :=
  if stats.acceptanceCount = 0 then 50 else min 100 (max 0 (stats.completionRate * 100))

/-- The counters agree with the number of deliveries assigned, and so the rates made
of them are fractions. -/
structure Consistent (stats : DriverStats) (assigned : Nat) : Prop where
  settled : stats.completedDeliveries + stats.failedDeliveries + stats.cancelledDeliveries ≤
    stats.totalDeliveries
  total : stats.totalDeliveries = assigned
  rates : stats.successRate + stats.failureRate + stats.cancellationRate ≤ 1
  /-- The score of the completion rate is the rate itself, not a bound. -/
  score : stats.acceptanceCount ≠ 0 →
    stats.completionRate ≤ 1 ∧ calculateCompletionRateScore stats = stats.completionRate * 100

theorem quotient_le_one {part whole : Nat} (within : part ≤ whole) : (part : Rat) / whole ≤ 1 := by
  have bound : (part : Rat) ≤ whole := by exact_mod_cast within
  exact div_le_one_of_le₀ bound (Nat.cast_nonneg whole)

/-- Counters that agree make fractions. -/
theorem consistent_of_counters {stats : DriverStats} {assigned : Nat}
    (settled : stats.completedDeliveries + stats.failedDeliveries + stats.cancelledDeliveries ≤
      stats.totalDeliveries)
    (total : stats.totalDeliveries = assigned)
    (accepted : stats.acceptanceCount = stats.totalDeliveries) : Consistent stats assigned where
  settled := settled
  total := total
  rates := by
    have sum := quotient_le_one settled
    unfold DriverStats.successRate DriverStats.failureRate DriverStats.cancellationRate
    rw [← add_div, ← add_div]
    exact_mod_cast sum
  score := by
    intro some_
    have rate : stats.completionRate ≤ 1 := quotient_le_one (by omega)
    have positive : 0 ≤ stats.completionRate := div_nonneg (Nat.cast_nonneg _) (Nat.cast_nonneg _)
    refine ⟨rate, ?_⟩
    rw [calculateCompletionRateScore, if_neg some_, max_eq_right (by linarith),
      min_eq_right (by linarith)]

/-! ## Counting -/

section Counting

variable {driverId : Uuid} {counter : StatsCounter}

@[simp] theorem raises_nil : raises driverId counter [] = 0 := rfl

@[simp] theorem raises_cons (call : Uuid × StatsCall) (rest : List (Uuid × StatsCall)) :
    raises driverId counter (call :: rest) = raises driverId counter rest +
      if call.1 = driverId && call.2.counts counter then 1 else 0 :=
  List.countP_cons ..

theorem raises_append (first second : List (Uuid × StatsCall)) :
    raises driverId counter (first ++ second) =
      raises driverId counter first + raises driverId counter second :=
  List.countP_append

private theorem recorded_counter (now : Time) (stats : Uuid → DriverStats) (calls : List (Uuid × StatsCall)) :
    (recorded now stats calls driverId).counter counter =
      (stats driverId).counter counter + raises driverId counter calls := by
  unfold recorded
  induction calls generalizing stats with
  | nil => rfl
  | cons call rest ih =>
    rw [List.foldl_cons, ih, raises_cons, Function.update_apply]
    by_cases own : driverId = call.1
    · subst own
      rw [if_pos rfl, record_counter]
      simp only [decide_true, Bool.true_and]
      omega
    · simp only [if_neg own, Ne.symm own, decide_false, Bool.false_and, Bool.false_eq_true, if_false]
      omega

private theorem foldl_counter (stats : Uuid → DriverStats) (counter : StatsCounter)
    (turns : List ServiceTurn) :
    (turns.foldl (fun stats turn => recorded turn.label.ambient.now stats (statsCalls turn)) stats
      driverId).counter counter =
      (stats driverId).counter counter + raises driverId counter (turns.flatMap statsCalls) := by
  induction turns generalizing stats with
  | nil => rfl
  | cons turn later ih =>
    rw [List.foldl_cons, ih, recorded_counter, List.flatMap_cons, raises_append]
    omega

/-- The counters count the calls of the history. -/
theorem statsAfter_counter (driverId : Uuid) (counter : StatsCounter) (turns : List ServiceTurn) :
    (statsAfter turns driverId).counter counter =
      raises driverId counter (turns.flatMap statsCalls) := by
  have none_yet : ({} : DriverStats).counter counter = 0 := by cases counter <;> rfl
  rw [statsAfter, foldl_counter, none_yet, Nat.zero_add]

end Counting

/-! ## One call -/

section Turns

variable {before after : Db} {id : Uuid} {row row' : Delivery} {turn : ServiceTurn}

theorem mem_idsWhere {test : Delivery → Bool} {db : Db} :
    id ∈ idsWhere test db ↔ ∃ row, db.delivery id = some row ∧ test row = true := by
  simp [idsWhere, Db.mem_deliveries]

/-- Equal deliveries satisfy the test alike. -/
theorem idsWhere_congr (test : Delivery → Bool) (same : after.delivery = before.delivery) :
    idsWhere test after = idsWhere test before := by
  ext id
  rw [mem_idsWhere, mem_idsWhere, same]

/-- One changed delivery changes the number that satisfy a test by one at most. -/
theorem card_changed (test : Delivery → Bool) (found : before.delivery id = some row)
    (moved : after.delivery = Function.update before.delivery id (some row')) :
    (idsWhere test after).card + (if test row then 1 else 0) =
      (idsWhere test before).card + if test row' then 1 else 0 := by
  have others : (idsWhere test after).erase id = (idsWhere test before).erase id := by
    ext other
    simp only [Finset.mem_erase, mem_idsWhere, moved]
    refine and_congr_right fun different => ?_
    rw [Function.update_of_ne different]
  have own : id ∈ idsWhere test after ↔ test row' = true := by
    simp [mem_idsWhere, moved]
  have own' : id ∈ idsWhere test before ↔ test row = true := by
    simp [mem_idsWhere, found]
  have size : ∀ (ids : Finset Uuid) (holds : Bool), (id ∈ ids ↔ holds = true) →
      ids.card = (ids.erase id).card + if holds then 1 else 0 := by
    intro ids holds member
    cases holds with
    | true => exact (Finset.card_erase_add_one (member.mpr rfl)).symm
    | false => rw [Finset.erase_eq_of_notMem (by simp [member])]; rfl
  rw [size _ _ own, size _ _ own', others]
  omega

/-- What one call counts is what it does to the deliveries of each driver. -/
structure Balanced (driverId : Uuid) (turn : ServiceTurn) : Prop where
  total : raises driverId .totalDeliveries (statsCalls turn) +
      (idsWhere (isOf driverId) turn.before).card = (idsWhere (isOf driverId) turn.after).card
  accepted : raises driverId .acceptanceCount (statsCalls turn) =
    raises driverId .totalDeliveries (statsCalls turn)
  settled : settlements driverId (statsCalls turn) +
      (idsWhere (isSettledOf driverId) turn.before).card =
    (idsWhere (isSettledOf driverId) turn.after).card
  /-- No delivery is taken away from a driver. -/
  kept : idsWhere (isOf driverId) turn.before ⊆ idsWhere (isOf driverId) turn.after

/-- A call that changes no delivery and counts nothing. -/
theorem balanced_still (driverId : Uuid) (same : Db.delivery turn.after = Db.delivery turn.before)
    (silent : statsCalls turn = []) : Balanced driverId turn where
  total := by
    rw [silent, idsWhere_congr _ same]
    exact Nat.zero_add _
  accepted := by rw [silent]; rfl
  settled := by
    rw [silent, idsWhere_congr _ same]
    exact Nat.zero_add _
  kept := (idsWhere_congr _ same).ge

/-- A call that changes one delivery and counts the change. -/
theorem balanced_changed {driverId : Uuid} (found : Db.delivery turn.before id = some row)
    (moved : Db.delivery turn.after = Function.update (Db.delivery turn.before) id (some row'))
    (total : raises driverId .totalDeliveries (statsCalls turn) +
      (if isOf driverId row then 1 else 0) = if isOf driverId row' then 1 else 0)
    (accepted : raises driverId .acceptanceCount (statsCalls turn) =
      raises driverId .totalDeliveries (statsCalls turn))
    (settled : settlements driverId (statsCalls turn) +
      (if isSettledOf driverId row then 1 else 0) = if isSettledOf driverId row' then 1 else 0) :
    Balanced driverId turn where
  total := by
    have size := card_changed (isOf driverId) found moved
    omega
  accepted := accepted
  settled := by
    have size := card_changed (isSettledOf driverId) found moved
    omega
  kept := by
    intro other member
    obtain ⟨held, present, own⟩ := mem_idsWhere.mp member
    by_cases here : other = id
    · subst here
      obtain rfl : row = held := Option.some.inj (found.symm.trans present)
      refine mem_idsWhere.mpr ⟨row', by rw [moved, Function.update_self], ?_⟩
      by_contra taken
      rw [if_pos own, if_neg taken] at total
      omega
    · exact mem_idsWhere.mpr ⟨held, by rw [moved, Function.update_of_ne here, present], own⟩

end Turns

/-! ## The calls -/

/-- What the hooks of a status count: the status, once, for the driver. -/
theorem counts_statusHooks (driverId deliveryId : Uuid) (entity : DeliveryEntity) :
    let calls := (statusHooks deliveryId entity).filterMap Projection.statsCall
    raises driverId .totalDeliveries calls = 0 ∧ raises driverId .acceptanceCount calls = 0 ∧
      settlements driverId calls =
        if entity.driverId.value? = some driverId && entity.status.hasStats then 1 else 0 := by
  unfold statusHooks completionHooks recordWith settlements
  cases entity.status <;> cases entity.driverId.value? <;>
    simp [Projection.statsCall, StatsCall.counts, DeliveryStatus.hasStats, List.filterMap_cons]

/-- A call whose hooks ran on a delivery that was still open. -/
theorem balanced_hooks {turn : ServiceTurn} {entity : DeliveryEntity} {row row' : Delivery}
    (found : Db.delivery turn.before deliveryId = some row)
    (moved : Db.delivery turn.after =
      Function.update (Db.delivery turn.before) deliveryId (some row'))
    (told : projectionsOf turn = statusHooks deliveryId entity)
    (status : entity.status = row'.status) (driver : entity.driverId.value? = row.driverId)
    (same : row'.driverId = row.driverId)
    (open_ : row.driverId.isSome → row.status.hasStats = false) (driverId : Uuid) :
    Balanced driverId turn := by
  obtain ⟨total, accepted, settled⟩ := counts_statusHooks driverId deliveryId entity
  rw [← told] at total accepted settled
  have own : isOf driverId row' = isOf driverId row := by rw [isOf, isOf, same]
  refine balanced_changed found moved ?_ (accepted.trans total.symm) ?_
  · rw [own, statsCalls, total, Nat.zero_add]
  · rw [statsCalls, settled, driver, status]
    unfold isSettledOf
    rw [own]
    by_cases here : row.driverId = some driverId
    · simp [isOf, here, open_ (by simp [here])]
    · simp [isOf, here]

/-- The rows that a mutator leaves alone. -/
def Key.AsideOr (deliveryId : Uuid) (k : Key) : Prop := k.Aside ∨ k = .delivery deliveryId

/-- A call that changes one delivery leaves the others. -/
theorem delivery_moved {store : Db} {left : Session Row} {row' : Delivery}
    (others : ∀ k, ¬ Key.AsideOr deliveryId k → left.store.row k = store.row k)
    (stays : Db.delivery left.store deliveryId = some row') :
    Db.delivery left.store = Function.update store.delivery deliveryId (some row') := by
  refine funext fun id => ?_
  by_cases own : id = deliveryId
  · rw [own, Function.update_self, stays]
  · rw [Function.update_of_ne own]
    exact others (.delivery id) (by simpa [Key.AsideOr, Key.Aside] using own)

/-- A mutator counts the status it takes the delivery to. -/
private theorem mutates_balanced {request : Request} {target : DeliveryStatus}
    {change : Delivery → Delivery → Prop} {entity : Delivery → DeliveryEntity}
    {hooks : DeliveryEntity → List Projection} {store : Db} {left : Session Row}
    (hooked : ∀ delivery, delivery.status = target → hooks delivery = statusHooks deliveryId delivery)
    (changes : ∀ row row', change row row' →
      (entity row).status = target ∧ (entity row).driverId.value? = row.driverId ∧
        row'.status = target ∧ row'.driverId = row.driverId)
    (open_ : ∀ row, store.delivery deliveryId = some row → row.driverId.isSome →
      row.status = target ∨ (∃ row', change row row') → row.status.hasStats = false)
    (others : ∀ k, ¬ Key.AsideOr deliveryId k → left.store.row k = store.row k)
    (held : Mutates deliveryId (·.status = target) change entity hooks store result left)
    (driverId : Uuid) :
    Balanced driverId ⟨store, request, result.map Settled.projections, left.store⟩ := by
  cases result with
  | error error => exact balanced_still driverId held.1.delivery rfl
  | ok settled =>
    obtain ⟨told, row, found, ⟨repeated, stays, same⟩ | ⟨row', changed, change, stays, same⟩⟩ := held
    · have told' : projectionsOf (⟨store, request, .ok settled.projections, left.store⟩ : ServiceTurn) =
          statusHooks deliveryId row.entity := by
        refine told.trans ?_
        rw [same]
        exact hooked row.entity repeated
      exact balanced_hooks found (delivery_moved others stays) told' rfl (Column.ofRow_value? row.driverId) rfl
        (fun driven => open_ row found driven (.inl repeated)) driverId
    · obtain ⟨status, driver, status', driver'⟩ := changes row row' change
      have told' : projectionsOf (⟨store, request, .ok settled.projections, left.store⟩ : ServiceTurn) =
          statusHooks deliveryId (entity row) := by
        refine told.trans ?_
        rw [same]
        exact hooked (entity row) status
      exact balanced_hooks found (delivery_moved others stays) told' (status.trans status'.symm) driver driver'
        (fun driven => open_ row found driven (.inr ⟨row', change⟩)) driverId

/-! ### The condition -/

/-- The delivery is this driver's already, and not in a status that is counted. -/
def isOpenOf (driverId : Uuid) (row : Delivery) : Bool := isOf driverId row && !row.status.hasStats

/-- The offer is one that `OffersService.acceptOffer` accepts. -/
def mayAccept (db : Db) (now : Time) (driverId : Uuid) (offer : DriverOffer) : Bool :=
  offer.driverId = driverId && offer.isLive now && eligible db driverId

/-- The password is the stored one, and not locked. -/
def isCode (now : Time) (otp : String) (row : Delivery) : Bool :=
  row.deliveryOtp = some otp && !row.otpLockedUntil.any (now < ·)

/-- The call is one whose effect on the drivers is counted once: a delivery is
assigned without a count only to the driver it already has, while it is open, and a
driver's delivery is not taken to a counted status from a counted status. -/
def Counted (turn : ServiceTurn) : Prop :=
  let db := turn.before
  let now := turn.label.ambient.now
  match turn.label.operation with
  | .assignDriver deliveryId driverId _ =>
    ∀ row ∈ Db.delivery db deliveryId, isOpenOf driverId row = true
  | .acceptOffer offerId driverId _ =>
    ∀ offer ∈ Db.offer db offerId, mayAccept db now driverId offer = true →
      ∀ row ∈ Db.delivery db offer.deliveryId, isOpenOf driverId row = true
  | .updateStatus deliveryId dto =>
    ∀ row ∈ Db.delivery db deliveryId, row.driverId.isSome → row.status.hasStats = true →
      row.status ≠ mapStringToDeliveryStatus dto.status
  | .verifyOtp deliveryId otp _ _ _ =>
    ∀ row ∈ Db.delivery db deliveryId, row.driverId.isSome → row.status.hasStats = true →
      row.status ≠ .delivered ∧ isCode now otp row = false
  | _ => True

instance : Decidable (Counted turn) := by
  unfold Counted
  cases turn.label.operation <;> infer_instance

/-- A counted status is never left. -/
theorem hasStats_of_transition {status target : DeliveryStatus}
    (allowed : target ∈ allowedTransitions status) : status.hasStats = false := by
  cases status <;> first | rfl | simp [allowedTransitions] at allowed

/-- Where the call meets the condition, it counts what it does. -/
def Counts (turn : ServiceTurn) : Prop := Counted turn → ∀ driverId, Balanced driverId turn

section Returns

variable {store : Db}

private theorem updateStatus_balanced (env : Env) (amb : Ambient) (deliveryId : Uuid)
    (dto : UpdateDeliveryStatusDto) :
    ((updateStatus env amb deliveryId dto).bind fun settled => pure settled.projections).Returns
      (fun answer left => Counts ⟨store, ⟨.updateStatus deliveryId dto, amb⟩, answer, left.store⟩)
      { store } := by
  have touches : (updateStatus env amb deliveryId dto).Touches (Key.AsideOr deliveryId) :=
    updateStatus_touches (fun _ => .inl) (.inr rfl) dto
  refine returns_bind (returns_mono (returns_touches touches (updateStatus_returns env)) ?_)
  rintro result left ⟨held, others⟩
  have balanced : Counts ⟨store, ⟨.updateStatus deliveryId dto, amb⟩,
      result.map Settled.projections, left.store⟩ := by
    intro counted driverId
    refine mutates_balanced (fun _ _ => rfl) transition_changes ?_ others held driverId
    · intro row found driven reached
      by_contra final
      have final' : row.status.hasStats = true := by simpa using final
      rcases reached with repeated | ⟨row', _, allowed, _⟩
      · exact counted row found driven final' repeated
      · exact final (hasStats_of_transition allowed)
  cases result <;> exact balanced

private theorem verifyOtp_balanced (env : Env) (amb : Ambient) (deliveryId : Uuid) (otp : String)
    (proofUrl : Option String) (driverLat driverLon : Option Rat) :
    ((verifyOtp env amb deliveryId otp proofUrl driverLat driverLon).bind fun settled =>
        pure settled.projections).Returns
      (fun answer left => Counts ⟨store,
        ⟨.verifyOtp deliveryId otp proofUrl driverLat driverLon, amb⟩, answer, left.store⟩)
      { store } := by
  have touches : (verifyOtp env amb deliveryId otp proofUrl driverLat driverLon).Touches
      (Key.AsideOr deliveryId) :=
    verifyOtp_touches (fun _ => .inl) (.inr rfl) otp proofUrl driverLat driverLon
  refine returns_bind (returns_mono (returns_touches touches (verifyOtp_returns env)) ?_)
  rintro result left ⟨held, others⟩
  have balanced : Counts ⟨store, ⟨.verifyOtp deliveryId otp proofUrl driverLat driverLon, amb⟩,
      result.map Settled.projections, left.store⟩ := by
    intro counted driverId
    refine mutates_balanced (fun delivery delivered => ?_) completed_changes ?_ others held driverId
    · rw [statusHooks, delivered]
    · intro row found driven reached
      by_contra final
      have final' : row.status.hasStats = true := by simpa using final
      obtain ⟨undelivered, wrong⟩ := counted row found driven final'
      rcases reached with repeated | ⟨row', _, code, unlocked, _⟩
      · exact undelivered repeated
      · have right : isCode amb.now otp row = true := by
          simpa [isCode, code, Option.any_eq_false] using unlocked
        rw [right] at wrong
        cases wrong
  cases result <;> exact balanced

/-! ### The three ways to assign -/

theorem assignDriver_returns (env : Env) (amb : Ambient) (deliveryId driverId assignmentId : Uuid) :
    (assignDriver env amb deliveryId driverId assignmentId).Returns (fun result left =>
      match result with
      | .ok settled => settled.projections = [.recordAssignment deliveryId] ∧
          ∃ row, store.delivery deliveryId = some row ∧ Db.delivery left.store =
            Function.update store.delivery deliveryId
              (some ((assignTo amb driverId row.entity).saveOver row))
      | .error _ => SameTables store left.store) { store } := by
  refine returns_bind (returns_mono (transaction_returns (fun _ after =>
    ∃ row, store.delivery deliveryId = some row ∧ after.delivery =
      Function.update store.delivery deliveryId
        (some ((assignTo amb driverId row.entity).saveOver row))) fun session here => ?_) ?_)
  · refine returns_lockDelivery here fun session here => ?_
    cases found : store.delivery deliveryId with
    | none => exact returns_throw here
    | some row =>
      refine returns_saveDelivery here found fun session here => ?_
      show (((createEvent _ _).bind fun _ => .ret (.ok ())).bind _).Returns _ _
      rw [bind_assoc]
      refine returns_createEvent here fun session here => ?_
      refine returns_publish here fun after same => ?_
      exact ⟨row, rfl, by rw [same.delivery, Db.delivery_update]⟩
  · intro result left held
    cases result with
    | ok delivery => exact ⟨rfl, held⟩
    | error error => exact held

/-- An assignment that counts nothing, of a delivery that is the driver's and open. -/
theorem balanced_reassigned {turn : ServiceTurn} {row row' : Delivery}
    (found : Db.delivery turn.before deliveryId = some row)
    (moved : Db.delivery turn.after =
      Function.update (Db.delivery turn.before) deliveryId (some row'))
    (silent : statsCalls turn = []) (open_ : isOpenOf assignee row = true)
    (driver : row'.driverId = some assignee) (status : row'.status = .assigned)
    (driverId : Uuid) : Balanced driverId turn := by
  obtain ⟨own, unsettled⟩ := Bool.and_eq_true_iff.mp open_
  have same : row.driverId = some assignee := by simpa [isOf] using own
  have still : row.status.hasStats = false := by simpa using unsettled
  refine balanced_changed found moved ?_ ?_ ?_
  · rw [silent]
    simp [isOf, same, driver]
  · rw [silent]
    rfl
  · rw [silent]
    have before : isSettledOf driverId row = false := by simp [isSettledOf, still]
    have after : isSettledOf driverId row' = false := by
      simp [isSettledOf, status, DeliveryStatus.hasStats]
    rw [before, after]
    rfl

private theorem assignDriver_balanced (env : Env) (amb : Ambient) (deliveryId driverId assignmentId : Uuid) :
    ((assignDriver env amb deliveryId driverId assignmentId).bind fun settled =>
        pure settled.projections).Returns
      (fun answer left => Counts ⟨store,
        ⟨.assignDriver deliveryId driverId assignmentId, amb⟩, answer, left.store⟩) { store } := by
  refine returns_bind (returns_mono (assignDriver_returns env amb deliveryId driverId assignmentId) ?_)
  intro result left held
  cases result with
  | error error => exact fun _ driverId => balanced_still driverId held.delivery rfl
  | ok settled =>
    obtain ⟨told, row, found, moved⟩ := held
    intro counted driverId
    refine balanced_reassigned found moved ?_ (counted row found) (by simp) (by simp) driverId
    show settled.projections.filterMap Projection.statsCall = []
    rw [told]
    rfl

/-- The check judges the driver row and the hash that the calls before have left. -/
theorem returns_capability {α : Type} {goal : α → Db → Prop} {db : Db} {session : Session Row}
    {f : CapabilityCheck → Call α} (here : At store db session)
    (rest : ∀ session, At store db session →
      (f (capabilityOf (store.driver driverId) (store.row (.driverStats driverId)))).Returns
        (Commits store goal) session) :
    ((checkDeliveryAcceptanceCapability driverId).bind f).Returns (Commits store goal) session := by
  have driver : Db.driver session.store driverId = store.driver driverId :=
    here.stored (.driver driverId) not_false
  have hash : session.store.row (.driverStats driverId) = store.row (.driverStats driverId) :=
    here.stored (.driverStats driverId) not_false
  have next := rest session here
  simp only [checkDeliveryAcceptanceCapability, find, bind_eq, pure_eq, Program.bind, onRet, Returns,
    driver]
  cases found : Db.driver store driverId with
  | none =>
    rw [found] at next
    exact next
  | some driver =>
    rw [found, ← hash] at next
    exact next

/-- `OffersService.acceptOffer` changes nothing unless the driver may be offered a
delivery. -/
theorem acceptOffer_ineligible (env : Env) (amb : Ambient) (offerId driverId : Uuid)
    (acceptedAt : Time) (refused : eligible store driverId = false) :
    (OffersService.acceptOffer env amb offerId driverId acceptedAt).Returns
      (fun _ left => SameTables store left.store) { store } := by
  refine returns_mono (transaction_returns (fun _ _ => False) fun session here => ?_) ?_
  · refine returns_lockOffer here fun session here => ?_
    cases held : store.offer offerId with
    | none => exact returns_throw here
    | some offer =>
      refine returns_throwIf here fun own => returns_throwIf here fun live =>
        returns_throwIf here fun fresh => ?_
      refine returns_capability here fun session here => ?_
      refine returns_throwIf here fun capable => ?_
      exfalso
      simp only [Bool.not_eq_true, Bool.not_eq_false'] at capable
      cases found : store.driver driverId with
      | none => simp [found, capabilityOf] at capable
      | some driver =>
        rw [found] at capable
        have available := capable_is_available (by simpa using capable)
        simp_all [eligible]
  · intro result left held
    cases result with
    | ok value => exact held.elim
    | error error => exact held

private theorem acceptOffer_balanced (env : Env) (amb : Ambient) (offerId driverId : Uuid)
    (acceptedAt : Time) :
    ((OffersService.acceptOffer env amb offerId driverId acceptedAt).bind fun _ =>
        (pure [] : Call (List Projection))).Returns
      (fun answer left => Counts ⟨store,
        ⟨.acceptOffer offerId driverId acceptedAt, amb⟩, answer, left.store⟩) { store } := by
  have still : ∀ (left : Session Row) answer, SameTables store left.store →
      projectionsOf ⟨store, ⟨.acceptOffer offerId driverId acceptedAt, amb⟩, answer, left.store⟩ = [] →
      Counts ⟨store, ⟨.acceptOffer offerId driverId acceptedAt, amb⟩, answer, left.store⟩ := by
    intro left answer same silent _ driverId'
    exact balanced_still driverId' same.delivery (by rw [statsCalls, silent]; rfl)
  by_cases may : eligible store driverId = true
  · refine returns_bind (returns_mono (acceptOffer_returns env) fun result left held => ?_)
    have balanced : ∀ answer : Except Exception (List Projection),
        projectionsOf ⟨store, ⟨.acceptOffer offerId driverId acceptedAt, amb⟩, answer, left.store⟩ = [] →
        Counts ⟨store, ⟨.acceptOffer offerId driverId acceptedAt, amb⟩, answer, left.store⟩ := by
      intro answer silent
      rcases held with same | ⟨_, offer, row, taken⟩
      · exact still left answer same silent
      · have live : offer.isLive amb.now = true := by
          have fresh := taken.fresh
          simpa [DriverOffer.isLive, taken.live] using fresh
        have accepts : mayAccept store amb.now driverId offer = true := by
          simp [mayAccept, taken.own, live, may]
        intro counted
        have open_ := counted offer taken.held accepts row taken.found
        exact balanced_reassigned taken.found taken.assigned (by rw [statsCalls, silent]; rfl) open_
          (by simp) (by simp)
    cases result with
    | ok accepted => exact balanced (.ok []) rfl
    | error error => exact balanced (.error error) rfl
  · have refused : eligible store driverId = false := by simpa using may
    refine returns_bind (returns_mono (acceptOffer_ineligible env amb offerId driverId acceptedAt
      refused) fun result left same => ?_)
    cases result with
    | ok accepted => exact still left (.ok []) same rfl
    | error error => exact still left (.error error) same rfl

private theorem stateMachineAcceptOffer_returns (amb : Ambient) (offerId driverId : Uuid) :
    (DeliveryStateMachine.acceptOffer amb offerId driverId).Returns (fun result left =>
      match result with
      | .ok projections => projections = [.recordAssignmentAccepted driverId] ∧
          ∃ offer row, store.offer offerId = some offer ∧
            store.delivery offer.deliveryId = some row ∧ row.driverId = none ∧
            Db.delivery left.store = Function.update store.delivery offer.deliveryId
              (some ((DeliveryStateMachine.assignTo amb driverId row.entity).saveOver row))
      | .error _ => SameTables store left.store) { store } := by
  refine returns_bind (returns_mono (transaction_returns (fun _ after =>
    ∃ offer row, store.offer offerId = some offer ∧
      store.delivery offer.deliveryId = some row ∧ row.driverId = none ∧
      after.delivery = Function.update store.delivery offer.deliveryId
        (some ((DeliveryStateMachine.assignTo amb driverId row.entity).saveOver row)))
    fun session here => ?_) ?_)
  · refine returns_lockOffer here fun session here => ?_
    cases held : store.offer offerId with
    | none => exact returns_throw here
    | some offer =>
      by_cases own : offer.driverId = driverId
      case neg =>
        simp only [Option.filter_some, own, decide_false, Bool.false_eq_true, if_false]
        exact returns_throw here
      simp only [Option.filter_some, own, decide_true, if_true]
      refine returns_throwIf here fun live => returns_throwIf here fun fresh => ?_
      refine returns_lockDelivery here fun session here => ?_
      cases found : store.delivery offer.deliveryId with
      | none => exact returns_throw here
      | some row =>
        show ((((throwIf _ _).bind fun _ => throwIf _ _)).bind _).Returns _ _
        rw [bind_assoc]
        refine returns_throwIf here fun undriven => returns_throwIf here fun pending => ?_
        refine returns_throwIf here fun _ => ?_
        refine returns_saveOffer here held fun session here => ?_
        refine returns_saveDelivery here (by rw [Db.delivery_set_other _ _ (by simp), found])
          fun session here => ?_
        refine returns_insert here trivial (by simp) fun session here => ?_
        refine returns_updateDriver here fun db' session here driver => ?_
        refine returns_updateOffers here (by simp) fun db session here others changed => ?_
        have unassigned : row.driverId = none := by simpa [Delivery.entity] using undriven
        have bulk : db.delivery = db'.delivery := funext fun id => others (.delivery id) (by simp)
        have assigned : db'.delivery = Function.update store.delivery offer.deliveryId
            (some ((DeliveryStateMachine.assignTo amb driverId row.entity).saveOver row)) := by
          refine funext fun id => ?_
          rcases driver with rfl | ⟨_, _, rfl⟩ <;> simp [Function.update_apply]
        apply returns_lastPublish here
        intro after same
        exact ⟨offer, row, rfl, found, unassigned, by rw [same.delivery, bulk, assigned]⟩
  · intro result left held
    cases result with
    | ok value => exact ⟨rfl, held⟩
    | error error => exact held

private theorem stateMachineAcceptOffer_balanced (amb : Ambient) (offerId driverId : Uuid) :
    (DeliveryStateMachine.acceptOffer amb offerId driverId).Returns
      (fun answer left => Counts ⟨store,
        ⟨.stateMachineAcceptOffer offerId driverId, amb⟩, answer, left.store⟩) { store } := by
  refine returns_mono (stateMachineAcceptOffer_returns amb offerId driverId) fun answer left held => ?_
  cases answer with
  | error error => exact fun _ driverId' => balanced_still driverId' held.delivery rfl
  | ok projections =>
    obtain ⟨rfl, offer, row, _, found, undriven, moved⟩ := held
    intro _ driverId'
    have told : statsCalls ⟨store, ⟨.stateMachineAcceptOffer offerId driverId, amb⟩,
        .ok [.recordAssignmentAccepted driverId], left.store⟩ =
        [(driverId, .recordAssignmentAccepted)] := rfl
    refine balanced_changed found moved ?_ ?_ ?_
    · simp [told, isOf, undriven, StatsCall.counts]
    · simp [told, StatsCall.counts]
    · simp [told, settlements, isSettledOf, isOf, undriven, StatsCall.counts, DeliveryStatus.hasStats]

/-- The calls of the life of a delivery that a driver's counters depend on. -/
def Operation.ofDriver : Operation → Bool
  | .acceptOffer _ _ _ | .stateMachineAcceptOffer _ _ | .assignDriver _ _ _ | .updateStatus _ _
  | .verifyOtp _ _ _ _ _ => true
  | _ => false

private theorem request_balanced (env : Env) (request : Request) (here : request.operation.ofDriver = true)
    (store : Db) :
    (request.program env).Returns (fun answer left => Counts ⟨store, request, answer, left.store⟩)
      { store } := by
  obtain ⟨operation, amb⟩ := request
  cases operation with
  | acceptOffer offerId driverId acceptedAt =>
    exact acceptOffer_balanced env amb offerId driverId acceptedAt
  | stateMachineAcceptOffer offerId driverId =>
    exact stateMachineAcceptOffer_balanced amb offerId driverId
  | assignDriver deliveryId driverId assignmentId =>
    exact assignDriver_balanced env amb deliveryId driverId assignmentId
  | updateStatus deliveryId dto => exact updateStatus_balanced env amb deliveryId dto
  | verifyOtp deliveryId otp proofUrl driverLat driverLon =>
    exact verifyOtp_balanced env amb deliveryId otp proofUrl driverLat driverLon
  | _ => cases here

end Returns

/-! ## Histories -/

/-- The rows that a history leaves. -/
def rowsAfter (store : Db) (turns : List ServiceTurn) : Db :=
  turns.foldl (fun _ turn => turn.after) store

/-- The counters of a history are the sizes of the sets of deliveries at its end. -/
theorem chain_balanced {driverId : Uuid} {store : Db} {turns : List ServiceTurn}
    (chain : Chain (Balanced driverId) store turns) :
    let calls := turns.flatMap statsCalls
    let driven := idsWhere (isOf driverId)
    let settled := idsWhere (isSettledOf driverId)
    raises driverId .totalDeliveries calls + (driven store).card = (driven (rowsAfter store turns)).card ∧
      raises driverId .acceptanceCount calls = raises driverId .totalDeliveries calls ∧
      settlements driverId calls + (settled store).card = (settled (rowsAfter store turns)).card ∧
      driven store ∪ assignedIds driverId turns = driven (rowsAfter store turns) := by
  induction chain with
  | nil => simp [rowsAfter, assignedIds, settlements]
  | @cons turns turn held later ih =>
    obtain ⟨total, accepted, settled, driven⟩ := ih
    have here := held.total
    have alike := held.accepted
    have final := held.settled
    unfold settlements at settled final ⊢
    simp only [List.flatMap_cons, raises_append]
    refine ⟨?_, ?_, ?_, ?_⟩
    · have same : (idsWhere (isOf driverId) (rowsAfter turn.before (turn :: turns))).card =
          (idsWhere (isOf driverId) (rowsAfter turn.after turns)).card := rfl
      omega
    · omega
    · have same : (idsWhere (isSettledOf driverId) (rowsAfter turn.before (turn :: turns))).card =
          (idsWhere (isSettledOf driverId) (rowsAfter turn.after turns)).card := rfl
      omega
    · show _ ∪ (idsWhere (isOf driverId) turn.after ∪ assignedIds driverId turns) = _
      rw [← Finset.union_assoc, Finset.union_eq_right.mpr held.kept]
      exact driven

private theorem consistent_of_chain {driverId : Uuid} {store : Db} {turns : List ServiceTurn}
    (undriven : ∀ id row, store.delivery id = some row → row.driverId = none)
    (chain : Chain (Balanced driverId) store turns) :
    Consistent (statsAfter turns driverId) (assignedIds driverId turns).card := by
  obtain ⟨total, accepted, settled, driven⟩ := chain_balanced chain
  have none_yet : idsWhere (isOf driverId) store = ∅ := by
    refine Finset.eq_empty_iff_forall_notMem.mpr fun id member => ?_
    obtain ⟨row, held, own⟩ := mem_idsWhere.mp member
    simp [isOf, undriven id row held] at own
  rw [none_yet, Finset.empty_union] at driven
  rw [none_yet, Finset.card_empty, Nat.add_zero, ← driven] at total
  have among : idsWhere (isSettledOf driverId) (rowsAfter store turns) ⊆
      assignedIds driverId turns := by
    intro id member
    obtain ⟨row, held, both⟩ := mem_idsWhere.mp member
    rw [driven]
    exact mem_idsWhere.mpr ⟨row, held, (Bool.and_eq_true_iff.mp both).1⟩
  have fewer := Finset.card_le_card among
  have completedCount := statsAfter_counter driverId .completedDeliveries turns
  have failedCount := statsAfter_counter driverId .failedDeliveries turns
  have cancelledCount := statsAfter_counter driverId .cancelledDeliveries turns
  have totalCount := statsAfter_counter driverId .totalDeliveries turns
  have acceptedCount := statsAfter_counter driverId .acceptanceCount turns
  simp only [DriverStats.counter] at completedCount failedCount cancelledCount totalCount acceptedCount
  unfold settlements at settled
  apply consistent_of_counters
  · omega
  · omega
  · omega

/-- In every state of a history whose calls meet the condition, the counters of each
driver agree with his assignments. -/
theorem counters_follow_assignments (env : Env) (store : Db) (requests : List Request)
    (listed : ∀ request ∈ requests, request.operation.ofDriver = true)
    (undriven : ∀ id row, store.delivery id = some row → row.driverId = none) :
    ∃ turns, history (Request.program env) store requests = some turns ∧
      ∀ done, done <+: turns → (∀ turn ∈ done, Counted turn) → ∀ driverId,
        Consistent (statsAfter done driverId) (assignedIds driverId done).card := by
  obtain ⟨turns, ran, chain, _⟩ := history_chain requests
    (fun request member => request_balanced env request (listed request member)) store
  refine ⟨turns, ran, fun done earlier counted driverId => ?_⟩
  have balanced : Chain (Balanced driverId) store done :=
    (chain.initial earlier).mono fun turn member held => held (counted turn member) driverId
  exact consistent_of_chain undriven balanced

section Runs
open Sample

/-- The shop once it has offered `D1` to `x`. -/
def offeredShop : Db :=
  shop.set (.offer "O1")
    { deliveryId := "D1", driverId := "x", createdAt := 0, expiresAt := 30000
      offerPayload := OffersService.calculateOfferPayload ((order "S1").row 0) 0 }

private theorem offeredShop_undriven : ∀ id row, offeredShop.delivery id = some row → row.driverId = none := by
  intro id row held
  rw [offeredShop, Db.delivery_set_other _ _ (by simp)] at held
  obtain ⟨dto, createdAt, rfl⟩ := shop_delivery held
  rfl

/-- The delivery is accepted, picked up and delivered. -/
def delivers : List Request :=
  [⟨.stateMachineAcceptOffer "O1" "x", ambient 1 5⟩,
   ⟨.updateStatus "D1" { status := "PICKED_UP" }, ambient 2 10⟩,
   ⟨.updateStatus "D1" { status := "DELIVERED" }, ambient 3 20⟩]

theorem counters_follow_assignments_delivered :
    ∃ turns, history (Request.program env) offeredShop delivers = some turns ∧
      Consistent (statsAfter turns "x") (assignedIds "x" turns).card ∧
      (statsAfter turns "x").completedDeliveries = 1 := by
  obtain ⟨turns, ran, consistent⟩ :=
    counters_follow_assignments env offeredShop delivers (by decide) offeredShop_undriven
  have seen : (history (Request.program env) offeredShop delivers).map (fun turns =>
      (decide (∀ turn ∈ turns, Counted turn), (statsAfter turns "x").completedDeliveries)) =
      some (true, 1) := by
    decide
  rw [ran, Option.map_some, Option.some.injEq, Prod.mk.injEq, decide_eq_true_iff] at seen
  exact ⟨turns, ran, consistent turns List.prefix_rfl seen.1 "x", seen.2⟩

/-- What a history comes to for one driver: the assignments, the total and the
settled deliveries. -/
def tally (driverId : Uuid) (turns : List ServiceTurn) : Nat × Nat × Nat :=
  let stats := statsAfter turns driverId
  ((assignedIds driverId turns).card, stats.totalDeliveries,
    stats.completedDeliveries + stats.failedDeliveries + stats.cancelledDeliveries)

/-- An assignment by `assignDriver` or by `OffersService.acceptOffer` is not counted,
and the same delivery reported twice is counted as two. -/
theorem counters_drift :
    (∃ turns, history (Request.program env) offeredShop
        [⟨.assignDriver "D1" "x" "A1", ambient 1 5⟩] = some turns ∧
      tally "x" turns = (1, 0, 0) ∧
      ¬ Consistent (statsAfter turns "x") (assignedIds "x" turns).card) ∧
    (∃ turns, history (Request.program env) offeredShop
        [⟨.acceptOffer "O1" "x" 5, ambient 1 5⟩] = some turns ∧
      tally "x" turns = (1, 0, 0) ∧
      ¬ Consistent (statsAfter turns "x") (assignedIds "x" turns).card) ∧
    ∃ turns, history (Request.program env) offeredShop
        (delivers ++ [⟨.updateStatus "D1" { status := "DELIVERED" }, ambient 4 30⟩]) = some turns ∧
      tally "x" turns = (1, 1, 2) ∧
      ¬ Consistent (statsAfter turns "x") (assignedIds "x" turns).card := by
  have differs : ∀ {turns assigned total settled}, tally "x" turns = (assigned, total, settled) →
      total ≠ assigned ∨ total < settled →
      ¬ Consistent (statsAfter turns "x") (assignedIds "x" turns).card := by
    intro turns assigned total settled counted drift consistent
    simp only [tally, Prod.mk.injEq] at counted
    have settled' := consistent.settled
    have total' := consistent.total
    omega
  refine ⟨?_, ?_, ?_⟩
  · have ran : (history (Request.program env) offeredShop
        [⟨.assignDriver "D1" "x" "A1", ambient 1 5⟩]).map (tally "x") = some (1, 0, 0) := by
      decide
    obtain ⟨turns, ran, counted⟩ := Option.map_eq_some_iff.mp ran
    exact ⟨turns, ran, counted, differs counted (.inl (by decide))⟩
  · have ran : (history (Request.program env) offeredShop
        [⟨.acceptOffer "O1" "x" 5, ambient 1 5⟩]).map (tally "x") = some (1, 0, 0) := by
      decide
    obtain ⟨turns, ran, counted⟩ := Option.map_eq_some_iff.mp ran
    exact ⟨turns, ran, counted, differs counted (.inl (by decide))⟩
  · have ran : (history (Request.program env) offeredShop
        (delivers ++ [⟨.updateStatus "D1" { status := "DELIVERED" }, ambient 4 30⟩])).map (tally "x") =
        some (1, 1, 2) := by
      decide
    obtain ⟨turns, ran, counted⟩ := Option.map_eq_some_iff.mp ran
    exact ⟨turns, ran, counted, differs counted (.inr (by decide))⟩

end Runs

end DriverMicroServices
