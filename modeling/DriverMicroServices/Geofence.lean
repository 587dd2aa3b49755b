import DriverMicroServices.RejectedCalls

/-! The radius in which a delivery may be completed, and the code that completes it.
`verifyOtp` compares the distance only when both ends are numbers, and the row that it
has locked carries its coordinates as text; the used code is set to `undefined`, which
the save leaves out. -/
namespace DriverMicroServices
open Transactions Program

/-- A call of `verifyOtp` with a position, whose code does not ask for the distance to
be left out. -/
structure LocatedVerification where
  otp : String
  geofenced : otp ≠ "BYPASS_GEO"
  proofUrl : Option String := none
  driverLat : Rat
  driverLon : Rat
  ambient : Ambient

namespace LocatedVerification

variable (check : LocatedVerification)

def mutator : Mutator := .verifyOtp check.otp check.proofUrl (some check.driverLat) (some check.driverLon)

def program (env : Env) (deliveryId : Uuid) : Call Settled :=
  verifyOtp env check.ambient deliveryId check.otp check.proofUrl (some check.driverLat) (some check.driverLon)

/-- From the driver to the drop-off of the row. -/
def distanceKm (env : Env) (row : Delivery) : Rat :=
  env.haversineKm check.driverLat check.driverLon (decimalValue row.dropLat) (decimalValue row.dropLon)

def IsFar (env : Env) (row : Delivery) : Prop := maxDropoffRadiusKm < check.distanceKm env row

end LocatedVerification

/-- A far driver is rejected and the row stays; a delivery that becomes delivered has
neither a code nor a lock nor a breach left. -/
structure Fenced (env : Env) (deliveryId : Uuid) (check : LocatedVerification) (before : Db)
    (answer : Except Exception Settled) (after : Db) : Prop where
  near : ∀ row, before.delivery deliveryId = some row → check.IsFar env row →
    (∃ error, answer = .error error) ∧ after.delivery deliveryId = some row
  cleared : ∀ row row', before.delivery deliveryId = some row → row.status ≠ .delivered →
    after.delivery deliveryId = some row' → row'.status = .delivered →
    row'.deliveryOtp = none ∧ row'.otpLockedUntil = none ∧ row'.slaBreachAt = none

/-- The call completes the delivery: the code is the stored one and not locked, the id
of the event is a new one, and the event's name is known to the outbox. -/
structure Completes (env : Env) (check : LocatedVerification) (store : Db) (row : Delivery) : Prop where
  undelivered : row.status ≠ .delivered
  code : truthy row.deliveryOtp = some check.otp
  unlocked : row.otpLockedUntil.any (check.ambient.now < ·) = false
  fresh : (store.row (.deliveryEvent check.ambient.eventId)).isNone
  named : isValidVersionedEventType env.wsEvents.deliveryDropoffConfirmed = true

section Answers

variable {env : Env} {deliveryId : Uuid} {check : LocatedVerification} {store : Db} {row : Delivery}

/-- The distance plays no part: the coordinates of a row are text. -/
theorem geofenceKm_entity (otp : String) (lat lon : Option Rat) :
    geofenceKm env otp lat lon row.entity = none := by
  unfold geofenceKm Delivery.entity Coordinate.number?
  cases lat <;> cases lon <;> rfl

/-- Where the code is the stored one and not locked, the plan is to complete the delivery. -/
theorem plan_change (undelivered : row.status ≠ .delivered) (code : truthy row.deliveryOtp = some check.otp)
    (unlocked : row.otpLockedUntil.any (check.ambient.now < ·) = false) :
    ∃ delivery event proof payload, check.mutator.plan env check.ambient deliveryId (some row.entity) =
      .change delivery event proof (some (env.wsEvents.deliveryDropoffConfirmed, payload)) := by
  have within : ¬ maxDropoffRadiusKm < (geofenceKm env check.otp (some check.driverLat) (some check.driverLon)
      row.entity).getD 0 := by
    rw [geofenceKm_entity]
    decide +kernel
  have status : ¬ row.entity.status = .delivered := undelivered
  have stored : truthy row.entity.deliveryOtp.value? = some check.otp := by
    simpa [Delivery.entity] using code
  have free : ¬ row.entity.otpLockedUntil.value?.any (check.ambient.now < ·) = true := by
    simpa [Delivery.entity] using unlocked
  unfold LocatedVerification.mutator Mutator.plan otpPlan
  dsimp only
  rw [if_neg status, stored]
  dsimp only
  rw [if_neg free, if_neg within, if_neg (not_not.mpr rfl)]
  exact ⟨_, _, _, _, rfl⟩

/-- Another plan than to complete the delivery writes no event. -/
theorem commits_refused (refused : ¬ (row.status ≠ .delivered ∧ truthy row.deliveryOtp = some check.otp ∧
    row.otpLockedUntil.any (check.ambient.now < ·) = false)) :
    (check.mutator.plan env check.ambient deliveryId (some row.entity)).commits {} check.ambient store = false := by
  unfold LocatedVerification.mutator Mutator.plan otpPlan
  dsimp only
  by_cases delivered : row.entity.status = .delivered
  · rw [if_pos delivered]
    rfl
  rw [if_neg delivered]
  cases stored : truthy row.entity.deliveryOtp.value? with
  | none => rfl
  | some deliveryOtp =>
    dsimp only
    by_cases locked : row.entity.otpLockedUntil.value?.any (check.ambient.now < ·) = true
    · rw [if_pos locked]
      rfl
    rw [if_neg locked]
    split
    · rfl
    · by_cases wrong : deliveryOtp ≠ check.otp
      · rw [if_pos wrong]
        rfl
      · refine absurd ⟨delivered, ?_, ?_⟩ refused
        · simpa [Delivery.entity, not_not.mp wrong] using stored
        · simpa [Delivery.entity] using locked

theorem commits_iff :
    (check.mutator.plan env check.ambient deliveryId (some row.entity)).commits {} check.ambient store = true ↔
      Completes env check store row := by
  by_cases accepted : row.status ≠ .delivered ∧ truthy row.deliveryOtp = some check.otp ∧
      row.otpLockedUntil.any (check.ambient.now < ·) = false
  · obtain ⟨undelivered, code, unlocked⟩ := accepted
    obtain ⟨delivery, event, proof, payload, planned⟩ :=
      @plan_change env deliveryId check row undelivered code unlocked
    have steps : (check.mutator.plan env check.ambient deliveryId (some row.entity)).commits {} check.ambient store =
        ((store.row (.deliveryEvent check.ambient.eventId)).isNone &&
          isValidVersionedEventType env.wsEvents.deliveryDropoffConfirmed) := by
      cases proof <;> simp [planned, Plan.commits, Plan.logs, Plan.publishes]
    rw [steps, Bool.and_eq_true]
    exact ⟨fun both => ⟨undelivered, code, unlocked, both.1, both.2⟩,
      fun completes => ⟨completes.fresh, completes.named⟩⟩
  · rw [commits_refused accepted]
    refine ⟨fun committed => absurd committed Bool.false_ne_true, fun completes => ?_⟩
    exact absurd ⟨completes.undelivered, completes.code, completes.unlocked⟩ accepted

/-- Whether the call completes the delivery decides how it ends. -/
theorem program_ends (found : store.delivery deliveryId = some row) :
    (check.program env deliveryId).Returns (fun result _ =>
      match result with
      | .ok _ => row.status = .delivered ∨ Completes env check store row
      | .error _ => ¬ Completes env check store row) { store } := by
  refine returns_mono (call_ends env check.ambient deliveryId check.mutator store) fun result left held => ?_
  unfold Mutator.commits at held
  rw [found] at held
  cases result with
  | error error =>
    intro completes
    rw [Option.map_some, commits_iff.mpr completes] at held
    cases held
  | ok settled =>
    refine held.imp (fun settled => ?_) commits_iff.mp
    obtain ⟨delivery, planned⟩ := settled
    exact otpPlan_settled planned

theorem program_returns (env : Env) (deliveryId : Uuid) (check : LocatedVerification) (store : Db) :
    (check.program env deliveryId).Returns
      (Mutates deliveryId (·.status = .delivered) (CodeAccepted check.ambient check.otp check.proofUrl)
        (fun row => completed check.ambient.now check.proofUrl row.entity) (completionHooks deliveryId) store)
      { store } :=
  verifyOtp_returns env

/-- What the call answers, and what it leaves of the row. -/
theorem fenced_iff (found : store.delivery deliveryId = some row) :
    (check.program env deliveryId).Returns (fun answer left =>
      Fenced env deliveryId check store answer left.store ↔
        ¬ Completes env check store row ∧ (row.status = .delivered → ¬ check.IsFar env row)) { store } := by
  refine returns_mono (returns_and (program_returns env deliveryId check store) (program_ends found)) ?_
  rintro answer left ⟨mutates, ends⟩
  cases answer with
  | error error =>
    obtain ⟨same, later⟩ := mutates
    refine iff_of_true ⟨fun row' found' _ => ⟨⟨error, rfl⟩, ?_⟩, ?_⟩ ⟨ends, fun delivered => ?_⟩
    · rw [same.delivery]
      exact found'
    · intro before after found' undelivered stored delivered
      rw [same.delivery, found', Option.some.injEq] at stored
      exact absurd (stored ▸ delivered) undelivered
    · exact absurd delivered (later row found)
  | ok settled =>
    obtain ⟨-, row', found', answers⟩ := mutates
    obtain rfl : row' = row := Option.some.inj (found'.symm.trans found)
    rcases answers with ⟨delivered, stays, -⟩ | ⟨changed, undelivered, ⟨-, code, -, rfl⟩, stays, -⟩
    · have still : ¬ Completes env check store row' := fun completes => completes.undelivered delivered
      constructor
      · intro fenced
        refine ⟨still, fun _ far => ?_⟩
        obtain ⟨⟨error, failed⟩, -⟩ := fenced.near row' found far
        cases failed
      · rintro ⟨-, close⟩
        refine ⟨fun other found' far => ?_, fun before after found' undelivered => ?_⟩
        · rw [found, Option.some.injEq] at found'
          exact absurd (found' ▸ far) (close delivered)
        · rw [found, Option.some.injEq] at found'
          exact absurd (found' ▸ delivered) undelivered
    · have completes : Completes env check store row' := ends.resolve_left undelivered
      refine iff_of_false (fun fenced => ?_) fun held => held.1 completes
      -- the code that was used is still in the row
      have cleared := (fenced.cleared row' _ found undelivered stays (by rw [completed_saveOver])).1
      rw [completed_saveOver] at cleared
      simp [truthy_some completes.code] at cleared

end Answers

/-- The geofence holds, and the code is cleared, just where a call neither completes the
delivery nor comes from afar when the delivery is complete. -/
theorem geofence_holds_iff (env : Env) (deliveryId : Uuid) (check : LocatedVerification) (store : Db) :
    ∃ answer after, (check.program env deliveryId).call store = some (answer, after) ∧
      (Fenced env deliveryId check store answer after ↔ ∀ row, store.delivery deliveryId = some row →
        ¬ Completes env check store row ∧ (row.status = .delivered → ¬ check.IsFar env row)) := by
  cases found : store.delivery deliveryId with
  | none =>
    obtain ⟨answer, left, ran, -⟩ := (returns_iff _).mp (program_returns env deliveryId check store)
    refine ⟨answer, left.store, by simp [Program.call, ran], ?_⟩
    refine iff_of_true ⟨fun row there => ?_, fun row _ there => ?_⟩ (fun row there => by cases there)
    · rw [found] at there
      cases there
    · rw [found] at there
      cases there
  | some row =>
    obtain ⟨answer, left, ran, held⟩ := (returns_iff _).mp (@fenced_iff env deliveryId check store row found)
    refine ⟨answer, left.store, by simp [Program.call, ran], held.trans ?_⟩
    exact ⟨fun one other same => Option.some.inj same ▸ one, fun all => all row rfl⟩

section Runs
open Sample

/-- A driver on the far side of the city, with the right code. -/
def farVerification : LocatedVerification where
  otp := "100000"
  geofenced := by decide
  driverLat := 13
  driverLon := 78
  ambient := ambient 1 10

/-- Every point is five kilometres from every other. -/
def farEnv : Env := { env with haversineKm := fun _ _ _ _ => 5 }

/-- A driver five kilometres away completes the delivery, and the code stays in the row. -/
theorem delivered_from_afar :
    ∃ answer after, (farVerification.program farEnv "D1").call assigned = some (answer, after) ∧
      ¬ Fenced farEnv "D1" farVerification assigned answer after := by
  have ran : ((farVerification.program farEnv "D1").call assigned).map (fun ended =>
      (Db.delivery ended.2 "D1").map fun row => (row.status, row.deliveryOtp)) =
        some (some (DeliveryStatus.delivered, some "100000")) := by
    decide +kernel
  obtain ⟨⟨answer, after⟩, called, left⟩ := Option.map_eq_some_iff.mp ran
  obtain ⟨row', stored, columns⟩ := Option.map_eq_some_iff.mp left
  have begun : (assigned.delivery "D1").map Delivery.status = some .assigned := by decide
  obtain ⟨row, found, status⟩ := Option.map_eq_some_iff.mp begun
  simp only [Prod.mk.injEq] at columns
  obtain ⟨delivered, code⟩ := columns
  refine ⟨answer, after, called, fun fenced => ?_⟩
  have cleared := (fenced.cleared row row' found (by rw [status]; decide) stored delivered).1
  rw [code] at cleared
  cases cleared

end Runs

end DriverMicroServices
