import DriverMicroServices.Sequential

/-! The limit on wrong codes. `verifyOtp` counts a wrong code in the entity,
saves it and throws; the throw rolls the save back with the rest of the
transaction, so neither the count nor the lock ever reaches the row. -/
namespace DriverMicroServices
open Transactions Program

/-- One call of `verifyOtp`. -/
structure Verification where
  otp : String
  proofUrl : Option String := none
  driverLat : Option Rat := none
  driverLon : Option Rat := none
  ambient : Ambient
  deriving DecidableEq

def Verification.request (deliveryId : Uuid) (verification : Verification) : Request where
  operation := .verifyOtp deliveryId verification.otp verification.proofUrl verification.driverLat
    verification.driverLon
  ambient := verification.ambient

/-- The row makes the call compare its code, and the code is not the stored one. -/
def Delivery.isWrongCode (row : Delivery) (otp : String) (now : Time) : Bool :=
  row.status ≠ .delivered && !row.otpLockedUntil.any (now < ·) &&
    (truthy row.deliveryOtp).any (· ≠ otp)

/-- The call compared a wrong code. -/
def isWrong (deliveryId : Uuid) (turn : ServiceTurn) : Bool :=
  match turn.label.operation with
  | .verifyOtp _ otp _ _ _ =>
    (Db.delivery turn.before deliveryId).any (·.isWrongCode otp turn.label.ambient.now)
  | _ => false

def attemptsOf (db : Db) (deliveryId : Uuid) : Option Nat :=
  (db.delivery deliveryId).map Delivery.otpAttempts

def isRejected (turn : ServiceTurn) : Bool :=
  match turn.answer with
  | .ok _ => false
  | .error _ => true

/-- Until when the calls made so far keep the delivery locked: from the
`OTP_MAX_ATTEMPTS`th wrong code on, for the lock duration after the last one. -/
def lockedUntil (deliveryId : Uuid) (earlier : List ServiceTurn) : Option Time :=
  let wrong := earlier.filter (isWrong deliveryId)
  if otpMaxAttempts ≤ wrong.length then
    wrong.getLast?.map fun turn => turn.label.ambient.now + otpLockDurationMs
  else none

/-- Every wrong code is counted, and after `OTP_MAX_ATTEMPTS` of them every call
is rejected until the lock time has passed. -/
structure BruteForceBound (deliveryId : Uuid) (turns : List ServiceTurn) : Prop where
  counted : ∀ turn ∈ turns, isWrong deliveryId turn = true →
    attemptsOf turn.after deliveryId = (attemptsOf turn.before deliveryId).map (· + 1)
  locked : ∀ earlier turn later, turns = earlier ++ turn :: later →
    ∀ until_ ∈ lockedUntil deliveryId earlier, turn.label.ambient.now < until_ →
      isRejected turn = true

/-- What a wrong code does: it is rejected, and the tables are as they were. -/
def WrongCodeUndone (deliveryId : Uuid) (turn : ServiceTurn) : Prop :=
  isWrong deliveryId turn = true → isRejected turn = true ∧ SameTables turn.before turn.after

private theorem verification_returns (env : Env) (verification : Verification) (store : Db) :
    ((verification.request deliveryId).program env).Returns
      (fun answer left => WrongCodeUndone deliveryId
        { before := store, label := verification.request deliveryId, answer, after := left.store })
      { store } := by
  refine returns_bind (returns_mono (verifyOtp_returns env) fun result left held => ?_)
  cases result with
  | error error => exact fun _ => ⟨rfl, held.1⟩
  | ok settled =>
    intro wrong
    obtain ⟨_, row, found, ended⟩ := held
    simp only [isWrong, Verification.request, found, Option.any_some, Delivery.isWrongCode,
      Bool.and_eq_true, decide_eq_true_eq] at wrong
    obtain ⟨⟨undelivered, _⟩, differs⟩ := wrong
    rcases ended with ⟨delivered, _⟩ | ⟨row', _, ⟨_, stored, _⟩, _⟩
    · exact absurd delivered undelivered
    · cases counts : truthy row.deliveryOtp with
      | none => simp [counts] at differs
      | some code =>
        have same := (truthy_some counts).symm.trans stored
        simp [counts, Option.some.inj same] at differs

/-- The bound on wrong codes holds of a sequence of verifications exactly when
none of them compares a wrong code. -/
theorem brute_force_bound (env : Env) (deliveryId : Uuid) (store : Db)
    (verifications : List Verification) :
    ∃ turns, history (Request.program env) store
        (verifications.map (·.request deliveryId)) = some turns ∧
      (BruteForceBound deliveryId turns ↔ ∀ turn ∈ turns, isWrong deliveryId turn = false) := by
  obtain ⟨turns, ran, chain, _⟩ := history_chain (verifications.map (·.request deliveryId))
    (fun label member store => by
      obtain ⟨verification, _, rfl⟩ := List.mem_map.mp member
      exact verification_returns env verification store) store
  refine ⟨turns, ran, ?_⟩
  constructor
  · intro bound turn member
    by_contra wrong
    rw [Bool.not_eq_false] at wrong
    have undone := (chain.forall turn member wrong).2
    have counted := bound.counted turn member wrong
    rw [attemptsOf, attemptsOf, undone.delivery] at counted
    -- a wrong code is compared with the code of a row
    cases found : Db.delivery turn.before deliveryId with
    | none =>
      unfold isWrong at wrong
      split at wrong
      · simp [found] at wrong
      · cases wrong
    | some row => simp [found] at counted
  · intro right
    refine ⟨fun turn member wrong => ?_, ?_⟩
    · rw [right turn member] at wrong
      cases wrong
    · rintro earlier turn later rfl until_ locked _
      have none : earlier.filter (isWrong deliveryId) = [] :=
        List.filter_eq_nil_iff.mpr fun turn member => by simp [right turn (by simp [member])]
      simp [lockedUntil, none] at locked

section Runs
open Sample

/-- Three wrong codes and, a minute later, the right one. -/
def guesses : List Verification :=
  [{ otp := "000001", ambient := ambient 1 10 }, { otp := "000002", ambient := ambient 2 11 },
   { otp := "000003", ambient := ambient 3 12 }, { otp := "100000", ambient := ambient 4 60012 }]

/-- The right code is accepted after three wrong ones, none of them counted. -/
theorem code_guessed :
    ∃ turns, history (Request.program env) assigned (guesses.map (·.request "D1")) = some turns ∧
      turns.map (isWrong "D1") = [true, true, true, false] ∧
      turns.map isRejected = [true, true, true, false] ∧ ¬ BruteForceBound "D1" turns := by
  have ran : (history (Request.program env) assigned (guesses.map (·.request "D1"))).map
      (fun turns => (turns.map (isWrong "D1"), turns.map isRejected, turns.all fun turn =>
        isWrong "D1" turn → attemptsOf turn.after "D1" =
          (attemptsOf turn.before "D1").map (· + 1))) =
      some ([true, true, true, false], [true, true, true, false], false) := by
    decide +kernel
  obtain ⟨turns, ran, seen⟩ := Option.map_eq_some_iff.mp ran
  simp only [Prod.mk.injEq] at seen
  obtain ⟨wrong, rejected, uncounted⟩ := seen
  refine ⟨turns, ran, wrong, rejected, fun bound => ?_⟩
  have counted := List.all_eq_true.mpr fun turn member =>
    decide_eq_true (bound.counted turn member)
  rw [uncounted] at counted
  cases counted

end Runs

end DriverMicroServices
