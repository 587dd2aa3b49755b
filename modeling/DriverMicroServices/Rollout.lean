import DriverMicroServices.SafeDispatch
import Mathlib.Algebra.Order.Ring.Rat
import Mathlib.Data.Nat.Cast.Order.Ring

/-! The rollout of the scoring dispatch. A delivery is in a cohort by a hash of its
id, taken in 32-bit arithmetic, and the percentage of the rollout settings; no
other setting is looked at. -/
namespace DriverMicroServices

/-- A value of `ROLLOUT_SETTINGS`. Each property may be missing. -/
structure RolloutSettings where
  scoringEnabled : Option Bool := none
  rolloutPercentage : Option Rat := none
  /-- `control` and `scoring`. -/
  abTestGroups : Option (Rat × Rat) := none
  deriving DecidableEq

/-- `getRolloutPercentage`, by what `getConfig` answers: a missing percentage is 0,
and so is an error. -/
def getRolloutPercentage : Except String (Option RolloutSettings) → Rat
  | .ok (some config) => config.rolloutPercentage.getD 0
  | .ok none => 0
  | .error _ => 0

/-- `assignToCohort`, by what `getConfig` answers. -/
def cohortOf (config : Except String (Option RolloutSettings)) (deliveryId : List UInt16) :
    DispatchCohort :=
  assignToCohort (getRolloutPercentage config) deliveryId

private theorem toInt32_range (value : Int) : -2 ^ 31 ≤ toInt32 value ∧ toInt32 value < 2 ^ 31 := by
  have low := Int.le_bmod (x := value) (m := 2 ^ 32) (by decide)
  have high := Int.bmod_lt (x := value) (m := 2 ^ 32) (by decide)
  unfold toInt32
  omega

/-- The running hash is a 32-bit integer at every step. -/
theorem hash_range (str : List UInt16) (start : Int) (low : -2 ^ 31 ≤ start)
    (high : start < 2 ^ 31) :
    -2 ^ 31 ≤ str.foldl hashStep start ∧ str.foldl hashStep start < 2 ^ 31 := by
  induction str generalizing start with
  | nil => exact ⟨low, high⟩
  | cons char rest ih =>
    have range : -2 ^ 31 ≤ hashStep start char ∧ hashStep start char < 2 ^ 31 := toInt32_range _
    exact ih (hashStep start char) range.1 range.2

/-- The absolute value of `-2 ^ 31` is the one value past the 32-bit range. -/
theorem hashString_le (str : List UInt16) : hashString str ≤ 2 ^ 31 := by
  have range := hash_range str 0 (by decide) (by decide)
  unfold hashString
  omega

theorem scoring_iff (rolloutPercentage : Rat) (deliveryId : List UInt16) :
    assignToCohort rolloutPercentage deliveryId = .scoring ↔
      ((hashString deliveryId % 100 : Nat) : Rat) < rolloutPercentage := by
  unfold assignToCohort
  split
  · rename_i below
    simp [below]
  · rename_i above
    simp [above]

theorem control_of_not_scoring (rolloutPercentage : Rat) (deliveryId : List UInt16)
    (other : assignToCohort rolloutPercentage deliveryId ≠ .scoring) :
    assignToCohort rolloutPercentage deliveryId = .control := by
  unfold assignToCohort at other ⊢
  split
  · rename_i below
    simp [below] at other
  · rfl

/-- The cohorts of a delivery: its bucket is one of a hundred, it is in no rollout
of 0 and in every rollout of 100 percent, and a wider rollout keeps it. -/
theorem rollout_cohorts (deliveryId : List UInt16)
    (config config' : Except String (Option RolloutSettings)) :
    hashString deliveryId ≤ 2 ^ 31 ∧ hashString deliveryId % 100 ≤ 99 ∧
    (getRolloutPercentage config = 0 → cohortOf config deliveryId = .control) ∧
    (getRolloutPercentage config = 100 → cohortOf config deliveryId = .scoring) ∧
    (getRolloutPercentage config = getRolloutPercentage config' →
      cohortOf config deliveryId = cohortOf config' deliveryId) ∧
    (getRolloutPercentage config ≤ getRolloutPercentage config' →
      cohortOf config deliveryId = .scoring → cohortOf config' deliveryId = .scoring) := by
  have bucket : hashString deliveryId % 100 < 100 := Nat.mod_lt _ (by decide)
  have bounds : (0 : Rat) ≤ (hashString deliveryId % 100 : Nat) ∧
      ((hashString deliveryId % 100 : Nat) : Rat) < 100 := by
    constructor
    · exact Nat.cast_nonneg _
    · exact_mod_cast bucket
  have wider : getRolloutPercentage config ≤ getRolloutPercentage config' →
      cohortOf config deliveryId = .scoring → cohortOf config' deliveryId = .scoring := by
    intro ordered scoring
    have below := (scoring_iff _ _).mp scoring
    exact (scoring_iff _ _).mpr (below.trans_le ordered)
  have none_at_zero : getRolloutPercentage config = 0 → cohortOf config deliveryId = .control := by
    intro zero
    apply control_of_not_scoring
    rw [ne_eq, scoring_iff, zero, not_lt]
    exact bounds.1
  have all_at_hundred : getRolloutPercentage config = 100 →
      cohortOf config deliveryId = .scoring := by
    intro hundred
    exact (scoring_iff _ _).mpr (hundred ▸ bounds.2)
  have same : getRolloutPercentage config = getRolloutPercentage config' →
      cohortOf config deliveryId = cohortOf config' deliveryId := by
    intro same
    unfold cohortOf
    rw [same]
  exact ⟨hashString_le deliveryId, Nat.le_of_lt_succ bucket, none_at_zero, all_at_hundred, same, wider⟩

-- The hash of a text is the one JavaScript code computes, here of three code units.
example : hashString (codeUnits "abc") = 96354 := by decide

end DriverMicroServices
