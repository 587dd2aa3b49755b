import DriverMicroServices.DriverStats
import Mathlib.Algebra.Order.Field.Rat
import Mathlib.Algebra.Order.Ring.Abs
import Mathlib.Data.List.Induction
import Mathlib.Data.Rat.Floor
import Mathlib.Tactic.Linarith
import Mathlib.Tactic.NormNum
import Mathlib.Tactic.Positivity
import Mathlib.Tactic.Ring

/-! How far the averages of `DriverStats` are from the times that were reported. The
average is stored as a whole number and weighted by all completed deliveries, those
without a time included. -/
namespace DriverMicroServices

/-- A call of `recordDeliveryCompleted`, with its clock. -/
abbrev CompletionCall := Time × CompletionTimes

/-- The averages of a row. -/
inductive StatsAverage where
  | avgPickupTimeSeconds | avgDeliveryTimeSeconds
  deriving DecidableEq, Repr

namespace StatsAverage

def stored (stats : DriverStats) : StatsAverage → Int
  | .avgPickupTimeSeconds => stats.avgPickupTimeSeconds
  | .avgDeliveryTimeSeconds => stats.avgDeliveryTimeSeconds

def reported (call : CompletionCall) : StatsAverage → Option Int
  | .avgPickupTimeSeconds => call.2.pickupTimeSeconds
  | .avgDeliveryTimeSeconds => call.2.totalTimeSeconds

/-- The times that the calls report. -/
def times (average : StatsAverage) (calls : List CompletionCall) : List Int :=
  calls.filterMap fun call => average.reported call

end StatsAverage

namespace DriverStats

/-- Calls of `recordDeliveryCompleted` one after another. -/
def recordAll (stats : DriverStats) (calls : List CompletionCall) : DriverStats :=
  calls.foldl (fun stats call => stats.record call.1 (.recordDeliveryCompleted call.2)) stats

end DriverStats

/-- The arithmetic mean. -/
def mean (times : List Int) : Rat := times.sum / times.length

/-- Where a time was reported, the stored average is within one second of the mean. -/
def TracksMean (average : StatsAverage) (calls : List CompletionCall) : Prop :=
  average.times calls ≠ [] →
    |(average.stored (DriverStats.recordAll {} calls) : Rat) - mean (average.times calls)| < 1

/-- What a row carries to the next call with a time, when the mean becomes this: the rounding of the updates
before, and for each delivery without a time how far the stored average is from the mean. -/
def carried (average : StatsAverage) (stats : DriverStats) (times : List Int) (mean : Rat) : Rat :=
  average.stored stats * times.length - times.sum +
    (stats.completedDeliveries - times.length) * (average.stored stats - mean)

section Averages

variable {average : StatsAverage} {stats : DriverStats} {call : CompletionCall}
  {calls before : List CompletionCall} {seconds : Int}

private theorem recorded_completed (stats : DriverStats) (call : CompletionCall) :
    (stats.record call.1 (.recordDeliveryCompleted call.2)).completedDeliveries =
      stats.completedDeliveries + 1 :=
  record_counter call.1 (.recordDeliveryCompleted call.2) stats .completedDeliveries

theorem recorded_average (average : StatsAverage) (stats : DriverStats) (call : CompletionCall) :
    average.stored (stats.record call.1 (.recordDeliveryCompleted call.2)) =
      DriverStats.averaged (average.stored stats) (stats.completedDeliveries + 1)
        (average.reported call) := by
  simp only [DriverStats.record, DriverStats.recomputeReliabilityScore]
  split <;> cases average <;> rfl

theorem recordAll_append (calls : List CompletionCall) (call : CompletionCall) :
    stats.recordAll (calls ++ [call]) = (stats.recordAll calls).record call.1 (.recordDeliveryCompleted call.2) := by
  simp [DriverStats.recordAll]

private theorem recordAll_completed (stats : DriverStats) (calls : List CompletionCall) :
    (stats.recordAll calls).completedDeliveries = stats.completedDeliveries + calls.length := by
  induction calls using List.reverseRecOn with
  | nil => rfl
  | append_singleton before call ih =>
    rw [recordAll_append, recorded_completed, ih, List.length_append, List.length_singleton, Nat.add_assoc]

theorem times_append (average : StatsAverage) (before : List CompletionCall) (call : CompletionCall) :
    average.times (before ++ [call]) = average.times before ++ (average.reported call).toList := by
  rw [StatsAverage.times, List.filterMap_append]
  cases reported : average.reported call <;> simp [StatsAverage.times, reported]

private theorem roundedQuotient_near {total : Int} {count : Nat} (positive : 0 < count) :
    2 * |DriverStats.roundedQuotient total count * count - total| ≤ count := by
  have twice : (0 : Int) < 2 * count := by omega
  have low := Int.ediv_mul_le (2 * total + count) twice.ne'
  have high := Int.lt_ediv_add_one_mul_self (2 * total + count) twice
  have near : |2 * (DriverStats.roundedQuotient total count * count - total)| ≤ count := by
    rw [DriverStats.roundedQuotient, abs_le]
    constructor <;> linarith
  rwa [abs_mul, abs_two] at near

/-- Where every call has a time, each update adds at most half a second for each delivery so far. -/
theorem drift_bounded (reported : ∀ call ∈ calls, (average.reported call).isSome) (some : calls ≠ []) :
    4 * |average.stored (DriverStats.recordAll {} calls) * calls.length - (average.times calls).sum| + 2 ≤
      (calls.length * (calls.length + 1) : Int) := by
  induction calls using List.reverseRecOn with
  | nil => exact absurd rfl some
  | append_singleton before call ih =>
    obtain ⟨seconds, time⟩ := Option.isSome_iff_exists.mp (reported call (by simp))
    rw [times_append, time, recordAll_append, recorded_average, recordAll_completed, time,
      List.length_append, List.length_singleton]
    simp only [DriverStats.averaged, Option.toList_some, List.sum_append, List.sum_singleton, Nat.zero_add,
      Nat.cast_add, Nat.cast_one, add_sub_cancel_right]
    generalize average.stored (DriverStats.recordAll {} before) = stored at ih ⊢
    have near : 2 * |DriverStats.roundedQuotient (stored * before.length + seconds) (before.length + 1) *
        (before.length + 1 : Nat) - (stored * before.length + seconds)| ≤ (before.length + 1 : Nat) :=
      roundedQuotient_near (Nat.succ_pos _)
    have apart := abs_sub_le
      (DriverStats.roundedQuotient (stored * before.length + seconds) (before.length + 1) * (before.length + 1 : Nat))
      (stored * before.length + seconds) ((average.times before).sum + seconds)
    rw [add_sub_add_right_eq_sub] at apart
    push_cast at near apart
    rcases eq_or_ne before [] with rfl | more
    · have sum : (average.times []).sum = 0 := rfl
      simp only [List.length_nil, Nat.cast_zero, mul_zero, sum, sub_zero, abs_zero, Nat.zero_add] at near apart ⊢
      omega
    · have ih := ih (fun call before => reported call (List.mem_append_left _ before)) more
      linarith

/-- So the averages of up to three deliveries that all have a time are within a second of the mean. -/
theorem three_reports_track (reported : ∀ call ∈ calls, (average.reported call).isSome)
    (few : calls.length ≤ 3) : TracksMean average calls := by
  intro some_time
  have count : (average.times calls).length = calls.length := by
    rw [StatsAverage.times, List.filterMap_length_eq_length]
    exact reported
  have some : calls ≠ [] := by
    rintro rfl
    exact some_time rfl
  have drift := drift_bounded reported some
  have whole : |average.stored (DriverStats.recordAll {} calls) * calls.length - (average.times calls).sum| <
      (calls.length : Int) := by
    have bound : (calls.length * (calls.length + 1) : Int) ≤ calls.length * 4 :=
      mul_le_mul_of_nonneg_left (by omega) (by omega)
    omega
  have positive : (0 : Rat) < calls.length := by
    exact_mod_cast List.length_pos_iff.mpr some
  rw [mean, count, ← mul_lt_mul_iff_left₀ positive, one_mul, ← abs_of_pos positive, ← abs_mul, abs_of_pos positive,
    sub_mul, div_mul_cancel₀ _ positive.ne']
  exact_mod_cast whole

end Averages

end DriverMicroServices
