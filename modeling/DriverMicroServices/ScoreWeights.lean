import DriverMicroServices.DispatchScores
import Mathlib.Algebra.Order.Floor.Ring
import Mathlib.Data.Rat.Floor
import Mathlib.Tactic.Linarith
import Mathlib.Tactic.NormNum

/-! The overall score of a driver under a configuration of weights. A weight that is
not set and a weight of zero are the same to the service, which takes its default for
both. -/
namespace DriverMicroServices
open Tables

inductive ScoreFactor where
  | completionRate | timing | quality
  deriving DecidableEq, Repr

def ScoreFactors.of (factors : ScoreFactors) : ScoreFactor → Rat
  | .completionRate => factors.completionRate
  | .timing => factors.timing
  | .quality => factors.quality

namespace DispatchScoringService

/-- The settings in effect for the driver have these weights. -/
def Configured (m : Moment) (driverId : Uuid) (weights : ScoreFactors) : Prop :=
  let config :=
    DispatchConfigService.getConfig m.configs m.configScan .scoringWeights (some driverId)
  config.completionRate = some weights.completionRate ∧ config.timing = some weights.timing ∧
    config.quality = some weights.quality

structure Legal (weights : ScoreFactors) : Prop where
  nonneg : ∀ factor, 0 ≤ weights.of factor
  sum : weights.completionRate + weights.timing + weights.quality = 1

/-- The times of the row are not negative. -/
structure Timed (stats : DriverStats) : Prop where
  pickup : 0 ≤ stats.avgPickupTimeSeconds
  delivery : 0 ≤ stats.avgDeliveryTimeSeconds

/-- The rows differ in nothing that the score looks at but this factor. -/
def Differ (factor : ScoreFactor) (stats other : DriverStats) : Prop :=
  (∀ factor' ≠ factor, (factors other).of factor' = (factors stats).of factor') ∧
    other.lastDeliveryAt = stats.lastDeliveryAt

/-- What is expected of the score of a driver under these weights. -/
structure Fair (m : Moment) (driverId : Uuid) (stats : DriverStats) (weights : ScoreFactors) : Prop where
  scale : 0 ≤ overallScore m driverId stats ∧ overallScore m driverId stats ≤ 100
  decays : overallScore m driverId stats ≤
    calculateWeightedScore (factors stats) (getScoringWeights m driverId)
  unweighted : ∀ factor, weights.of factor = 0 → ∀ other, Timed other → Differ factor stats other →
    overallScore m driverId other = overallScore m driverId stats

section Rounding

variable {value a b score : Rat} {now : Time} {lastActivity : Option Time}

theorem round_le (value : Rat) : (round value : Rat) ≤ value + 1 / 2 :=
  Int.floor_le (value + 1 / 2)

theorem lt_round (value : Rat) : value - 1 / 2 < round value := by
  have above := Int.lt_floor_add_one (value + 1 / 2)
  change value + 1 / 2 < (round value : Rat) + 1 at above
  linarith

theorem round_mono (le : a ≤ b) : round a ≤ round b := by
  have shifted : a + 1 / 2 ≤ b + 1 / 2 := by linarith
  exact Int.floor_le_floor shifted

theorem round_int (n : Int) : round n = n := by
  have half : ⌊(n : Rat) + 1 / 2⌋ = n := Int.floor_eq_iff.mpr ⟨by linarith, by linarith⟩
  exact half

/-- A hundredth of a rounded value between 0 and 100 hundreds. -/
theorem hundredth_range (low : 0 ≤ value) (high : value ≤ 100) :
    0 ≤ (round (value * 100) : Rat) / 100 ∧ (round (value * 100) : Rat) / 100 ≤ 100 := by
  have least : (0 : Int) ≤ round (value * 100) := by
    rw [← round_int 0]
    exact round_mono (by push_cast; linarith)
  have most : round (value * 100) ≤ 10000 := by
    rw [← round_int 10000]
    exact round_mono (by push_cast; linarith)
  have least' : (0 : Rat) ≤ round (value * 100) := by exact_mod_cast least
  have most' : (round (value * 100) : Rat) ≤ 10000 := by exact_mod_cast most
  constructor <;> linarith

/-- Decay never raises a rounded score, and keeps it between 0 and 100. -/
theorem decay_range (low : 0 ≤ value) :
    0 ≤ applyScoreDecay now (round (value * 100) / 100) lastActivity ∧
      applyScoreDecay now (round (value * 100) / 100) lastActivity ≤ round (value * 100) / 100 := by
  have least : (0 : Int) ≤ round (value * 100) := by
    rw [← round_int 0]
    exact round_mono (by push_cast; linarith)
  have positive : (0 : Rat) ≤ round (value * 100) := by exact_mod_cast least
  unfold applyScoreDecay
  split
  · constructor <;> linarith
  · dsimp only
    split
    · constructor <;> linarith
    · refine ⟨le_max_left .., max_le (by linarith) ?_⟩
      rename_i lastActivity recent
      generalize (min ((now - lastActivity) / (1000 * 60 * 60 * 24)) 30).toNat = days
      have shrinks : ((95 / 100) ^ days : Rat) ≤ 1 := pow_le_one₀ (by norm_num) (by norm_num)
      have lower : round ((round (value * 100) : Rat) / 100 * (95 / 100) ^ days * 100) ≤
          round (value * 100) := by
        rw [← round_int (round (value * 100))]
        refine round_mono ?_
        rw [round_int]
        calc (round (value * 100) : Rat) / 100 * (95 / 100) ^ days * 100
            = round (value * 100) * (95 / 100) ^ days := by ring
          _ ≤ round (value * 100) * 1 := mul_le_mul_of_nonneg_left shrinks positive
          _ = round (value * 100) := mul_one _
      have lower' : (round ((round (value * 100) : Rat) / 100 * (95 / 100) ^ days * 100) : Rat) ≤
          round (value * 100) := by exact_mod_cast lower
      linarith

/-- Scores that are 12 apart stay apart, however long the driver is inactive. -/
theorem decay_apart (low : 0 ≤ a) (apart : a + 12 ≤ b) (now : Time) (lastActivity : Option Time) :
    applyScoreDecay now (round (a * 100) / 100) lastActivity <
      applyScoreDecay now (round (b * 100) / 100) lastActivity := by
  have below := round_le (a * 100)
  have above := lt_round (b * 100)
  have least : (0 : Int) ≤ round (a * 100) := by
    rw [← round_int 0]
    exact round_mono (by push_cast; linarith)
  have positive : (0 : Rat) ≤ round (a * 100) := by exact_mod_cast least
  unfold applyScoreDecay
  split
  · linarith
  · dsimp only
    split
    · linarith
    · rename_i lastActivity recent
      have capped : (min ((now - lastActivity) / (1000 * 60 * 60 * 24)) 30).toNat ≤ 30 := by omega
      generalize (min ((now - lastActivity) / (1000 * 60 * 60 * 24)) 30).toNat = days at capped ⊢
      -- Thirty days leave more than a fifth.
      have least' : (1 / 5 : Rat) ≤ (95 / 100) ^ days :=
        le_trans (by norm_num) (pow_le_pow_of_le_one (by norm_num) (by norm_num) capped)
      generalize ((95 / 100 : Rat) ^ days) = multiplier at least' ⊢
      have below' := round_le ((round (a * 100) : Rat) / 100 * multiplier * 100)
      have above' := lt_round ((round (b * 100) : Rat) / 100 * multiplier * 100)
      have spread : (11 : Rat) * 100 ≤ round (b * 100) - round (a * 100) := by linarith
      have kept : (11 : Rat) * 100 * (1 / 5) ≤ (round (b * 100) - round (a * 100)) * multiplier :=
        mul_le_mul spread least' (by norm_num) (by linarith)
      have start : (0 : Rat) ≤ round (a * 100) * multiplier := mul_nonneg positive (by linarith)
      have higher : (0 : Rat) < round ((round (b * 100) : Rat) / 100 * multiplier * 100) := by linarith
      exact lt_of_lt_of_le (max_lt (by linarith) (by linarith)) (le_max_right ..)

end Rounding

section Factors

variable {m : Moment} {driverId : Uuid} {stats other : DriverStats} {weights scores : ScoreFactors}
  {factor : ScoreFactor}

theorem clamped (value : Rat) : 0 ≤ min 100 (max 0 value) ∧ min 100 (max 0 value) ≤ 100 :=
  ⟨le_min (by norm_num) (le_max_left ..), min_le_left ..⟩

/-- Each factor is between 0 and 100. -/
theorem factor_range (timed : Timed stats) (factor : ScoreFactor) :
    0 ≤ (factors stats).of factor ∧ (factors stats).of factor ≤ 100 := by
  cases factor with
  | completionRate =>
    change 0 ≤ calculateCompletionRateScore stats ∧ calculateCompletionRateScore stats ≤ 100
    unfold calculateCompletionRateScore
    dsimp only
    split
    · norm_num
    · exact clamped _
  | timing =>
    change 0 ≤ calculateTimingScore stats ∧ calculateTimingScore stats ≤ 100
    unfold calculateTimingScore
    dsimp only
    split
    · norm_num
    · have pickup : (0 : Rat) ≤ stats.avgPickupTimeSeconds := by exact_mod_cast timed.pickup
      have delivery : (0 : Rat) ≤ stats.avgDeliveryTimeSeconds := by exact_mod_cast timed.delivery
      have lowest := le_max_left (0 : Rat) (100 - stats.avgPickupTimeSeconds / 60 * 5)
      have lowest' := le_max_left (0 : Rat) (100 - stats.avgDeliveryTimeSeconds / 3600 * 10)
      have highest : max (0 : Rat) (100 - stats.avgPickupTimeSeconds / 60 * 5) ≤ 100 :=
        max_le (by norm_num) (by linarith)
      have highest' : max (0 : Rat) (100 - stats.avgDeliveryTimeSeconds / 3600 * 10) ≤ 100 :=
        max_le (by norm_num) (by linarith)
      constructor <;> linarith
  | quality =>
    change 0 ≤ calculateQualityScore stats ∧ calculateQualityScore stats ≤ 100
    unfold calculateQualityScore
    dsimp only
    split
    · norm_num
    · exact clamped _

/-- A weight other than zero is used, and the default in place of zero. -/
theorem weight_used (configured : Configured m driverId weights) (factor : ScoreFactor) :
    (getScoringWeights m driverId).of factor =
      if weights.of factor = 0 then defaultWeights.of factor else weights.of factor := by
  obtain ⟨completionRate, timing, quality⟩ := configured
  cases factor with
  | completionRate =>
    simp only [getScoringWeights, ScoreFactors.of, orElse, completionRate, Option.filter_some]
    by_cases zero : weights.completionRate = 0 <;> simp [zero]
  | timing =>
    simp only [getScoringWeights, ScoreFactors.of, orElse, timing, Option.filter_some]
    by_cases zero : weights.timing = 0 <;> simp [zero]
  | quality =>
    simp only [getScoringWeights, ScoreFactors.of, orElse, quality, Option.filter_some]
    by_cases zero : weights.quality = 0 <;> simp [zero]

theorem weight_nonneg (configured : Configured m driverId weights) (legal : Legal weights)
    (factor : ScoreFactor) : 0 ≤ (getScoringWeights m driverId).of factor := by
  rw [weight_used configured]
  split
  · cases factor <;> norm_num [ScoreFactors.of, defaultWeights]
  · exact legal.nonneg factor

/-- The sum that `calculateWeightedScore` rounds. -/
def weightedSum (scores weights : ScoreFactors) : Rat :=
  scores.of .completionRate * weights.of .completionRate + scores.of .timing * weights.of .timing +
    scores.of .quality * weights.of .quality

theorem weightedSum_nonneg (scored : ∀ factor, 0 ≤ scores.of factor)
    (weighted : ∀ factor, 0 ≤ weights.of factor) : 0 ≤ weightedSum scores weights :=
  add_nonneg (add_nonneg (mul_nonneg (scored _) (weighted _)) (mul_nonneg (scored _) (weighted _)))
    (mul_nonneg (scored _) (weighted _))

/-- The score is a convex combination of the factors. -/
theorem weightedSum_le (legal : Legal weights) (scored : ∀ factor, scores.of factor ≤ 100) :
    weightedSum scores weights ≤ 100 := by
  have sum := legal.sum
  have part (factor : ScoreFactor) :
      scores.of factor * weights.of factor ≤ 100 * weights.of factor :=
    mul_le_mul_of_nonneg_right (scored factor) (legal.nonneg factor)
  have first := part .completionRate
  have second := part .timing
  have third := part .quality
  unfold weightedSum
  simp only [ScoreFactors.of] at first second third ⊢
  linarith

/-- Where one factor differs, the sum differs by its weighted difference. -/
theorem weightedSum_differ (differ : Differ factor stats other) (weights : ScoreFactors) :
    weightedSum (factors other) weights = weightedSum (factors stats) weights +
      ((factors other).of factor - (factors stats).of factor) * weights.of factor := by
  unfold weightedSum
  cases factor with
  | completionRate =>
    rw [differ.1 .timing (by decide), differ.1 .quality (by decide)]
    ring
  | timing =>
    rw [differ.1 .completionRate (by decide), differ.1 .quality (by decide)]
    ring
  | quality =>
    rw [differ.1 .completionRate (by decide), differ.1 .timing (by decide)]
    ring

theorem overallScore_eq (m : Moment) (driverId : Uuid) (stats : DriverStats) :
    overallScore m driverId stats = applyScoreDecay m.now
      (round (weightedSum (factors stats) (getScoringWeights m driverId) * 100) / 100)
      stats.lastDeliveryAt := rfl

/-- Some other row differs in one factor only, and by far. -/
theorem differ_far (timed : Timed stats) (factor : ScoreFactor) :
    ∃ other, Timed other ∧ Differ factor stats other ∧
      ((factors stats).of factor + 40 ≤ (factors other).of factor ∨
        (factors other).of factor + 40 ≤ (factors stats).of factor) := by
  cases factor with
  | completionRate =>
    by_cases fresh : stats.acceptanceCount = 0
    · refine ⟨{ stats with
        acceptanceCount := 5, completedDeliveries := 0, failedDeliveries := 1
        cancelledDeliveries := 0 }, ⟨timed.pickup, timed.delivery⟩, ⟨?_, rfl⟩, .inr ?_⟩
      · rintro (_ | _ | _) other
        · exact absurd rfl other
        · rfl
        · norm_num [ScoreFactors.of, factors, calculateQualityScore, fresh]
      · norm_num [ScoreFactors.of, factors, calculateCompletionRateScore, fresh]
    · have some' : (stats.acceptanceCount : Rat) ≠ 0 := by exact_mod_cast fresh
      rcases le_total 50 ((factors stats).of .completionRate) with high | low
      · refine ⟨{ stats with completedDeliveries := 0 }, ⟨timed.pickup, timed.delivery⟩,
          ⟨?_, rfl⟩, .inr ?_⟩
        · rintro (_ | _ | _) other
          · exact absurd rfl other
          · rfl
          · rfl
        · have none' : (factors { stats with completedDeliveries := 0 }).of .completionRate = 0 := by
            simp [ScoreFactors.of, factors, calculateCompletionRateScore, fresh]
          linarith
      · refine ⟨{ stats with completedDeliveries := stats.acceptanceCount },
          ⟨timed.pickup, timed.delivery⟩, ⟨?_, rfl⟩, .inl ?_⟩
        · rintro (_ | _ | _) other
          · exact absurd rfl other
          · rfl
          · rfl
        · have all : (factors { stats with completedDeliveries := stats.acceptanceCount }).of
              .completionRate = 100 := by
            simp [ScoreFactors.of, factors, calculateCompletionRateScore, fresh, some']
          linarith
  | timing =>
    rcases le_total 50 ((factors stats).of .timing) with high | low
    · refine ⟨{ stats with avgPickupTimeSeconds := 1200, avgDeliveryTimeSeconds := 36000 },
        ⟨by simp, by simp⟩, ⟨?_, rfl⟩, .inr ?_⟩
      · rintro (_ | _ | _) other
        · rfl
        · exact absurd rfl other
        · rfl
      · have slow : (factors { stats with
            avgPickupTimeSeconds := 1200, avgDeliveryTimeSeconds := 36000 }).of .timing = 0 := by
          norm_num [ScoreFactors.of, factors, calculateTimingScore]
        linarith
    · refine ⟨{ stats with avgPickupTimeSeconds := 1, avgDeliveryTimeSeconds := 1 },
        ⟨by simp, by simp⟩, ⟨?_, rfl⟩, .inl ?_⟩
      · rintro (_ | _ | _) other
        · rfl
        · exact absurd rfl other
        · rfl
      · have quick : 99 ≤ (factors { stats with
            avgPickupTimeSeconds := 1, avgDeliveryTimeSeconds := 1 }).of .timing := by
          norm_num [ScoreFactors.of, factors, calculateTimingScore]
        linarith
  | quality =>
    by_cases fresh : stats.acceptanceCount = 0
    · refine ⟨{ stats with
        acceptanceCount := 2, completedDeliveries := 1, failedDeliveries := 2
        cancelledDeliveries := 0 }, ⟨timed.pickup, timed.delivery⟩, ⟨?_, rfl⟩, .inr ?_⟩
      · rintro (_ | _ | _) other
        · norm_num [ScoreFactors.of, factors, calculateCompletionRateScore, fresh]
        · rfl
        · exact absurd rfl other
      · norm_num [ScoreFactors.of, factors, calculateQualityScore, fresh]
    · have some' : (stats.acceptanceCount : Rat) ≠ 0 := by exact_mod_cast fresh
      rcases le_total 50 ((factors stats).of .quality) with high | low
      · refine ⟨{ stats with failedDeliveries := stats.acceptanceCount, cancelledDeliveries := 0 },
          ⟨timed.pickup, timed.delivery⟩, ⟨?_, rfl⟩, .inr ?_⟩
        · rintro (_ | _ | _) other
          · rfl
          · rfl
          · exact absurd rfl other
        · have none' : (factors { stats with
              failedDeliveries := stats.acceptanceCount, cancelledDeliveries := 0 }).of .quality = 0 := by
            simp [ScoreFactors.of, factors, calculateQualityScore, fresh, some']
          linarith
      · refine ⟨{ stats with failedDeliveries := 0, cancelledDeliveries := 0 },
          ⟨timed.pickup, timed.delivery⟩, ⟨?_, rfl⟩, .inl ?_⟩
        · rintro (_ | _ | _) other
          · rfl
          · rfl
          · exact absurd rfl other
        · have all : (factors { stats with
              failedDeliveries := 0, cancelledDeliveries := 0 }).of .quality = 100 := by
            simp [ScoreFactors.of, factors, calculateQualityScore, fresh]
          linarith

/-- A factor that is far higher makes the score higher, under any weight that is used
for a weight of zero. -/
theorem overall_apart (configured : Configured m driverId weights) (legal : Legal weights)
    (timed : Timed stats) (zero : weights.of factor = 0) (differ : Differ factor stats other)
    (higher : (factors stats).of factor + 40 ≤ (factors other).of factor) :
    overallScore m driverId stats < overallScore m driverId other := by
  rw [overallScore_eq, overallScore_eq, differ.2]
  refine decay_apart (weightedSum_nonneg (fun factor => (factor_range timed factor).1)
    (weight_nonneg configured legal)) ?_ _ _
  have share : (3 / 10 : Rat) ≤ (getScoringWeights m driverId).of factor := by
    rw [weight_used configured, if_pos zero]
    cases factor <;> norm_num [ScoreFactors.of, defaultWeights]
  have gap : (40 : Rat) * (3 / 10) ≤
      ((factors other).of factor - (factors stats).of factor) * (getScoringWeights m driverId).of factor :=
    mul_le_mul (by linarith) share (by norm_num) (by linarith)
  rw [weightedSum_differ differ]
  linarith

end Factors

/-- The score is as expected just when no weight is zero. -/
theorem fair_iff {m : Moment} {driverId : Uuid} {stats : DriverStats} {weights : ScoreFactors}
    (configured : Configured m driverId weights) (legal : Legal weights) (timed : Timed stats) :
    Fair m driverId stats weights ↔ ∀ factor, weights.of factor ≠ 0 := by
  have low := weightedSum_nonneg (fun factor => (factor_range timed factor).1)
    (weight_nonneg configured legal)
  constructor
  · intro fair factor zero
    obtain ⟨other, timed', differ, higher | lower⟩ := differ_far timed factor
    · have apart := overall_apart configured legal timed zero differ higher
      exact absurd (fair.unweighted factor zero other timed' differ) apart.ne'
    · have back : Differ factor other stats :=
        ⟨fun factor' other' => (differ.1 factor' other').symm, differ.2.symm⟩
      have apart := overall_apart configured legal timed' zero back lower
      exact absurd (fair.unweighted factor zero other timed' differ) apart.ne
  · intro used
    have same : ∀ factor, (getScoringWeights m driverId).of factor = weights.of factor :=
      fun factor => by rw [weight_used configured, if_neg (used factor)]
    have whole : weightedSum (factors stats) (getScoringWeights m driverId) =
        weightedSum (factors stats) weights := by
      simp only [weightedSum, same]
    have high := weightedSum_le legal fun factor => (factor_range timed factor).2
    rw [← whole] at high
    have decayed := @decay_range _ m.now stats.lastDeliveryAt low
    rw [← overallScore_eq] at decayed
    exact ⟨⟨decayed.1, decayed.2.trans (hundredth_range low high).2⟩, decayed.2,
      fun factor zero => absurd zero (used factor)⟩

/-- A moment at which these weights are configured for all drivers. -/
def weighing (weights : ScoreFactors) : Moment where
  now := 0
  stats := fun _ => none
  configs := Table.ofList
    [{ configType := .scoringWeights, configScope := .global, configKey := "weights"
       configValue :=
        { completionRate := some weights.completionRate, timing := some weights.timing
          quality := some weights.quality } }]
  configScan := [0]
  scan := Table.ids
  listing := Table.ids
  scans := scans_ids
  lists := scans_ids

theorem weighing_configured (weights : ScoreFactors) (driverId : Uuid) :
    Configured (weighing weights) driverId weights := by
  refine ⟨rfl, rfl, rfl⟩

/-- A driver who has delivered once, in a minute. -/
def deliveredOnce : DriverStats where
  acceptanceCount := 1
  completedDeliveries := 1
  avgPickupTimeSeconds := 60
  avgDeliveryTimeSeconds := 60

theorem fair_evenly :
    Fair (weighing ⟨1 / 2, 1 / 4, 1 / 4⟩) "x" deliveredOnce ⟨1 / 2, 1 / 4, 1 / 4⟩ := by
  have legal : Legal ⟨1 / 2, 1 / 4, 1 / 4⟩ := by
    refine ⟨fun factor => ?_, by norm_num⟩
    cases factor <;> norm_num [ScoreFactors.of]
  refine (fair_iff (weighing_configured _ "x") legal ⟨by decide, by decide⟩).mpr fun factor => ?_
  cases factor <;> norm_num [ScoreFactors.of]

/-- Under weights that count the timing only, the score is above 100, and it falls when
the delivery fails. -/
theorem unfair_timing_only :
    ¬ Fair (weighing ⟨0, 1, 0⟩) "x" deliveredOnce ⟨0, 1, 0⟩ := by
  intro fair
  have high := fair.scale.2
  have sum : weightedSum (factors deliveredOnce) (getScoringWeights (weighing ⟨0, 1, 0⟩) "x") =
      2009 / 12 := by
    simp only [weightedSum, weight_used (weighing_configured ⟨0, 1, 0⟩ "x")]
    norm_num [ScoreFactors.of, defaultWeights, factors, calculateCompletionRateScore,
      calculateTimingScore, calculateQualityScore, deliveredOnce]
  rw [overallScore_eq, sum] at high
  have above := lt_round (2009 / 12 * 100)
  change (round (2009 / 12 * 100) : Rat) / 100 ≤ 100 at high
  linarith

end DispatchScoringService

end DriverMicroServices
