import DriverMicroServices.Tables.Keyed
import Mathlib.Algebra.Order.Floor.Ring
import Mathlib.Data.List.Sort
import Mathlib.Data.Rat.Floor
import Mathlib.Tactic.Linarith

/-! `MetricsService` of the outbox: gauges, histograms and counters in memory, and their text in
the format of Prometheus. The text gives the buckets of a histogram with all observations up to
the bound, and adds up what is added up already. -/
namespace DriverMicroServices
namespace EventMetrics
open Tables

structure GaugeMetric where
  name : String
  help : String
  value : Nat
  deriving DecidableEq

structure HistogramMetric where
  name : String
  help : String
  buckets : List Rat
  observations : List Rat := []
  sum : Rat := 0
  count : Nat := 0
  deriving DecidableEq

/-- The maps, in the order of insertion. -/
structure MetricsService where
  gauges : List (String × GaugeMetric)
  histograms : List (String × HistogramMetric)
  counters : List (String × Nat)

def gauge (name help : String) : String × GaugeMetric := (name, { name, help, value := 0 })

def histogram (name help : String) (buckets : List Rat) : String × HistogramMetric :=
  (name, { name, help, buckets })

def initMetrics : MetricsService where
  gauges :=
    [gauge "outbox_pending_total" "Number of pending outbox events",
     gauge "outbox_processing_total" "Number of processing outbox events",
     gauge "outbox_failed_total" "Number of failed outbox events",
     gauge "outbox_completed_total" "Number of completed outbox events"]
  histograms :=
    [histogram "outbox_lag_seconds" "Lag between event creation and processing in seconds"
       [1, 5, 10, 30, 60, 300, 600, 1800, 3600],
     histogram "outbox_processing_duration_seconds" "Time taken to process an outbox event in seconds"
       [1 / 10, 1 / 2, 1, 2, 5, 10, 30],
     histogram "outbox_retry_delay_seconds" "Delay between retries in seconds" [1, 5, 10, 30, 60, 300, 600]]
  counters :=
    [("outbox_events_processed_total", 0), ("outbox_events_failed_total", 0), ("outbox_events_retried_total", 0),
     ("outbox_circuit_breaker_open_total", 0), ("outbox_circuit_breaker_half_open_total", 0),
     ("outbox_circuit_breaker_closed_total", 0)]

/-! ## Updates -/

/-- An entry that is there changes in its place. -/
def changeAt {α : Type} (entries : List (String × α)) (name : String) (change : α → α) : List (String × α) :=
  entries.map fun entry => if entry.1 = name then (entry.1, change entry.2) else entry

def MetricsService.setGauge (service : MetricsService) (name : String) (value : Nat) : MetricsService :=
  { service with gauges := changeAt service.gauges name fun gauge => { gauge with value } }

def MetricsService.incrementCounter (service : MetricsService) (name : String) : MetricsService :=
  { service with counters := Keyed.put service.counters name ((Keyed.get service.counters name).getD 0 + 1) }

def HistogramMetric.record (histogram : HistogramMetric) (value : Rat) : HistogramMetric :=
  { histogram with
    observations := histogram.observations ++ [value]
    sum := histogram.sum + value
    count := histogram.count + 1 }

def MetricsService.recordHistogram (service : MetricsService) (name : String) (value : Rat) : MetricsService :=
  { service with histograms := changeAt service.histograms name (·.record value) }

/-- The lag of a pending event is left out where it is no number. -/
def HistogramMetric.snapshot (histogram : HistogramMetric) (lags : List (Option Rat)) : HistogramMetric :=
  (lags.filterMap id).foldl HistogramMetric.record { histogram with observations := [], sum := 0, count := 0 }

/-- What is recorded. `updateMetrics` sets the four gauges and then the histogram of the lag,
as far as its queries succeed. -/
inductive Update where
  | recordProcessingDuration (durationSeconds : Rat)
  | recordRetryDelay (delaySeconds : Rat)
  | updateLagHistogram (lags : List (Option Rat))
  | setGauge (name : String) (value : Nat)
  | incrementCounter (name : String)

def MetricsService.update (service : MetricsService) : Update → MetricsService
  | .recordProcessingDuration durationSeconds =>
    service.recordHistogram "outbox_processing_duration_seconds" durationSeconds
  | .recordRetryDelay delaySeconds => service.recordHistogram "outbox_retry_delay_seconds" delaySeconds
  | .updateLagHistogram lags =>
    { service with histograms := changeAt service.histograms "outbox_lag_seconds" (·.snapshot lags) }
  | .setGauge name value => service.setGauge name value
  | .incrementCounter name => service.incrementCounter name

def after (updates : List Update) : MetricsService := updates.foldl MetricsService.update initMetrics

/-! ## The text -/

def HistogramMetric.sortedBuckets (histogram : HistogramMetric) : List Rat :=
  histogram.buckets.mergeSort fun a b => a ≤ b

/-- The observations up to a bound. -/
def upTo (observations : List Rat) (bucket : Rat) : Nat := (observations.filter fun obs => obs ≤ bucket).length

/-- The bounds with their counts, as the loop goes on from a count. -/
def bucketLines (observations : List Rat) (cumulativeCount : Nat) : List Rat → List (Rat × Nat)
  | [] => []
  | bucket :: rest =>
    let bucketCount := upTo observations bucket
    let cumulativeCount := cumulativeCount + bucketCount
    (bucket, cumulativeCount) :: bucketLines observations cumulativeCount rest

def HistogramMetric.lines (histogram : HistogramMetric) : List (Rat × Nat) :=
  bucketLines histogram.observations 0 histogram.sortedBuckets

section Text

-- How a number is written.
variable (shown : Rat → String)

def GaugeMetric.text (gauge : GaugeMetric) : String :=
  s!"# HELP {gauge.name} {gauge.help}\n# TYPE {gauge.name} gauge\n{gauge.name} {gauge.value}\n\n"

def HistogramMetric.text (histogram : HistogramMetric) : String :=
  s!"# HELP {histogram.name} {histogram.help}\n# TYPE {histogram.name} histogram\n" ++
    String.join (histogram.lines.map fun line =>
      histogram.name ++ "_bucket\x7ble=\"" ++ shown line.1 ++ "\"\x7d " ++ toString line.2 ++ "\n") ++
    histogram.name ++ "_bucket\x7ble=\"+Inf\"\x7d " ++ toString histogram.count ++ "\n" ++
    histogram.name ++ "_sum " ++ shown histogram.sum ++ "\n" ++
    histogram.name ++ "_count " ++ toString histogram.count ++ "\n\n"

def counterText (counter : String × Nat) : String :=
  s!"# HELP {counter.1} Total count of {counter.1}\n# TYPE {counter.1} counter\n{counter.1} {counter.2}\n\n"

def MetricsService.getMetrics (service : MetricsService) : String :=
  String.join (service.gauges.map fun entry => entry.2.text) ++
    String.join (service.histograms.map fun entry => entry.2.text shown) ++
    String.join (service.counters.map counterText)

end Text

/-- Its callers ask for 95 and 99, where the index in exact numbers is the one of the doubles. -/
def HistogramMetric.calculatePercentile (histogram : HistogramMetric) (percentile : Rat) : Rat :=
  if histogram.observations.length = 0 then 0
  else
    let sorted := histogram.observations.mergeSort fun a b => a ≤ b
    let index := ⌈percentile / 100 * sorted.length⌉ - 1
    sorted.getD (max 0 (min index (sorted.length - 1))).toNat 0

/-! ## Ranks -/

/-- The observations below a value. -/
def below (observations : List Rat) (value : Rat) : Nat := (observations.filter fun obs => obs < value).length

section Ranks

variable {observations : List Rat} {bucket : Rat}

private theorem upTo_eq_zero_iff : upTo observations bucket = 0 ↔ ∀ obs ∈ observations, bucket < obs := by
  unfold upTo
  rw [List.length_eq_zero_iff, List.filter_eq_nil_iff]
  simp only [decide_eq_true_eq, not_le]

private theorem upTo_mono {bucket' : Rat} (le : bucket ≤ bucket') : upTo observations bucket ≤ upTo observations bucket' := by
  apply List.Sublist.length_le
  apply List.monotone_filter_right
  intro obs within
  rw [decide_eq_true_eq] at within ⊢
  exact le_trans within le

private theorem upTo_perm {other : List Rat} (perm : observations.Perm other) (value : Rat) :
    upTo observations value = upTo other value := (perm.filter _).length_eq

private theorem below_perm {other : List Rat} (perm : observations.Perm other) (value : Rat) :
    below observations value = below other value := (perm.filter _).length_eq

theorem upTo_le_length : upTo observations bucket ≤ observations.length := List.length_filter_le _ _

theorem ordered_mergeSort (observations : List Rat) :
    (observations.mergeSort fun a b => a ≤ b).Pairwise (· ≤ ·) :=
  List.pairwise_mergeSort' (· ≤ ·) observations

/-- In an ordered list, a place is the rank of what stands there. -/
theorem rank_sorted {sorted : List Rat} (ordered : sorted.Pairwise (· ≤ ·)) {k : Nat} (inside : k < sorted.length) :
    k + 1 ≤ upTo sorted sorted[k] ∧ below sorted sorted[k] ≤ k := by
  have split := List.take_append_drop k sorted
  have first : sorted.drop k = sorted[k] :: sorted.drop (k + 1) := List.drop_eq_getElem_cons inside
  rw [first] at split
  have parts := ordered
  rw [← split, List.pairwise_append, List.pairwise_cons] at parts
  obtain ⟨-, ⟨later, -⟩, earlier⟩ := parts
  have length : (sorted.take k).length = k := by
    rw [List.length_take, Nat.min_eq_left inside.le]
  generalize sorted[k] = value at split later earlier ⊢
  constructor
  · have all : (sorted.take k).filter (fun obs => obs ≤ value) = sorted.take k :=
      List.filter_eq_self.mpr fun obs member => decide_eq_true (earlier obs member value List.mem_cons_self)
    unfold upTo
    rw [← split, List.filter_append, all, List.filter_cons_of_pos (by simp),
      List.length_append, List.length_cons, length]
    omega
  · have none : (sorted.drop (k + 1)).filter (fun obs => obs < value) = [] :=
      List.filter_eq_nil_iff.mpr fun obs member => by simpa using later obs member
    unfold below
    rw [← split, List.filter_append, List.filter_cons_of_neg (by simp), none, List.append_nil]
    exact le_trans (List.length_filter_le _ _) length.le

end Ranks

/-! ## Buckets -/

section Buckets

variable {observations : List Rat}

private theorem bounds_bucketLines (cumulativeCount : Nat) (buckets : List Rat) :
    (bucketLines observations cumulativeCount buckets).map Prod.fst = buckets := by
  induction buckets generalizing cumulativeCount with
  | nil => rfl
  | cons bucket rest ih => exact congrArg (bucket :: ·) (ih _)

/-- The counts are right as long as only the last of them is not 0. -/
theorem bucketLines_exact_iff (cumulativeCount : Nat) (buckets : List Rat) :
    (∀ line ∈ bucketLines observations cumulativeCount buckets, line.2 = upTo observations line.1) ↔
      buckets = [] ∨ cumulativeCount = 0 ∧ ∀ bucket ∈ buckets.dropLast, upTo observations bucket = 0 := by
  induction buckets generalizing cumulativeCount with
  | nil => simp [bucketLines]
  | cons bucket rest ih =>
    rw [bucketLines, List.forall_mem_cons, ih]
    cases rest with
    | nil => simp
    | cons next rest =>
      simp only [List.cons_ne_nil, false_or, List.dropLast_cons_cons, List.forall_mem_cons]
      constructor
      · rintro ⟨here, sum, later⟩
        exact ⟨by omega, by omega, later⟩
      · rintro ⟨start, first, later⟩
        exact ⟨by omega, by omega, later⟩

/-- What the lines of a histogram say of its observations. -/
structure Cumulative (histogram : HistogramMetric) : Prop where
  exact : ∀ line ∈ histogram.lines, line.2 = upTo histogram.observations line.1
  ascending : histogram.lines.Pairwise fun one other => one.2 ≤ other.2
  bounded : ∀ line ∈ histogram.lines, line.2 ≤ histogram.count
  total : histogram.count = histogram.observations.length

private theorem sortedBuckets_ordered (histogram : HistogramMetric) : histogram.sortedBuckets.Pairwise (· ≤ ·) :=
  ordered_mergeSort histogram.buckets

private theorem cumulative_iff {histogram : HistogramMetric} (total : histogram.count = histogram.observations.length) :
    Cumulative histogram ↔
      ∀ bucket ∈ histogram.sortedBuckets.dropLast, ∀ obs ∈ histogram.observations, bucket < obs := by
  have exact_iff : (∀ line ∈ histogram.lines, line.2 = upTo histogram.observations line.1) ↔ _ :=
    bucketLines_exact_iff 0 histogram.sortedBuckets
  simp only [true_and, upTo_eq_zero_iff] at exact_iff
  constructor
  · intro right
    rcases exact_iff.mp right.exact with none | all
    · rw [none]
      exact List.forall_mem_nil _
    · exact all
  · intro all
    have exact' := exact_iff.mpr (.inr all)
    refine ⟨exact', ?_, fun line member => ?_, total⟩
    · have ordered := sortedBuckets_ordered histogram
      have bounds : histogram.lines.map Prod.fst = histogram.sortedBuckets := bounds_bucketLines 0 _
      rw [← bounds, List.pairwise_map] at ordered
      apply ordered.imp_of_mem
      intro one other member member' le
      rw [exact' one member, exact' other member']
      exact upTo_mono le
    · rw [exact' line member, total]
      exact upTo_le_length

end Buckets

/-! ## Percentiles -/

/-- At least so many percent of the observations are at most the value, and fewer are below it. -/
def PercentileOf (histogram : HistogramMetric) (percentile value : Rat) : Prop :=
  value ∈ histogram.observations ∧
    percentile / 100 * histogram.observations.length ≤ upTo histogram.observations value ∧
    below histogram.observations value < percentile / 100 * histogram.observations.length

private theorem calculatePercentile_iff (histogram : HistogramMetric) (percentile : Rat) :
    PercentileOf histogram percentile (histogram.calculatePercentile percentile) ↔
      histogram.observations ≠ [] ∧ 0 < percentile ∧ percentile ≤ 100 := by
  constructor
  · rintro ⟨member, most, fewer⟩
    have nonempty := List.ne_nil_of_mem member
    have size : (0 : Rat) < histogram.observations.length := by
      exact_mod_cast List.length_pos_of_mem member
    refine ⟨nonempty, ?_, ?_⟩
    · have positive : 0 < percentile / 100 * histogram.observations.length :=
        lt_of_le_of_lt (by positivity) fewer
      have quotient := (mul_pos_iff_of_pos_right size).mp positive
      linarith
    · have whole : (upTo histogram.observations (histogram.calculatePercentile percentile) : Rat) ≤
          1 * histogram.observations.length := by
        rw [one_mul]
        exact_mod_cast upTo_le_length
      have quotient := le_of_mul_le_mul_right (le_trans most whole) size
      linarith
  · rintro ⟨nonempty, positive, most⟩
    have perm := List.mergeSort_perm histogram.observations fun a b => decide (a ≤ b)
    have ordered := ordered_mergeSort histogram.observations
    have some_obs := perm.length_eq ▸ List.length_pos_iff.mpr nonempty
    unfold HistogramMetric.calculatePercentile PercentileOf
    rw [if_neg (by simpa using nonempty), ← upTo_perm perm, ← below_perm perm, ← perm.mem_iff, ← perm.length_eq]
    generalize (histogram.observations.mergeSort fun a b => decide (a ≤ b)) = sorted at ordered some_obs ⊢
    dsimp only
    have size : (0 : Rat) < sorted.length := by exact_mod_cast some_obs
    have rank_pos : 0 < percentile / 100 * sorted.length := by positivity
    have rank_le : percentile / 100 * sorted.length ≤ sorted.length := by
      apply mul_le_of_le_one_left size.le
      linarith
    -- the place is within the list, so that it is not moved
    have low : 0 < ⌈percentile / 100 * sorted.length⌉ := Int.ceil_pos.mpr rank_pos
    have high : ⌈percentile / 100 * sorted.length⌉ ≤ sorted.length := Int.ceil_le.mpr (by exact_mod_cast rank_le)
    have reached := Int.le_ceil (percentile / 100 * sorted.length)
    have tight := Int.ceil_lt_add_one (percentile / 100 * sorted.length)
    generalize ⌈percentile / 100 * sorted.length⌉ = rank at low high reached tight ⊢
    obtain ⟨k, rfl⟩ : ∃ k : Nat, rank = k + 1 := ⟨(rank - 1).toNat, by omega⟩
    have inside : k < sorted.length := by omega
    have place : (max 0 (min ((k : Int) + 1 - 1) (sorted.length - 1))).toNat = k := by omega
    obtain ⟨most', fewer'⟩ := rank_sorted ordered inside
    rw [place, List.getD_eq_getElem?_getD, List.getElem?_eq_getElem inside, Option.getD_some]
    refine ⟨List.getElem_mem inside, ?_, ?_⟩
    · have counted : ((k + 1 : Nat) : Rat) ≤ upTo sorted sorted[k] := by exact_mod_cast most'
      push_cast at counted reached
      linarith
    · have counted : (below sorted sorted[k] : Rat) ≤ k := by exact_mod_cast fewer'
      push_cast at tight
      linarith

/-! ## Runs -/

/-- The count of a histogram is the number of its observations. -/
def Counted (histogram : HistogramMetric) : Prop := histogram.count = histogram.observations.length

theorem Counted.record {histogram : HistogramMetric} (counted : Counted histogram) (value : Rat) :
    Counted (histogram.record value) := by
  unfold Counted HistogramMetric.record
  rw [List.length_append, List.length_singleton, counted]

private theorem counted_snapshot (histogram : HistogramMetric) (lags : List (Option Rat)) :
    Counted (histogram.snapshot lags) := by
  unfold HistogramMetric.snapshot
  have reset : Counted { histogram with observations := [], sum := 0, count := 0 } := rfl
  generalize ({ histogram with observations := [], sum := 0, count := 0 } : HistogramMetric) = start at reset
  induction lags.filterMap id generalizing start with
  | nil => exact reset
  | cons value rest ih => exact ih _ (reset.record value)

theorem counted_changeAt {entries : List (String × HistogramMetric)} (name : String)
    {change : HistogramMetric → HistogramMetric} (counted : ∀ entry ∈ entries, Counted entry.2)
    (changed : ∀ histogram, Counted histogram → Counted (change histogram)) :
    ∀ entry ∈ changeAt entries name change, Counted entry.2 := by
  intro entry member
  obtain ⟨old, there, rfl⟩ := List.mem_map.mp member
  split
  · exact changed old.2 (counted old there)
  · exact counted old there

private theorem counted_update {service : MetricsService} (counted : ∀ entry ∈ service.histograms, Counted entry.2)
    (update : Update) : ∀ entry ∈ (service.update update).histograms, Counted entry.2 := by
  cases update with
  | recordProcessingDuration value | recordRetryDelay value =>
    exact counted_changeAt _ counted fun _ held => held.record value
  | updateLagHistogram lags => exact counted_changeAt _ counted fun histogram _ => counted_snapshot histogram lags
  | setGauge name value | incrementCounter name => exact counted

theorem counted_after (updates : List Update) : ∀ entry ∈ (after updates).histograms, Counted entry.2 := by
  have start : ∀ entry ∈ initMetrics.histograms, Counted entry.2 := by
    simp [initMetrics, histogram, Counted]
  unfold after
  generalize initMetrics = service at start
  induction updates generalizing service with
  | nil => exact start
  | cons update rest ih => exact ih _ (counted_update start update)

/-- The text of a histogram and its percentiles say what they should just when no observation is
within the bounds but for the last one, and there is an observation to name. -/
theorem histogram_exported_iff (updates : List Update) (percentile : Rat) :
    (∀ entry ∈ (after updates).histograms, Cumulative entry.2 ∧
        PercentileOf entry.2 percentile (entry.2.calculatePercentile percentile)) ↔
      ∀ entry ∈ (after updates).histograms,
        (∀ bucket ∈ entry.2.sortedBuckets.dropLast, ∀ obs ∈ entry.2.observations, bucket < obs) ∧
          entry.2.observations ≠ [] ∧ 0 < percentile ∧ percentile ≤ 100 := by
  apply forall₂_congr
  intro entry member
  rw [cumulative_iff (counted_after updates entry member), calculatePercentile_iff]

/-- The durations after one short event. -/
def shortEvent : HistogramMetric :=
  { name := "outbox_processing_duration_seconds"
    help := "Time taken to process an outbox event in seconds"
    buckets := [1 / 10, 1 / 2, 1, 2, 5, 10, 30]
    observations := [1 / 20]
    sum := 1 / 20
    count := 1 }

/-- The one event is told as one up to a tenth of a second, as two up to a half, and so on up to seven. -/
theorem short_event_counted_again :
    ("outbox_processing_duration_seconds", shortEvent) ∈ (after [.recordProcessingDuration (1 / 20)]).histograms ∧
      shortEvent.lines = [(1 / 10, 1), (1 / 2, 2), (1, 3), (2, 4), (5, 5), (10, 6), (30, 7)] ∧
        ¬ Cumulative shortEvent := by
  have sorted : shortEvent.sortedBuckets = [1 / 10, 1 / 2, 1, 2, 5, 10, 30] := by
    apply List.mergeSort_of_pairwise
    norm_num [shortEvent]
  have lines : shortEvent.lines = [(1 / 10, 1), (1 / 2, 2), (1, 3), (2, 4), (5, 5), (10, 6), (30, 7)] := by
    unfold HistogramMetric.lines
    rw [sorted]
    norm_num [bucketLines, upTo, shortEvent]
  refine ⟨?_, lines, fun right => ?_⟩
  · norm_num [after, MetricsService.update, MetricsService.recordHistogram, changeAt, initMetrics, histogram,
      HistogramMetric.record, shortEvent]
  · have last := right.bounded (30, 7) (by simp [lines])
    exact absurd last (by decide)

end EventMetrics

end DriverMicroServices
