import DriverMicroServices.Entities
import Mathlib.Data.Rat.Floor
import Mathlib.Tactic.Linarith
import Mathlib.Tactic.NormNum
import Mathlib.Tactic.SplitIfs

/-! `AdaptiveBatchService`: the size of the next batch goes up and down with the statistics of the
last hour, in steps of a tenth of what three factors ask for. -/
namespace DriverMicroServices
namespace AdaptiveBatch

def MIN_BATCH_SIZE : Int := 10

def MAX_BATCH_SIZE : Int := 100

def DEFAULT_BATCH_SIZE : Int := 50

def ADJUSTMENT_FACTOR : Rat := 1 / 10

def TARGET_SUCCESS_RATE : Rat := 95 / 100

def TARGET_AVG_DURATION : Rat := 5000

/-- `5 * 60 * 1000` -/
def adjustmentInterval : Int := 300000

/-- The figures of the events of the last hour. Over no event the aggregates of the durations are `NULL`. -/
structure Statistics where
  totalEvents : Nat
  completedEvents : Nat
  failedEvents : Nat
  avgDuration : Option Rat := none
  maxDuration : Option Rat := none
  minDuration : Option Rat := none
  durationStdDev : Option Rat := none

def Statistics.successRate (statistics : Statistics) : Rat := statistics.completedEvents / statistics.totalEvents

/-- The expressions of the query with the aliases that it writes for them. -/
def Statistics.selected (statistics : Statistics) : List (List Char × Option Rat) :=
  [("totalEvents".toList, some (statistics.totalEvents : Rat)),
    ("completedEvents".toList, some (statistics.completedEvents : Rat)),
    ("failedEvents".toList, some (statistics.failedEvents : Rat)),
    ("avgDuration".toList, statistics.avgDuration),
    ("maxDuration".toList, statistics.maxDuration),
    ("minDuration".toList, statistics.minDuration),
    ("durationStdDev".toList, statistics.durationStdDev)]

/-- A name without quotes is folded to lower case. -/
def foldedName (name : List Char) : List Char := name.map Char.toLower

/-- A raw row: values by the names of the columns. -/
abbrev RawRow := List (List Char × Option Rat)

def Statistics.getRawOne (statistics : Statistics) : RawRow :=
  statistics.selected.map fun column => (foldedName column.1, column.2)

/-- `recentStats?.key || "0"`, as a number. -/
def RawRow.read (row : RawRow) (key : String) : Rat := ((row.lookup key.toList).getD none).getD 0

/-- The deviation in relation to the average. Over an average of 0 it is infinite. -/
def variabilityLoad (avgDuration durationStdDev : Rat) : Rat :=
  if 0 < durationStdDev then
    if avgDuration = 0 then 1 else min (durationStdDev / avgDuration) 1
  else 0

def calculateSystemLoad (successRate avgDuration _maxDuration durationStdDev : Rat) : Rat :=
  let successRateLoad := 1 - successRate
  let durationLoad := min (avgDuration / (TARGET_AVG_DURATION * 2)) 1
  let load := successRateLoad * (4 / 10) + durationLoad * (4 / 10) +
    variabilityLoad avgDuration durationStdDev * (2 / 10)
  max 0 (min 1 load)

def successAdjustment (successRate : Rat) : Rat :=
  if successRate < TARGET_SUCCESS_RATE then -((TARGET_SUCCESS_RATE - successRate) * 2)
  else if 99 / 100 < successRate then 1 / 10 else 0

def durationAdjustment (avgDuration : Rat) : Rat :=
  if TARGET_AVG_DURATION < avgDuration then -((avgDuration - TARGET_AVG_DURATION) / TARGET_AVG_DURATION)
  else if avgDuration < TARGET_AVG_DURATION * (1 / 2) then 2 / 10 else 0

def loadAdjustment (systemLoad : Rat) : Rat :=
  if 8 / 10 < systemLoad then -(3 / 10) else if systemLoad < 3 / 10 then 2 / 10 else 0

/-- `Math.round` -/
def round (x : Rat) : Int := ⌊x + 1 / 2⌋

/-- What the factors ask for, over a row. -/
def RawRow.adjustment (recentStats : RawRow) : Rat :=
  let totalEvents := recentStats.read "totalEvents"
  let completedEvents := recentStats.read "completedEvents"
  let avgDuration := recentStats.read "avgDuration"
  let maxDuration := recentStats.read "maxDuration"
  let durationStdDev := recentStats.read "durationStdDev"
  let successRate := if 0 < totalEvents then completedEvents / totalEvents else 0
  let systemLoad := calculateSystemLoad successRate avgDuration maxDuration durationStdDev
  successAdjustment successRate + durationAdjustment avgDuration + loadAdjustment systemLoad

def calculateOptimalBatchSize (currentBatchSize : Int) (recentStats : RawRow) : Int :=
  if recentStats.read "totalEvents" < 10 then DEFAULT_BATCH_SIZE
  else
    let newBatchSize := round (currentBatchSize * (1 + recentStats.adjustment * ADJUSTMENT_FACTOR))
    max MIN_BATCH_SIZE (min MAX_BATCH_SIZE newBatchSize)

structure AdaptiveBatchService where
  currentBatchSize : Int := DEFAULT_BATCH_SIZE
  lastAdjustmentTime : Time

/-- The query may fail, and the size stays. -/
def getOptimalBatchSize (service : AdaptiveBatchService) (now : Time) (recent : Option Statistics) :
    AdaptiveBatchService :=
  if now - service.lastAdjustmentTime < adjustmentInterval then service
  else
    match recent with
    | some statistics =>
      { currentBatchSize := calculateOptimalBatchSize service.currentBatchSize statistics.getRawOne
        lastAdjustmentTime := now }
    | none => service

/-- What calls return one after the other. -/
def sizes (service : AdaptiveBatchService) : List (Time × Option Statistics) → List Int
  | [] => []
  | (now, recent) :: later =>
    let service := getOptimalBatchSize service now recent
    service.currentBatchSize :: sizes service later

/-! ## Bounds -/

def WithinBounds (size : Int) : Prop := MIN_BATCH_SIZE ≤ size ∧ size ≤ MAX_BATCH_SIZE

/-- Whatever the row. -/
theorem calculateOptimalBatchSize_bounds (currentBatchSize : Int) (recentStats : RawRow) :
    WithinBounds (calculateOptimalBatchSize currentBatchSize recentStats) := by
  unfold WithinBounds calculateOptimalBatchSize
  split
  · exact ⟨by decide, by decide⟩
  · exact ⟨le_max_left _ _, max_le (by decide) (min_le_left _ _)⟩

private theorem getOptimalBatchSize_bounds {service : AdaptiveBatchService} (now : Time) (recent : Option Statistics)
    (within : WithinBounds service.currentBatchSize) :
    WithinBounds (getOptimalBatchSize service now recent).currentBatchSize := by
  unfold getOptimalBatchSize
  split
  · exact within
  · cases recent with
    | some statistics => exact calculateOptimalBatchSize_bounds service.currentBatchSize statistics.getRawOne
    | none => exact within

private theorem sizes_bounds {service : AdaptiveBatchService} (within : WithinBounds service.currentBatchSize)
    (calls : List (Time × Option Statistics)) : ∀ size ∈ sizes service calls, WithinBounds size := by
  induction calls generalizing service with
  | nil => exact List.forall_mem_nil _
  | cons call later ih =>
    obtain ⟨now, recent⟩ := call
    have next := getOptimalBatchSize_bounds now recent within
    exact List.forall_mem_cons.mpr ⟨next, ih next⟩

/-! ## Directions -/

private theorem getRawOne_columns (statistics : Statistics) :
    statistics.getRawOne.map (·.1) =
      ["totalevents", "completedevents", "failedevents", "avgduration", "maxduration", "minduration",
        "durationstddev"].map (·.toList) := rfl

/-- The row has the alias in small letters, and is asked for the alias as it is written. -/
theorem totalEvents_unread (statistics : Statistics) : RawRow.read statistics.getRawOne "totalEvents" = 0 := by
  have unnamed : "totalEvents".toList ∉ statistics.getRawOne.map (·.1) := by
    rw [getRawOne_columns]
    decide
  have missing : statistics.getRawOne.lookup "totalEvents".toList = none := by
    rw [List.lookup_eq_none_iff]
    intro column member
    exact bne_iff_ne.mpr fun same => unnamed (List.mem_map.mpr ⟨column, member, same.symm⟩)
  rw [RawRow.read, missing]
  rfl

/-- There never seem to be enough events. -/
theorem calculateOptimalBatchSize_default (currentBatchSize : Int) (statistics : Statistics) :
    calculateOptimalBatchSize currentBatchSize statistics.getRawOne = DEFAULT_BATCH_SIZE := by
  unfold calculateOptimalBatchSize
  rw [totalEvents_unread, if_pos (by norm_num)]

/-- The size after a call does not depend on what the figures say. -/
theorem getOptimalBatchSize_figures (service : AdaptiveBatchService) (now : Time) (statistics other : Statistics) :
    getOptimalBatchSize service now (some statistics) = getOptimalBatchSize service now (some other) := by
  simp only [getOptimalBatchSize, calculateOptimalBatchSize_default]

/-- The size stays within its bounds. From the same size, a higher rate of success does not make the next
one smaller, and a longer average does not make it greater: it is the default in either case. -/
theorem batch_size_adapts :
    (∀ (start : Time) (calls : List (Time × Option Statistics)),
      ∀ size ∈ sizes { lastAdjustmentTime := start } calls, 10 ≤ size ∧ size ≤ 100) ∧
    (∀ (service : AdaptiveBatchService) (now : Time) (statistics higher : Statistics),
      statistics.successRate ≤ higher.successRate →
        (getOptimalBatchSize service now (some statistics)).currentBatchSize ≤
          (getOptimalBatchSize service now (some higher)).currentBatchSize) ∧
    (∀ (service : AdaptiveBatchService) (now : Time) (statistics : Statistics) (avgDuration longer : Rat),
      avgDuration ≤ longer →
        (getOptimalBatchSize service now (some { statistics with avgDuration := some longer })).currentBatchSize ≤
          (getOptimalBatchSize service now
            (some { statistics with avgDuration := some avgDuration })).currentBatchSize) := by
  refine ⟨?_, ?_, ?_⟩
  · intro start calls
    have default : WithinBounds DEFAULT_BATCH_SIZE := ⟨by decide, by decide⟩
    exact sizes_bounds default calls
  · intro service now statistics higher _
    rw [getOptimalBatchSize_figures service now statistics higher]
  · intro service now statistics avgDuration longer _
    rw [getOptimalBatchSize_figures]

/-- Ten minutes after the start, with eighty or ninety-nine successes of a hundred, and with averages of
four seconds and of eight. -/
theorem batch_size_adapts_hour :
    (getOptimalBatchSize { lastAdjustmentTime := 0 } 600000 (some ⟨100, 80, 20, some 4000, none, none, none⟩)).currentBatchSize ≤
        (getOptimalBatchSize { lastAdjustmentTime := 0 } 600000
          (some ⟨100, 99, 1, some 4000, none, none, none⟩)).currentBatchSize ∧
      (getOptimalBatchSize { lastAdjustmentTime := 0 } 600000
          (some ⟨100, 80, 20, some 8000, none, none, none⟩)).currentBatchSize ≤
        (getOptimalBatchSize { lastAdjustmentTime := 0 } 600000
          (some ⟨100, 80, 20, some 4000, none, none, none⟩)).currentBatchSize := by
  constructor
  · exact batch_size_adapts.2.1 _ _ _ _ (by norm_num [Statistics.successRate])
  · exact batch_size_adapts.2.2 _ _ ⟨100, 80, 20, none, none, none, none⟩ 4000 8000 (by norm_num)

end AdaptiveBatch

end DriverMicroServices
