import DriverMicroServices.Deliveries
import DriverMicroServices.Transitions
import Mathlib.Algebra.Order.Ring.Unbundled.Rat

/-! `DriverStatsService`: the counters of one driver. Every method reads the row,
counts in memory and saves the row as a whole. A run of overlapping calls loses
nothing just while no save comes between the read and the save of another call. -/
namespace DriverMicroServices
open Transitions

/-- A row of `driver_stats`. -/
structure DriverStats where
  totalDeliveries : Nat := 0
  completedDeliveries : Nat := 0
  failedDeliveries : Nat := 0
  cancelledDeliveries : Nat := 0
  acceptanceCount : Nat := 0
  rejectionCount : Nat := 0
  avgDeliveryTimeSeconds : Int := 0
  avgPickupTimeSeconds : Int := 0
  lastDeliveryAt : Option Time := none
  reliabilityScore : Rat := 0
  deriving DecidableEq

/-- A call that counts something for the driver. -/
inductive StatsCall where
  | recordAssignmentAccepted
  | recordAssignmentRejected
  | recordDeliveryCompleted (input : CompletionTimes)
  | recordDeliveryFailed
  | recordDeliveryCancelled
  deriving DecidableEq, Repr

namespace DriverStats

def successRate (stats : DriverStats) : Rat := stats.completedDeliveries / stats.totalDeliveries
def failureRate (stats : DriverStats) : Rat := stats.failedDeliveries / stats.totalDeliveries
def cancellationRate (stats : DriverStats) : Rat :=
  stats.cancelledDeliveries / stats.totalDeliveries

def recomputeReliabilityScore (stats : DriverStats) : DriverStats :=
  if stats.totalDeliveries = 0 then { stats with reliabilityScore := 0 }
  else
    let score := stats.successRate * 100 - stats.failureRate * 50 - stats.cancellationRate * 30
    { stats with reliabilityScore := max 0 (min 100 score) }

/-- `Math.round(total / count)`. -/
def roundedQuotient (total : Int) (count : Nat) : Int := (2 * total + count) / (2 * count)

/-- The average over one more value. -/
def averaged (average : Int) (completedDeliveries : Nat) : Option Int → Int
  | some seconds =>
    roundedQuotient (average * (completedDeliveries - 1) + seconds) completedDeliveries
  | none => average

/-- What a call does to the row that it holds. -/
def record (now : Time) (call : StatsCall) (stats : DriverStats) : DriverStats :=
  match call with
  | .recordAssignmentAccepted =>
    { stats with
      acceptanceCount := stats.acceptanceCount + 1
      totalDeliveries := stats.totalDeliveries + 1 }
  | .recordAssignmentRejected => { stats with rejectionCount := stats.rejectionCount + 1 }
  | .recordDeliveryCompleted input =>
    let completedDeliveries := stats.completedDeliveries + 1
    recomputeReliabilityScore
      { stats with
        completedDeliveries
        lastDeliveryAt := some (input.deliveredAt.getD now)
        avgPickupTimeSeconds :=
          averaged stats.avgPickupTimeSeconds completedDeliveries input.pickupTimeSeconds
        avgDeliveryTimeSeconds :=
          averaged stats.avgDeliveryTimeSeconds completedDeliveries input.totalTimeSeconds }
  | .recordDeliveryFailed =>
    recomputeReliabilityScore { stats with failedDeliveries := stats.failedDeliveries + 1 }
  | .recordDeliveryCancelled =>
    recomputeReliabilityScore { stats with cancelledDeliveries := stats.cancelledDeliveries + 1 }

end DriverStats

/-- The counters of a row. -/
inductive StatsCounter where
  | totalDeliveries | completedDeliveries | failedDeliveries | cancelledDeliveries
  | acceptanceCount | rejectionCount
  deriving DecidableEq, Repr

def DriverStats.counter (stats : DriverStats) : StatsCounter → Nat
  | .totalDeliveries => stats.totalDeliveries
  | .completedDeliveries => stats.completedDeliveries
  | .failedDeliveries => stats.failedDeliveries
  | .cancelledDeliveries => stats.cancelledDeliveries
  | .acceptanceCount => stats.acceptanceCount
  | .rejectionCount => stats.rejectionCount

/-- The counters that a call is meant to raise. -/
def StatsCall.counts : StatsCall → StatsCounter → Bool
  | .recordAssignmentAccepted, .totalDeliveries => true
  | .recordAssignmentAccepted, .acceptanceCount => true
  | .recordAssignmentRejected, .rejectionCount => true
  | .recordDeliveryCompleted _, .completedDeliveries => true
  | .recordDeliveryFailed, .failedDeliveries => true
  | .recordDeliveryCancelled, .cancelledDeliveries => true
  | _, _ => false

section Record

variable {stats : DriverStats} {counter : StatsCounter}

@[simp] theorem recompute_counter (stats : DriverStats) (counter : StatsCounter) :
    stats.recomputeReliabilityScore.counter counter = stats.counter counter := by
  unfold DriverStats.recomputeReliabilityScore
  split
  · cases counter <;> rfl
  · cases counter <;> rfl

/-- One call raises its counters by one and leaves the others. -/
theorem record_counter (now : Time) (call : StatsCall) (stats : DriverStats)
    (counter : StatsCounter) :
    (stats.record now call).counter counter =
      stats.counter counter + if call.counts counter then 1 else 0 := by
  cases call with
  | recordAssignmentAccepted | recordAssignmentRejected => cases counter <;> rfl
  | recordDeliveryCompleted input | recordDeliveryFailed | recordDeliveryCancelled =>
    simp only [DriverStats.record, recompute_counter]
    cases counter <;> rfl

/-- Apart from the total, a call raises one counter. -/
theorem StatsCall.counts_one (call : StatsCall) :
    (if call.counts .completedDeliveries then 1 else 0) +
      (if call.counts .failedDeliveries then 1 else 0) +
      (if call.counts .cancelledDeliveries then 1 else 0) +
      (if call.counts .acceptanceCount then 1 else 0) +
      (if call.counts .rejectionCount then 1 else 0) = 1 := by
  cases call <;> rfl

/-- How many calls the counters speak of. -/
def DriverStats.weight (stats : DriverStats) : Nat :=
  stats.completedDeliveries + stats.failedDeliveries + stats.cancelledDeliveries +
    stats.acceptanceCount + stats.rejectionCount

theorem record_weight (now : Time) (call : StatsCall) (stats : DriverStats) :
    (stats.record now call).weight = stats.weight + 1 := by
  have completed := record_counter now call stats .completedDeliveries
  have failed := record_counter now call stats .failedDeliveries
  have cancelled := record_counter now call stats .cancelledDeliveries
  have accepted := record_counter now call stats .acceptanceCount
  have rejected := record_counter now call stats .rejectionCount
  have one := call.counts_one
  simp only [DriverStats.counter] at completed failed cancelled accepted rejected
  unfold DriverStats.weight
  omega

end Record

/-! ## Overlapping calls -/

/-- How far a call has come. -/
inductive StatsPhase where
  | started
  /-- `ensureStats` has found no row. -/
  | missing
  /-- `ensureStats` has returned this row. -/
  | ensured (stats : DriverStats)
  | saved
  | rejected (error : Exception)
  deriving DecidableEq

def StatsPhase.Ended : StatsPhase → Prop
  | .saved | .rejected _ => True
  | _ => False

structure StatsRun where
  call : StatsCall
  phase : StatsPhase := .started
  deriving DecidableEq

/-- The row of one driver, and the calls for that driver. -/
structure StatsSystem where
  stats : Option DriverStats
  runs : List StatsRun
  deriving DecidableEq

/-- A database command of the call `n`. -/
inductive StatsAction where
  /-- `findOne` in `ensureStats`. -/
  | find (n : Nat)
  /-- `save` of the row that `ensureStats` creates: an `INSERT`. -/
  | create (n : Nat)
  /-- `save` of the row that the call has counted in: every column that differs from
  the current row is written. -/
  | save (n : Nat) (now : Time)
  deriving DecidableEq

namespace StatsSystem

/-- The calls before their first command. -/
def begin (stats : Option DriverStats) (calls : List StatsCall) : StatsSystem where
  stats := stats
  runs := calls.map fun call => { call }

/-- The call `n` has come this far. -/
def reach (s : StatsSystem) (n : Nat) (call : StatsCall) (phase : StatsPhase) : StatsSystem :=
  { s with runs := s.runs.set n ⟨call, phase⟩ }

def step (s : StatsSystem) : StatsAction → Option StatsSystem
  | .find n =>
    match s.runs[n]? with
    | some ⟨call, .started⟩ =>
      match s.stats with
      | some stats => some (s.reach n call (.ensured stats))
      | none => some (s.reach n call .missing)
    | _ => none
  | .create n =>
    match s.runs[n]? with
    | some ⟨call, .missing⟩ =>
      match s.stats with
      | some _ => some (s.reach n call (.rejected (.uniqueViolation "driver_id")))
      | none => some ({ s with stats := some {} }.reach n call (.ensured {}))
    | _ => none
  | .save n now =>
    match s.runs[n]? with
    | some ⟨call, .ensured stats⟩ =>
      some ({ s with stats := some (stats.record now call) }.reach n call .saved)
    | _ => none

/-- A command finds what its call relies on: an insert no row, a save the row that
the call was given. -/
def Undisturbed (s : StatsSystem) : StatsAction → Prop
  | .find _ => True
  | .create _ => s.stats = none
  | .save n _ => s.runs[n]?.map StatsRun.phase = s.stats.map .ensured

instance : Decidable (Undisturbed s action) :=
  match action with
  | .find _ => isTrue trivial
  | .create _ => inferInstanceAs (Decidable (_ = none))
  | .save _ _ => inferInstanceAs (Decidable (_ = Option.map _ _))

/-- The row; a driver without one has counted nothing. -/
def row (s : StatsSystem) : DriverStats := s.stats.getD {}

/-- The calls that have saved. -/
def saves (s : StatsSystem) : Nat := s.runs.countP (·.phase = .saved)

/-- Nothing is lost so far. -/
structure Exact (stats : DriverStats) (s : StatsSystem) : Prop where
  counted : ∀ counter, s.row.counter counter =
    stats.counter counter + s.runs.countP fun run => run.phase = .saved && run.call.counts counter
  succeeded : ∀ run ∈ s.runs, ∀ error, run.phase ≠ .rejected error
  /-- A row that a call was given is the current one or has counted less. -/
  given : ∀ run ∈ s.runs, ∀ held, run.phase = .ensured held →
    s.stats = some held ∨ held.weight < s.row.weight
  present : ∀ run ∈ s.runs, ∀ held, run.phase = .ensured held → s.stats ≠ none

/-- A call has failed, or the row counts less than was saved, and so do the rows that
calls were given. -/
def Lossy (stats : DriverStats) (s : StatsSystem) : Prop :=
  (∃ run ∈ s.runs, ∃ error, run.phase = .rejected error) ∨
    s.row.weight < stats.weight + s.saves ∧
      ∀ run ∈ s.runs, ∀ held, run.phase = .ensured held → held.weight < stats.weight + s.saves

variable {s s' : StatsSystem} {action : StatsAction} {stats : DriverStats}

/-- What a command does. -/
theorem step_cases (stepped : s.step action = some s') :
    ∃ n call phase, s.runs[n]? = some ⟨call, phase⟩ ∧
      ((action = .find n ∧ phase = .started ∧ ((∃ held, s.stats = some held ∧
            s' = s.reach n call (.ensured held)) ∨
          s.stats = none ∧ s' = s.reach n call .missing)) ∨
        (action = .create n ∧ phase = .missing ∧ ((s.stats ≠ none ∧
            s' = s.reach n call (.rejected (.uniqueViolation "driver_id"))) ∨
          s.stats = none ∧ s' = { s with stats := some {} }.reach n call (.ensured {}))) ∨
        ∃ now held, action = .save n now ∧ phase = .ensured held ∧
          s' = { s with stats := some (held.record now call) }.reach n call .saved) := by
  unfold step at stepped
  split at stepped
  · rename_i n
    split at stepped
    · rename_i call found
      refine ⟨n, call, _, found, .inl ⟨rfl, rfl, ?_⟩⟩
      split at stepped
      · rename_i held here
        exact .inl ⟨held, here, (Option.some.inj stepped).symm⟩
      · rename_i here
        exact .inr ⟨here, (Option.some.inj stepped).symm⟩
    · cases stepped
  · rename_i n
    split at stepped
    · rename_i call found
      refine ⟨n, call, _, found, .inr (.inl ⟨rfl, rfl, ?_⟩)⟩
      split at stepped
      · rename_i held here
        exact .inl ⟨by simp [here], (Option.some.inj stepped).symm⟩
      · rename_i here
        exact .inr ⟨here, (Option.some.inj stepped).symm⟩
    · cases stepped
  · rename_i n now
    split at stepped
    · rename_i call held found
      exact ⟨n, call, _, found, .inr (.inr ⟨now, held, rfl, rfl, (Option.some.inj stepped).symm⟩)⟩
    · cases stepped

section Reach

variable {n : Nat} {call : StatsCall} {before phase : StatsPhase} {run : StatsRun}

/-- A test counts a call as it comes further. -/
theorem reach_countP (phase : StatsPhase) (test : StatsRun → Bool) (found : s.runs[n]? = some ⟨call, before⟩) :
    (s.reach n call phase).runs.countP test + (if test ⟨call, before⟩ then 1 else 0) =
      s.runs.countP test + if test ⟨call, phase⟩ then 1 else 0 :=
  countP_set _ test found

theorem mem_reach (member : run ∈ (s.reach n call phase).runs) :
    run ∈ s.runs ∨ run = ⟨call, phase⟩ :=
  List.mem_or_eq_of_mem_set member

/-- The other calls are where they were. -/
theorem mem_reach_of_mem (found : s.runs[n]? = some ⟨call, before⟩) (member : run ∈ s.runs)
    (other : run ≠ ⟨call, before⟩) : run ∈ (s.reach n call phase).runs := by
  obtain ⟨m, bound, here⟩ := List.mem_iff_getElem.mp member
  have elsewhere : n ≠ m := by
    rintro rfl
    rw [List.getElem?_eq_getElem bound, here] at found
    exact other (Option.some.inj found)
  refine List.mem_iff_getElem?.mpr ⟨m, ?_⟩
  simp [reach, List.getElem?_set_ne elsewhere, List.getElem?_eq_getElem bound, here]

/-- The calls stay the same. -/
theorem reach_calls (found : s.runs[n]? = some ⟨call, before⟩) :
    (s.reach n call phase).runs.map StatsRun.call = s.runs.map StatsRun.call := by
  obtain ⟨bound, here⟩ := List.getElem?_eq_some_iff.mp found
  have bound' : n < (s.runs.map StatsRun.call).length := by simpa using bound
  have same : (s.runs.map StatsRun.call)[n] = call := by simp [here]
  simp only [reach, List.map_set]
  rw [← same, List.set_getElem_self]

/-- A call that comes further without a save. -/
theorem reach_saves (found : s.runs[n]? = some ⟨call, before⟩)
    (unsaved : before ≠ .saved ∧ phase ≠ .saved) : (s.reach n call phase).saves = s.saves := by
  have counted := reach_countP phase (·.phase = .saved) found
  simp only [unsaved.1, unsaved.2, decide_false] at counted
  unfold saves
  omega

theorem saved_saves (found : s.runs[n]? = some ⟨call, before⟩) (unsaved : before ≠ .saved) :
    (s.reach n call .saved).saves = s.saves + 1 := by
  have counted := reach_countP .saved (·.phase = .saved) found
  simp only [unsaved, decide_false, decide_true, Bool.false_eq_true, if_true, if_false] at counted
  unfold saves
  omega

end Reach

/-- Each call that has saved is counted by one of the kinds. -/
theorem saves_eq (runs : List StatsRun) :
    let of counter := runs.countP fun run => run.phase = .saved && run.call.counts counter
    of .completedDeliveries + of .failedDeliveries + of .cancelledDeliveries +
      of .acceptanceCount + of .rejectionCount = runs.countP (·.phase = .saved) := by
  induction runs with
  | nil => rfl
  | cons run rest ih =>
    have one := run.call.counts_one
    simp only [List.countP_cons] at ih ⊢
    by_cases saved : run.phase = .saved
    · simp only [saved, decide_true, Bool.true_and, if_true]
      omega
    · simp only [saved, decide_false, Bool.false_and, Bool.false_eq_true, if_false]
      omega

/-- Where the counters are right, the row counts what was saved. -/
theorem weight_of_counted
    (counted : ∀ counter, s.row.counter counter = stats.counter counter +
      s.runs.countP fun run => run.phase = .saved && run.call.counts counter) :
    s.row.weight = stats.weight + s.saves := by
  have completed := counted .completedDeliveries
  have failed := counted .failedDeliveries
  have cancelled := counted .cancelledDeliveries
  have accepted := counted .acceptanceCount
  have rejected := counted .rejectionCount
  have kinds := saves_eq s.runs
  simp only [DriverStats.counter] at completed failed cancelled accepted rejected kinds
  unfold DriverStats.weight saves
  omega

section Steps

variable {n : Nat} {call : StatsCall} {before phase : StatsPhase} {held : DriverStats} {now : Time}

/-- A call that comes further without a save. -/
theorem exact_reach (exact' : Exact stats s) (found : s.runs[n]? = some ⟨call, before⟩)
    (unsaved : before ≠ .saved ∧ phase ≠ .saved) (accepted : ∀ error, phase ≠ .rejected error)
    (current : ∀ held, phase = .ensured held → s.stats = some held) :
    Exact stats (s.reach n call phase) where
  counted := by
    intro counter
    have counted := reach_countP phase
      (fun run => run.phase = .saved && run.call.counts counter) found
    simp only [unsaved.1, unsaved.2, decide_false, Bool.false_and] at counted
    have here := exact'.counted counter
    unfold row at here ⊢
    simp only [reach] at counted here ⊢
    omega
  succeeded := by
    intro run member error
    rcases mem_reach member with old | rfl
    · exact exact'.succeeded run old error
    · exact accepted error
  given := by
    intro run member held holds
    rcases mem_reach member with old | rfl
    · exact exact'.given run old held holds
    · exact .inl (current held holds)
  present := by
    intro run member held holds
    rcases mem_reach member with old | rfl
    · exact exact'.present run old held holds
    · simp [reach, current held holds]

/-- No call holds a row that is not there, so an empty row may appear. -/
theorem exact_create (exact' : Exact stats s) (here : s.stats = none) :
    Exact stats { s with stats := some {} } where
  counted := by
    intro counter
    have counted := exact'.counted counter
    unfold row at counted
    rw [here] at counted
    exact counted
  succeeded := exact'.succeeded
  given := fun run member held holds => absurd here (exact'.present run member held holds)
  present := fun run member held holds => absurd here (exact'.present run member held holds)

/-- A save of the current row. -/
theorem exact_save (exact' : Exact stats s) (found : s.runs[n]? = some ⟨call, .ensured held⟩)
    (here : s.stats = some held) :
    Exact stats ({ s with stats := some (held.record now call) }.reach n call .saved) where
  counted := by
    intro counter
    have counted := reach_countP .saved
      (fun run => run.phase = .saved && run.call.counts counter) found
    have before := exact'.counted counter
    have raised := record_counter now call held counter
    unfold row at before ⊢
    rw [here] at before
    simp only [reach, Option.getD_some, reduceCtorEq, decide_false, Bool.false_and, decide_true,
      Bool.true_and, Bool.false_eq_true, if_false] at counted before raised ⊢
    omega
  succeeded := by
    intro run member error
    rcases mem_reach member with old | rfl
    · exact exact'.succeeded run old error
    · simp
  given := by
    intro run member older holds
    right
    have raised := record_weight now call held
    rcases mem_reach member with old | rfl
    · have weight : (s.stats.getD {}).weight = held.weight := by simp [here]
      rcases exact'.given run old older holds with same | less
      · obtain rfl := Option.some.inj (here.symm.trans same)
        simp only [row, reach, Option.getD_some]
        omega
      · simp only [row, reach, Option.getD_some] at less ⊢
        omega
    · cases holds
  present := by
    intro run member older holds
    simp [reach]

private theorem exact_step (exact' : Exact stats s) (undisturbed : Undisturbed s action)
    (stepped : s.step action = some s') : Exact stats s' := by
  obtain ⟨n, call, phase, found, ⟨rfl, rfl, ⟨held, here, rfl⟩ | ⟨here, rfl⟩⟩ |
    ⟨rfl, rfl, ⟨here, rfl⟩ | ⟨here, rfl⟩⟩ | ⟨now, held, rfl, rfl, rfl⟩⟩ := step_cases stepped
  · apply exact_reach exact' found (by simp) (by simp)
    intro held' holds
    cases holds
    exact here
  · exact exact_reach exact' found (by simp) (by simp) (by simp)
  · exact absurd undisturbed here
  · apply exact_reach (exact_create exact' here) found (by simp) (by simp)
    intro held holds
    cases holds
    rfl
  · have current : s.stats = some held := by
      simpa [Undisturbed, found, eq_comm] using undisturbed
    exact exact_save exact' found current

/-- A save over a row other than the one the call was given. -/
theorem lossy_of_save (exact' : Exact stats s) (found : s.runs[n]? = some ⟨call, .ensured held⟩)
    (other : s.stats ≠ some held) :
    Lossy stats ({ s with stats := some (held.record now call) }.reach n call .saved) := by
  have weight := weight_of_counted exact'.counted
  have saves : ({ s with stats := some (held.record now call) }.reach n call .saved).saves =
      s.saves + 1 := saved_saves found (by simp)
  have raised := record_weight now call held
  have less : held.weight < s.row.weight := by
    rcases exact'.given _ (List.mem_of_getElem? found) held rfl with same | less
    · exact absurd same other
    · exact less
  right
  constructor
  · simp only [row, reach, Option.getD_some] at saves ⊢
    omega
  · intro run member older holds
    rcases mem_reach member with old | rfl
    · have bound : older.weight ≤ s.row.weight := by
        rcases exact'.given run old older holds with same | less
        · simp [row, same]
        · exact Nat.le_of_lt less
      omega
    · cases holds

/-- A call that has failed stays so, and the rows that calls are given are the
current one. -/
theorem lossy_reach (lossy : Lossy stats s) (found : s.runs[n]? = some ⟨call, before⟩)
    (unsaved : before ≠ .saved ∧ phase ≠ .saved) (pending : ∀ error, before ≠ .rejected error)
    (current : ∀ held, phase = .ensured held → s.row = held) :
    Lossy stats (s.reach n call phase) := by
  have saves := reach_saves found unsaved
  rcases lossy with ⟨run, member, error, failed⟩ | ⟨behind, given⟩
  · left
    refine ⟨run, mem_reach_of_mem found member ?_, error, failed⟩
    rintro rfl
    exact pending error failed
  · right
    rw [saves]
    refine ⟨behind, ?_⟩
    intro run member held holds
    rcases mem_reach member with old | rfl
    · exact given run old held holds
    · rw [← current held holds]
      exact behind

private theorem lossy_save (lossy : Lossy stats s) (found : s.runs[n]? = some ⟨call, .ensured held⟩) :
    Lossy stats ({ s with stats := some (held.record now call) }.reach n call .saved) := by
  have saves : ({ s with stats := some (held.record now call) }.reach n call .saved).saves =
      s.saves + 1 := saved_saves found (by simp)
  have raised := record_weight now call held
  rcases lossy with ⟨run, member, error, failed⟩ | ⟨behind, given⟩
  · left
    refine ⟨run, mem_reach_of_mem found member ?_, error, failed⟩
    rintro rfl
    cases failed
  · right
    have less := given _ (List.mem_of_getElem? found) held rfl
    constructor
    · simp only [row, reach, Option.getD_some] at saves ⊢
      omega
    · intro run member older holds
      rcases mem_reach member with old | rfl
      · have bound := given run old older holds
        omega
      · cases holds

/-- A save over another row, or an insert next to one, loses a call. -/
theorem lossy_of_exact (exact' : Exact stats s) (disturbed : ¬ Undisturbed s action)
    (stepped : s.step action = some s') : Lossy stats s' := by
  obtain ⟨n, call, phase, found, ⟨rfl, -⟩ |
    ⟨rfl, rfl, ⟨here, rfl⟩ | ⟨here, rfl⟩⟩ | ⟨now, held, rfl, rfl, rfl⟩⟩ := step_cases stepped
  · exact absurd trivial disturbed
  · obtain ⟨bound, -⟩ := List.getElem?_eq_some_iff.mp found
    left
    exact ⟨_, List.mem_set bound _, _, rfl⟩
  · exact absurd here disturbed
  · apply lossy_of_save exact' found
    intro current
    exact disturbed (by simp [Undisturbed, found, current])

/-- What is lost stays lost. -/
theorem lossy_step (lossy : Lossy stats s) (stepped : s.step action = some s') :
    Lossy stats s' := by
  obtain ⟨n, call, phase, found, ⟨rfl, rfl, ⟨held, here, rfl⟩ | ⟨here, rfl⟩⟩ |
    ⟨rfl, rfl, ⟨here, rfl⟩ | ⟨here, rfl⟩⟩ | ⟨now, held, rfl, rfl, rfl⟩⟩ := step_cases stepped
  · apply lossy_reach lossy found (by simp) (by simp)
    intro held' holds
    cases holds
    simp [row, here]
  · exact lossy_reach lossy found (by simp) (by simp) (by simp)
  · exact lossy_reach lossy found (by simp) (by simp) (by simp)
  · have empty : Lossy stats { s with stats := some {} } := by
      have same : s.row = {} := by simp [row, here]
      unfold Lossy at lossy
      rw [same] at lossy
      exact lossy
    apply lossy_reach empty found (by simp) (by simp)
    intro held holds
    cases holds
    rfl
  · exact lossy_save lossy found

end Steps

/-! ## Whole runs -/

/-- All calls have succeeded, and each counter has grown by the calls of its kind. -/
def NothingLost (stats : DriverStats) (calls : List StatsCall) (s : StatsSystem) : Prop :=
  (∀ run ∈ s.runs, run.phase = .saved) ∧
    ∀ counter, s.row.counter counter = stats.counter counter + calls.countP (·.counts counter)

/-- Once all calls have saved, their counts are those of all calls. -/
theorem counts_of_saved (saved : ∀ run ∈ s.runs, run.phase = .saved) (counter : StatsCounter) :
    (s.runs.countP fun run => run.phase = .saved && run.call.counts counter) =
      (s.runs.map StatsRun.call).countP (·.counts counter) := by
  rw [List.countP_map]
  apply List.countP_congr
  intro run member
  simp [saved run member]

private theorem nothingLost_of_exact (exact' : Exact stats s) (ended : ∀ run ∈ s.runs, run.phase.Ended) :
    NothingLost stats (s.runs.map StatsRun.call) s := by
  have saved : ∀ run ∈ s.runs, run.phase = .saved := by
    intro run member
    have succeeded := exact'.succeeded run member
    have finished := ended run member
    cases phase : run.phase with
    | saved => rfl
    | rejected error => exact absurd phase (succeeded error)
    | started | missing | ensured => simp [phase, StatsPhase.Ended] at finished
  refine ⟨saved, fun counter => ?_⟩
  rw [exact'.counted counter, counts_of_saved saved counter]

private theorem not_nothingLost_of_lossy (lossy : Lossy stats s) :
    ¬ NothingLost stats (s.runs.map StatsRun.call) s := by
  rintro ⟨saved, counted⟩
  rcases lossy with ⟨run, member, error, failed⟩ | ⟨behind, -⟩
  · have success := saved run member
    simp [failed] at success
  · have weight : s.row.weight = stats.weight + s.saves := by
      apply weight_of_counted
      intro counter
      rw [counted counter, counts_of_saved saved counter]
    omega

private theorem calls_step (stepped : s.step action = some s') :
    s'.runs.map StatsRun.call = s.runs.map StatsRun.call := by
  obtain ⟨n, call, phase, found, ⟨rfl, rfl, ⟨held, here, rfl⟩ | ⟨here, rfl⟩⟩ |
    ⟨rfl, rfl, ⟨here, rfl⟩ | ⟨here, rfl⟩⟩ | ⟨now, held, rfl, rfl, rfl⟩⟩ := step_cases stepped
  all_goals exact reach_calls found

private theorem exact_begin (stats : Option DriverStats) (calls : List StatsCall) :
    Exact (stats.getD {}) (begin stats calls) where
  counted := by
    intro counter
    have none_yet : (begin stats calls).runs.countP
        (fun run => run.phase = .saved && run.call.counts counter) = 0 := by
      rw [List.countP_eq_zero]
      intro run member
      obtain ⟨call, -, rfl⟩ := List.mem_map.mp member
      simp
    rw [none_yet]
    rfl
  succeeded := by
    intro run member error
    obtain ⟨call, -, rfl⟩ := List.mem_map.mp member
    simp
  given := by
    intro run member held holds
    obtain ⟨call, -, rfl⟩ := List.mem_map.mp member
    cases holds
  present := by
    intro run member held holds
    obtain ⟨call, -, rfl⟩ := List.mem_map.mp member
    cases holds

end StatsSystem

section Runs
open StatsSystem

variable {stats : Option DriverStats} {calls : List StatsCall} {s : StatsSystem}
  {actions : List StatsAction}

/-- Once all calls have ended, nothing is lost just when no command found the row
changed since its call had read it. -/
theorem no_lost_updates (ran : run step (begin stats calls) actions = some s)
    (ended : ∀ run ∈ s.runs, run.phase.Ended) :
    NothingLost (stats.getD {}) calls s ↔ Admits step Undisturbed (begin stats calls) actions := by
  have keeps : ∀ {s action s'}, s.runs.map StatsRun.call = calls → True →
      step s action = some s' → s'.runs.map StatsRun.call = calls :=
    fun held _ stepped => (calls_step stepped).trans held
  have begun : (begin stats calls).runs.map StatsRun.call = calls := by
    simp [begin, Function.comp_def]
  have same := run_inv keeps begun admits_true ran
  rcases run_exact (fun held alone stepped => exact_step held alone stepped)
      (fun held disturbed stepped => lossy_of_exact held disturbed stepped)
      (fun lost stepped => lossy_step lost stepped) (exact_begin stats calls) ran with
    ⟨admitted, held⟩ | ⟨other, lost⟩
  · have kept := nothingLost_of_exact held ended
    rw [same] at kept
    exact iff_of_true kept admitted
  · have gone := not_nothingLost_of_lossy lost
    rw [same] at gone
    exact iff_of_false gone other

theorem no_lost_updates_new_driver :
    NothingLost {} [.recordAssignmentRejected, .recordAssignmentAccepted]
      ⟨some { totalDeliveries := 1, acceptanceCount := 1, rejectionCount := 1 },
        [⟨.recordAssignmentRejected, .saved⟩, ⟨.recordAssignmentAccepted, .saved⟩]⟩ :=
  have ran : run step (begin none [.recordAssignmentRejected, .recordAssignmentAccepted])
      [.find 0, .create 0, .save 0 0, .find 1, .save 1 0] =
      some ⟨some { totalDeliveries := 1, acceptanceCount := 1, rejectionCount := 1 },
        [⟨.recordAssignmentRejected, .saved⟩, ⟨.recordAssignmentAccepted, .saved⟩]⟩ := by decide
  (no_lost_updates ran (by simp [StatsPhase.Ended])).mpr (by decide)

/-- Two deliveries of one driver are accepted at once: both calls succeed and one is
counted. And two first calls of a driver both insert a row. -/
theorem lost_update :
    (∃ s, run step (begin (some {}) [.recordAssignmentAccepted, .recordAssignmentAccepted])
        [.find 0, .find 1, .save 0 0, .save 1 0] = some s ∧
      (∀ run ∈ s.runs, run.phase.Ended) ∧
      ¬ NothingLost {} [.recordAssignmentAccepted, .recordAssignmentAccepted] s) ∧
    ∃ s, run step (begin none [.recordAssignmentAccepted, .recordAssignmentAccepted])
        [.find 0, .find 1, .create 0, .create 1, .save 0 0] = some s ∧
      (∀ run ∈ s.runs, run.phase.Ended) ∧
      ¬ NothingLost {} [.recordAssignmentAccepted, .recordAssignmentAccepted] s := by
  constructor
  · refine ⟨⟨some { totalDeliveries := 1, acceptanceCount := 1 },
      [⟨.recordAssignmentAccepted, .saved⟩, ⟨.recordAssignmentAccepted, .saved⟩]⟩, by decide,
      by simp [StatsPhase.Ended], fun kept => ?_⟩
    have total := kept.2 .totalDeliveries
    exact absurd total (by decide)
  · refine ⟨⟨some { totalDeliveries := 1, acceptanceCount := 1 },
      [⟨.recordAssignmentAccepted, .saved⟩,
        ⟨.recordAssignmentAccepted, .rejected (.uniqueViolation "driver_id")⟩]⟩, by decide,
      by simp [StatsPhase.Ended], fun kept => ?_⟩
    have total := kept.2 .totalDeliveries
    exact absurd total (by decide)

end Runs

end DriverMicroServices
