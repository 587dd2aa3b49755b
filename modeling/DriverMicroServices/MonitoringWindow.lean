import DriverMicroServices.CircuitRuns

/-! What opens a circuit. The failures are counted since the circuit last recovered, however
long ago they were, and nothing reads `monitoringWindow`: a circuit opens on old failures. -/
namespace DriverMicroServices
open Transitions

/-- `CircuitBreakerConfig` with the time that nothing reads. -/
structure MonitoredConfig extends CircuitBreakerConfig where
  monitoringWindow : Int

/-- A circuit with the times of its failures, oldest first, and those that are still counted. -/
structure WatchedCircuit where
  system : CircuitSystem := {}
  failed : List Time := []
  counted : List Time := []
  clock : Time

namespace WatchedCircuit

/-- A step of the circuit at a time that the clock has reached. -/
def step (config : MonitoredConfig) (circuitName : String) (s : WatchedCircuit) (action : CircuitAction) :
    Option WatchedCircuit :=
  (s.system.step config.toCircuitBreakerConfig circuitName action).bind fun system =>
    match action with
    | .start now => if s.clock ≤ now then some { s with system, clock := now } else none
    | .succeed _ =>
      some { s with system, counted := if s.system.circuit.state = .halfOpen then [] else s.counted }
    | .fail _ now =>
      if s.clock ≤ now then
        some { system, failed := s.failed ++ [now], counted := s.counted ++ [now], clock := now }
      else none

end WatchedCircuit

/-- The failures that are not older than the window. -/
def recentFailures (config : MonitoredConfig) (now : Time) (failed : List Time) : Nat :=
  failed.countP fun failedAt => now - failedAt ≤ config.monitoringWindow

/-- A step that opens a closed circuit is a failure, and enough of the calls have failed recently. -/
def OpensRecently (config : MonitoredConfig) (taken : Taken WatchedCircuit CircuitAction) : Prop :=
  taken.before.system.circuit.state = .closed → taken.after.system.circuit.state = .open →
    ∃ n now, taken.action = .fail n now ∧
      config.failureThreshold ≤ recentFailures config now taken.after.failed

/-- The failure that brings the count to the threshold comes while the first one that is counted is
recent. -/
def CountsRecent (config : MonitoredConfig) (s : WatchedCircuit) : CircuitAction → Prop
  | .fail _ now => s.system.circuit.state = .closed → 0 < config.failureThreshold →
    s.counted.length + 1 = config.failureThreshold →
    ∀ first ∈ (s.counted ++ [now]).head?, now - first ≤ config.monitoringWindow
  | _ => True

/-- The count is that of the last failures, and a closed circuit has failures left. -/
structure Watching (config : MonitoredConfig) (s : WatchedCircuit) : Prop where
  counts : s.system.circuit.failures = s.counted.length
  consistent : 1 ≤ config.failureThreshold → s.system.circuit.Consistent config.toCircuitBreakerConfig
  last : ∃ older, s.failed = older ++ s.counted
  ordered : s.failed.Pairwise (· ≤ ·)
  past : ∀ failedAt ∈ s.failed, failedAt ≤ s.clock

section Steps
open WatchedCircuit

variable {config : MonitoredConfig} {circuitName : String} {s s' : WatchedCircuit} {action : CircuitAction}

private theorem watching_new (begun : Time) : Watching config { clock := begun } where
  counts := rfl
  consistent := consistent_new
  last := ⟨[], rfl⟩
  ordered := List.Pairwise.nil
  past := fun _ member => nomatch member

private theorem beforeCall_failures (config : CircuitBreakerConfig) (circuitName : String) (now : Time)
    (circuit : CircuitBreakerState) :
    (circuit.beforeCall config circuitName now).1.failures = circuit.failures := by
  rcases beforeCall_cases config circuitName now circuit with
    ⟨-, -, shape, -⟩ | ⟨-, -, shape, -⟩ | ⟨-, shape, -⟩ <;> rw [shape]

/-- Before a call nothing that is closed is opened. -/
theorem beforeCall_closed {config : CircuitBreakerConfig} {now : Time} {circuit : CircuitBreakerState}
    (closed : circuit.state = .closed) : (circuit.beforeCall config circuitName now).1 = circuit := by
  rcases beforeCall_cases config circuitName now circuit with
    ⟨isOpen, -⟩ | ⟨isOpen, -⟩ | ⟨-, shape, -⟩
  · simp [closed] at isOpen
  · simp [closed] at isOpen
  · exact shape

private theorem onSuccess_failures (circuit : CircuitBreakerState) :
    circuit.onSuccess.failures = if circuit.state = .halfOpen then 0 else circuit.failures := by
  unfold CircuitBreakerState.onSuccess
  split <;> rfl

/-- What a step does to what is watched. -/
theorem step_cases (stepped : step config circuitName s action = some s') :
    (∃ now, action = .start now ∧ s.clock ≤ now ∧ s'.failed = s.failed ∧ s'.counted = s.counted ∧ s'.clock = now) ∨
    (∃ n, action = .succeed n ∧ s'.failed = s.failed ∧ s'.clock = s.clock ∧
      s'.counted = if s.system.circuit.state = .halfOpen then [] else s.counted) ∨
    (∃ n now, action = .fail n now ∧ s.clock ≤ now ∧ s'.failed = s.failed ++ [now] ∧
      s'.counted = s.counted ++ [now] ∧ s'.clock = now) := by
  obtain ⟨system, -, later⟩ := Option.bind_eq_some_iff.mp stepped
  cases action with
  | start now =>
    dsimp only at later
    split at later
    · rename_i reached
      cases later
      exact .inl ⟨now, rfl, reached, rfl, rfl, rfl⟩
    · cases later
  | succeed n =>
    cases later
    exact .inr (.inl ⟨n, rfl, rfl, rfl, rfl⟩)
  | fail n now =>
    dsimp only at later
    split at later
    · rename_i reached
      cases later
      exact .inr (.inr ⟨n, now, rfl, reached, rfl, rfl, rfl⟩)
    · cases later

theorem step_system (stepped : step config circuitName s action = some s') :
    s.system.step config.toCircuitBreakerConfig circuitName action = some s'.system := by
  obtain ⟨system, taken, later⟩ := Option.bind_eq_some_iff.mp stepped
  rw [taken]
  cases action with
  | start now | fail n now =>
    dsimp only at later
    split at later
    · cases later
      rfl
    · cases later
  | succeed n =>
    cases later
    rfl

theorem watching_step (watching : Watching config s) (stepped : step config circuitName s action = some s') :
    Watching config s' := by
  have system := step_system stepped
  have circuit := CircuitSystem.step_circuit system
  have consistent : 1 ≤ config.failureThreshold →
      s'.system.circuit.Consistent config.toCircuitBreakerConfig :=
    fun threshold => CircuitSystem.consistent_step threshold (watching.consistent threshold) system
  obtain ⟨older, last⟩ := watching.last
  rcases step_cases stepped with ⟨now, rfl, reached, failed, counted, clock⟩ |
    ⟨n, rfl, failed, clock, counted⟩ | ⟨n, now, rfl, reached, failed, counted, clock⟩
  · refine ⟨?_, consistent, ⟨older, by rw [failed, counted, last]⟩, failed ▸ watching.ordered, ?_⟩
    · rw [circuit, counted, ← watching.counts]
      exact beforeCall_failures ..
    · rw [failed, clock]
      exact fun failedAt member => Int.le_trans (watching.past failedAt member) reached
  · refine ⟨?_, consistent, ?_, failed ▸ watching.ordered, by rw [failed, clock]; exact watching.past⟩
    · rw [circuit, counted]
      show s.system.circuit.onSuccess.failures = _
      rw [onSuccess_failures, watching.counts]
      split <;> rfl
    · rw [failed, counted]
      split
      · exact ⟨s.failed, (List.append_nil _).symm⟩
      · exact ⟨older, last⟩
  · refine ⟨?_, consistent, ⟨older, by rw [failed, counted, last, List.append_assoc]⟩, ?_, ?_⟩
    · rw [circuit, counted, List.length_append, ← watching.counts]
      rfl
    · rw [failed, List.pairwise_append]
      refine ⟨watching.ordered, List.pairwise_singleton .., fun failedAt member now' here => ?_⟩
      rw [List.mem_singleton.mp here]
      exact Int.le_trans (watching.past failedAt member) reached
    · rw [failed, clock]
      intro failedAt member
      rcases List.mem_append.mp member with before | here
      · exact Int.le_trans (watching.past failedAt before) reached
      · exact Int.le_of_eq (List.mem_singleton.mp here)

/-- Of ordered times, as many as there are behind a point are recent just when the first of them
is. -/
theorem recent_iff {now : Time} {older : List Time} {first : Time} {rest : List Time}
    (ordered : (older ++ first :: rest).Pairwise (· ≤ ·)) :
    (first :: rest).length ≤ recentFailures config now (older ++ first :: rest) ↔
      now - first ≤ config.monitoringWindow := by
  obtain ⟨-, behind, across⟩ := List.pairwise_append.mp ordered
  obtain ⟨below, -⟩ := List.pairwise_cons.mp behind
  unfold recentFailures
  rw [List.countP_append]
  constructor
  · intro enough
    by_contra old
    have before : older.countP (fun failedAt => now - failedAt ≤ config.monitoringWindow) = 0 := by
      rw [List.countP_eq_zero]
      intro failedAt member recent
      have earlier : failedAt ≤ first := across failedAt member first List.mem_cons_self
      have late : now - failedAt ≤ config.monitoringWindow := of_decide_eq_true recent
      exact old (Int.le_trans (Int.sub_le_sub_left earlier now) late)
    have tail : (first :: rest).countP (fun failedAt => now - failedAt ≤ config.monitoringWindow) ≤ rest.length := by
      rw [List.countP_cons_of_neg (by simpa using old)]
      exact List.countP_le_length
    rw [before, List.length_cons] at enough
    omega
  · intro recent
    have all : (first :: rest).countP (fun failedAt => now - failedAt ≤ config.monitoringWindow) =
        (first :: rest).length := by
      rw [List.countP_eq_length]
      intro failedAt member
      rcases List.mem_cons.mp member with rfl | member
      · exact decide_eq_true recent
      · have later : first ≤ failedAt := below failedAt member
        exact decide_eq_true (Int.le_trans (Int.sub_le_sub_left later now) recent)
    rw [all]
    exact Nat.le_add_left ..

/-- A circuit that is closed is opened by failures only. -/
theorem fail_of_opens (closed : s.system.circuit.state = .closed)
    (stepped : step config circuitName s action = some s') (opened : s'.system.circuit.state = .open) :
    ∃ n now, action = .fail n now ∧ config.failureThreshold ≤ s.system.circuit.failures + 1 := by
  rw [CircuitSystem.step_circuit (step_system stepped)] at opened
  cases action with
  | start now =>
    change (s.system.circuit.beforeCall config.toCircuitBreakerConfig circuitName now).1.state = .open at opened
    rw [beforeCall_closed closed, closed] at opened
    cases opened
  | succeed n =>
    change s.system.circuit.onSuccess.state = .open at opened
    simp [CircuitBreakerState.onSuccess, closed] at opened
  | fail n now =>
    refine ⟨n, now, rfl, ?_⟩
    by_contra short
    change (if config.failureThreshold ≤ s.system.circuit.failures + 1 then CircuitState.open
      else s.system.circuit.state) = .open at opened
    rw [if_neg short, closed] at opened
    cases opened

/-- A failure opens a circuit once the count is at the threshold. -/
theorem opened_by_fail {n : Nat} {now : Time} (full : config.failureThreshold ≤ s.system.circuit.failures + 1)
    (stepped : step config circuitName s (.fail n now) = some s') : s'.system.circuit.state = .open := by
  rw [CircuitSystem.step_circuit (step_system stepped)]
  exact if_pos full

private theorem opensRecently_iff (watching : Watching config s) (stepped : step config circuitName s action = some s') :
    OpensRecently config ⟨s, action, s'⟩ ↔ CountsRecent config s action := by
  have watching' := watching_step watching stepped
  rcases step_cases stepped with ⟨now, rfl, -⟩ | ⟨n, rfl, -⟩ | ⟨n, now, rfl, -, failed, counted, -⟩
  · refine iff_of_true (fun closed opened => ?_) trivial
    obtain ⟨_, _, other, -⟩ := fail_of_opens closed stepped opened
    cases other
  · refine iff_of_true (fun closed opened => ?_) trivial
    obtain ⟨_, _, other, -⟩ := fail_of_opens closed stepped opened
    cases other
  -- the failures that are counted are the last ones, and there are as many as the threshold
  obtain ⟨older, last⟩ := watching'.last
  have ordered := watching'.ordered
  rw [counted] at last
  obtain ⟨first, rest, shape⟩ := List.exists_cons_of_ne_nil (List.append_ne_nil_of_right_ne_nil s.counted
    (List.cons_ne_nil now []))
  rw [last, shape] at ordered
  have recent := @recent_iff config now older first rest ordered
  have size := congrArg List.length shape
  rw [List.length_append, List.length_singleton] at size
  rw [← shape, ← last, shape, ← size] at recent
  constructor
  · intro recently closed _ full first' isFirst
    have opened := opened_by_fail (Nat.le_of_eq (by rw [watching.counts, full])) stepped
    obtain ⟨_, _, same, enough⟩ := recently closed opened
    cases same
    rw [shape, List.head?_cons, Option.mem_some_iff] at isFirst
    subst isFirst
    exact recent.mp (full ▸ enough)
  · intro fresh closed opened
    obtain ⟨_, _, same, full⟩ := fail_of_opens closed stepped opened
    cases same
    have full : config.failureThreshold ≤ s.system.circuit.failures + 1 := full
    refine ⟨n, now, rfl, ?_⟩
    rcases Nat.eq_zero_or_pos config.failureThreshold with zero | threshold
    · rw [zero]
      exact Nat.zero_le _
    · have left : s.system.circuit.failures < config.failureThreshold := (watching.consistent threshold).closed closed
      have reached : s.counted.length + 1 = config.failureThreshold := by
        rw [← watching.counts]
        omega
      rw [← reached]
      exact recent.mpr (fresh closed threshold reached first (by rw [shape]; rfl))

end Steps

/-- In every run of overlapping calls, a circuit opens on recent failures just when each failure that
brings the count to the threshold comes while the first of those counted is recent. -/
theorem opens_on_recent_failures_iff (config : MonitoredConfig) (circuitName : String) (begun : Time)
    (actions : List CircuitAction) :
    (∀ taken ∈ trace (WatchedCircuit.step config circuitName) { clock := begun } actions,
        OpensRecently config taken) ↔
      ∀ taken ∈ trace (WatchedCircuit.step config circuitName) { clock := begun } actions,
        CountsRecent config taken.before taken.action :=
  trace_exact (fun watching stepped => opensRecently_iff watching stepped)
    (fun watching _ stepped => watching_step watching stepped) (watching_new begun)

/-- Five calls that fail, eleven minutes apart. -/
def rareFailures : List CircuitAction :=
  (List.range 5).flatMap fun n => [.start (660000 * n), .fail 0 (660000 * n)]

/-- A circuit opens although four of the five failures are older than its window. -/
theorem opens_on_old_failures :
    ∃ taken ∈ trace (WatchedCircuit.step ⟨⟨5, 300000, 3⟩, 600000⟩ "handler_DELIVERY_ASSIGNED_V1") { clock := 0 }
      rareFailures, ¬ OpensRecently ⟨⟨5, 300000, 3⟩, 600000⟩ taken := by
  refine ⟨_, List.mem_of_getElem? (i := 9) rfl, fun recently => ?_⟩
  obtain ⟨n, now, same, enough⟩ := recently rfl rfl
  cases same
  revert enough
  decide

end DriverMicroServices
