import DriverMicroServices.CircuitBreaker
import DriverMicroServices.Transitions

/-! One circuit under overlapping calls of `execute`. A call reads and changes the
circuit when it starts and again when its function ends; in between, other calls
do the same. A HALF_OPEN episode ends with the first call that ends in it, because
a circuit that was opened has all its failures still counted. -/
namespace DriverMicroServices
open Transitions

/-! ## The invariant of a circuit -/

/-- A circuit that was opened keeps its failures, and in HALF_OPEN nothing is
counted yet. -/
structure CircuitBreakerState.Counted (config : CircuitBreakerConfig)
    (circuit : CircuitBreakerState) : Prop where
  opened : circuit.state ≠ .closed → config.failureThreshold ≤ circuit.failures
  probed : circuit.state = .halfOpen → circuit.halfOpenCallCount = 0

/-- With a positive threshold, a closed circuit has failures left. -/
structure CircuitBreakerState.Consistent (config : CircuitBreakerConfig)
    (circuit : CircuitBreakerState) : Prop extends circuit.Counted config where
  closed : circuit.state = .closed → circuit.failures < config.failureThreshold

section Circuit

variable {config : CircuitBreakerConfig} {circuit : CircuitBreakerState} {circuitName : String}
  {now : Time}

/-- The three outcomes of the look at the circuit. -/
theorem beforeCall_cases (config : CircuitBreakerConfig) (circuitName : String) (now : Time)
    (circuit : CircuitBreakerState) :
    (circuit.state = .open ∧ config.recoveryTimeout < now - circuit.lastFailureTime ∧
      (circuit.beforeCall config circuitName now).1 =
        { circuit with state := .halfOpen, halfOpenCallCount := 0 } ∧
      ((circuit.beforeCall config circuitName now).2 = none ↔ 0 < config.halfOpenMaxCalls)) ∨
    (circuit.state = .open ∧ now - circuit.lastFailureTime ≤ config.recoveryTimeout ∧
      (circuit.beforeCall config circuitName now).1 = circuit ∧
      (circuit.beforeCall config circuitName now).2 ≠ none) ∨
    (circuit.state ≠ .open ∧ (circuit.beforeCall config circuitName now).1 = circuit ∧
      ((circuit.beforeCall config circuitName now).2 = none ↔
        (circuit.state = .halfOpen → circuit.halfOpenCallCount < config.halfOpenMaxCalls))) := by
  unfold CircuitBreakerState.beforeCall
  by_cases isOpen : circuit.state = .open
  · by_cases recovered : config.recoveryTimeout < now - circuit.lastFailureTime
    · left
      by_cases limit : config.halfOpenMaxCalls = 0
      · simp [isOpen, recovered, limit]
      · have some_left : 0 < config.halfOpenMaxCalls := Nat.pos_of_ne_zero limit
        simp [isOpen, recovered, limit, some_left]
    · right
      left
      have waiting : now - circuit.lastFailureTime ≤ config.recoveryTimeout := Int.not_lt.mp recovered
      simp [isOpen, recovered, waiting]
  · right
    right
    by_cases probing : circuit.state = .halfOpen
    · by_cases limit : config.halfOpenMaxCalls ≤ circuit.halfOpenCallCount
      · simp [probing, limit]
      · have free : circuit.halfOpenCallCount < config.halfOpenMaxCalls := Nat.lt_of_not_le limit
        simp [probing, limit, free]
    · simp [isOpen, probing]

theorem counted_new (config : CircuitBreakerConfig) : ({} : CircuitBreakerState).Counted config where
  opened := fun other => absurd rfl other
  probed := fun _ => rfl

private theorem beforeCall_counted (counted : circuit.Counted config) :
    (circuit.beforeCall config circuitName now).1.Counted config := by
  rcases beforeCall_cases config circuitName now circuit with
    ⟨isOpen, -, shape, -⟩ | ⟨-, -, shape, -⟩ | ⟨-, shape, -⟩
  · rw [shape]
    have enough := counted.opened (by simp [isOpen])
    exact ⟨fun _ => enough, fun _ => rfl⟩
  · rw [shape]
    exact counted
  · rw [shape]
    exact counted

theorem onSuccess_counted (counted : circuit.Counted config) :
    circuit.onSuccess.Counted config := by
  unfold CircuitBreakerState.onSuccess
  split
  · exact ⟨fun other => absurd rfl other, fun _ => rfl⟩
  · exact ⟨counted.opened, fun _ => rfl⟩

/-- A failure leaves the circuit closed or open. -/
theorem onFailure_state (now : Time) (counted : circuit.Counted config) :
    (config.failureThreshold ≤ circuit.failures + 1 ∧
      (circuit.onFailure config now).state = .open) ∨
    (circuit.failures + 1 < config.failureThreshold ∧ circuit.state = .closed ∧
      (circuit.onFailure config now).state = .closed) := by
  unfold CircuitBreakerState.onFailure
  by_cases last : config.failureThreshold ≤ circuit.failures + 1
  · exact .inl ⟨last, if_pos last⟩
  · have isClosed : circuit.state = .closed := by
      by_contra other
      have enough := counted.opened other
      omega
    exact .inr ⟨Nat.lt_of_not_le last, isClosed, (if_neg last).trans isClosed⟩

theorem onFailure_counted (counted : circuit.Counted config) :
    (circuit.onFailure config now).Counted config := by
  rcases onFailure_state now counted with ⟨last, state⟩ | ⟨-, -, state⟩
  · exact ⟨fun _ => last, fun probing => by simp [state] at probing⟩
  · exact ⟨fun other => absurd state other, fun probing => by simp [state] at probing⟩

theorem consistent_new (threshold : 1 ≤ config.failureThreshold) :
    ({} : CircuitBreakerState).Consistent config :=
  ⟨counted_new config, fun _ => threshold⟩

private theorem beforeCall_consistent (consistent : circuit.Consistent config) :
    (circuit.beforeCall config circuitName now).1.Consistent config := by
  have counted : (circuit.beforeCall config circuitName now).1.Counted config :=
    beforeCall_counted consistent.toCounted
  rcases beforeCall_cases config circuitName now circuit with
    ⟨-, -, shape, -⟩ | ⟨-, -, shape, -⟩ | ⟨-, shape, -⟩
  · exact ⟨counted, by simp [shape]⟩
  · rw [shape]
    exact consistent
  · rw [shape]
    exact consistent

private theorem onSuccess_consistent (threshold : 1 ≤ config.failureThreshold)
    (consistent : circuit.Consistent config) : circuit.onSuccess.Consistent config := by
  have counted := onSuccess_counted consistent.toCounted
  unfold CircuitBreakerState.onSuccess at counted ⊢
  split
  · exact ⟨by simpa [*] using counted, fun _ => threshold⟩
  · exact ⟨by simpa [*] using counted, consistent.closed⟩

private theorem onFailure_consistent (consistent : circuit.Consistent config) :
    (circuit.onFailure config now).Consistent config := by
  have counted : (circuit.onFailure config now).Counted config :=
    onFailure_counted consistent.toCounted
  rcases onFailure_state now consistent.toCounted with ⟨-, state⟩ | ⟨left, -, -⟩
  · exact ⟨counted, fun isClosed => by simp [state] at isClosed⟩
  · exact ⟨counted, fun _ => left⟩

/-- A call is rejected just while the circuit is open and recovering. -/
theorem rejects_iff (limit : 1 ≤ config.halfOpenMaxCalls) (counted : circuit.Counted config) :
    (circuit.beforeCall config circuitName now).2 ≠ none ↔
      circuit.state = .open ∧ now - circuit.lastFailureTime ≤ config.recoveryTimeout := by
  rcases beforeCall_cases config circuitName now circuit with
    ⟨-, recovered, -, admitted⟩ | ⟨isOpen, waiting, -, rejected⟩ | ⟨other, -, admitted⟩
  · constructor
    · intro rejected
      exact absurd (admitted.mpr limit) rejected
    · rintro ⟨-, waiting⟩
      exact absurd recovered (Int.not_lt.mpr waiting)
  · exact ⟨fun _ => ⟨isOpen, waiting⟩, fun _ => rejected⟩
  · constructor
    · intro rejected
      have free := admitted.mpr fun probing => by
        rw [counted.probed probing]
        exact limit
      exact absurd free rejected
    · rintro ⟨isOpen, -⟩
      exact absurd isOpen other

end Circuit

/-! ## Overlapping calls -/

/-- A call whose function is running. -/
structure ExecuteCall where
  /-- The HALF_OPEN episode that admitted it. -/
  episode : Option Nat
  deriving DecidableEq

/-- A circuit with the calls in progress, and the count of what its HALF_OPEN
episodes admit. -/
structure CircuitSystem where
  circuit : CircuitBreakerState := {}
  calls : List ExecuteCall := []
  /-- How often the circuit has become HALF_OPEN. -/
  episode : Nat := 0
  /-- The calls that the last episode admitted. -/
  admitted : Nat := 0
  deriving DecidableEq

inductive CircuitAction where
  /-- `execute`, up to the call of the function. -/
  | start (now : Time)
  /-- The function of call `n` returns. -/
  | succeed (n : Nat)
  /-- The function of call `n` fails. -/
  | fail (n : Nat) (now : Time)
  deriving DecidableEq

/-- What a part of `execute` does to the circuit. -/
def CircuitBreakerState.after (config : CircuitBreakerConfig) (circuitName : String)
    (circuit : CircuitBreakerState) : CircuitAction → CircuitBreakerState
  | .start now => (circuit.beforeCall config circuitName now).1
  | .succeed _ => circuit.onSuccess
  | .fail _ now => circuit.onFailure config now

namespace CircuitSystem

/-- The circuit is looked at, which may begin an episode. -/
def look (s : CircuitSystem) (circuit : CircuitBreakerState) : CircuitSystem :=
  if s.circuit.state = .open ∧ circuit.state = .halfOpen then
    { s with circuit, episode := s.episode + 1, admitted := 0 }
  else { s with circuit }

/-- The circuit becomes HALF_OPEN. -/
def beginEpisode (s : CircuitSystem) : CircuitSystem :=
  { s with
    circuit := { s.circuit with state := .halfOpen, halfOpenCallCount := 0 }
    episode := s.episode + 1
    admitted := 0 }

/-- The function of a new call is run. -/
def admitCall (s : CircuitSystem) : CircuitSystem :=
  if s.circuit.state = .halfOpen then
    { s with calls := s.calls ++ [{ episode := some s.episode }], admitted := s.admitted + 1 }
  else { s with calls := s.calls ++ [{ episode := none }] }

/-- The calls in progress that the present episode admitted. -/
def probes (s : CircuitSystem) : Nat := s.calls.countP (·.episode = some s.episode)

def step (config : CircuitBreakerConfig) (circuitName : String) (s : CircuitSystem) :
    CircuitAction → Option CircuitSystem
  | .start now =>
    let looked := s.look (s.circuit.beforeCall config circuitName now).1
    some (if (s.circuit.beforeCall config circuitName now).2 = none then looked.admitCall else looked)
  | .succeed n => s.calls[n]?.map fun _ =>
    { s with circuit := s.circuit.onSuccess, calls := s.calls.eraseIdx n }
  | .fail n now => s.calls[n]?.map fun _ =>
    { s with circuit := s.circuit.onFailure config now, calls := s.calls.eraseIdx n }

@[simp] theorem look_circuit (s : CircuitSystem) (circuit : CircuitBreakerState) :
    (s.look circuit).circuit = circuit := by
  unfold look
  split <;> rfl

theorem look_self (s : CircuitSystem) : s.look s.circuit = s := by
  unfold look
  split
  · rename_i both
    simp [both.1] at both
  · rfl

private theorem look_recovered {s : CircuitSystem} (isOpen : s.circuit.state = .open) :
    s.look { s.circuit with state := .halfOpen, halfOpenCallCount := 0 } = s.beginEpisode :=
  if_pos ⟨isOpen, rfl⟩

@[simp] theorem admitCall_circuit (s : CircuitSystem) : s.admitCall.circuit = s.circuit := by
  unfold admitCall
  split <;> rfl

@[simp] theorem admitCall_episode (s : CircuitSystem) : s.admitCall.episode = s.episode := by
  unfold admitCall
  split <;> rfl

variable {config : CircuitBreakerConfig} {circuitName : String} {s s' : CircuitSystem}
  {action : CircuitAction} {actions : List CircuitAction}

/-- A step does to the circuit what its part of `execute` does. -/
theorem step_circuit (stepped : step config circuitName s action = some s') :
    s'.circuit = s.circuit.after config circuitName action := by
  cases action with
  | start now =>
    have shape := Option.some.inj stepped
    rw [← shape]
    split
    · rw [admitCall_circuit, look_circuit]
      rfl
    · exact look_circuit ..
  | succeed n | fail n now =>
    obtain ⟨call, -, rfl⟩ := Option.map_eq_some_iff.mp stepped
    rfl

theorem consistent_step (threshold : 1 ≤ config.failureThreshold)
    (consistent : s.circuit.Consistent config)
    (stepped : step config circuitName s action = some s') : s'.circuit.Consistent config := by
  rw [step_circuit stepped]
  cases action with
  | start now => exact beforeCall_consistent consistent
  | succeed n => exact onSuccess_consistent threshold consistent
  | fail n now => exact onFailure_consistent consistent

end CircuitSystem

section Runs
open CircuitSystem

variable {config : CircuitBreakerConfig} {circuitName : String} {s s' : CircuitSystem}
  {action : CircuitAction} {actions : List CircuitAction}

/-- In every reachable state the counters agree with the state of the circuit, and a
call is rejected just while the circuit is open and recovering. -/
theorem breaker_never_sticks (threshold : 1 ≤ config.failureThreshold)
    (limit : 1 ≤ config.halfOpenMaxCalls)
    (ran : run (step config circuitName) {} actions = some s) :
    (s.circuit.state = .closed ↔ s.circuit.failures < config.failureThreshold) ∧
    (s.circuit.state = .halfOpen → s.circuit.halfOpenCallCount = 0) ∧
    ∀ now, (s.circuit.beforeCall config circuitName now).2 ≠ none ↔
      s.circuit.state = .open ∧ now - s.circuit.lastFailureTime ≤ config.recoveryTimeout := by
  have keeps : ∀ {s action s'}, s.circuit.Consistent config → True →
      step config circuitName s action = some s' → s'.circuit.Consistent config :=
    fun held _ stepped => consistent_step threshold held stepped
  have consistent :=
    run_inv keeps (consistent_new threshold) admits_true ran
  have closed_iff : s.circuit.state = .closed ↔ s.circuit.failures < config.failureThreshold := by
    constructor
    · exact consistent.closed
    · intro left
      by_contra other
      have enough := consistent.opened other
      omega
  exact ⟨closed_iff, consistent.probed, fun now => rejects_iff limit consistent.toCounted⟩

/-- Five calls that fail, one after the other. -/
def fiveFailures (n : Nat) : List CircuitAction :=
  (List.range 5).flatMap fun now => [.start now, .fail n now]

theorem breaker_never_sticks_opened :
    (CircuitBreakerState.beforeCall ⟨5, 300000, 3⟩ "handler_DELIVERY_ASSIGNED_V1" 300004
      ⟨.open, 5, 4, 0⟩).2 ≠ none :=
  have ran : run (step ⟨5, 300000, 3⟩ "handler_DELIVERY_ASSIGNED_V1") {} (fiveFailures 0) =
      some { circuit := ⟨.open, 5, 4, 0⟩ } := by decide
  ((breaker_never_sticks (by decide) (by decide) ran).2.2 300004).mpr (by decide)

/-! ## HALF_OPEN episodes -/

/-- No more calls overlap in HALF_OPEN than are meant to, and a call that succeeds
there is one of them. With no calls meant to, none is admitted. -/
def ProbesAlone (config : CircuitBreakerConfig) (s : CircuitSystem) : CircuitAction → Prop
  | .start _ => s.circuit.state = .halfOpen → 0 < config.halfOpenMaxCalls →
    s.probes < config.halfOpenMaxCalls
  | .succeed n => s.circuit.state = .halfOpen →
    ∀ call ∈ s.calls[n]?, call.episode = some s.episode
  | .fail _ _ => True

/-- The episode has not admitted too many calls, and it was closed by one of its own. -/
def ProbedWell (config : CircuitBreakerConfig) (taken : Taken CircuitSystem CircuitAction) : Prop :=
  taken.after.admitted ≤ config.halfOpenMaxCalls ∧
    (taken.before.circuit.state = .halfOpen → taken.after.circuit.state = .closed →
      ∃ n call, taken.action = .succeed n ∧ taken.before.calls[n]? = some call ∧
        call.episode = some taken.before.episode)

/-- What an episode admitted is still in progress while it lasts. -/
structure Probing (config : CircuitBreakerConfig) (s : CircuitSystem) : Prop where
  counted : s.circuit.Counted config
  bound : s.admitted ≤ config.halfOpenMaxCalls
  pending : s.circuit.state = .halfOpen → s.admitted = s.probes
  past : ∀ call ∈ s.calls, ∀ episode ∈ call.episode, episode ≤ s.episode

instance {action : CircuitAction} : Decidable (ProbesAlone config s action) :=
  match action with
  | .start _ => inferInstanceAs (Decidable (s.circuit.state = .halfOpen → _ → _))
  | .succeed n => inferInstanceAs (Decidable (s.circuit.state = .halfOpen →
      ∀ call ∈ s.calls[n]?, call.episode = some s.episode))
  | .fail _ _ => isTrue trivial

section Probes

/-- What `execute` does before the function runs. -/
theorem start_cases {now : Time} (stepped : step config circuitName s (.start now) = some s') :
    (s.circuit.state = .open ∧
      s' = if 0 < config.halfOpenMaxCalls then s.beginEpisode.admitCall else s.beginEpisode) ∨
    (s.circuit.state = .open ∧ s' = s) ∨
    (s.circuit.state ≠ .open ∧
      s' = if s.circuit.state = .halfOpen →
          s.circuit.halfOpenCallCount < config.halfOpenMaxCalls then s.admitCall else s) := by
  have shape := (Option.some.inj stepped).symm
  rcases beforeCall_cases config circuitName now s.circuit with
    ⟨isOpen, -, looked, admitted⟩ | ⟨isOpen, -, looked, rejected⟩ | ⟨other, looked, admitted⟩
  · rw [looked, look_recovered isOpen] at shape
    simp only [admitted] at shape
    exact .inl ⟨isOpen, shape⟩
  · rw [looked, look_self, if_neg rejected] at shape
    exact .inr (.inl ⟨isOpen, shape⟩)
  · rw [looked, look_self] at shape
    simp only [admitted] at shape
    exact .inr (.inr ⟨other, shape⟩)

/-- The calls in progress are older than the episode that begins. -/
theorem probing_beginEpisode (probing : Probing config s) (isOpen : s.circuit.state = .open) :
    Probing config s.beginEpisode where
  counted := by
    have enough := probing.counted.opened (by simp [isOpen])
    exact ⟨fun _ => enough, fun _ => rfl⟩
  bound := Nat.zero_le _
  pending := by
    intro _
    have none_yet : s.beginEpisode.probes = 0 := by
      unfold probes
      rw [List.countP_eq_zero]
      intro call member found
      have old := probing.past call member (s.episode + 1) (of_decide_eq_true found)
      omega
    exact none_yet.symm
  past := by
    intro call member episode admitted
    exact Nat.le_succ_of_le (probing.past call member episode admitted)

/-- The circuit admits one more call. -/
theorem probing_admitCall (probing : Probing config s)
    (free : s.circuit.state = .halfOpen → s.admitted < config.halfOpenMaxCalls) :
    Probing config s.admitCall where
  counted := by
    rw [admitCall_circuit]
    exact probing.counted
  bound := by
    unfold admitCall
    split
    · rename_i halfOpen
      exact free halfOpen
    · exact probing.bound
  pending := by
    rw [admitCall_circuit]
    intro halfOpen
    have pending := probing.pending halfOpen
    simp [admitCall, probes, halfOpen, pending]
  past := by
    intro call member episode admitted
    rw [admitCall_episode]
    unfold admitCall at member
    split at member
    · rcases List.mem_append.mp member with old | new
      · exact probing.past call old episode admitted
      · obtain rfl := List.mem_singleton.mp new
        cases admitted
        exact Nat.le_refl _
    · rcases List.mem_append.mp member with old | new
      · exact probing.past call old episode admitted
      · obtain rfl := List.mem_singleton.mp new
        cases admitted

/-- The end of a call leaves HALF_OPEN. -/
theorem probing_end (probing : Probing config s) {circuit : CircuitBreakerState} {n : Nat}
    (counted : circuit.Counted config) (ended : circuit.state ≠ .halfOpen) :
    Probing config { s with circuit, calls := s.calls.eraseIdx n } where
  counted := counted
  bound := probing.bound
  pending := fun halfOpen => absurd halfOpen ended
  past := fun call member => probing.past call (List.mem_of_mem_eraseIdx member)

private theorem onSuccess_ends (circuit : CircuitBreakerState) : circuit.onSuccess.state ≠ .halfOpen := by
  unfold CircuitBreakerState.onSuccess
  split
  · simp
  · assumption

private theorem onFailure_ends {circuit : CircuitBreakerState} {now : Time}
    (counted : circuit.Counted config) : (circuit.onFailure config now).state ≠ .halfOpen := by
  rcases onFailure_state now counted with ⟨-, state⟩ | ⟨-, -, state⟩
  · simp [state]
  · simp [state]

private theorem probing_step (probing : Probing config s) (alone : ProbesAlone config s action)
    (stepped : step config circuitName s action = some s') : Probing config s' := by
  cases action with
  | start now =>
    rcases start_cases stepped with ⟨isOpen, rfl⟩ | ⟨-, rfl⟩ | ⟨-, rfl⟩
    · have began := probing_beginEpisode probing isOpen
      split
      · rename_i limit
        exact probing_admitCall began fun _ => limit
      · exact began
    · exact probing
    · split
      · rename_i free
        refine probing_admitCall probing fun halfOpen => ?_
        have limit : 0 < config.halfOpenMaxCalls := Nat.zero_lt_of_lt (free halfOpen)
        rw [probing.pending halfOpen]
        exact alone halfOpen limit
      · exact probing
  | succeed n =>
    obtain ⟨call, -, rfl⟩ := Option.map_eq_some_iff.mp stepped
    exact probing_end probing (onSuccess_counted probing.counted) (onSuccess_ends _)
  | fail n now =>
    obtain ⟨call, -, rfl⟩ := Option.map_eq_some_iff.mp stepped
    exact probing_end probing (onFailure_counted probing.counted) (onFailure_ends probing.counted)

/-- One step is good just when its calls overlap no more than they are meant to. -/
theorem probed_well_iff (probing : Probing config s)
    (stepped : step config circuitName s action = some s') :
    ProbedWell config ⟨s, action, s'⟩ ↔ ProbesAlone config s action := by
  cases action with
  | start now =>
    have stays : s.circuit.state = .halfOpen → s'.circuit.state = .halfOpen := by
      intro halfOpen
      rcases start_cases stepped with ⟨isOpen, -⟩ | ⟨isOpen, -⟩ | ⟨-, rfl⟩
      · simp [halfOpen] at isOpen
      · simp [halfOpen] at isOpen
      · split
        · rw [admitCall_circuit, halfOpen]
        · exact halfOpen
    have bound_iff : s'.admitted ≤ config.halfOpenMaxCalls ↔
        ProbesAlone config s (.start now) := by
      rcases start_cases stepped with ⟨isOpen, rfl⟩ | ⟨isOpen, rfl⟩ | ⟨-, rfl⟩
      · have alone : ProbesAlone config s (.start now) := by
          intro halfOpen
          simp [halfOpen] at isOpen
        have began := probing_beginEpisode probing isOpen
        refine iff_of_true ?_ alone
        split
        · rename_i limit
          exact (probing_admitCall began fun _ => limit).bound
        · exact began.bound
      · refine iff_of_true probing.bound ?_
        intro halfOpen
        simp [halfOpen] at isOpen
      · by_cases halfOpen : s.circuit.state = .halfOpen
        · rw [probing.counted.probed halfOpen]
          have pending := probing.pending halfOpen
          have bound := probing.bound
          by_cases limit : 0 < config.halfOpenMaxCalls
          · simp [ProbesAlone, halfOpen, limit, admitCall]
            omega
          · simp [ProbesAlone, halfOpen, limit, bound]
        · have same : s.admitCall.admitted = s.admitted := by
            unfold admitCall
            rw [if_neg halfOpen]
          have bound := probing.bound
          simp [ProbesAlone, halfOpen, same, bound]
    constructor
    · exact fun well => bound_iff.mp well.1
    · intro alone
      refine ⟨bound_iff.mpr alone, fun before after => ?_⟩
      simp [stays before] at after
  | succeed n =>
    obtain ⟨call, found, rfl⟩ := Option.map_eq_some_iff.mp stepped
    have closes : s.circuit.state = .halfOpen → s.circuit.onSuccess.state = .closed := by
      intro halfOpen
      simp [CircuitBreakerState.onSuccess, halfOpen]
    constructor
    · intro well halfOpen other member
      obtain ⟨m, admitted, same, found, episode⟩ := well.2 halfOpen (closes halfOpen)
      cases same
      rw [Option.mem_def.mp member] at found
      rw [Option.some.inj found]
      exact episode
    · intro alone
      exact ⟨probing.bound, fun halfOpen _ => ⟨n, call, rfl, found, alone halfOpen call found⟩⟩
  | fail n now =>
    obtain ⟨call, found, rfl⟩ := Option.map_eq_some_iff.mp stepped
    have opens : s.circuit.state = .halfOpen →
        (s.circuit.onFailure config now).state ≠ .closed := by
      intro halfOpen closed
      rcases onFailure_state now probing.counted with ⟨-, state⟩ | ⟨-, other, -⟩
      · simp [state] at closed
      · simp [other] at halfOpen
    refine iff_of_true ⟨probing.bound, fun halfOpen closed => ?_⟩ trivial
    exact absurd closed (opens halfOpen)

/-- An episode is good through a run just when its calls overlap no more than they are
meant to, at each step: the limit is checked against a counter that no call in
progress has raised, and the result of an older call counts like its own. -/
theorem half_open_probing (ran : run (step config circuitName) {} actions = some s) :
    (∀ taken ∈ trace (step config circuitName) {} actions, ProbedWell config taken) ↔
      Admits (step config circuitName) (ProbesAlone config) {} actions := by
  have start : Probing config {} :=
    ⟨counted_new config, Nat.zero_le _, fun _ => rfl, fun _ member => by cases member⟩
  exact trace_good_iff (fun probing stepped => probed_well_iff probing stepped)
    (fun probing alone stepped => probing_step probing alone stepped) start ran

end Probes

/-- Three calls start, and the last of them succeeds. -/
def probedOnce : List CircuitAction :=
  fiveFailures 0 ++ [.start 300005, .start 300006, .start 300007, .succeed 2]

theorem half_open_probing_once :
    (run (step ⟨5, 300000, 3⟩ "handler_DELIVERY_ASSIGNED_V1") {} probedOnce).isSome ∧
      ∀ taken ∈ trace (step ⟨5, 300000, 3⟩ "handler_DELIVERY_ASSIGNED_V1") {} probedOnce,
        ProbedWell ⟨5, 300000, 3⟩ taken :=
  ⟨by decide, (half_open_probing rfl).mpr (by decide)⟩

/-- Four calls start before any of them has ended; and a call from before the five
failures closes the circuit. -/
theorem half_open_overrun :
    (∃ taken ∈ trace (step ⟨5, 300000, 3⟩ "handler_DELIVERY_ASSIGNED_V1") {}
        (fiveFailures 0 ++ [.start 300005, .start 300006, .start 300007, .start 300008]),
      ¬ ProbedWell ⟨5, 300000, 3⟩ taken) ∧
    ∃ taken ∈ trace (step ⟨5, 300000, 3⟩ "handler_DELIVERY_ASSIGNED_V1") {}
        ([.start 0] ++ fiveFailures 1 ++ [.start 300005, .succeed 0]),
      ¬ ProbedWell ⟨5, 300000, 3⟩ taken := by
  have overrun : ∃ taken ∈ trace (step ⟨5, 300000, 3⟩ "handler_DELIVERY_ASSIGNED_V1") {}
      (fiveFailures 0 ++ [.start 300005, .start 300006, .start 300007, .start 300008]),
      3 < taken.after.admitted := by decide
  have closed_late : ∃ taken ∈ trace (step ⟨5, 300000, 3⟩ "handler_DELIVERY_ASSIGNED_V1") {}
      ([.start 0] ++ fiveFailures 1 ++ [.start 300005, .succeed 0]),
      taken.before.circuit.state = .halfOpen ∧ taken.after.circuit.state = .closed ∧
        taken.action = .succeed 0 ∧
        taken.before.calls[0]? = some { episode := none } := by decide
  constructor
  · obtain ⟨taken, member, tooMany⟩ := overrun
    exact ⟨taken, member, fun well => absurd well.1 (Nat.not_le.mpr tooMany)⟩
  · obtain ⟨taken, member, halfOpen, closed, first, older⟩ := closed_late
    refine ⟨taken, member, fun well => ?_⟩
    obtain ⟨n, call, succeeds, found, own⟩ := well.2 halfOpen closed
    rw [first] at succeeds
    cases succeeds
    rw [older] at found
    cases found
    cases own

end Runs

end DriverMicroServices
