import DriverMicroServices.PlanSimulation
import Mathlib.Logic.Function.Basic

/-! Runs of calls on the records of migrations. What a migration has passed through since its
creation, and what it was failed with, is kept beside the records, which forget both. -/
namespace DriverMicroServices.SchemaEngine
open Tables.Keyed MigrationStateMachine MigrationStateRuntime ExecutionPlanner

inductive Call where
  | createMigration (migrationId : String) (planHash : Option String)
  | updateState (migrationId : String) (newState : MigrationState) (checksum error : Option String)
  | rollbackState (migrationId error : String)
  | cleanup (cutoff : Option Int)
  | getState (migrationId : String)
  | guardExecution (migrationId : String)
  | guardSimulation (migrationId : String)
  | guardApproval (migrationId : String)
  | validatePlanConsistency (migrationId planHash : String)
  | simulateExecution (plan : MigrationExecutionPlan) (migrationId : String)

/-- The hash of a simulation, by its plan and order. -/
abbrev SimulationHash := MigrationExecutionPlan → ExecutionOrder → String

namespace Call

variable (hash : SimulationHash)

/-- What a call throws, if it does, and the records after it. -/
def perform (now : Int) (call : Call) (records : MigrationRecords) : Option String × MigrationRecords :=
  let thrown {α : Type} : Except String α → Option String
    | .ok _ => none
    | .error message => some message
  match call with
  | createMigration id planHash => (none, (MigrationStateRuntime.createMigration now id planHash records).2)
  | updateState id newState checksum error =>
    let result := MigrationStateRuntime.updateState now id newState checksum error records
    (thrown result.1, result.2)
  | rollbackState id error =>
    let result := MigrationStateRuntime.rollbackState now id error records
    (thrown result.1, result.2)
  | cleanup cutoff => (none, (MigrationStateRuntime.cleanup cutoff records).2)
  | getState _ => (none, records)
  | guardExecution id => (thrown (MigrationStateGuard.guardExecution id records), records)
  | guardSimulation id => (thrown (MigrationStateGuard.guardSimulation id records), records)
  | guardApproval id => (thrown (MigrationStateGuard.guardApproval id records), records)
  | validatePlanConsistency id planHash =>
    (thrown (MigrationStateGuard.validatePlanConsistency id planHash records), records)
  | simulateExecution plan id => (none, (ExecutionPlanner.simulateExecution hash now plan id records).2)

end Call

/-- What happens to a migration: it is created, or takes another state, with an error or not. -/
inductive Event where
  | created (migrationId : String)
  | took (migrationId : String) (state : MigrationState) (error : Option String)

/-- The event of an update that does not throw. -/
def updateEvents (now : Int) (id : String) (newState : MigrationState) (checksum error : Option String)
    (records : MigrationRecords) : List Event :=
  match (MigrationStateRuntime.updateState now id newState checksum error records).1 with
  | .ok _ => [.took id newState error]
  | .error _ => []

/-- The plan can be ordered and has no errors, so that its hash is stored. -/
def Passes (plan : MigrationExecutionPlan) (order : ExecutionOrder) : Prop :=
  resolveExecutionOrder plan = .ok order ∧ validateDependencies plan order = []

/-- What happens in the course of a call, update by update. -/
def Call.events (hash : SimulationHash) (now : Int) (call : Call) (records : MigrationRecords) : List Event :=
  match call with
  | .createMigration id _ => [.created id]
  | .updateState id newState checksum error => updateEvents now id newState checksum error records
  | .rollbackState id error =>
    match MigrationStateRuntime.updateState now id .FAILED none (some error) records with
    | (.error _, _) => []
    | (.ok _, failed) =>
      .took id .FAILED (some error) :: updateEvents now id .ROLLED_BACK none none failed
  | .simulateExecution plan id =>
    match resolveExecutionOrder plan with
    | .error _ => []
    | .ok order =>
      if !(validateDependencies plan order).isEmpty then []
      else
        match MigrationStateRuntime.getState id records with
        | none => []
        | some record => updateEvents now id .SIMULATED none none (writeHash (hash plan order) id record records)
  | _ => []

/-- The records, and of each migration the states it took since it was created last, and the
error it was failed with. -/
structure Watched where
  records : MigrationRecords := []
  passed : String → List MigrationState := fun _ => []
  failedWith : String → Option String := fun _ => none

namespace Watched

def observe (w : Watched) : Event → Watched
  | .created id =>
    { w with passed := Function.update w.passed id [], failedWith := Function.update w.failedWith id none }
  | .took id state error =>
    { w with
      passed := Function.update w.passed id (w.passed id ++ [state])
      failedWith := if state = .FAILED then Function.update w.failedWith id error else w.failedWith }

def step (hash : SimulationHash) (w : Watched) (call : Int × Call) : Watched :=
  (call.2.events hash call.1 w.records).foldl observe
    { w with records := (call.2.perform hash call.1 w.records).2 }

/-- The calls of a run, each with the time at which it is made. -/
def run (hash : SimulationHash) (calls : List (Int × Call)) : Watched := calls.foldl (step hash) {}

/-! ## What a step does -/

variable {hash : SimulationHash} {now : Int} {id : String} {w : Watched}

/-- A migration takes another state. -/
def take (w : Watched) (now : Int) (id : String) (newState : MigrationState)
    (checksum error : Option String) (record : MigrationStateRecord) : Watched :=
  observe { w with records := put w.records id (moved now newState checksum error record) }
    (.took id newState error)

def create (w : Watched) (now : Int) (id : String) (planHash : Option String) : Watched :=
  observe { w with records := put w.records id { migrationId := id, state := .PLANNED, startedAt := now, planHash } }
    (.created id)

/-- The hash of a simulation is written. -/
def mark (w : Watched) (value id : String) (record : MigrationStateRecord) : Watched :=
  { w with records := writeHash value id record w.records }

def clean (w : Watched) (cutoff : Option Int) : Watched :=
  { w with records := (MigrationStateRuntime.cleanup cutoff w.records).2 }

private theorem step_update (newState : MigrationState) (checksum error : Option String) :
    (∃ record, get w.records id = some record ∧ newState ∈ transitions record.state ∧
      step hash w (now, .updateState id newState checksum error) = w.take now id newState checksum error record) ∨
    (∀ record, get w.records id = some record → newState ∉ transitions record.state) ∧
      step hash w (now, .updateState id newState checksum error) = w := by
  rcases updateState_cases now id newState checksum error w.records with
    ⟨record, found, allowed, result⟩ | ⟨refused, message, result⟩
  · exact .inl ⟨record, found, allowed, by simp [step, Call.events, Call.perform, updateEvents, result, take]⟩
  · exact .inr ⟨refused, by simp [step, Call.events, Call.perform, updateEvents, result]⟩

private theorem step_rollback (error : String) :
    (∃ record, get w.records id = some record ∧ record.state = .EXECUTING ∧
      step hash w (now, .rollbackState id error) =
        (w.take now id .FAILED none (some error) record).take now id .ROLLED_BACK none none
          (moved now .FAILED none (some error) record)) ∨
    (∀ record, get w.records id = some record → record.state ≠ .EXECUTING) ∧
      step hash w (now, .rollbackState id error) = w := by
  rcases rollbackState_cases now id error w.records with
    ⟨record, found, executing, result⟩ | ⟨refused, message, result⟩
  · have first := @updateState_ok now id .FAILED none (some error) _ _ found (by simp [executing, transitions])
    have second := @updateState_ok now id .ROLLED_BACK none none
      (put w.records id (moved now .FAILED none (some error) record)) _ get_put_self (.head _)
    refine .inl ⟨record, found, executing, ?_⟩
    simp [step, Call.events, Call.perform, updateEvents, result, first, second, take, observe]
  · refine .inr ⟨refused, ?_⟩
    rcases updateState_cases now id .FAILED none (some error) w.records with
      ⟨record, found, allowed, -⟩ | ⟨-, other, first⟩
    · have executing : record.state = .EXECUTING := by
        revert allowed
        cases record.state <;> simp [transitions]
      exact absurd executing (refused record found)
    · simp [step, Call.events, Call.perform, result, first]

/-- The record with the hash of a simulation. -/
def hashed (value : String) (record : MigrationStateRecord) : MigrationStateRecord :=
  { record with metadata := put record.metadata "simulationHash" value }

theorem get_mark (w : Watched) (value : String) (record : MigrationStateRecord) :
    get (w.mark value id record).records id = some (hashed value record) := get_put_self

/-- A plan that passes leaves its hash in the record, also where the record's state does not
let it be simulated. -/
theorem step_simulate (plan : MigrationExecutionPlan) :
    (∃ order record, Passes plan order ∧ get w.records id = some record ∧ record.state = .VALIDATED ∧
      step hash w (now, .simulateExecution plan id) =
        (w.mark (hash plan order) id record).take now id .SIMULATED none none (hashed (hash plan order) record)) ∨
    (∃ order record, Passes plan order ∧ get w.records id = some record ∧ record.state ≠ .VALIDATED ∧
      step hash w (now, .simulateExecution plan id) = w.mark (hash plan order) id record) ∨
    (∀ order, Passes plan order → get w.records id = none) ∧
      step hash w (now, .simulateExecution plan id) = w := by
  cases resolved : resolveExecutionOrder plan with
  | error message =>
    refine .inr (.inr ⟨fun order passes => ?_, ?_⟩)
    · rw [passes.1] at resolved
      cases resolved
    · simp [step, Call.events, Call.perform, simulateExecution, resolved]
  | ok order =>
    have only : ∀ other, Passes plan other → other = order := fun other passes => by
      have same := passes.1.symm.trans resolved
      exact Except.ok.inj same
    cases errors : validateDependencies plan order with
    | cons error rest =>
      refine .inr (.inr ⟨fun other passes => ?_, ?_⟩)
      · have none := passes.2
        rw [only other passes, errors] at none
        cases none
      · simp [step, Call.events, Call.perform, simulateExecution, resolved, errors]
    | nil =>
      cases found : get w.records id with
      | none =>
        refine .inr (.inr ⟨fun _ _ => rfl, ?_⟩)
        simp [step, Call.events, Call.perform, simulateExecution, storeSimulation, resolved, errors,
          MigrationStateRuntime.getState, found]
      | some record =>
        have held : get (w.mark (hash plan order) id record).records id = some (hashed (hash plan order) record) :=
          w.get_mark _ record
        rcases updateState_cases now id .SIMULATED none none (w.mark (hash plan order) id record).records with
          ⟨same, found', allowed, result⟩ | ⟨refused, message, result⟩
        · rw [held] at found'
          cases found'
          have validated : record.state = .VALIDATED := by
            have allowed : MigrationState.SIMULATED ∈ transitions record.state := allowed
            revert allowed
            cases record.state <;> simp [transitions]
          refine .inl ⟨order, record, ⟨resolved, errors⟩, rfl, validated, ?_⟩
          unfold mark at result
          simp [step, Call.events, Call.perform, simulateExecution, storeSimulation, updateEvents, resolved,
            errors, MigrationStateRuntime.getState, found, result, take, mark, observe]
        · have other : record.state ≠ .VALIDATED := by
            intro validated
            exact refused _ held (by simp [hashed, validated, transitions])
          refine .inr (.inl ⟨order, record, ⟨resolved, errors⟩, rfl, other, ?_⟩)
          unfold mark at result
          simp [step, Call.events, Call.perform, simulateExecution, storeSimulation, updateEvents, resolved,
            errors, MigrationStateRuntime.getState, found, result, mark]

/-! ## The lifecycle -/

/-- The states that a migration has taken when it is in one. -/
def lifecycle : MigrationState → List MigrationState
  | .PLANNED => []
  | .VALIDATED => [.VALIDATED]
  | .SIMULATED => [.VALIDATED, .SIMULATED]
  | .APPROVED => [.VALIDATED, .SIMULATED, .APPROVED]
  | .REPLAYED => [.VALIDATED, .SIMULATED, .APPROVED, .REPLAYED]
  | .EXECUTING => [.VALIDATED, .SIMULATED, .APPROVED, .REPLAYED, .EXECUTING]
  | .COMPLETED => [.VALIDATED, .SIMULATED, .APPROVED, .REPLAYED, .EXECUTING, .COMPLETED]
  | .FAILED => [.VALIDATED, .SIMULATED, .APPROVED, .REPLAYED, .EXECUTING, .FAILED]
  | .ROLLED_BACK => [.VALIDATED, .SIMULATED, .APPROVED, .REPLAYED, .EXECUTING, .FAILED, .ROLLED_BACK]

private theorem lifecycle_step (allowed : next ∈ transitions state) : lifecycle next = lifecycle state ++ [next] := by
  cases state <;> simp only [transitions, List.mem_cons, List.not_mem_nil, or_false] at allowed
  case EXECUTING => rcases allowed with rfl | rfl <;> rfl
  all_goals
    subst allowed
    rfl

theorem terminal_stays (last : isTerminal state = true) (allowed : next ∈ transitions state) : False := by
  cases state <;> simp [isTerminal, transitions] at last allowed

/-- What holds of the records and their histories after any run. -/
structure Good (w : Watched) : Prop where
  distinct : Distinct w.records
  passed : ∀ id record, get w.records id = some record → w.passed id = lifecycle record.state
  completed : ∀ id record, get w.records id = some record →
    (record.completedAt.isSome ↔ isTerminal record.state = true)

/-- The record of a migration after a write to the record of one. -/
theorem get_put_cases {records : MigrationRecords} {written : MigrationStateRecord} {other : String}
    (found : get (put records id written) other = some record) :
    other = id ∧ record = written ∨ other ≠ id ∧ get records other = some record := by
  by_cases same : other = id
  · subst same
    rw [get_put_self] at found
    exact .inl ⟨rfl, (Option.some.inj found).symm⟩
  · rw [get_put_ne same] at found
    exact .inr ⟨same, found⟩

private theorem good_create (good : Good w) (planHash : Option String) : Good (w.create now id planHash) where
  distinct := good.distinct.put _ _
  passed := by
    intro other record found
    rcases get_put_cases found with ⟨rfl, rfl⟩ | ⟨apart, found⟩
    · simp [create, observe, lifecycle]
    · simpa [create, observe, apart] using good.passed other record found
  completed := by
    intro other record found
    rcases get_put_cases found with ⟨rfl, rfl⟩ | ⟨-, found⟩
    · simp [isTerminal]
    · exact good.completed other record found

theorem good_take (good : Good w) {checksum error : Option String} (found : get w.records id = some record)
    (allowed : newState ∈ transitions record.state) : Good (w.take now id newState checksum error record) where
  distinct := good.distinct.put _ _
  passed := by
    intro other later held
    rcases get_put_cases held with ⟨rfl, rfl⟩ | ⟨apart, held⟩
    · simp [take, observe, moved, good.passed _ _ found, lifecycle_step allowed]
    · simpa [take, observe, apart] using good.passed other later held
  completed := by
    intro other later held
    rcases get_put_cases held with ⟨rfl, rfl⟩ | ⟨-, held⟩
    · have before : isTerminal record.state = false := by
        rw [Bool.eq_false_iff]
        exact fun last => terminal_stays last allowed
      have open' := good.completed _ _ found
      rw [before] at open'
      simp only [moved]
      split
      · rename_i last
        simp [last]
      · rename_i going
        simpa [going] using open'
    · exact good.completed other later held

theorem good_mark (good : Good w) (value : String) (found : get w.records id = some record) :
    Good (w.mark value id record) where
  distinct := good.distinct.put _ _
  passed := by
    intro other later held
    rcases get_put_cases held with ⟨rfl, rfl⟩ | ⟨-, held⟩
    · exact good.passed _ record found
    · exact good.passed other later held
  completed := by
    intro other later held
    rcases get_put_cases held with ⟨rfl, rfl⟩ | ⟨-, held⟩
    · exact good.completed _ record found
    · exact good.completed other later held

/-- What a cleanup leaves was there before. -/
theorem get_clean (distinct : Distinct w.records) {cutoff : Option Int} :
    get (w.clean cutoff).records id = some record ↔
      get w.records id = some record ∧ isExpired cutoff record = false := by
  have after : Distinct (w.clean cutoff).records := distinct.sublist (List.filter_sublist.map _)
  rw [← mem_iff_get after, ← mem_iff_get distinct]
  simp [clean, MigrationStateRuntime.cleanup]

private theorem good_clean (good : Good w) (cutoff : Option Int) : Good (w.clean cutoff) where
  distinct := good.distinct.sublist (List.filter_sublist.map _)
  passed := fun id record found => good.passed id record ((get_clean good.distinct).mp found).1
  completed := fun id record found => good.completed id record ((get_clean good.distinct).mp found).1

/-- A call does one of a few things. -/
inductive Does (w : Watched) : Call → Watched → Prop where
  | create (now : Int) (id : String) (planHash : Option String) :
    Does w (.createMigration id planHash) (w.create now id planHash)
  | take (now : Int) (id : String) (newState : MigrationState) (checksum error : Option String)
    (record : MigrationStateRecord) (found : get w.records id = some record)
    (allowed : newState ∈ transitions record.state) :
    Does w (.updateState id newState checksum error) (w.take now id newState checksum error record)
  | rollback (now : Int) (id error : String) (record : MigrationStateRecord)
    (found : get w.records id = some record) (executing : record.state = .EXECUTING) :
    Does w (.rollbackState id error)
      ((w.take now id .FAILED none (some error) record).take now id .ROLLED_BACK none none
        (moved now .FAILED none (some error) record))
  | simulate (now : Int) (plan : MigrationExecutionPlan) (id value : String) (record : MigrationStateRecord)
    (order : ExecutionOrder) (passes : Passes plan order) (found : get w.records id = some record)
    (validated : record.state = .VALIDATED) :
    Does w (.simulateExecution plan id)
      ((w.mark value id record).take now id .SIMULATED none none (hashed value record))
  | mark (plan : MigrationExecutionPlan) (id value : String) (record : MigrationStateRecord)
    (order : ExecutionOrder) (passes : Passes plan order) (found : get w.records id = some record)
    (other : record.state ≠ .VALIDATED) :
    Does w (.simulateExecution plan id) (w.mark value id record)
  | clean (cutoff : Option Int) : Does w (.cleanup cutoff) (w.clean cutoff)
  | nothing (call : Call) (creates : ∀ id planHash, call ≠ .createMigration id planHash)
    (refused : ∀ id newState checksum error, call = .updateState id newState checksum error →
      ∀ record, get w.records id = some record → newState ∉ transitions record.state)
    (idle : ∀ id error, call = .rollbackState id error →
      ∀ record, get w.records id = some record → record.state ≠ .EXECUTING)
    (unread : ∀ plan id, call = .simulateExecution plan id →
      ∀ order, Passes plan order → get w.records id = none) :
    Does w call w

theorem step_does (hash : SimulationHash) (w : Watched) (call : Int × Call) :
    Does w call.2 (step hash w call) := by
  obtain ⟨now, call⟩ := call
  cases call with
  | createMigration id planHash => exact .create now id planHash
  | updateState id newState checksum error =>
    rcases @step_update hash now id w newState checksum error with
      ⟨record, found, allowed, stepped⟩ | ⟨refused, stepped⟩
    · rw [stepped]
      exact .take now id newState checksum error record found allowed
    · rw [stepped]
      refine .nothing _ nofun ?_ nofun nofun
      rintro _ _ _ _ ⟨⟩
      exact refused
  | rollbackState id error =>
    rcases @step_rollback hash now id w error with ⟨record, found, executing, stepped⟩ | ⟨idle, stepped⟩
    · rw [stepped]
      exact .rollback now id error record found executing
    · rw [stepped]
      refine .nothing _ nofun nofun ?_ nofun
      rintro _ _ ⟨⟩
      exact idle
  | cleanup cutoff => exact .clean cutoff
  | simulateExecution plan id =>
    rcases @step_simulate hash now id w plan with
      ⟨order, record, passes, found, validated, stepped⟩ | ⟨order, record, passes, found, other, stepped⟩ |
      ⟨unread, stepped⟩
    · rw [stepped]
      exact .simulate now plan id _ record order passes found validated
    · rw [stepped]
      exact .mark plan id _ record order passes found other
    · rw [stepped]
      refine .nothing _ nofun nofun nofun ?_
      rintro _ _ ⟨⟩
      exact unread
  | getState id | guardExecution id | guardSimulation id | guardApproval id | validatePlanConsistency id planHash =>
    exact .nothing _ nofun nofun nofun nofun

theorem good_does (good : Good w) (does : Does w call w') : Good w' := by
  cases does with
  | create now id planHash => exact good_create good planHash
  | take now id newState checksum error record found allowed => exact good_take good found allowed
  | rollback now id error record found executing =>
    have failed : Good (w.take now id .FAILED none (some error) record) :=
      good_take good found (by simp [executing, transitions])
    exact good_take failed get_put_self (.head _)
  | simulate now plan id value record order passes found validated =>
    exact good_take (good_mark good value found) (get_mark w value record)
      (by simp [hashed, validated, transitions])
  | mark plan id value record order passes found other => exact good_mark good value found
  | clean cutoff => exact good_clean good cutoff
  | nothing => exact good

theorem good_run (hash : SimulationHash) (calls : List (Int × Call)) : Good (run hash calls) := by
  induction calls using List.reverseRecOn with
  | nil => exact ⟨List.nodup_nil, by simp [run], by simp [run]⟩
  | append_singleton earlier last ih =>
    rw [run, List.foldl_append]
    exact good_does ih (step_does hash _ last)

/-- A record that is completed is not touched but for its metadata, until it is removed or its
migration is created again. -/
def Kept (id : String) (t : Int) (w : Watched) : Prop :=
  ∀ record, get w.records id = some record → record.completedAt = some t ∧ isTerminal record.state = true

theorem kept_take {id other : String} {record : MigrationStateRecord} (kept : Kept id t w)
    {checksum error : Option String} (found : get w.records other = some record)
    (allowed : newState ∈ transitions record.state) :
    Kept id t (w.take now other newState checksum error record) := by
  intro later held
  rcases get_put_cases held with ⟨rfl, rfl⟩ | ⟨-, held⟩
  · exact (terminal_stays (kept record found).2 allowed).elim
  · exact kept later held

theorem kept_mark {id other : String} {record : MigrationStateRecord} (kept : Kept id t w) (value : String)
    (found : get w.records other = some record) : Kept id t (w.mark value other record) := by
  intro later held
  rcases get_put_cases held with ⟨rfl, rfl⟩ | ⟨-, held⟩
  · exact kept record found
  · exact kept later held

private theorem kept_does (good : Good w) (kept : Kept id t w) (does : Does w call w')
    (creates : ∀ planHash, call ≠ .createMigration id planHash) : Kept id t w' := by
  cases does with
  | create now other planHash =>
    intro later held
    rcases get_put_cases held with ⟨rfl, rfl⟩ | ⟨-, held⟩
    · exact absurd rfl (creates planHash)
    · exact kept later held
  | take now other newState checksum error record found allowed => exact kept_take kept found allowed
  | rollback now other error record found executing =>
    exact kept_take (kept_take kept found (by simp [executing, transitions])) get_put_self (.head _)
  | simulate now plan other value record order passes found validated =>
    exact kept_take (kept_mark kept value found) (get_mark w value record)
      (by simp [hashed, validated, transitions])
  | mark plan other value record order passes found state => exact kept_mark kept value found
  | clean cutoff => exact fun later held => kept later ((get_clean good.distinct).mp held).1
  | nothing => exact kept

theorem kept_run (hash : SimulationHash) (good : Good w) (kept : Kept id t w) (later : List (Int × Call))
    (creates : ∀ call ∈ later, ∀ planHash, call.2 ≠ .createMigration id planHash) :
    Kept id t (later.foldl (step hash) w) := by
  induction later generalizing w with
  | nil => exact kept
  | cons call rest ih =>
    obtain ⟨first, others⟩ := List.forall_mem_cons.mp creates
    have does := step_does hash w call
    exact ih (good_does good does) (kept_does good kept does first) others

/-- Only a cleanup removes a record, and only one that has come to an end. -/
theorem removed_does (good : Good w) (does : Does w call w') (found : get w.records id = some record)
    (gone : get w'.records id = none) :
    (∃ cutoff, call = .cleanup cutoff) ∧ isTerminal record.state = true := by
  have present {written : MigrationStateRecord} {other : String} {records : MigrationRecords}
      (there : (get records id).isSome) : (get (put records other written) id).isSome := by
    by_cases same : id = other
    · subst same
      simp
    · rwa [get_put_ne same]
  have held : (get w.records id).isSome := by simp [found]
  have absent : ¬ (get w'.records id).isSome := by simp [gone]
  cases does with
  | create | take | mark => exact absurd (present held) absent
  | rollback | simulate => exact absurd (present (present held)) absent
  | nothing => exact absurd held absent
  | clean cutoff =>
    refine ⟨⟨cutoff, rfl⟩, ?_⟩
    have expired : isExpired cutoff record = true := by
      by_contra fresh
      have kept : get (w.clean cutoff).records id = some record :=
        (get_clean good.distinct).mpr ⟨found, by simpa using fresh⟩
      rw [gone] at kept
      cases kept
    refine (good.completed id record found).mp ?_
    unfold isExpired at expired
    cases completed : record.completedAt with
    | none => simp [completed] at expired
    | some t => rfl

/-- A call that throws leaves the records as they were. -/
theorem thrown_unchanged {call : Call} {records : MigrationRecords}
    (thrown : (call.perform hash now records).1 = some message) : (call.perform hash now records).2 = records := by
  cases call with
  | createMigration | cleanup | simulateExecution => cases thrown
  | getState | guardExecution | guardSimulation | guardApproval | validatePlanConsistency => rfl
  | updateState id newState checksum error =>
    rcases updateState_cases now id newState checksum error records with
      ⟨record, -, -, result⟩ | ⟨-, other, result⟩
    · simp [Call.perform, result] at thrown
    · simp [Call.perform, result]
  | rollbackState id error =>
    rcases rollbackState_cases now id error records with ⟨record, -, -, result⟩ | ⟨-, other, result⟩
    · simp [Call.perform, result] at thrown
    · simp [Call.perform, result]

/-- After any run: what a record has passed through since its creation, when it is completed and
how long it stays so, what a cleanup removes, and what a call that throws leaves. -/
theorem migration_lifecycle (hash : SimulationHash) (calls : List (Int × Call)) :
    (∀ id record, get (run hash calls).records id = some record →
      (record.state = .COMPLETED → (run hash calls).passed id =
        [.VALIDATED, .SIMULATED, .APPROVED, .REPLAYED, .EXECUTING, .COMPLETED]) ∧
      (record.state = .ROLLED_BACK → (run hash calls).passed id =
        [.VALIDATED, .SIMULATED, .APPROVED, .REPLAYED, .EXECUTING, .FAILED, .ROLLED_BACK]) ∧
      (record.completedAt.isSome ↔ record.state = .COMPLETED ∨ record.state = .ROLLED_BACK) ∧
      ∀ t, record.completedAt = some t → ∀ later : List (Int × Call),
        (∀ call ∈ later, ∀ planHash, call.2 ≠ .createMigration id planHash) →
        ∀ after, get (run hash (calls ++ later)).records id = some after → after.completedAt = some t) ∧
    (∀ call id record, get (run hash calls).records id = some record →
      get (run hash (calls ++ [call])).records id = none →
      (∃ cutoff, call.2 = .cleanup cutoff) ∧ (record.state = .COMPLETED ∨ record.state = .ROLLED_BACK)) ∧
    ∀ (now : Int) (call : Call) message,
      (call.perform hash now (run hash calls).records).1 = some message →
      (call.perform hash now (run hash calls).records).2 = (run hash calls).records := by
  have good := good_run hash calls
  have terminal (state : MigrationState) : isTerminal state = true ↔ state = .COMPLETED ∨ state = .ROLLED_BACK := by
    simp [isTerminal]
  refine ⟨fun id record found => ⟨?_, ?_, ?_, ?_⟩, ?_, ?_⟩
  · intro completed
    rw [good.passed id record found, completed]
    rfl
  · intro back
    rw [good.passed id record found, back]
    rfl
  · rw [← terminal]
    exact good.completed id record found
  · intro t completed later creates after held
    have last := (good.completed id record found).mp (by simp [completed])
    have kept : Kept id t (run hash calls) := fun other same => by
      rw [found] at same
      cases same
      exact ⟨completed, last⟩
    rw [run, List.foldl_append] at held
    exact (kept_run hash good kept later creates after held).1
  · intro call id record found gone
    rw [run, List.foldl_append] at gone
    obtain ⟨cleans, last⟩ := removed_does good (step_does hash _ call) found gone
    exact ⟨cleans, (terminal _).mp last⟩
  · exact fun now call message thrown => thrown_unchanged thrown

end Watched
end DriverMicroServices.SchemaEngine
