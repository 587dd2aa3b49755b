import DriverMicroServices.MigrationBoot
import DriverMicroServices.Transitions

/-! Starts of the service that execute a plan, and workers that take the jobs which they leave.
A start executes the statements of all phases but the data phase in their order, without a look
at any job; the jobs are created when it has executed the last one. -/
namespace DriverMicroServices
open Tables.Keyed Transitions

namespace BackfillJob

def markAsStarted (job : BackfillJob) : BackfillJob :=
  { job with status := .PROCESSING, retryCount := 0, errorMessage := none }

def updateProgress (job : BackfillJob) (processedRows : Nat) (lastProcessedId : Option Int) : BackfillJob :=
  { job with processedRows := processedRows, lastProcessedId := lastProcessedId }

def markAsCompleted (job : BackfillJob) : BackfillJob := { job with status := .COMPLETED }

def markAsFailed (job : BackfillJob) (errorMessage : String) : BackfillJob :=
  { job with status := .FAILED, errorMessage := some errorMessage, retryCount := job.retryCount + 1 }

def canRetry (job : BackfillJob) : Bool := job.status = .FAILED && job.retryCount < job.maxRetries

/-- What is never written. -/
def settings (job : BackfillJob) : String × Nat := (job.sqlStatement, job.maxRetries)

/-- `save` of a copy. A field that is undefined keeps what is in the row. -/
def saved (row copy : BackfillJob) : BackfillJob :=
  { copy with lastProcessedId := copy.lastProcessedId.or row.lastProcessedId }

theorem saved_of_cursor {row copy : BackfillJob} (same : copy.lastProcessedId = row.lastProcessedId) :
    row.saved copy = copy := by
  unfold saved
  rw [← same, Option.or_self]

end BackfillJob

namespace Backfill

/-- A part of the driver's answer to an `UPDATE … RETURNING`. -/
inductive ResultPart where
  | rows (ids : List Int)
  | affected (count : Nat)

/-- `.id`: neither the list of the rows nor their number has one. -/
def ResultPart.id : ResultPart → Option Int
  | .rows _ => none
  | .affected _ => none

/-- What `manager.query` answers to an `UPDATE`: the rows that it returns, and then how many they are. -/
def updateResult (returned : List Int) : List ResultPart := [.rows returned, .affected returned.length]

structure BatchResult where
  processedRows : Nat
  lastProcessedId : Option Int

/-- What is taken from the answer to a batch that begins at the cursor. -/
def batchResult (cursor : Option Int) (returned : List Int) : BatchResult :=
  let result := updateResult returned
  let processedRows := result.length
  { processedRows
    lastProcessedId := if 0 < processedRows then result.getLast?.bind (·.id) else cursor }

end Backfill

/-- A call of `processJobInBatches`, with its own copy of the row. -/
structure JobRun where
  job : BackfillJob
  processedRows : Nat
  lastProcessedId : Option Int
  retryCount : Nat := 0
  batchCount : Nat := 0
deriving DecidableEq

/-- What the database does with the statement of a batch: the rows that it returns, or an error. -/
inductive BatchOutcome where
  | rows (ids : List Int)
  | failed (message : String)

/-- The database and the processes. -/
structure MigrationState where
  /-- What `executeFastPhases` has still to execute, while a start is going on. -/
  boot : Option (List (PhaseName × SchemaOperation)) := none
  executed : List String := []
  /-- `backfill_jobs` -/
  jobs : List BackfillJob := []
  /-- `activeJobs`, by the places of their rows. -/
  activeJobs : List (Nat × JobRun) := []

namespace MigrationState

/-- `save` of the copy that a worker holds. -/
def save (s : MigrationState) (id : Nat) (job : BackfillJob) : MigrationState :=
  { s with jobs := s.jobs.modify id (·.saved job) }

def resume (s : MigrationState) (id : Nat) (active : JobRun) : MigrationState :=
  { s with activeJobs := put s.activeJobs id active }

def leave (s : MigrationState) (id : Nat) : MigrationState :=
  { s with activeJobs := s.activeJobs.filter (·.1 ≠ id) }

/-- The end of the loop over the batches. -/
def complete (s : MigrationState) (id : Nat) (active : JobRun) : MigrationState :=
  (s.save id (active.job.updateProgress active.processedRows active.lastProcessedId).markAsCompleted).leave id

/-- `executeBatchWithAtomicCheckpoint` and what the loop does with its result. -/
def batch (s : MigrationState) (id : Nat) (active : JobRun) : BatchOutcome → MigrationState
  | .rows ids =>
    let result := Backfill.batchResult active.lastProcessedId ids
    if result.processedRows = 0 then s.complete id active
    else
      let batchCount := active.batchCount + 1
      let processedRows := active.processedRows + result.processedRows
      let lastProcessedId := result.lastProcessedId
      if batchCount % 5 = 0 then
        let job := active.job.updateProgress processedRows lastProcessedId
        (s.save id job).resume id { job, processedRows, lastProcessedId, batchCount }
      else s.resume id { job := active.job, processedRows, lastProcessedId, batchCount }
  | .failed message =>
    let retryCount := active.retryCount + 1
    if active.job.maxRetries < retryCount then (s.save id (active.job.markAsFailed message)).leave id
    else s.resume id { active with retryCount := retryCount, batchCount := active.batchCount + 1 }

end MigrationState

inductive MigrationAction where
  /-- `executeMigration` is called. -/
  | startBoot
  /-- The next statement, which the database takes or refuses. -/
  | statement (taken : Bool)
  | createBackfillJobs (rows : String → Nat) (migrationId : String)
  /-- `claimJob` and `markAsStarted` -/
  | claimJob (id : Nat)
  | batch (id : Nat) (outcome : BatchOutcome)
  | timeout (id : Nat)
  /-- The rows are all processed. -/
  | finish (id : Nat)
  | retryJob (id : Nat)
  | cancelJob (id : Nat)

/-- The statements that a start executes, in their order. -/
def fastStatements (plan : MigrationExecutionPlan) : List (PhaseName × SchemaOperation) :=
  (placements plan.phases).filter fun placed => placed.1 ≠ .DATA && placed.2.category ≠ .DATA

def dataOperations (plan : MigrationExecutionPlan) : List SchemaOperation :=
  (plan.phases.filter (·.phase = .DATA)).flatMap (·.operations)

/-- One step of a start or of a worker, in any order. A refused statement ends the start. -/
def migrationStep (plan : MigrationExecutionPlan) (s : MigrationState) : MigrationAction → Option MigrationState
  | .startBoot => if s.boot.isNone then some { s with boot := some (fastStatements plan) } else none
  | .statement taken =>
    match s.boot with
    | some (placed :: rest) =>
      if taken then some { s with boot := some rest, executed := s.executed ++ [placed.2.sql] }
      else some { s with boot := none }
    | _ => none
  | .createBackfillJobs rows migrationId =>
    match s.boot with
    | some [] =>
      if plan.phases.any (·.phase = .DATA) then
        some { s with boot := none, jobs := s.jobs ++ DriverMicroServices.createBackfillJobs rows migrationId plan }
      else some { s with boot := none }
    | _ => none
  | .claimJob id => do
    let job ← s.jobs[id]?
    if job.status = .PENDING then
      some ((s.save id job.markAsStarted).resume id
        { job := job.markAsStarted, processedRows := job.processedRows, lastProcessedId := job.lastProcessedId })
    else none
  | .batch id outcome => do
    let active ← get s.activeJobs id
    if active.processedRows < active.job.totalRows then some (s.batch id active outcome) else none
  | .timeout id => do
    let active ← get s.activeJobs id
    if active.processedRows < active.job.totalRows then
      some ((s.save id (active.job.markAsFailed "Job timeout")).leave id)
    else none
  | .finish id => do
    let active ← get s.activeJobs id
    if active.job.totalRows ≤ active.processedRows then some (s.complete id active) else none
  | .retryJob id => do
    let job ← s.jobs[id]?
    if job.canRetry then
      some (s.save id { job with
        status := .PENDING, errorMessage := none, retryCount := 0, lastProcessedId := some 0, processedRows := 0 })
    else none
  | .cancelJob id => do
    let job ← s.jobs[id]?
    if job.status ≠ .COMPLETED then
      some (s.save id { job with status := .FAILED, errorMessage := some "Cancelled by administrator" })
    else none

/-- At the least, an operation that has been carried out has a completed job. -/
def CarriedOut (s : MigrationState) (operation : SchemaOperation) : Prop :=
  ∃ job ∈ s.jobs, job.sqlStatement = operation.sql ∧ job.status = .COMPLETED

/-- A statement of a contract phase is executed after the operations of the data phases. -/
def WaitsForData (plan : MigrationExecutionPlan) (taken : Taken MigrationState MigrationAction) : Prop :=
  ∀ contract rest, taken.action = .statement true → taken.before.boot = some (contract :: rest) →
    contract.1 = .CONTRACT → ∀ operation ∈ dataOperations plan, CarriedOut taken.before operation

/-! ## Runs -/

section Runs

variable {plan : MigrationExecutionPlan} {s s' : MigrationState} {action : MigrationAction}

/-- The statements of a start, when the database takes them. -/
theorem run_statements (first rest : List (PhaseName × SchemaOperation)) (started : s.boot = some (first ++ rest)) :
    run (migrationStep plan) s (List.replicate first.length (.statement true)) =
      some { s with boot := some rest, executed := s.executed ++ first.map (·.2.sql) } := by
  induction first generalizing s with
  | nil =>
    obtain ⟨boot, executed, jobs, activeJobs⟩ := s
    cases started
    simp [run]
  | cons placed first ih =>
    have stepped : migrationStep plan s (.statement true) =
        some { s with boot := some (first ++ rest), executed := s.executed ++ [placed.2.sql] } := by
      simp [migrationStep, started]
    rw [List.length_cons, List.replicate_succ, run, stepped, Option.bind_some, ih rfl]
    simp

/-- What a start has still to execute are statements of the plan. -/
def FromPlan (plan : MigrationExecutionPlan) (s : MigrationState) : Prop :=
  ∀ remaining, s.boot = some remaining → ∀ placed ∈ remaining, placed ∈ fastStatements plan

private theorem batch_boot (id : Nat) (active : JobRun) (outcome : BatchOutcome) :
    (s.batch id active outcome).boot = s.boot := by
  cases outcome with
  | failed message =>
    simp only [MigrationState.batch]
    split <;> rfl
  | rows ids =>
    simp only [MigrationState.batch]
    split
    · rfl
    · split <;> rfl

/-- A step keeps what a start has still to execute, or begins it, takes its head, or ends it. -/
theorem step_boot (stepped : migrationStep plan s action = some s') :
    s'.boot = s.boot ∨ s'.boot = some (fastStatements plan) ∨
      (∃ placed, s.boot = some (placed :: s'.boot.getD [])) ∨ s'.boot = none := by
  cases action with
  | startBoot =>
    simp only [migrationStep] at stepped
    split at stepped
    · cases stepped
      exact .inr (.inl rfl)
    · cases stepped
  | statement taken =>
    simp only [migrationStep] at stepped
    split at stepped
    · rename_i placed rest started
      cases taken with
      | true =>
        cases stepped
        exact .inr (.inr (.inl ⟨placed, started⟩))
      | false =>
        cases stepped
        exact .inr (.inr (.inr rfl))
    · cases stepped
  | createBackfillJobs rows migrationId =>
    simp only [migrationStep] at stepped
    split at stepped
    · split at stepped
      all_goals
        cases stepped
        exact .inr (.inr (.inr rfl))
    · cases stepped
  | batch id outcome =>
    obtain ⟨active, -, stepped⟩ := Option.bind_eq_some_iff.mp stepped
    split at stepped
    · cases stepped
      exact .inl (batch_boot id active outcome)
    · cases stepped
  | claimJob id | timeout id | finish id | retryJob id | cancelJob id =>
    obtain ⟨found, -, stepped⟩ := Option.bind_eq_some_iff.mp stepped
    split at stepped
    · cases stepped
      exact .inl rfl
    · cases stepped

private theorem step_fromPlan (held : FromPlan plan s) (stepped : migrationStep plan s action = some s') :
    FromPlan plan s' := by
  intro remaining going placed member
  rcases step_boot stepped with same | begun | ⟨first, before⟩ | ended
  · exact held remaining (same ▸ going) placed member
  · rw [begun] at going
    cases going
    exact member
  · rw [going] at before
    exact held _ before placed (List.mem_cons_of_mem first member)
  · rw [ended] at going
    cases going

end Runs

/-- What a start that meets no refusal executes of a plan, up to one of its statements. -/
theorem boot_reaches {plan : MigrationExecutionPlan} {before after : List (PhaseName × SchemaOperation)}
    {contract : PhaseName × SchemaOperation} (shape : fastStatements plan = before ++ contract :: after) :
    ∃ actions, ∃ taken ∈ trace (migrationStep plan) {} actions, taken.action = .statement true ∧
      taken.before.boot = some (contract :: after) ∧ taken.before.jobs = [] := by
  have started : migrationStep plan {} .startBoot = some { boot := some (before ++ contract :: after) } := by
    simp [migrationStep, shape]
  have executing := @run_statements plan { boot := some (before ++ contract :: after) } before (contract :: after) rfl
  have stepped : migrationStep plan { boot := some (contract :: after), executed := before.map (·.2.sql) }
      (.statement true) =
        some { boot := some after, executed := before.map (·.2.sql) ++ [contract.2.sql] } := rfl
  refine ⟨.startBoot :: (List.replicate before.length (.statement true) ++ [.statement true]),
    ⟨{ boot := some (contract :: after), executed := before.map (·.2.sql) }, .statement true,
      { boot := some after, executed := before.map (·.2.sql) ++ [contract.2.sql] }⟩, ?_, rfl, rfl, rfl⟩
  rw [trace, started]
  refine List.mem_cons_of_mem _ ?_
  rw [trace_append executing]
  refine List.mem_append_right _ ?_
  simp [trace, stepped]

/-- Every run waits for the data phases if and only if these have no operation, or the contract
phases have no statement that a start executes. -/
theorem contract_waits_iff (plan : MigrationExecutionPlan) :
    (∀ actions, ∀ taken ∈ trace (migrationStep plan) {} actions, WaitsForData plan taken) ↔
      dataOperations plan = [] ∨
        ∀ phase ∈ plan.phases, phase.phase = .CONTRACT → ∀ operation ∈ phase.operations,
          operation.category = .DATA := by
  have executes : (∀ placed ∈ fastStatements plan, placed.1 ≠ .CONTRACT) ↔
      ∀ phase ∈ plan.phases, phase.phase = .CONTRACT → ∀ operation ∈ phase.operations,
        operation.category = .DATA := by
    have stated := @forall_placements plan.phases fun phase operation =>
      phase = .CONTRACT → operation.category = .DATA
    have order : (∀ phase ∈ plan.phases, phase.phase = .CONTRACT → ∀ operation ∈ phase.operations,
        operation.category = .DATA) ↔ ∀ phase ∈ plan.phases, ∀ operation ∈ phase.operations,
        phase.phase = .CONTRACT → operation.category = .DATA := by
      refine forall₂_congr fun phase _ => ?_
      exact ⟨fun each operation member first => each first operation member,
        fun each first operation member => each operation member first⟩
    rw [order, ← stated]
    simp only [fastStatements, List.mem_filter, Bool.and_eq_true, decide_eq_true_eq, and_imp]
    refine forall₂_congr fun placed _ => ?_
    constructor
    · intro apart first
      by_contra other
      exact apart (by simp [first]) other first
    · intro only _ other first
      exact other (only first)
  rw [← executes]
  constructor
  · intro waits
    by_contra both
    simp only [not_or, not_forall, not_not] at both
    obtain ⟨operations, contract, member, first⟩ := both
    obtain ⟨operation, pending⟩ := List.exists_mem_of_ne_nil _ operations
    obtain ⟨before, after, shape⟩ := List.append_of_mem member
    obtain ⟨actions, taken, reached, action, boot, none⟩ := boot_reaches shape
    -- there is no job at all when the first start comes to the statement
    obtain ⟨job, there, -⟩ := waits actions taken reached contract after action boot first operation pending
    rw [none] at there
    cases there
  · rintro (empty | apart)
    · intro actions taken _ contract rest _ _ _ operation member
      rw [empty] at member
      cases member
    · intro actions taken member contract rest _ started first
      have held : FromPlan plan taken.before :=
        (trace_inv (fun held _ stepped => step_fromPlan held stepped) (by rintro remaining ⟨⟩) admits_true
          taken member).1
      exact (apart contract (held _ started contract (by simp)) first).elim

/-- A column that is renamed. -/
def renamedUser : List SchemaOperation :=
  classifyOperations ["ALTER TABLE \"users\" RENAME COLUMN \"name\" TO \"title\""]

/-- The plan copies the rows and drops the old column; the start drops it and leaves a job for the copy. -/
theorem dropped_before_copy :
    let plan := buildFromPhases (LifecycleSplitter.split renamedUser) renamedUser
    ((run (migrationStep plan) {} [.startBoot, .statement true, .statement true,
        .createBackfillJobs (fun _ => 10) "m"]).map fun s =>
          (s.executed, s.jobs.map fun job => (job.sqlStatement, job.status))) =
        some (["ALTER TABLE \"users\" ADD COLUMN \"title\" VARCHAR", "ALTER TABLE \"users\" DROP COLUMN \"name\""],
          [("UPDATE \"users\" SET \"title\" = \"name\"", .PENDING)]) ∧
      ¬ ∀ actions, ∀ taken ∈ trace (migrationStep plan) {} actions, WaitsForData plan taken := by
  constructor
  · rfl
  · intro waits
    obtain ⟨first, contract, shape, last⟩ : ∃ first contract,
        fastStatements (buildFromPhases (LifecycleSplitter.split renamedUser) renamedUser) = [first, contract] ∧
          contract.1 = .CONTRACT := ⟨_, _, rfl, rfl⟩
    obtain ⟨copy, copies⟩ : ∃ copy,
        dataOperations (buildFromPhases (LifecycleSplitter.split renamedUser) renamedUser) = [copy] := ⟨_, rfl⟩
    obtain ⟨actions, taken, reached, action, boot, none⟩ := @boot_reaches _ [first] [] contract shape
    obtain ⟨job, there, -⟩ := waits actions taken reached contract [] action boot last copy (by simp [copies])
    rw [none] at there
    cases there

end DriverMicroServices
