import DriverMicroServices.OperationClasses
import DriverMicroServices.SplitStatements

/-! The start of the service executes a plan: the statements of all phases but the data phase at
once, and those of the data phase later, from jobs. Which of the two happens to an operation
depends on its phase and on its category, and these come from different classifiers. -/
namespace DriverMicroServices
open Texts.Regex Texts.Regex.Pattern LifecycleSplitter

/-- `(A)\s+(B)\s+["']?(\w+)` -/
def namedAfter (list : List String) : Pattern := words list (seq (plus isSpace) bareName)

def extractTableName (sql : String) : Option String :=
  ([["CREATE", "TABLE"], ["ALTER", "TABLE"], ["DROP", "TABLE"], ["INSERT", "INTO"], ["UPDATE"],
    ["DELETE", "FROM"]].findSome? fun list => (namedAfter list).search sql).map (·.headD "")

inductive BackfillJobStatus where
  | PENDING
  | PROCESSING
  | COMPLETED
  | FAILED
  | DEFERRED
deriving DecidableEq

/-- A row of `backfill_jobs`; the metadata repeat those of the operation. -/
structure BackfillJob where
  tableName : String
  migrationName : String
  sqlStatement : String
  totalRows : Nat
  processedRows : Nat := 0
  /-- Undefined in the copy of a worker whose last batch gave no id. -/
  lastProcessedId : Option Int := some 0
  status : BackfillJobStatus := .PENDING
  batchSize : Nat := 1000
  phase : PhaseName
  operationCategory : SqlCategory
  estimatedTime : Option String := none
  requiresDowntime : Option Bool := none
  retryCount : Nat := 0
  maxRetries : Nat := 5
  errorMessage : Option String := none
deriving DecidableEq

def calculateOptimalBatchSize (operation : SchemaOperation) : Nat :=
  let metadata := operation.metadata.getD {}
  if 0 < metadata.batchSize.getD 0 then metadata.batchSize.getD 0
  else
    match metadata.tableSize with
    | some .SMALL => 5000
    | some .MEDIUM => 2000
    | some .LARGE => 500
    | some .X_LARGE => 100
    | none => 1000

/-- The job of an operation, if it gets one. `rows` estimates the rows of a table. -/
def backfillJob (rows : String → Nat) (migrationId : String) (phase : PhaseName)
    (operation : SchemaOperation) : Option BackfillJob :=
  if operation.category = .DATA then
    (extractTableName operation.sql).map fun tableName =>
      { tableName
        migrationName := migrationId
        sqlStatement := operation.sql
        totalRows := rows tableName
        batchSize := calculateOptimalBatchSize operation
        phase
        operationCategory := operation.category
        estimatedTime := operation.metadata.bind (·.estimatedTime)
        requiresDowntime := operation.metadata.bind (·.requiresDowntime) }
  else none

def createBackfillJobs (rows : String → Nat) (migrationId : String) (plan : MigrationExecutionPlan) :
    List BackfillJob :=
  (plan.phases.filter (·.phase = .DATA)).flatMap fun phase =>
    phase.operations.filterMap (backfillJob rows migrationId phase.phase)

/-- Whether the database takes a statement, after those that it has taken. -/
abbrev Database := List String → String → Bool

/-- What has been done of the phases. -/
structure FastPhases where
  executed : List String := []
  executedPhases : List PhaseName := []
  skippedPhases : List PhaseName := []
deriving DecidableEq

/-- The operations of a phase; the error is the statement that the database refuses. -/
def executeOperations (takes : Database) (executed : List String) :
    List SchemaOperation → Except String (List String)
  | [] => .ok executed
  | operation :: rest =>
    if operation.category = .DATA then executeOperations takes executed rest
    else if takes executed operation.sql then executeOperations takes (executed ++ [operation.sql]) rest
    else .error operation.sql

def executePhases (takes : Database) (done : FastPhases) : List PhasePlan → Except String FastPhases
  | [] => .ok done
  | phase :: rest =>
    if phase.phase = .DATA then
      executePhases takes { done with skippedPhases := done.skippedPhases ++ [phase.phase] } rest
    else do
      let executed ← executeOperations takes done.executed phase.operations
      executePhases takes { done with
        executed := executed, executedPhases := done.executedPhases ++ [phase.phase] } rest

def executeFastPhases (takes : Database) (plan : MigrationExecutionPlan) : Except String FastPhases :=
  executePhases takes {} plan.phases

/-! ## No operation is lost -/

/-- Each operation of the phases is executed once, or there is one job for it. -/
def AllHandled (plan : MigrationExecutionPlan) (done : FastPhases) (jobs : List BackfillJob) : Prop :=
  (done.executed ++ jobs.map (·.sqlStatement)).Perm
    ((plan.phases.flatMap (·.operations)).map (·.sql))

/-- What the executor does with an operation of a phase. -/
def consumed (phase : PhaseName) (operation : SchemaOperation) : Bool :=
  if phase = .DATA then operation.category = .DATA && (extractTableName operation.sql).isSome
  else operation.category ≠ .DATA

/-- The operations of a plan with their phases. -/
def placements (phases : List PhasePlan) : List (PhaseName × SchemaOperation) :=
  phases.flatMap fun phase => phase.operations.map (phase.phase, ·)

section Boot

variable {takes : Database} {rows : String → Nat} {migrationId : String}

private theorem executeOperations_ok {executed result : List String} {operations : List SchemaOperation}
    (done : executeOperations takes executed operations = .ok result) :
    result = executed ++ (operations.filter fun operation => operation.category ≠ .DATA).map (·.sql) := by
  induction operations generalizing executed with
  | nil =>
    cases done
    simp
  | cons operation rest ih =>
    unfold executeOperations at done
    split at done
    · rename_i data
      simpa [data] using ih done
    · rename_i other
      split at done
      · simpa [other] using ih done
      · cases done

/-- What a start that goes through has executed. -/
theorem executePhases_ok {done result : FastPhases} {phases : List PhasePlan}
    (ran : executePhases takes done phases = .ok result) :
    result.executed = done.executed ++
      ((placements phases).filter fun placed => placed.1 ≠ .DATA && consumed placed.1 placed.2).map (·.2.sql) := by
  induction phases generalizing done with
  | nil =>
    cases ran
    simp [placements]
  | cons phase rest ih =>
    unfold executePhases at ran
    split at ran
    · rename_i data
      have later := ih ran
      simpa [placements, data, List.filter_map, Function.comp_def] using later
    · rename_i other
      cases ended : executeOperations takes done.executed phase.operations with
      | error message =>
        rw [ended] at ran
        cases ran
      | ok executed =>
        rw [ended] at ran
        have later := ih ran
        rw [executeOperations_ok ended] at later
        simpa [placements, other, consumed, List.filter_map, Function.comp_def] using later

private theorem backfillJob_isSome (rows : String → Nat) (migrationId : String) {phase : PhaseName} (data : phase = .DATA)
    (operation : SchemaOperation) :
    (backfillJob rows migrationId phase operation).map (·.sqlStatement) =
      if consumed phase operation then some operation.sql else none := by
  unfold backfillJob consumed
  by_cases category : operation.category = .DATA
  · cases extractTableName operation.sql <;> simp [category, data]
  · simp [category, data]

/-- What there are jobs for. -/
theorem createBackfillJobs_eq (plan : MigrationExecutionPlan) :
    (createBackfillJobs rows migrationId plan).map (·.sqlStatement) =
      ((placements plan.phases).filter fun placed =>
        placed.1 = .DATA && consumed placed.1 placed.2).map (·.2.sql) := by
  unfold createBackfillJobs placements
  induction plan.phases with
  | nil => rfl
  | cons phase rest ih =>
    by_cases data : phase.phase = .DATA
    · have here : (phase.operations.filterMap (backfillJob rows migrationId phase.phase)).map (·.sqlStatement) =
          (phase.operations.filter (consumed phase.phase)).map (·.sql) := by
        induction phase.operations with
        | nil => rfl
        | cons operation others ih =>
          have job := backfillJob_isSome rows migrationId data operation
          cases made : backfillJob rows migrationId phase.phase operation with
          | none =>
            rw [made] at job
            have lost : consumed phase.phase operation = false := by
              by_contra other
              simp [other] at job
            simpa [List.filterMap_cons, made, lost] using ih
          | some value =>
            rw [made] at job
            by_cases kept : consumed phase.phase operation
            · simp only [kept, if_true, Option.map_some, Option.some.injEq] at job
              simpa [List.filterMap_cons, made, kept, job] using ih
            · simp [kept] at job
      simp only [List.filter_cons, data, decide_true, if_true, List.flatMap_cons, List.map_append, List.filter_append,
        ih]
      rw [← data, here]
      simp [data, List.filter_map, Function.comp_def]
    · simpa [data, List.filter_map, Function.comp_def] using ih

private theorem placements_sql (phases : List PhasePlan) :
    (placements phases).map (·.2.sql) = (phases.flatMap (·.operations)).map (·.sql) := by
  simp [placements, List.map_flatMap, Function.comp_def]

theorem forall_placements {phases : List PhasePlan} {holds : PhaseName → SchemaOperation → Prop} :
    (∀ placed ∈ placements phases, holds placed.1 placed.2) ↔
      ∀ phase ∈ phases, ∀ operation ∈ phase.operations, holds phase.phase operation := by
  simp only [placements, List.mem_flatMap, List.mem_map]
  constructor
  · intro each phase member operation inPhase
    exact each (phase.phase, operation) ⟨phase, member, operation, inPhase, rfl⟩
  · rintro each placed ⟨phase, member, operation, inPhase, rfl⟩
    exact each phase member operation inPhase

/-- Executed statements and jobs are those of the consumed operations, in another order. -/
theorem consumed_perm {plan : MigrationExecutionPlan} {done : FastPhases}
    (ran : executeFastPhases takes plan = .ok done) :
    (done.executed ++ (createBackfillJobs rows migrationId plan).map (·.sqlStatement)).Perm
      (((placements plan.phases).filter fun placed => consumed placed.1 placed.2).map (·.2.sql)) := by
  rw [executePhases_ok ran, createBackfillJobs_eq, List.nil_append, ← List.map_append]
  apply List.Perm.map
  have parted := List.filter_append_perm (fun placed : PhaseName × SchemaOperation => placed.1 ≠ .DATA)
    ((placements plan.phases).filter fun placed => consumed placed.1 placed.2)
  simpa [List.filter_filter] using parted

/-- All operations are handled if and only if each one is consumed in its phase. -/
theorem allHandled_iff {plan : MigrationExecutionPlan} {done : FastPhases}
    (ran : executeFastPhases takes plan = .ok done) :
    AllHandled plan done (createBackfillJobs rows migrationId plan) ↔
      ∀ phase ∈ plan.phases, ∀ operation ∈ phase.operations, consumed phase.phase operation := by
  have handled := @consumed_perm takes rows migrationId _ _ ran
  have stated := @forall_placements plan.phases fun phase operation => consumed phase operation = true
  unfold AllHandled
  rw [← placements_sql, ← stated]
  constructor
  · intro all
    -- the consumed operations are as many as the operations, so none is missing
    have count := (handled.symm.trans all).length_eq
    rw [List.length_map, List.length_map] at count
    exact List.length_filter_eq_length_iff.mp count
  · intro each
    rwa [List.filter_eq_self.mpr each] at handled

end Boot

/-! ## The condition on an operation -/

/-- The table of the statement can be read. -/
def namesTable (sql : String) : Bool := (extractTableName sql).isSome

/-- The operation keeps its text. In the data phase it then needs its category and a table, and
elsewhere any other category. -/
def KeptIn (data : Bool) (operation : SchemaOperation) : Prop :=
  if data then operation.category = .DATA ∧ namesTable operation.sql else operation.category ≠ .DATA

/-- An operation that is replaced needs the table of the statement that works on the rows. -/
def NotLost (operation : SchemaOperation) : Prop :=
  if isNotNullViolation operation.sql then
    match readWithTable SplitPattern.addedColumn operation.sql with
    | some (table, [column, _]) =>
      namesTable ("UPDATE \"" ++ table ++ "\" SET \"" ++ column ++ "\" = 'TODO_BACKFILL' WHERE \"" ++ column ++
        "\" IS NULL")
    | _ => KeptIn false operation
  else if isColumnRename operation.sql then
    match readWithTable SplitPattern.renamedColumn operation.sql with
    | some (table, [oldCol, newCol]) =>
      namesTable ("UPDATE \"" ++ table ++ "\" SET \"" ++ newCol ++ "\" = \"" ++ oldCol ++ "\"")
    | _ => KeptIn false operation
  else if isTypeChange operation.sql then
    match readWithTable SplitPattern.retypedColumn operation.sql with
    | some (table, [column, newType]) =>
      namesTable ("UPDATE \"" ++ table ++ "\" SET \"" ++ (column ++ "_v2") ++ "\" = CAST(\"" ++ column ++
        "\" AS " ++ newType ++ ")")
    | _ => KeptIn false operation
  else if isEnumIndexDependency operation.sql then KeptIn (rebuildsEnum operation.sql) operation
  else KeptIn (classify operation.sql = .DATA) operation

/-- All that one operation adds to the phases is consumed there. -/
def Consumed (set : MigrationLifecycleSet) : Prop :=
  (∀ operation ∈ set.safe, consumed .EXPAND operation) ∧ (∀ operation ∈ set.data, consumed .DATA operation) ∧
    ∀ operation ∈ set.breaking, consumed .CONTRACT operation

section Rewrites

variable {typeMap : TypeMap} {operation : SchemaOperation}

theorem asItIs_consumed : Consumed (asItIs operation) ↔ KeptIn false operation := by
  simp [Consumed, asItIs, consumed, KeptIn]

private theorem rewriteNotNull_consumed :
    Consumed (rewriteNotNullViolation operation) ↔
      match readWithTable SplitPattern.addedColumn operation.sql with
      | some (table, [column, _]) =>
        namesTable ("UPDATE \"" ++ table ++ "\" SET \"" ++ column ++ "\" = 'TODO_BACKFILL' WHERE \"" ++ column ++
          "\" IS NULL")
      | _ => KeptIn false operation := by
  unfold rewriteNotNullViolation
  cases found : readWithTable SplitPattern.addedColumn operation.sql with
  | none => exact asItIs_consumed
  | some names =>
    obtain ⟨table, captures⟩ := names
    obtain ⟨-, column, type, rfl, -⟩ := addedColumn_sound found
    simp [Consumed, rewritten, consumed, namesTable]

private theorem rewriteRename_consumed :
    Consumed (rewriteColumnRename typeMap operation) ↔
      match readWithTable SplitPattern.renamedColumn operation.sql with
      | some (table, [oldCol, newCol]) =>
        namesTable ("UPDATE \"" ++ table ++ "\" SET \"" ++ newCol ++ "\" = \"" ++ oldCol ++ "\"")
      | _ => KeptIn false operation := by
  unfold rewriteColumnRename
  cases found : readWithTable SplitPattern.renamedColumn operation.sql with
  | none => exact asItIs_consumed
  | some names =>
    obtain ⟨table, captures⟩ := names
    obtain ⟨-, oldCol, newCol, rfl, -⟩ := renamedColumn_sound found
    simp [Consumed, rewritten, consumed, namesTable]

private theorem rewriteType_consumed :
    Consumed (rewriteTypeChange operation) ↔
      match readWithTable SplitPattern.retypedColumn operation.sql with
      | some (table, [column, newType]) =>
        namesTable ("UPDATE \"" ++ table ++ "\" SET \"" ++ (column ++ "_v2") ++ "\" = CAST(\"" ++ column ++
          "\" AS " ++ newType ++ ")")
      | _ => KeptIn false operation := by
  unfold rewriteTypeChange
  cases found : readWithTable SplitPattern.retypedColumn operation.sql with
  | none => exact asItIs_consumed
  | some names =>
    obtain ⟨table, captures⟩ := names
    obtain ⟨-, column, newType, rfl, -⟩ := retypedColumn_sound found
    simp [Consumed, rewritten, consumed, namesTable]

/-- The operations on the indexes are executed in any case. -/
theorem aroundIndexes_consumed (enumType word : String) :
    Consumed (aroundIndexes operation enumType word) ↔ KeptIn true operation := by
  simp [Consumed, aroundIndexes, rewritten, consumed, KeptIn, namesTable]

private theorem rewriteEnum_consumed :
    Consumed (rewriteEnumIndexDependency operation) ↔ KeptIn (rebuildsEnum operation.sql) operation := by
  rcases rewriteEnum_cases operation with ⟨stays, same⟩ | ⟨rebuilt, enumType, word, same⟩
  · rw [stays, same]
    exact asItIs_consumed
  · rw [rebuilt, same]
    exact aroundIndexes_consumed enumType word

private theorem place_consumed : Consumed (place typeMap operation) ↔ NotLost operation := by
  unfold place NotLost
  split
  · exact rewriteNotNull_consumed
  · split
    · exact rewriteRename_consumed
    · split
      · exact rewriteType_consumed
      · split
        · exact rewriteEnum_consumed
        · cases classify operation.sql <;> simp [Consumed, consumed, KeptIn, namesTable]

end Rewrites

/-- After the split, and when the start goes through, every operation of the phases is executed
once or has one job, if and only if no operation of the list is lost. -/
theorem no_operation_lost (takes : Database) (rows : String → Nat) (migrationId : String)
    (operations : List SchemaOperation) (typeMap : TypeMap) {done : FastPhases}
    (ran : executeFastPhases takes (buildFromPhases (split operations typeMap) operations) = .ok done) :
    AllHandled (buildFromPhases (split operations typeMap) operations) done
        (createBackfillJobs rows migrationId (buildFromPhases (split operations typeMap) operations)) ↔
      ∀ operation ∈ operations, NotLost operation := by
  have stated := @forall_split (fun phase operation => consumed phase operation = true) typeMap operations
  rw [allHandled_iff ran]
  refine stated.trans (forall₂_congr fun operation _ => ?_)
  exact place_consumed

/-- A column that gets a value everywhere, and the same with the name of the table in quotes. -/
def fillColumn : List SchemaOperation := classifyOperations ["UPDATE users SET name = 'x'"]

def fillQuoted : List SchemaOperation := classifyOperations ["UPDATE \"users\" SET \"name\" = 'x'"]

theorem fill_handled :
    AllHandled (buildFromPhases (split fillColumn) fillColumn) { skippedPhases := [.DATA] }
        (createBackfillJobs (fun _ => 10) "m" (buildFromPhases (split fillColumn) fillColumn)) ∧
      ∀ operation ∈ fillColumn, NotLost operation := by
  have ran : executeFastPhases (fun _ _ => true) (buildFromPhases (split fillColumn) fillColumn) =
      .ok { skippedPhases := [.DATA] } := by rfl
  have handled : AllHandled (buildFromPhases (split fillColumn) fillColumn) { skippedPhases := [.DATA] }
      (createBackfillJobs (fun _ => 10) "m" (buildFromPhases (split fillColumn) fillColumn)) := by
    unfold AllHandled
    decide +kernel
  exact ⟨handled, (no_operation_lost (fun _ _ => true) (fun _ => 10) "m" fillColumn [] ran).mp handled⟩

/-- The classifier does not know the quoted name, while the splitter looks for the word alone. -/
theorem update_lost :
    let plan := buildFromPhases (split fillQuoted) fillQuoted
    executeFastPhases (fun _ _ => true) plan = .ok { skippedPhases := [.DATA] } ∧
      ¬ AllHandled plan { skippedPhases := [.DATA] } (createBackfillJobs (fun _ => 10) "m" plan) := by
  constructor
  · rfl
  · unfold AllHandled
    decide +kernel

end DriverMicroServices
