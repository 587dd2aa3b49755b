import DriverMicroServices.MigrationBoot
import DriverMicroServices.RuntimeClasses
import DriverMicroServices.SchemaDrift

/-! The convergence of the schema at the start of the service. What the diff hands on as the way up
are comments, which the database executes without effect. -/
namespace DriverMicroServices.SchemaOrchestrator
open Drift SchemaClassification

/-- The text has no end of a line in it. -/
def OneLine (text : String) : Prop := ∀ c ∈ text.toList, c ≠ '\n' ∧ c ≠ '\r'

instance (text : String) : Decidable (OneLine text) :=
  decidable_of_iff (text.toList.all fun c => c ≠ '\n' && c ≠ '\r') (by simp [OneLine])

/-- The database and what else a convergence meets. `tables` are the base tables after the statements
that have been executed, `views` the other relations, and a comment leaves both as they are. -/
structure SchemaDatabase where
  takes : Database
  tables : List String → List String
  views : List String → List String
  comment : ∀ executed text, OneLine text → takes executed ("--" ++ text) = true ∧
    tables (executed ++ ["--" ++ text]) = tables executed ∧ views (executed ++ ["--" ++ text]) = views executed
  /-- What the drift engine finds. -/
  checks : DriftChecks
  rows : String → Nat
  savesJobs : Bool

structure SchemaDiff where
  up : List String
  down : List String
  newTables : List String
  droppedTables : List String

/-- `name.startsWith(start)` -/
def startsWith (start name : String) : Bool := start.toList.isPrefixOf name.toList

def publicTable (name : String) : Bool :=
  !startsWith "pg_" name && !startsWith "information_" name && !startsWith "sql_" name && name ≠ "_migrations" &&
    name ≠ "_migrations_lock"

def detectSchemaDiff (lower : String → String) (entities : List EntityMetadata) (tables : List String) : SchemaDiff :=
  let publicTables := tables.filter publicTable
  let newTables := (entities.map (·.tableName)).filter fun name => normalizeTableName lower name ∉ publicTables
  let droppedTables := publicTables.filter fun name =>
    normalizeTableName lower name ∉ entities.map fun metadata => normalizeTableName lower metadata.tableName
  { up := newTables.map ("-- CREATE TABLE " ++ ·) ++ droppedTables.map ("-- DROP TABLE " ++ ·)
    down := newTables.map ("-- DROP TABLE " ++ ·) ++ droppedTables.map ("-- CREATE TABLE " ++ ·)
    newTables, droppedTables }

/-! ## Validation -/

inductive RiskSeverity where
  | LOW
  | MEDIUM
  | CRITICAL
deriving DecidableEq

inductive RiskCategory where
  | PERFORMANCE
  | DATA_LOSS
  | COMPATIBILITY
deriving DecidableEq

structure RiskReport where
  operation : String
  severity : RiskSeverity
  category : RiskCategory
  description : String
  requiresApproval : Bool

def analyzeRisk (stmt : SchemaOperation) : RiskReport :=
  match stmt.category with
  | .BREAKING => ⟨stmt.sql, .CRITICAL, .DATA_LOSS, stmt.reason, true⟩
  | .DATA => ⟨stmt.sql, .MEDIUM, .PERFORMANCE, stmt.reason, false⟩
  | .SAFE => ⟨stmt.sql, .LOW, .PERFORMANCE, stmt.reason, false⟩
  | .FIX => ⟨stmt.sql, .MEDIUM, .COMPATIBILITY, stmt.reason, false⟩

def breakingChanges (classified : List SchemaOperation) : List String :=
  (classified.filter (·.category = .BREAKING)).map (·.sql)

structure PlanValidation where
  errors : List String
  warnings : List String

def validateMigrationPlan (classified : List SchemaOperation) : PlanValidation :=
  let criticalRisks := (classified.map analyzeRisk).filter (·.severity = .CRITICAL)
  { errors :=
      (if criticalRisks.isEmpty then []
        else ["Critical risks detected: " ++ ", ".intercalate (criticalRisks.map (·.operation))]) ++
      (if (breakingChanges classified).isEmpty then []
        else ["Breaking compatibility changes detected: " ++ ", ".intercalate (breakingChanges classified)])
    warnings :=
      if needsPhaseDecomposition classified then
        ["Mixed operation types detected - consider splitting into separate migrations"] else [] }

/-! ## Execution -/

def runtimePhase (classified : List SchemaOperation) (phase : PhaseName) (category : SqlCategory) : PhasePlan :=
  let operations := classified.filter (·.category = category)
  { phase, operations, order := operations.map (·.sql) }

def runtimePlan (classified : List SchemaOperation) : MigrationExecutionPlan where
  operations := classified
  phases := [runtimePhase classified .EXPAND .SAFE, runtimePhase classified .DATA .DATA,
    runtimePhase classified .CONTRACT .BREAKING]
  executionOrder := classified.map (·.sql)

/-- The statements that have been executed. -/
def executeMigration (database : SchemaDatabase) (migrationId : String) (classified : List SchemaOperation) :
    Except String (List String) :=
  (executeFastPhases database.takes (runtimePlan classified)).bind fun done =>
    if done.skippedPhases ≠ [] ∧ createBackfillJobs database.rows migrationId (runtimePlan classified) ≠ [] ∧
        database.savesJobs = false then .error "Migration execution failed"
    else .ok done.executed

/-- A call that has the lock. -/
def converge (upper : UpperCase) (lower : String → String) (database : SchemaDatabase) (migrationId : String)
    (entities : List EntityMetadata) : Except String (List String) :=
  (checkFullDrift database.checks).bind fun _ =>
    let diff := detectSchemaDiff lower entities (database.tables [])
    if diff.up.length = 0 then .ok []
    else
      let classified := SchemaClassification.classifyOperations upper diff.up
      let validation := validateMigrationPlan classified
      if validation.errors ≠ [] then
        .error ("Migration validation failed: " ++ ", ".intercalate validation.errors)
      else executeMigration database migrationId classified

/-- No table is new, and none is dropped. -/
def SchemaDiff.Converged (diff : SchemaDiff) : Prop := diff.newTables = [] ∧ diff.droppedTables = []

/-- On any database with these tables: a convergence that does not fail leaves no difference. -/
def Converges (upper : UpperCase) (lower : String → String) (entities : List EntityMetadata) (tables : List String) :
    Prop :=
  ∀ database migrationId executed, database.tables [] = tables →
    converge upper lower database migrationId entities = .ok executed →
    (detectSchemaDiff lower entities (database.tables executed)).Converged

/-! ## What reaches the database -/

section Convergence

variable {upper : UpperCase} {lower : String → String} {database : SchemaDatabase} {migrationId : String}
  {entities : List EntityMetadata} {tables executed : List String}

private theorem analyzeRisk_critical (operation : SchemaOperation) :
    (analyzeRisk operation).severity = .CRITICAL ↔ operation.category = .BREAKING := by
  unfold analyzeRisk
  cases operation.category <;> simp

/-- A plan is valid if and only if nothing in it is breaking. -/
theorem validateMigrationPlan_errors (classified : List SchemaOperation) :
    (validateMigrationPlan classified).errors = [] ↔ ∀ operation ∈ classified, operation.category ≠ .BREAKING := by
  have risks : (classified.map analyzeRisk).filter (·.severity = .CRITICAL) = [] ↔
      ∀ operation ∈ classified, operation.category ≠ .BREAKING := by
    simp [analyzeRisk_critical]
  have breaking : breakingChanges classified = [] ↔ ∀ operation ∈ classified, operation.category ≠ .BREAKING := by
    simp [breakingChanges]
  rw [validateMigrationPlan, List.append_eq_nil_iff]
  constructor
  · rintro ⟨-, none⟩
    rw [← breaking]
    by_contra some
    simp [List.isEmpty_iff, some] at none
  · intro none
    simp [risks.mpr none, breaking.mpr none]

/-- What a convergence that does not fail has done. -/
theorem converge_ok (resolved : converge upper lower database migrationId entities = .ok executed) :
    (detectSchemaDiff lower entities (database.tables [])).up = [] ∧ executed = [] ∨
      (detectSchemaDiff lower entities (database.tables [])).up ≠ [] ∧
        (∀ statement ∈ (detectSchemaDiff lower entities (database.tables [])).up,
          (classifyOperation upper statement).category ≠ .BREAKING) ∧
        executeMigration database migrationId
          (SchemaClassification.classifyOperations upper (detectSchemaDiff lower entities (database.tables [])).up) =
            .ok executed := by
  unfold converge at resolved
  cases checked : checkFullDrift database.checks with
  | error message =>
    rw [checked] at resolved
    cases resolved
  | ok drift =>
    rw [checked] at resolved
    simp only [Except.bind] at resolved
    split at resolved
    · rename_i nothing
      exact .inl ⟨List.eq_nil_of_length_eq_zero nothing, (Except.ok.inj resolved).symm⟩
    · rename_i some
      split at resolved
      · cases resolved
      · rename_i valid
        rw [not_not, validateMigrationPlan_errors] at valid
        refine .inr ⟨fun nothing => some (congrArg List.length nothing), fun statement member => ?_, resolved⟩
        exact valid _ (List.mem_map_of_mem member)

/-- A plan places the statements of the diff only. -/
theorem mem_up_of_placed {up : List String} {placed : PhaseName × SchemaOperation}
    (inPlan : placed ∈ placements (runtimePlan (SchemaClassification.classifyOperations upper up)).phases) :
    placed.2.sql ∈ up := by
  simp only [placements, runtimePlan, runtimePhase, List.flatMap_cons, List.flatMap_nil, List.append_nil,
    List.mem_append, List.mem_map, List.mem_filter] at inPlan
  have listed : placed.2 ∈ SchemaClassification.classifyOperations upper up := by
    rcases inPlan with ⟨operation, ⟨member, -⟩, rfl⟩ | ⟨operation, ⟨member, -⟩, rfl⟩ | ⟨operation, ⟨member, -⟩, rfl⟩ <;>
      exact member
  obtain ⟨statement, member, same⟩ := List.mem_map.mp listed
  rw [← same, classifyOperation_sql]
  exact member

/-- A statement of the diff is a comment, if the name of the table has one line. -/
theorem comment_of_up (plain : ∀ name ∈ (detectSchemaDiff lower entities tables).newTables ++
      (detectSchemaDiff lower entities tables).droppedTables, OneLine name)
    {statement : String} (member : statement ∈ (detectSchemaDiff lower entities tables).up) :
    ∃ text, OneLine text ∧ statement = "--" ++ text := by
  have comment {what name : String} (short : OneLine what) (plain : OneLine name) : OneLine (what ++ name) := by
    intro c inside
    rw [String.toList_append, List.mem_append] at inside
    exact inside.elim (short c) (plain c)
  rcases List.mem_append.mp member with created | dropped
  · obtain ⟨name, listed, rfl⟩ := List.mem_map.mp created
    refine ⟨" CREATE TABLE " ++ name, comment (by decide) (plain name (List.mem_append_left _ listed)), ?_⟩
    rw [← String.append_assoc]
    rfl
  · obtain ⟨name, listed, rfl⟩ := List.mem_map.mp dropped
    refine ⟨" DROP TABLE " ++ name, comment (by decide) (plain name (List.mem_append_right _ listed)), ?_⟩
    rw [← String.append_assoc]
    rfl

theorem comments_keep {done texts : List String} (comments : ∀ text ∈ texts, ∃ rest, OneLine rest ∧ text = "--" ++ rest) :
    database.tables (done ++ texts) = database.tables done ∧ database.views (done ++ texts) = database.views done := by
  induction texts generalizing done with
  | nil => simp
  | cons text rest ih =>
    obtain ⟨said, short, rfl⟩ := comments text (by simp)
    have later := @ih (done ++ ["--" ++ said]) fun text member => comments text (by simp [member])
    rw [List.append_cons, later.1, later.2]
    exact (database.comment done said short).2

/-! ## When a convergence converges -/

/-- A database that takes each statement, and whose tables stay as they are. -/
def unmoved (tables : List String) : SchemaDatabase where
  takes := fun _ _ => true
  tables := fun _ => tables
  views := fun _ => []
  comment := fun _ _ _ => ⟨rfl, rfl, rfl⟩
  checks := { showMigrations := .ok false, detailedDiff := .error "" }
  rows := fun _ => 0
  savesJobs := true

private theorem executeOperations_unmoved (executed : List String) (operations : List SchemaOperation) :
    ∃ result, executeOperations (fun _ _ => true) executed operations = .ok result := by
  induction operations generalizing executed with
  | nil => exact ⟨executed, rfl⟩
  | cons operation rest ih =>
    unfold executeOperations
    split
    · exact ih executed
    · exact ih _

private theorem executePhases_unmoved (done : FastPhases) (phases : List PhasePlan) :
    ∃ result, executePhases (fun _ _ => true) done phases = .ok result := by
  induction phases generalizing done with
  | nil => exact ⟨done, rfl⟩
  | cons phase rest ih =>
    unfold executePhases
    split
    · exact ih _
    · obtain ⟨executed, ran⟩ := executeOperations_unmoved done.executed phase.operations
      rw [ran]
      exact ih _

/-- Where nothing in the diff is breaking, a convergence of this database does not fail. -/
theorem converge_unmoved (upper : UpperCase) (lower : String → String) (migrationId : String)
    (entities : List EntityMetadata) (tables : List String)
    (safe : ∀ statement ∈ (detectSchemaDiff lower entities tables).up,
      (classifyOperation upper statement).category ≠ .BREAKING) :
    ∃ executed, converge upper lower (unmoved tables) migrationId entities = .ok executed := by
  have valid : (validateMigrationPlan (SchemaClassification.classifyOperations upper
      (detectSchemaDiff lower entities tables).up)).errors = [] := by
    rw [validateMigrationPlan_errors]
    intro operation member
    obtain ⟨statement, listed, rfl⟩ := List.mem_map.mp member
    exact safe statement listed
  obtain ⟨phases, ran⟩ := executePhases_unmoved {} (runtimePlan (SchemaClassification.classifyOperations upper
    (detectSchemaDiff lower entities tables).up)).phases
  have fast : executeMigration (unmoved tables) migrationId (SchemaClassification.classifyOperations upper
      (detectSchemaDiff lower entities tables).up) = .ok phases.executed := by
    unfold executeMigration executeFastPhases
    rw [show (unmoved tables).takes = fun _ _ => true from rfl, ran]
    simp [Except.bind, unmoved]
  have started : converge upper lower (unmoved tables) migrationId entities =
      if (detectSchemaDiff lower entities tables).up.length = 0 then .ok []
      else executeMigration (unmoved tables) migrationId (SchemaClassification.classifyOperations upper
        (detectSchemaDiff lower entities tables).up) := by
    exact if_congr Iff.rfl rfl (if_neg (not_not.mpr valid))
  rw [started, fast]
  split
  · exact ⟨_, rfl⟩
  · exact ⟨_, rfl⟩

/-- A convergence that does not fail has converged if and only if no table is new, or it fails: for a
dropped table, or for a new one with a name that reads as a breaking statement. -/
theorem converges_iff (upper : UpperCase) (lower : String → String) (entities : List EntityMetadata)
    (tables : List String) :
    Converges upper lower entities tables ↔
      (detectSchemaDiff lower entities tables).newTables = [] ∨
        (detectSchemaDiff lower entities tables).droppedTables ≠ [] ∨
        ∃ name ∈ (detectSchemaDiff lower entities tables).newTables,
          (classifyOperation upper ("-- CREATE TABLE " ++ name)).category = .BREAKING := by
  constructor
  · intro converges
    by_contra stays
    obtain ⟨created, dropped, safe⟩ : _ ∧ _ ∧ _ := by simpa only [not_or] using stays
    rw [not_not] at dropped
    obtain ⟨executed, resolved⟩ := converge_unmoved upper lower "" entities tables (by
      intro statement member breaking
      rcases List.mem_append.mp member with new | old
      · obtain ⟨name, listed, rfl⟩ := List.mem_map.mp new
        exact safe ⟨name, listed, breaking⟩
      · obtain ⟨name, listed, -⟩ := List.mem_map.mp old
        rw [show List.filter _ _ = [] from dropped] at listed
        cases listed)
    exact created (converges (unmoved tables) "" executed rfl resolved).1
  · rintro condition database migrationId executed rfl resolved
    rcases converge_ok resolved with ⟨nothing, rfl⟩ | ⟨some, safe, -⟩
    · have parts := List.append_eq_nil_iff.mp nothing
      exact ⟨List.map_eq_nil_iff.mp parts.1, List.map_eq_nil_iff.mp parts.2⟩
    · -- a convergence with a breaking statement fails
      exfalso
      have kept : (detectSchemaDiff lower entities (database.tables [])).droppedTables = [] := by
        refine List.eq_nil_iff_forall_not_mem.mpr fun name listed => ?_
        exact safe _ (List.mem_append_right _ (List.mem_map_of_mem listed)) (dropped_breaking upper name)
      rcases condition with created | dropped | ⟨name, listed, breaking⟩
      · refine some (List.append_eq_nil_iff.mpr ⟨?_, ?_⟩)
        · exact List.map_eq_nil_iff.mpr created
        · exact List.map_eq_nil_iff.mpr kept
      · exact dropped kept
      · exact safe _ (List.mem_append_left _ (List.mem_map_of_mem listed)) breaking

/-- One entity, and no table: the convergence resolves, and the table is still new. -/
theorem comment_creates_nothing :
    let entities : List EntityMetadata := [{ tableName := "users", columns := [] }]
    let executed := ["-- CREATE TABLE users"]
    converge UpperCase.basic String.toLower (unmoved []) "runtime_1" entities = .ok executed ∧
      (detectSchemaDiff String.toLower entities ((unmoved []).tables executed)).newTables = ["users"] ∧
      ¬ Converges UpperCase.basic String.toLower entities [] := by
  intro entities executed
  have resolved : converge UpperCase.basic String.toLower (unmoved []) "runtime_1" entities = .ok executed := by
    decide
  have remains : (detectSchemaDiff String.toLower entities ((unmoved []).tables executed)).newTables = ["users"] := by
    decide
  refine ⟨resolved, remains, fun converges => ?_⟩
  have converged := converges (unmoved []) "runtime_1" executed rfl resolved
  exact absurd (remains.symm.trans converged.1) (by decide)

end Convergence

end DriverMicroServices.SchemaOrchestrator
