import DriverMicroServices.BackfillRuns

/-! The readiness of a schema difference. A check that finds the linked job completed and its column
converted marks the difference, and the checks after it answer from the mark. -/
namespace DriverMicroServices.Backfill
open Transitions Tables Tables.Keyed Texts.Regex Texts.Regex.Pattern

inductive SchemaDifferenceStatus where
  | DRIFT_DETECTED
  | BACKFILL_SCHEDULED
  | BACKFILLING
  | READY_FOR_MIGRATION
  | MIGRATED
deriving DecidableEq

inductive Readiness where
  | PENDING
  | BACKFILLING
  | READY_FOR_MIGRATION
  | MIGRATED
deriving DecidableEq

inductive ValidationStatus where
  | PENDING
  | PASSED
  | FAILED
deriving DecidableEq

structure SchemaDifference where
  status : SchemaDifferenceStatus := .DRIFT_DETECTED
  readiness : Readiness := .PENDING
  validationStatus : ValidationStatus := .PENDING
  backfillJobId : Option String
  /-- The id of the job that `backfill_job_id` refers to. -/
  backfillJob : Option String
deriving DecidableEq

structure MigrationReadinessStatus where
  isReady : Bool
  status : Readiness
  backfillJobId : Option String := none
  validationStatus : Option ValidationStatus := none
  validationErrors : Option (List String) := none
deriving DecidableEq

/-! ## A check -/

/-- `if (backfillJob.errorMessage)` -/
def hasError (job : BackfillJob) : Bool := job.errorMessage.any (· ≠ "")

/-- The errors of `validateBackfillCompletion` that the copy of the job shows. -/
def completionErrors (backfillJob : BackfillJob) : List String :=
  (if backfillJob.processedRows < backfillJob.totalRows then
    [s!"Incomplete processing: {backfillJob.processedRows}/{backfillJob.totalRows} rows processed"] else []) ++
  if hasError backfillJob then ["Processing errors: " ++ backfillJob.errorMessage.getD ""] else []

/-- What `checkReadiness` does after its first read: it answers, or it validates a job with these errors. -/
def checkReadiness (schemaDiff : SchemaDifference) (row : BackfillJob) : MigrationReadinessStatus ⊕ List String :=
  if schemaDiff.status = .MIGRATED then .inl { isReady := false, status := .MIGRATED }
  else if schemaDiff.readiness = .READY_FOR_MIGRATION ∧ schemaDiff.validationStatus = .PASSED then
    .inl { isReady := true, status := .READY_FOR_MIGRATION, backfillJobId := schemaDiff.backfillJobId
           validationStatus := some .PASSED }
  else
    match schemaDiff.backfillJob with
    | none => .inl { isReady := false, status := .PENDING }
    | some id =>
      match row.status with
      | .PROCESSING => .inl { isReady := false, status := .BACKFILLING, backfillJobId := some id }
      | .COMPLETED => .inr (completionErrors row)
      | .PENDING | .FAILED | .DEFERRED =>
        .inl { isReady := false, status := .BACKFILLING, backfillJobId := some id
               validationStatus := some .FAILED, validationErrors := some ["Backfill job failed"] }

structure JobDetails where
  tableName : String
  columnName : String
  targetType : String
deriving DecidableEq

/-- `UPDATE\s+(\w+)\s+SET\s+(\w+)\s*=` -/
def updateTarget : Pattern :=
  text "UPDATE" (seq (plus isSpace) (seq (group (plus isWord)) (seq (plus isSpace)
    (text "SET" (seq (plus isSpace) (seq (group (plus isWord)) (seq (many isSpace) (one (· = '=')))))))))

/-- `targetType` is that of the metadata of the job. -/
def getBackfillJobDetails (targetType : Option String) (row : BackfillJob) : Except String JobDetails :=
  match updateTarget.search row.sqlStatement with
  | some [tableName, columnName] =>
    .ok { tableName, columnName, targetType := (targetType.filter (· ≠ "")).getD "uuid" }
  | _ => .error "Could not extract table and column from backfill SQL"

/-- The queries of `validateColumnData`. -/
inductive ColumnQuery where
  | nullCount
  | invalidCount
  | emptyCount
deriving DecidableEq

def columnQueries (targetType : String) : List ColumnQuery :=
  if targetType.toLower = "uuid" then [.nullCount, .invalidCount, .emptyCount] else [.nullCount]

def ColumnQuery.error (columnName : String) (count : Nat) : ColumnQuery → String
  | .nullCount => s!"Found {count} NULL values in converted column {columnName}"
  | .invalidCount => s!"Found {count} invalid UUID values in column {columnName}"
  | .emptyCount => s!"Found {count} empty string values in column {columnName}"

/-- The type of a column, as far as the queries look at it. -/
inductive ColumnType where
  | text
  | other (name : String)
deriving DecidableEq

/-- A column with the texts of its values; `NULL` has none. -/
structure Column where
  type : ColumnType
  values : List (Option String)
deriving DecidableEq

/-- The columns of the database, by the names that a query writes for the table and the column. -/
abbrev Data := String → String → Option Column

def isHex (c : Char) : Bool := ('0' ≤ c && c ≤ '9') || ('a' ≤ c && c ≤ 'f')

/-- `^[0-9a-f]{8}-[0-9a-f]{4}-[1-5][0-9a-f]{3}-[89ab][0-9a-f]{3}-[0-9a-f]{12}$` -/
def uuidShape : List (Char → Bool) :=
  List.replicate 8 isHex ++ [(· == '-')] ++ List.replicate 4 isHex ++ [(· == '-')] ++
    [fun c => '1' ≤ c && c ≤ '5'] ++ List.replicate 3 isHex ++ [(· == '-')] ++
    [fun c => c == '8' || c == '9' || c == 'a' || c == 'b'] ++ List.replicate 3 isHex ++ [(· == '-')] ++ List.replicate 12 isHex

def isUuid (value : String) : Bool :=
  value.toList.length = uuidShape.length && (List.zipWith (fun fits c => fits c) uuidShape value.toList).all id

/-- What a query answers. A pattern and an empty text are for columns with texts only. -/
def ColumnQuery.run (columnName : String) (column : Option Column) : ColumnQuery → Except String Nat
  | query =>
    match column, query with
    | none, _ => .error s!"column \"{columnName}\" does not exist"
    | some column, .nullCount => .ok (column.values.countP (· = none))
    | some ⟨.text, values⟩, .invalidCount => .ok (values.countP fun value => value.any (!isUuid ·))
    | some ⟨.text, values⟩, .emptyCount => .ok (values.countP (· = some ""))
    | some ⟨.other name, _⟩, .invalidCount => .error s!"operator does not exist: {name} !~ unknown"
    | some ⟨.other name, _⟩, .emptyCount => .error s!"invalid input syntax for type {name}: \"\""

/-- Where a check stands between two of its queries. `errors` are those of the job, `columnErrors`
those of the column. -/
inductive CheckStage where
  /-- Before `getBackfillJobDetails`. -/
  | validating (errors : List String)
  /-- Before the next query of `validateColumnData`. -/
  | counting (errors : List String) (details : JobDetails) (query : ColumnQuery) (later : List ColumnQuery)
      (columnErrors : List String)
  /-- Before the update of the difference. -/
  | storing

/-- The end of `validateBackfillCompletion`: the check has to mark the difference, or it answers. -/
def validated (id : Option String) : List String → CheckStage ⊕ MigrationReadinessStatus
  | [] => .inl .storing
  | error :: rest =>
    .inr { isReady := false, status := .BACKFILLING, backfillJobId := id, validationStatus := some .FAILED
           validationErrors := some (error :: rest) }

/-- The next query of a check, over the row of the job and the columns of the database. -/
def CheckStage.query (targetType : Option String) (id : Option String) (row : BackfillJob) (data : Data) :
    CheckStage → Option (CheckStage ⊕ MigrationReadinessStatus)
  | .validating errors =>
    match getBackfillJobDetails targetType row with
    | .ok details =>
      match columnQueries details.targetType with
      | query :: later => some (.inl (.counting errors details query later []))
      | [] => some (validated id errors)
    | .error message => some (validated id ["Validation failed: " ++ message])
  | .counting errors details query later columnErrors =>
    match query.run details.columnName (data details.tableName details.columnName) with
    | .error message => some (validated id (errors ++ ["Column validation failed: " ++ message]))
    | .ok count =>
      let found := if 0 < count then columnErrors ++ [query.error details.columnName count] else columnErrors
      match later with
      | next :: rest => some (.inl (.counting errors details next rest found))
      | [] => some (validated id (errors ++ found))
  | .storing => none

/-- The connection fails at the next query of a check; the update throws out of `checkReadiness`. -/
def CheckStage.fail (id : Option String) (message : String) :
    CheckStage → Option (CheckStage ⊕ MigrationReadinessStatus)
  | .validating _ => some (validated id ["Validation failed: " ++ message])
  | .counting errors _ _ _ _ => some (validated id (errors ++ ["Column validation failed: " ++ message]))
  | .storing => none

/-! ## Runs -/

/-- The job, the difference, the data of the database, and the checks that are going on. -/
structure ReadinessState where
  job : JobState
  difference : SchemaDifference
  data : Data
  checks : List (Nat × CheckStage) := []
  /-- What the last step has answered. -/
  answer : Option MigrationReadinessStatus := none

inductive ReadinessAction where
  /-- A step of the workers and the administrators. -/
  | job (action : JobAction)
  | checkReadiness (caller : Nat)
  | query (caller : Nat)
  | queryFailed (caller : Nat) (message : String)
  | storeReadiness (caller : Nat)
  | storeFailed (caller : Nat)
  | markAsMigrated

/-- The action commits a batch. -/
def JobAction.commits : JobAction → Bool
  | .call _ (.batch _ _) => true
  | _ => false

/-- What the database makes of its columns when a batch of a job updates the rows with these ids. -/
abbrev BatchWrites := BackfillJob → List Int → Data → Data

/-- The columns after a step of the workers and the administrators. -/
def committed (writes : BatchWrites) (s : JobState) (data : Data) : JobAction → Data
  | .call worker (.batch _ returned) => (get s.calls worker).elim data fun stage => writes stage.job returned data
  | _ => data

/-- A check goes on or answers. -/
def ReadinessState.proceed (s : ReadinessState) (caller : Nat) :
    CheckStage ⊕ MigrationReadinessStatus → ReadinessState
  | .inl stage => { s with checks := put s.checks caller stage, answer := none }
  | .inr status => { s with checks := remove s.checks caller, answer := some status }

def readinessStep (table : Keyset Int) (writes : BatchWrites) (targetType : Option String) (s : ReadinessState) :
    ReadinessAction → Option ReadinessState
  | .job action => do
    let job ← jobStep table s.job action
    some { s with job, data := committed writes s.job s.data action, answer := none }
  | .checkReadiness caller =>
    if (get s.checks caller).isSome then none
    else
      match checkReadiness s.difference s.job.row with
      | .inl status => some { s with answer := some status }
      | .inr errors => some (s.proceed caller (.inl (.validating errors)))
  | .query caller => do
    let stage ← get s.checks caller
    let result ← stage.query targetType s.difference.backfillJob s.job.row s.data
    some (s.proceed caller result)
  | .queryFailed caller message => do
    let stage ← get s.checks caller
    let result ← stage.fail s.difference.backfillJob message
    some (s.proceed caller result)
  | .storeReadiness caller =>
    match get s.checks caller with
    | some .storing =>
      some { s with
        difference := { s.difference with readiness := .READY_FOR_MIGRATION, validationStatus := .PASSED }
        checks := remove s.checks caller
        answer := some {
          isReady := true, status := .READY_FOR_MIGRATION, backfillJobId := s.difference.backfillJob
          validationStatus := some .PASSED } }
    | _ => none
  | .storeFailed caller =>
    match get s.checks caller with
    | some .storing => some { s with checks := remove s.checks caller, answer := none }
    | _ => none
  | .markAsMigrated =>
    some { s with
      difference := { s.difference with status := .MIGRATED, readiness := .MIGRATED, validationStatus := .PASSED }
      answer := none }

/-- The difference is detected, and a job is created for it. -/
def ReadinessState.created (job : BackfillJob) (difference : SchemaDifference) (data : Data) : ReadinessState :=
  { job := .created job
    difference := { difference with readiness := .PENDING, validationStatus := .PENDING }
    data }

end DriverMicroServices.Backfill
