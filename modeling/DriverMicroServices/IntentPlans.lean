import DriverMicroServices.IntentParsing
import DriverMicroServices.SchemaOperations

/-! The translator of intents. The phases of a type are written with templates over the payload,
and a template has no text where one of its values has none. -/
namespace DriverMicroServices.Intents
open Texts Texts.Json Tables.Keyed

variable {ν : Type}

/-- A part of a template. `rows` is `Math.ceil(value / divisor)`, `joinedOr` takes another text
where there is nothing to join. -/
inductive Part (ν : Type) where
  | lit (text : String)
  | field (value : Value ν)
  | joined (value : Value ν) (separator : String)
  | joinedOr (value : Value ν) (separator other : String)
  | rows (value : Value ν) (divisor : Nat)

abbrev Template (ν : Type) := List (Part ν)

inductive OperationType where
  | SQL | BACKFILL | VALIDATION | CLEANUP
deriving DecidableEq

/-- `IntentOperation`, with templates or texts. -/
structure IntentOperation (τ : Type) where
  type : OperationType
  sql : τ
  description : τ
  estimatedTime : Option τ := none
  requiresApproval : Bool := false

/-- `IntentPhase`, with templates or texts. -/
structure IntentPhase (τ : Type) where
  phase : PhaseName
  operations : List (IntentOperation τ)
  dependencies : List PhaseName
  estimatedDuration : τ
  rollbackOperations : List (IntentOperation τ)

structure IntentTranslation where
  phases : List (IntentPhase String)
  estimatedTime : String
  requiredApprovals : List String
  rollbackPlan : List String

variable [Numerals ν]

namespace Part

def text : Part ν → Option String
  | lit text => some text
  | field value => render value
  | joined value separator => join value separator
  | joinedOr value separator other =>
    if isNullish value then some other
    else (join value separator).map fun text => if text = "" then other else text
  | rows value divisor =>
    match value with
    | none => some (Numerals.ceilQuotient (none : Option ν) divisor)
    | some value => value.number.map (Numerals.ceilQuotient · divisor)

/-- A missing field that is written into a text. -/
def isMissing : Part ν → Bool
  | field none | rows none _ => true
  | _ => false

end Part

def Template.text (template : Template ν) : Option String := (template.mapM Part.text).map String.join

def IntentOperation.write (operation : IntentOperation (Template ν)) : Option (IntentOperation String) := do
  let sql ← Template.text operation.sql
  let description ← Template.text operation.description
  let estimatedTime ← operation.estimatedTime.mapM Template.text
  some { type := operation.type, sql, description, estimatedTime, requiresApproval := operation.requiresApproval }

def IntentPhase.write (phase : IntentPhase (Template ν)) : Option (IntentPhase String) := do
  let operations ← phase.operations.mapM IntentOperation.write
  let estimatedDuration ← Template.text phase.estimatedDuration
  let rollbackOperations ← phase.rollbackOperations.mapM IntentOperation.write
  some {
    phase := phase.phase
    operations
    dependencies := phase.dependencies
    estimatedDuration
    rollbackOperations }

namespace IntentTranslator
open DriverMicroServices.Intents.Part

/-- A time that is always the same. -/
def time (text : String) : Template ν := [lit text]

/-- A time by the number of rows, or another one where it is not given. -/
def timeByRows (options : Value ν) (divisor : Nat) (other : String) : Template ν :=
  let rows := peek options "estimatedRows"
  if truthy rows then [Part.rows rows divisor, lit " minutes"] else [lit other]

/-- `options?.downtimeRequired || false` -/
def needsDowntime (options : Value ν) : Bool := truthy (peek options "downtimeRequired")

def translateRenameColumn (payload : Value ν) : List (IntentPhase (Template ν)) :=
  let table := field (peek payload "table")
  let oldColumn := field (peek payload "column")
  let newColumn := field (peek payload "newColumn")
  let options := peek payload "options"
  [{ phase := .EXPAND
     operations := [
       { type := .SQL
         sql := [lit "ALTER TABLE ", table, lit " ADD COLUMN ", newColumn, lit " VARCHAR(255)"]
         description := [lit "Add new column ", newColumn, lit " to ", table]
         estimatedTime := some (time "00:00:05") }]
     dependencies := []
     estimatedDuration := time "00:00:10"
     rollbackOperations := [
       { type := .SQL
         sql := [lit "ALTER TABLE ", table, lit " DROP COLUMN ", newColumn]
         description := [lit "Remove new column ", newColumn] }] },
   { phase := .DATA
     operations := [
       { type := .BACKFILL
         sql := [lit "UPDATE ", table, lit " SET ", newColumn, lit " = ", oldColumn]
         description := [lit "Copy data from ", oldColumn, lit " to ", newColumn]
         estimatedTime := some (timeByRows options 10000 "00:05:00")
         requiresApproval := needsDowntime options }]
     dependencies := [.EXPAND]
     estimatedDuration := timeByRows options 10000 "00:05:00"
     rollbackOperations := [
       { type := .SQL
         sql := [lit "UPDATE ", table, lit " SET ", newColumn, lit " = NULL"]
         description := [lit "Clear data from new column"] }] },
   { phase := .CONTRACT
     operations := [
       { type := .SQL
         sql := [lit "ALTER TABLE ", table, lit " DROP COLUMN ", oldColumn]
         description := [lit "Remove old column ", oldColumn]
         estimatedTime := some (time "00:00:05")
         requiresApproval := true }]
     dependencies := [.DATA]
     estimatedDuration := time "00:00:10"
     rollbackOperations := [
       { type := .SQL
         sql := [lit "ALTER TABLE ", table, lit " ADD COLUMN ", oldColumn, lit " VARCHAR(255)"]
         description := [lit "Restore old column ", oldColumn] },
       { type := .BACKFILL
         sql := [lit "UPDATE ", table, lit " SET ", oldColumn, lit " = ", newColumn]
         description := [lit "Copy data back to old column"] }] }]

def translateChangeColumnType (payload : Value ν) : List (IntentPhase (Template ν)) :=
  let table := field (peek payload "table")
  let column := field (peek payload "column")
  let newType := field (peek payload "newType")
  let options := peek payload "options"
  [{ phase := .EXPAND
     operations := [
       { type := .SQL
         sql := [lit "ALTER TABLE ", table, lit " ADD COLUMN ", column, lit "_temp ", newType]
         description := [lit "Add temporary column ", column, lit "_temp with new type"]
         estimatedTime := some (time "00:00:05") }]
     dependencies := []
     estimatedDuration := time "00:00:10"
     rollbackOperations := [
       { type := .SQL
         sql := [lit "ALTER TABLE ", table, lit " DROP COLUMN ", column, lit "_temp"]
         description := [lit "Remove temporary column"] }] },
   { phase := .DATA
     operations := [
       { type := .BACKFILL
         sql := [lit "UPDATE ", table, lit " SET ", column, lit "_temp = CAST(", column, lit " AS ", newType,
           lit ")"]
         description := [lit "Convert data from ", column, lit " to ", column, lit "_temp"]
         estimatedTime := some (timeByRows options 5000 "00:10:00")
         requiresApproval := needsDowntime options }]
     dependencies := [.EXPAND]
     estimatedDuration := timeByRows options 5000 "00:10:00"
     rollbackOperations := [
       { type := .SQL
         sql := [lit "UPDATE ", table, lit " SET ", column, lit "_temp = NULL"]
         description := [lit "Clear temporary column data"] }] },
   { phase := .CONTRACT
     operations := [
       { type := .SQL
         sql := [lit "ALTER TABLE ", table, lit " DROP COLUMN ", column]
         description := [lit "Remove original column ", column]
         estimatedTime := some (time "00:00:05")
         requiresApproval := true },
       { type := .SQL
         sql := [lit "ALTER TABLE ", table, lit " RENAME COLUMN ", column, lit "_temp TO ", column]
         description := [lit "Rename temporary column to original name"]
         estimatedTime := some (time "00:00:05") }]
     dependencies := [.DATA]
     estimatedDuration := time "00:00:15"
     rollbackOperations := [
       { type := .SQL
         sql := [lit "ALTER TABLE ", table, lit " ADD COLUMN ", column, lit " VARCHAR(255)"]
         description := [lit "Restore original column"] },
       { type := .BACKFILL
         sql := [lit "UPDATE ", table, lit " SET ", column, lit " = ", column, lit "_temp"]
         description := [lit "Copy data back to original column"] }] }]

def translateAddColumn (payload : Value ν) : List (IntentPhase (Template ν)) :=
  let table := field (peek payload "table")
  let column := field (peek payload "column")
  let newType := field (peek payload "newType")
  let options := peek payload "options"
  { phase := .EXPAND
    operations := [
      { type := .SQL
        sql := [lit "ALTER TABLE ", table, lit " ADD COLUMN ", column, lit " ", newType]
        description := [lit "Add new column ", column, lit " to ", table]
        estimatedTime := some (time "00:00:05") }]
    dependencies := []
    estimatedDuration := time "00:00:10"
    rollbackOperations := [
      { type := .SQL
        sql := [lit "ALTER TABLE ", table, lit " DROP COLUMN ", column]
        description := [lit "Remove new column ", column] }] } ::
  -- a backfill only where a strategy is given
  if truthy (peek options "backfillStrategy") then
    [{ phase := .DATA
       operations := [
         { type := .BACKFILL
           sql := [lit "UPDATE ", table, lit " SET ", column, lit " = 'default_value' WHERE ", column,
             lit " IS NULL"]
           description := [lit "Backfill default values for ", column]
           estimatedTime := some (timeByRows options 10000 "00:02:00") }]
       dependencies := [.EXPAND]
       estimatedDuration := timeByRows options 10000 "00:02:00"
       rollbackOperations := [
         { type := .SQL
           sql := [lit "UPDATE ", table, lit " SET ", column, lit " = NULL"]
           description := [lit "Clear backfilled values"] }] }]
  else []

def translateDropColumn (payload : Value ν) : List (IntentPhase (Template ν)) :=
  let table := field (peek payload "table")
  let column := field (peek payload "column")
  [{ phase := .EXPAND
     operations := [
       { type := .VALIDATION
         sql := [lit "SELECT COUNT(*) FROM information_schema.key_column_usage WHERE column_name = '", column,
           lit "' AND table_name = '", table, lit "'"]
         description := [lit "Check for foreign key references to ", column]
         estimatedTime := some (time "00:00:05") }]
     dependencies := []
     estimatedDuration := time "00:00:10"
     rollbackOperations := [] },
   { phase := .CONTRACT
     operations := [
       { type := .SQL
         sql := [lit "ALTER TABLE ", table, lit " DROP COLUMN ", column]
         description := [lit "Remove column ", column, lit " from ", table]
         estimatedTime := some (time "00:00:05")
         requiresApproval := true }]
     dependencies := [.EXPAND]
     estimatedDuration := time "00:00:10"
     rollbackOperations := [
       { type := .SQL
         sql := [lit "ALTER TABLE ", table, lit " ADD COLUMN ", column, lit " VARCHAR(255)"]
         description := [lit "Restore dropped column"] }] }]

def translateAddIndex (payload : Value ν) : List (IntentPhase (Template ν)) :=
  let table := field (peek payload "table")
  let indexName := field (peek payload "indexName")
  let columns := peek payload "columns"
  let options := peek payload "options"
  [{ phase := .EXPAND
     operations := [
       { type := .SQL
         sql := [lit "CREATE INDEX ", indexName, lit " ON ", table, lit " (", joined columns ", ", lit ")"]
         description := [lit "Create index ", indexName, lit " on ", table]
         estimatedTime := some (timeByRows options 100000 "00:01:00")
         requiresApproval := needsDowntime options }]
     dependencies := []
     estimatedDuration := timeByRows options 100000 "00:01:00"
     rollbackOperations := [
       { type := .SQL
         sql := [lit "DROP INDEX ", indexName]
         description := [lit "Remove index ", indexName] }] }]

def translateDropIndex (payload : Value ν) : List (IntentPhase (Template ν)) :=
  let table := field (peek payload "table")
  let indexName := field (peek payload "indexName")
  [{ phase := .EXPAND
     operations := [
       { type := .VALIDATION
         sql := [lit "SELECT * FROM pg_stat_user_indexes WHERE indexrelname = '", indexName, lit "'"]
         description := [lit "Check index usage statistics"]
         estimatedTime := some (time "00:00:05") }]
     dependencies := []
     estimatedDuration := time "00:00:10"
     rollbackOperations := [] },
   { phase := .CONTRACT
     operations := [
       { type := .SQL
         sql := [lit "DROP INDEX ", indexName]
         description := [lit "Remove index ", indexName]
         estimatedTime := some (time "00:00:05") }]
     dependencies := [.EXPAND]
     estimatedDuration := time "00:00:10"
     rollbackOperations := [
       { type := .SQL
         sql := [lit "CREATE INDEX ", indexName, lit " ON ", table, lit " (",
           joinedOr (peek payload "columns") ", " "*", lit ")"]
         description := [lit "Restore dropped index"] }] }]

def translateAddConstraint (payload : Value ν) : List (IntentPhase (Template ν)) :=
  let table := field (peek payload "table")
  let constraintName := field (peek payload "constraintName")
  let constraintType := field (peek payload "constraintType")
  let columns := peek payload "columns"
  let constraintDefinition := peek payload "constraintDefinition"
  let checked :=
    if truthy constraintDefinition then field constraintDefinition else joined columns " IS NOT NULL AND "
  [{ phase := .EXPAND
     operations := [
       { type := .VALIDATION
         sql := [lit "SELECT COUNT(*) FROM ", table, lit " WHERE ", checked, lit " IS NOT NULL"]
         description := [lit "Validate constraint can be applied to existing data"]
         estimatedTime := some (time "00:00:10") }]
     dependencies := []
     estimatedDuration := time "00:00:15"
     rollbackOperations := [] },
   { phase := .CONTRACT
     operations := [
       { type := .SQL
         sql := [lit "ALTER TABLE ", table, lit " ADD CONSTRAINT ", constraintName, lit " ", constraintType,
           lit " (", joined columns ", ", lit ")"]
         description := [lit "Add ", constraintType, lit " constraint ", constraintName]
         estimatedTime := some (time "00:00:05") }]
     dependencies := [.EXPAND]
     estimatedDuration := time "00:00:10"
     rollbackOperations := [
       { type := .SQL
         sql := [lit "ALTER TABLE ", table, lit " DROP CONSTRAINT ", constraintName]
         description := [lit "Remove constraint ", constraintName] }] }]

def translateDropConstraint (payload : Value ν) : List (IntentPhase (Template ν)) :=
  let table := field (peek payload "table")
  let constraintName := field (peek payload "constraintName")
  [{ phase := .EXPAND
     operations := [
       { type := .VALIDATION
         sql := [lit "SELECT * FROM information_schema.table_constraints WHERE constraint_name = '",
           constraintName, lit "' AND table_name = '", table, lit "'"]
         description := [lit "Check constraint definition and dependencies"]
         estimatedTime := some (time "00:00:05") }]
     dependencies := []
     estimatedDuration := time "00:00:10"
     rollbackOperations := [] },
   { phase := .CONTRACT
     operations := [
       { type := .SQL
         sql := [lit "ALTER TABLE ", table, lit " DROP CONSTRAINT ", constraintName]
         description := [lit "Remove constraint ", constraintName]
         estimatedTime := some (time "00:00:05") }]
     dependencies := [.EXPAND]
     estimatedDuration := time "00:00:10"
     rollbackOperations := [
       { type := .SQL
         sql := [lit "ALTER TABLE ", table, lit " ADD CONSTRAINT ", constraintName, lit " CHECK (true)"]
         description := [lit "Restore constraint ", constraintName] }] }]

def translateRenameTable (payload : Value ν) : List (IntentPhase (Template ν)) :=
  let table := field (peek payload "table")
  let newTable := field (peek payload "newTable")
  [{ phase := .EXPAND
     operations := [
       { type := .VALIDATION
         sql := [lit "SELECT COUNT(*) FROM information_schema.tables WHERE table_name = '", newTable, lit "'"]
         description := [lit "Check new table name is not already in use"]
         estimatedTime := some (time "00:00:05") }]
     dependencies := []
     estimatedDuration := time "00:00:10"
     rollbackOperations := [] },
   { phase := .CONTRACT
     operations := [
       { type := .SQL
         sql := [lit "ALTER TABLE ", table, lit " RENAME TO ", newTable]
         description := [lit "Rename table from ", table, lit " to ", newTable]
         estimatedTime := some (time "00:00:05")
         requiresApproval := true }]
     dependencies := [.EXPAND]
     estimatedDuration := time "00:00:10"
     rollbackOperations := [
       { type := .SQL
         sql := [lit "ALTER TABLE ", newTable, lit " RENAME TO ", table]
         description := [lit "Restore original table name"] }] }]

def translateSplitTable (payload : Value ν) : List (IntentPhase (Template ν)) :=
  let table := field (peek payload "table")
  let newTable := field (peek payload "newTable")
  let columns := peek payload "columns"
  let options := peek payload "options"
  [{ phase := .EXPAND
     operations := [
       { type := .SQL
         sql := [lit "CREATE TABLE ", newTable, lit " AS SELECT ", joined columns ", ", lit " FROM ", table,
           lit " WHERE 1=0"]
         description := [lit "Create new table ", newTable, lit " with selected columns"]
         estimatedTime := some (time "00:00:10") }]
     dependencies := []
     estimatedDuration := time "00:00:15"
     rollbackOperations := [
       { type := .SQL
         sql := [lit "DROP TABLE ", newTable]
         description := [lit "Remove new table ", newTable] }] },
   { phase := .DATA
     operations := [
       { type := .BACKFILL
         sql := [lit "INSERT INTO ", newTable, lit " SELECT ", joined columns ", ", lit " FROM ", table]
         description := [lit "Copy data to new table ", newTable]
         estimatedTime := some (timeByRows options 5000 "00:05:00")
         requiresApproval := needsDowntime options }]
     dependencies := [.EXPAND]
     estimatedDuration := timeByRows options 5000 "00:05:00"
     rollbackOperations := [
       { type := .SQL
         sql := [lit "TRUNCATE TABLE ", newTable]
         description := [lit "Clear data from new table"] }] },
   { phase := .CONTRACT
     operations := [
       { type := .SQL
         sql := [lit "ALTER TABLE ", table, lit " DROP COLUMN ", joined columns ", DROP COLUMN "]
         description := [lit "Remove split columns from original table"]
         estimatedTime := some (time "00:00:10")
         requiresApproval := true }]
     dependencies := [.DATA]
     estimatedDuration := time "00:00:15"
     rollbackOperations := [
       { type := .SQL
         sql := [lit "ALTER TABLE ", table, lit " ADD COLUMN ", joined columns " VARCHAR(255), ADD COLUMN ",
           lit " VARCHAR(255)"]
         description := [lit "Restore columns to original table"] }] }]

def translateMergeTables (payload : Value ν) : List (IntentPhase (Template ν)) :=
  let targetTable := field (peek payload "newTable")
  let sourceTable := field (peek payload "oldTable")
  let options := peek payload "options"
  [{ phase := .EXPAND
     operations := [
       { type := .VALIDATION
         sql := [lit "SELECT column_name, data_type FROM information_schema.columns WHERE table_name = '",
           sourceTable, lit "'"]
         description := [lit "Get source table schema"]
         estimatedTime := some (time "00:00:05") },
       { type := .VALIDATION
         sql := [lit "SELECT column_name, data_type FROM information_schema.columns WHERE table_name = '",
           targetTable, lit "'"]
         description := [lit "Get target table schema"]
         estimatedTime := some (time "00:00:05") }]
     dependencies := []
     estimatedDuration := time "00:00:15"
     rollbackOperations := [] },
   { phase := .DATA
     operations := [
       { type := .BACKFILL
         sql := [lit "INSERT INTO ", targetTable, lit " SELECT * FROM ", sourceTable]
         description := [lit "Merge data from ", sourceTable, lit " to ", targetTable]
         estimatedTime := some (timeByRows options 10000 "00:10:00")
         requiresApproval := needsDowntime options }]
     dependencies := [.EXPAND]
     estimatedDuration := timeByRows options 10000 "00:10:00"
     rollbackOperations := [
       { type := .SQL
         sql := [lit "DELETE FROM ", targetTable, lit " WHERE id IN (SELECT id FROM ", sourceTable, lit ")"]
         description := [lit "Remove merged data from target table"] }] },
   { phase := .CONTRACT
     operations := [
       { type := .SQL
         sql := [lit "DROP TABLE ", sourceTable]
         description := [lit "Remove source table ", sourceTable]
         estimatedTime := some (time "00:00:05")
         requiresApproval := true }]
     dependencies := [.DATA]
     estimatedDuration := time "00:00:10"
     rollbackOperations := [
       { type := .SQL
         sql := [lit "CREATE TABLE ", sourceTable, lit " AS SELECT * FROM ", targetTable, lit " WHERE 1=0"]
         description := [lit "Restore source table structure"] }] }]

/-- The case of a type. -/
def translateType (payload : Value ν) : IntentType → List (IntentPhase (Template ν))
  | .RENAME_COLUMN => translateRenameColumn payload
  | .CHANGE_COLUMN_TYPE => translateChangeColumnType payload
  | .ADD_COLUMN => translateAddColumn payload
  | .DROP_COLUMN => translateDropColumn payload
  | .ADD_INDEX => translateAddIndex payload
  | .DROP_INDEX => translateDropIndex payload
  | .ADD_CONSTRAINT => translateAddConstraint payload
  | .DROP_CONSTRAINT => translateDropConstraint payload
  | .RENAME_TABLE => translateRenameTable payload
  | .SPLIT_TABLE => translateSplitTable payload
  | .MERGE_TABLES => translateMergeTables payload

/-- The phases before their texts are written; without a payload there is nothing to read. -/
def plannedPhases (intent : Intent ν) : Option (List (IntentPhase (Template ν))) :=
  let payload := get intent "payload"
  match IntentType.of (get intent "type") with
  | none => some []
  | some type => if isNullish payload then none else some (translateType payload type)

/-- `Number(text) || 0` of a part of a time. -/
def timePart (text : List Char) : Nat := if text.all Char.isDigit then Nat.ofDigitChars 10 text 0 else 0

/-- The seconds of a time; one in minutes has no part that is a number. -/
def secondsOf (estimatedTime : String) : Nat :=
  let parts := (estimatedTime.toList.splitOn ':').map timePart
  parts.getD 0 0 * 3600 + parts.getD 1 0 * 60 + parts.getD 2 0

/-- `toString().padStart(2, "0")` -/
def padded (n : Nat) : String := if n < 10 then s!"0{n}" else toString n

def calculateEstimatedTime (phases : List (IntentPhase String)) : String :=
  let totalSeconds := (phases.flatMap (·.operations)).foldl (fun totalSeconds operation =>
    totalSeconds + (operation.estimatedTime.map secondsOf).getD 0) 0
  let hours := totalSeconds / 3600
  let minutes := totalSeconds % 3600 / 60
  let seconds := totalSeconds % 60
  s!"{padded hours}:{padded minutes}:{padded seconds}"

def determineApprovals (metadata : Value ν) (phases : List (IntentPhase String)) : List String :=
  let administrators := phases.filterMap fun phase =>
    if phase.operations.any (·.requiresApproval) then some "Database Administrator" else none
  (administrators ++
    (if isText (peek metadata "priority") "CRITICAL" then ["Engineering Manager"] else []) ++
    if isText (peek metadata "estimatedImpact") "MASSIVE" then ["CTO"] else []).eraseDups

def generateRollbackPlan (phases : List (IntentPhase String)) : List String :=
  phases.reverse.flatMap fun phase => phase.rollbackOperations.map (·.description)

/-- The translation, or nothing where it throws. The type is written into the log first. -/
def translate (intent : Intent ν) : Option IntentTranslation := do
  let _ ← render (get intent "type")
  let planned ← plannedPhases intent
  let phases ← planned.mapM IntentPhase.write
  let metadata := get intent "metadata"
  if isNullish metadata then none
  else some {
    phases
    estimatedTime := calculateEstimatedTime phases
    requiredApprovals := determineApprovals metadata phases
    rollbackPlan := generateRollbackPlan phases }

end IntentTranslator
end DriverMicroServices.Intents
