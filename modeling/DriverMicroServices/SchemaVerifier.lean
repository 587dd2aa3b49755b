import DriverMicroServices.Texts.Tokens
import DriverMicroServices.Transactions.Attempts

/-! The worker that compares the expected schema with that of the database, and repairs what differs. Each
difference gets a statement of its own, and all statements are executed in one transaction whose
failures are collected. -/
namespace DriverMicroServices.SchemaVerifier
open Texts.Tokens Transactions

structure ColumnSchema where
  name : String
  type : String
deriving DecidableEq

structure TableSchema where
  name : String
  columns : List ColumnSchema
  indexes : List String := []
deriving DecidableEq

structure SchemaSnapshot where
  tables : List TableSchema
deriving DecidableEq

inductive DriftType where
  | MISSING_TABLE
  | MISSING_COLUMN
  | MISSING_INDEX
  | TYPE_MISMATCH
  | EXTRA_OBJECT
deriving DecidableEq

inductive ObjectType where
  | TABLE
  | COLUMN
  | INDEX
deriving DecidableEq

inductive DriftSeverity where
  | LOW
  | MEDIUM
  | HIGH
  | CRITICAL
deriving DecidableEq

structure SchemaDrift where
  type : DriftType
  objectName : String
  objectType : ObjectType
  expected : String
  actual : Option String := none
  severity : DriftSeverity
  autoRepairable : Bool
  suggestedFix : Option String := none
deriving DecidableEq

inductive Severity where
  | NONE
  | MINOR
  | MODERATE
  | SEVERE
deriving DecidableEq

structure DriftDetectionResult where
  hasDrift : Bool
  drifts : List SchemaDrift
  severity : Severity
  autoRepairable : Bool
  requiresManualIntervention : Bool

inductive RepairType where
  | CREATE
  | DROP
deriving DecidableEq

structure RepairAction where
  type : RepairType
  sql : String
  description : String
  estimatedTime : String
  requiresApproval : Bool
deriving DecidableEq

structure AutoRepairResult where
  success : Bool
  repairs : List RepairAction
  errors : List String
deriving DecidableEq

/-! ## Detection -/

def findTable (tables : List TableSchema) (name : String) : Option TableSchema := tables.find? (·.name = name)

def findColumn (columns : List ColumnSchema) (name : String) : Option ColumnSchema := columns.find? (·.name = name)

def missingTable (table : TableSchema) : SchemaDrift :=
  { type := .MISSING_TABLE, objectName := table.name, objectType := .TABLE, expected := "Table should exist"
    severity := .CRITICAL, autoRepairable := false }

def missingColumn (table : TableSchema) (column : ColumnSchema) : SchemaDrift :=
  { type := .MISSING_COLUMN, objectName := s!"{table.name}.{column.name}", objectType := .COLUMN
    expected := s!"Column {column.name} should exist", severity := .HIGH, autoRepairable := true
    suggestedFix := some s!"ALTER TABLE {table.name} ADD COLUMN {column.name} {column.type}" }

def typeMismatch (table : TableSchema) (column current : ColumnSchema) : SchemaDrift :=
  { type := .TYPE_MISMATCH, objectName := s!"{table.name}.{column.name}", objectType := .COLUMN
    expected := s!"Column type should be {column.type}", actual := some s!"Column type is {current.type}"
    severity := .MEDIUM, autoRepairable := false }

def missingIndex (table : TableSchema) (index : String) : SchemaDrift :=
  { type := .MISSING_INDEX, objectName := s!"{table.name}.{index}", objectType := .INDEX
    expected := s!"Index {index} should exist", severity := .MEDIUM, autoRepairable := true
    suggestedFix := some s!"CREATE INDEX {index} ON {table.name} (...)" }

def extraTable (table : TableSchema) : SchemaDrift :=
  { type := .EXTRA_OBJECT, objectName := table.name, objectType := .TABLE, expected := "Table should not exist"
    severity := .LOW, autoRepairable := true, suggestedFix := some s!"DROP TABLE {table.name}" }

def columnDrift (table current : TableSchema) (column : ColumnSchema) : Option SchemaDrift :=
  match findColumn current.columns column.name with
  | none => some (missingColumn table column)
  | some own => if own.type ≠ column.type then some (typeMismatch table column own) else none

def indexDrift (table current : TableSchema) (index : String) : Option SchemaDrift :=
  if index ∈ current.indexes then none else some (missingIndex table index)

/-- The differences of an expected table. -/
def tableDrifts (current : SchemaSnapshot) (table : TableSchema) : List SchemaDrift :=
  match findTable current.tables table.name with
  | none => [missingTable table]
  | some own => table.columns.filterMap (columnDrift table own) ++ table.indexes.filterMap (indexDrift table own)

def extraDrift (expected : SchemaSnapshot) (table : TableSchema) : Option SchemaDrift :=
  if (findTable expected.tables table.name).isNone then some (extraTable table) else none

def calculateDriftSeverity (drifts : List SchemaDrift) : Severity :=
  if drifts.length = 0 then .NONE
  else
    let criticalCount := drifts.countP (·.severity = .CRITICAL)
    let highCount := drifts.countP (·.severity = .HIGH)
    let mediumCount := drifts.countP (·.severity = .MEDIUM)
    if 0 < criticalCount then .SEVERE
    else if 2 < highCount then .SEVERE
    else if 0 < highCount ∨ 5 < mediumCount then .MODERATE
    else .MINOR

def compareSchemas (expected current : SchemaSnapshot) : DriftDetectionResult :=
  let drifts := expected.tables.flatMap (tableDrifts current) ++ current.tables.filterMap (extraDrift expected)
  { hasDrift := 0 < drifts.length
    drifts
    severity := calculateDriftSeverity drifts
    autoRepairable := drifts.all (·.autoRepairable)
    requiresManualIntervention := drifts.any (!·.autoRepairable) }

/-! ## Repairs -/

/-- `objectName.split(".")`, its first two parts. -/
def splitName (objectName : String) : String × String :=
  let parts := (objectName.toList.splitOn '.').map String.ofList
  (parts.headD "", parts.tail.headD "undefined")

def getColumnDefinition (_tableName _columnName : String) : String := "VARCHAR(255)"

def getIndexDefinition (_tableName _indexName : String) : String := "(id)"

def createMissingColumnRepair (drift : SchemaDrift) : RepairAction :=
  let (tableName, columnName) := splitName drift.objectName
  { type := .CREATE
    sql := s!"ALTER TABLE {tableName} ADD COLUMN {columnName} {getColumnDefinition tableName columnName}"
    description := s!"Add missing column {columnName} to {tableName}"
    estimatedTime := "00:00:05", requiresApproval := false }

def createMissingIndexRepair (drift : SchemaDrift) : RepairAction :=
  let (tableName, indexName) := splitName drift.objectName
  { type := .CREATE
    sql := s!"CREATE INDEX {indexName} ON {tableName} {getIndexDefinition tableName indexName}"
    description := s!"Add missing index {indexName} to {tableName}"
    estimatedTime := "00:01:00", requiresApproval := false }

def ObjectType.text : ObjectType → String
  | .TABLE => "TABLE"
  | .COLUMN => "COLUMN"
  | .INDEX => "INDEX"

def createExtraObjectRepair (drift : SchemaDrift) : RepairAction :=
  if drift.objectType = .TABLE then
    { type := .DROP
      sql := s!"DROP TABLE {drift.objectName}"
      description := s!"Remove extra table {drift.objectName}"
      estimatedTime := "00:00:05", requiresApproval := true }
  else
    { type := .DROP
      sql := s!"DROP {drift.objectType.text} {drift.objectName}"
      description := s!"Remove extra {drift.objectType.text} {drift.objectName}"
      estimatedTime := "00:00:05", requiresApproval := false }

def createRepairAction (drift : SchemaDrift) : Option RepairAction :=
  match drift.type with
  | .MISSING_COLUMN => some (createMissingColumnRepair drift)
  | .MISSING_INDEX => some (createMissingIndexRepair drift)
  | .EXTRA_OBJECT => some (createExtraObjectRepair drift)
  | .MISSING_TABLE | .TYPE_MISMATCH => none

/-! ## The database -/

/-- What a repair changes. -/
inductive Change where
  | addColumn (table column type : String)
  | createIndex (index table column : String)
  | dropTable (table : String)
deriving DecidableEq

def varcharTokens : List Token := [.word "VARCHAR", .symbol '(', .word "255", .symbol ')']

/-- What the database makes of words and types. -/
structure Postgres where
  /-- The word is not a name. -/
  reserved : String → Bool
  reserved_id : reserved "ID" = false
  /-- `format_type` of the type that the tokens are. -/
  formatType : List Token → Option String
  format_varchar : formatType varcharTokens = some "character varying(255)"
  /-- The message of a statement that cannot be executed. -/
  message : String → String

namespace Postgres

variable (pg : Postgres)

/-- A bare name is taken in small letters. -/
def name? : Token → Option String
  | .word text =>
    if pg.reserved text || text.toList.head?.all (fun c => c.isDigit || c = '$') then none
    else some (text.map Char.toLower)
  | .name text => if text = "" then none else some text
  | _ => none

/-- The change that a statement asks for. -/
def read : List Token → Option Change
  | .word "ALTER" :: .word "TABLE" :: table :: .word "ADD" :: .word "COLUMN" :: column :: type => do
    some (.addColumn (← pg.name? table) (← pg.name? column) (← pg.formatType type))
  | [.word "CREATE", .word "INDEX", index, .word "ON", table, .symbol '(', column, .symbol ')'] => do
    some (.createIndex (← pg.name? index) (← pg.name? table) (← pg.name? column))
  | [.word "DROP", .word "TABLE", table] => do some (.dropTable (← pg.name? table))
  | _ => none

end Postgres

/-- The tables after a change of those with a name. -/
def alterTables (tables : List TableSchema) (name : String) (alter : TableSchema → TableSchema) : List TableSchema :=
  tables.map fun table => if table.name = name then alter table else table

/-- A name of a table or an index. -/
def taken (tables : List TableSchema) (name : String) : Bool :=
  tables.any fun table => table.name = name || name ∈ table.indexes

def Change.perform (tables : List TableSchema) : Change → Option (List TableSchema)
  | .addColumn table column type => do
    let own ← findTable tables table
    match findColumn own.columns column with
    | some _ => none
    | none => some (alterTables tables table fun own => { own with columns := own.columns ++ [⟨column, type⟩] })
  | .createIndex index table column => do
    let own ← findTable tables table
    if (findColumn own.columns column).isSome ∧ taken tables index = false then
      some (alterTables tables table fun own => { own with indexes := own.indexes ++ [index] })
    else none
  | .dropTable table => do
    let _ ← findTable tables table
    some (tables.filter (·.name ≠ table))

/-- A statement for a drift is executed. `refuses` is any other failure of a statement. -/
def Postgres.execute (pg : Postgres) (refuses : String → Option String) (tables : List TableSchema)
    (repair : SchemaDrift × RepairAction) : Except String (List TableSchema) :=
  match refuses repair.2.sql with
  | some message => .error message
  | none =>
    match (pg.read (tokens repair.2.sql)).bind (·.perform tables) with
    | some after => .ok after
    | none => .error (pg.message repair.2.sql)

/-! ## The repair of a drift -/

/-- The drifts that have a repair, with it. -/
def repairsOf (drifts : List SchemaDrift) : List (SchemaDrift × RepairAction) :=
  drifts.filterMap fun drift => (createRepairAction drift).map (drift, ·)

/-- What has been executed of a repair, its result, and the tables after it. -/
structure Repaired where
  executed : List RepairAction
  result : AutoRepairResult
  tables : List TableSchema
deriving DecidableEq

def abortedMessage : String := "current transaction is aborted, commands ignored until end of transaction block"

/-- `commitError` is the failure of the commit, if it fails. -/
def performAutoRepair (pg : Postgres) (refuses : String → Option String) (commitError : Option String)
    (tables : List TableSchema) (drifts : List SchemaDrift) : Repaired :=
  let t := attemptAll (pg.execute refuses) abortedMessage (repairsOf drifts) { state := tables }
  let errors := t.errors.map fun error => s!"Failed to repair {error.1.1.objectName}: {error.2}"
  let executed := (repairsOf drifts).map (·.2)
  let repairs := t.done.map (·.2)
  match commitError with
  | none => { executed, result := { success := errors.isEmpty, repairs, errors }, tables := t.commit tables }
  | some message =>
    { executed, tables
      result := { success := false, repairs, errors := errors ++ [s!"Transaction failed: {message}"] } }

/-- The repair, where there is one. -/
def handleDrift (pg : Postgres) (refuses : String → Option String) (commitError : Option String)
    (tables : List TableSchema) (driftResult : DriftDetectionResult) : Option Repaired :=
  if driftResult.autoRepairable ∧ 0 < driftResult.drifts.length then
    some (performAutoRepair pg refuses commitError tables driftResult.drifts)
  else none

/-- The expected schema, where a migration is executed. -/
def getExpectedSchema (latestMigration : Option String) : Option SchemaSnapshot :=
  latestMigration.map fun _ => { tables := [] }

def performVerification (pg : Postgres) (refuses : String → Option String) (commitError : Option String)
    (latestMigration : Option String) (currentSchema : SchemaSnapshot) : Option Repaired := do
  let expectedSchema ← getExpectedSchema latestMigration
  let driftResult := compareSchemas expectedSchema currentSchema
  if driftResult.hasDrift then handleDrift pg refuses commitError currentSchema.tables driftResult else none

end DriverMicroServices.SchemaVerifier
