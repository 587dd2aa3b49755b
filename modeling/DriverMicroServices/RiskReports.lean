import DriverMicroServices.OperationGraph
import DriverMicroServices.PlanValidation
import DriverMicroServices.Texts.Choices

/-! The reports on the operations of a plan: the risks of each of them, and what they break. The reports
read the statements with patterns of their own. -/
namespace DriverMicroServices.PlanReports
open Texts.Regex Texts.Regex.Pattern Tables

/-! ## Patterns -/

namespace ReportPattern

/-- `\bA\s+(B|C)\b` -/
def wholeOf (word : String) (list : List String) : Pattern :=
  seq boundary (text word (seq (plus isSpace) (seq (group (anyOf list)) (seq boundary empty))))

/-- `\bALTER\s+COLUMN.*TYPE\b` -/
def typeChange : Pattern :=
  seq boundary (words ["ALTER", "COLUMN"] (seq (many isDot) (text "TYPE" (seq boundary empty))))

/-- `\bWHERE.*=.*\?` -/
def filtered : Pattern :=
  seq boundary (text "WHERE" (seq (many isDot) (seq (one (· = '=')) (seq (many isDot) (one (· = '?'))))))

/-- `\bSET\s+NOT\s+NULL\b` -/
def setNotNull : Pattern := SqlRule.whole ["SET", "NOT", "NULL"] empty

def default : Pattern := SqlRule.whole ["DEFAULT"] empty

def renameColumn : Pattern := SqlRule.whole ["RENAME", "COLUMN"] empty

def dropConstraint : Pattern := SqlRule.whole ["DROP", "CONSTRAINT"] empty

def dropTable : Pattern := SqlRule.whole ["DROP", "TABLE"] empty

def dropColumn : Pattern := SqlRule.whole ["DROP", "COLUMN"] empty

/-- `\s+["']?(\w+)["']?`, and what follows. -/
def named (next : Pattern) : Pattern :=
  seq (plus isSpace) (seq (optional GraphPattern.isQuote) (seq (group (plus isWord))
    (seq (optional GraphPattern.isQuote) next)))

/-- `\bRENAME\s+COLUMN\s+["']?(\w+)["']?\s+TO\s+["']?(\w+)["']?` -/
def renamedColumn : Pattern :=
  seq boundary (words ["RENAME", "COLUMN"] (named (seq (plus isSpace) (text "TO" (named empty)))))

/-- `\bALTER\s+COLUMN\s+["']?(\w+)["']?\s+TYPE\s+(\w+)` -/
def retypedColumn : Pattern :=
  seq boundary (words ["ALTER", "COLUMN"] (named (seq (plus isSpace) (text "TYPE"
    (seq (plus isSpace) (group (plus isWord)))))))

def droppedTable : Pattern := seq boundary (words ["DROP", "TABLE"] (named empty))

def droppedColumn : Pattern := seq boundary (words ["DROP", "COLUMN"] (named empty))

end ReportPattern

/-! ## Risks -/

inductive RiskCategory where
  | PERFORMANCE
  | DATA_LOSS
  | BLOCKING
  | COMPATIBILITY
deriving DecidableEq

structure RiskReport extends DriverMicroServices.RiskReport where
  category : RiskCategory
  description : String
  mitigation : String
  requiresApproval : Bool

/-- The number of rows that the metadata of an operation carries beside the size of its table. -/
def estimatedRows (metadata : OperationMetadata) : String :=
  match metadata.tableSize with
  | some .LARGE => "1M+"
  | some .MEDIUM => "10K-1M"
  | _ => "< 10K"

/-- `blocking` is set just where `requiresDowntime` is. -/
def blocking (metadata : OperationMetadata) : Bool := metadata.requiresDowntime == some true

/-- The risk, where the condition holds. -/
def riskIf (found : Bool) (risk : RiskReport) : List RiskReport := if found then [risk] else []

/-- `${metadata.estimatedTime}` -/
def timeText (metadata : OperationMetadata) : String := metadata.estimatedTime.getD "undefined"

def analyzePerformanceRisks (operation : SchemaOperation) : List RiskReport :=
  let sql := operation.sql
  let metadata := operation.metadata.getD {}
  let rows := estimatedRows metadata
  let time := timeText metadata
  riskIf (metadata.tableSize == some .LARGE)
    { operation := sql, severity := .HIGH, category := .PERFORMANCE
      description := s!"Large table operation on {rows} rows, estimated time: {time}"
      mitigation := "Consider running during maintenance window with proper monitoring"
      requiresApproval := true } ++
  riskIf (ReportPattern.typeChange.test sql)
    { operation := sql, severity := .CRITICAL, category := .PERFORMANCE
      description := "Column type change will cause full table rewrite"
      mitigation := "Use expand-contract pattern with temporary column"
      requiresApproval := true } ++
  riskIf ((SqlRule.whole ["CREATE", "INDEX"] empty).test sql && !includes sql "CONCURRENTLY")
    { operation := sql, severity := .MEDIUM, category := .PERFORMANCE
      description := "Index creation will block table writes"
      mitigation := "Use CREATE INDEX CONCURRENTLY for production"
      requiresApproval := false } ++
  riskIf (((SqlRule.whole ["UPDATE"] empty).test sql || (SqlRule.whole ["DELETE"] empty).test sql) &&
      !ReportPattern.filtered.test sql)
    { operation := sql, severity := .MEDIUM, category := .PERFORMANCE
      description := "Operation may cause full table scan"
      mitigation := "Ensure proper WHERE clause with indexed columns"
      requiresApproval := false }

def analyzeDataLossRisks (operation : SchemaOperation) : List RiskReport :=
  let sql := operation.sql
  riskIf ((ReportPattern.wholeOf "DROP" ["TABLE", "COLUMN", "TYPE"]).test sql)
    { operation := sql, severity := .CRITICAL, category := .DATA_LOSS
      description := "DROP operation will permanently remove data"
      mitigation := "Ensure data backup and verify no dependent code"
      requiresApproval := true } ++
  riskIf (ReportPattern.setNotNull.test sql && !ReportPattern.default.test sql)
    { operation := sql, severity := .HIGH, category := .DATA_LOSS
      description := "SET NOT NULL will fail if null values exist"
      mitigation := "Add default value or backfill data first"
      requiresApproval := true } ++
  riskIf ((SqlRule.whole ["DELETE", "FROM"] empty).test sql && !(SqlRule.whole ["WHERE"] empty).test sql)
    { operation := sql, severity := .CRITICAL, category := .DATA_LOSS
      description := "DELETE without WHERE will remove all rows"
      mitigation := "Add WHERE clause or use TRUNCATE if intentional"
      requiresApproval := true }

def analyzeBlockingRisks (operation : SchemaOperation) : List RiskReport :=
  let sql := operation.sql
  let metadata := operation.metadata.getD {}
  let time := timeText metadata
  riskIf (blocking metadata)
    { operation := sql, severity := .HIGH, category := .BLOCKING
      description := "Operation will block table access"
      mitigation := "Schedule during low-traffic periods"
      requiresApproval := true } ++
  riskIf ((ReportPattern.wholeOf "ALTER" ["TABLE", "COLUMN"]).test sql)
    { operation := sql, severity := .MEDIUM, category := .BLOCKING
      description := "ALTER operation will lock table schema"
      mitigation := "Consider using pg_repack for large tables"
      requiresApproval := false } ++
  riskIf (metadata.estimatedTime.any fun time => includes time "minutes")
    { operation := sql, severity := .MEDIUM, category := .BLOCKING
      description := s!"Long-running operation estimated at {time}"
      mitigation := "Monitor progress and have rollback plan ready"
      requiresApproval := false }

def analyzeCompatibilityRisks (operation : SchemaOperation) : List RiskReport :=
  let sql := operation.sql
  riskIf (operation.category = .BREAKING)
    { operation := sql, severity := .HIGH, category := .COMPATIBILITY
      description := "Breaking schema change detected"
      mitigation := "Ensure application code is updated and deployed first"
      requiresApproval := true } ++
  riskIf (ReportPattern.typeChange.test sql)
    { operation := sql, severity := .HIGH, category := .COMPATIBILITY
      description := "Column type change may break application code"
      mitigation := "Update application code to handle new type"
      requiresApproval := true } ++
  riskIf (ReportPattern.renameColumn.test sql)
    { operation := sql, severity := .HIGH, category := .COMPATIBILITY
      description := "Column rename will break existing queries"
      mitigation := "Update all references to old column name"
      requiresApproval := true } ++
  riskIf (ReportPattern.dropConstraint.test sql)
    { operation := sql, severity := .MEDIUM, category := .COMPATIBILITY
      description := "Dropping constraint may allow invalid data"
      mitigation := "Ensure application validates data appropriately"
      requiresApproval := false }

def analyzeSingleOperation (operation : SchemaOperation) : List RiskReport :=
  analyzePerformanceRisks operation ++ analyzeDataLossRisks operation ++ analyzeBlockingRisks operation ++
    analyzeCompatibilityRisks operation

def analyzeRisk (operations : List SchemaOperation) : List RiskReport := operations.flatMap analyzeSingleOperation

/-! ## What breaks -/

structure CompatibilityReport extends DriverMicroServices.CompatibilityReport where
  backwardCompatible : Bool := true
  apiCompatibility : Bool := true
  migrationCompatibility : Bool := true
  recommendations : List String := []

/-- What a breaking change begins with, and which statements it is said of. -/
def breakingKinds : List (String × (String → Bool)) :=
  [("DROP operation: ", (ReportPattern.wholeOf "DROP" ["TABLE", "COLUMN", "TYPE", "CONSTRAINT"]).test),
    ("Column type change: ", ReportPattern.typeChange.test),
    ("Column rename: ", ReportPattern.renameColumn.test),
    ("SET NOT NULL without default: ", fun sql =>
      ReportPattern.setNotNull.test sql && !ReportPattern.default.test sql),
    ("Constraint removal: ", ReportPattern.dropConstraint.test)]

def findBreakingChanges (operations : List SchemaOperation) : List String :=
  operations.flatMap fun operation =>
    (breakingKinds.filter fun kind => kind.2 operation.sql).map fun kind => kind.1 ++ operation.sql

/-- An issue for a statement that is found and whose names are read. -/
def apiIssue (found names : Pattern) (issue : List String → String) (sql : String) : List String :=
  if found.test sql then ((names.search sql).map issue).toList else []

def checkApiCompatibility (operations : List SchemaOperation) : List String :=
  operations.flatMap fun operation =>
    apiIssue ReportPattern.renameColumn ReportPattern.renamedColumn (fun captures =>
      let before := captures.getD 0 ""
      let after := captures.getD 1 ""
      s!"API breaking: Column \"{before}\" renamed to \"{after}\" - update all API consumers") operation.sql ++
    apiIssue ReportPattern.typeChange ReportPattern.retypedColumn (fun captures =>
      let column := captures.getD 0 ""
      let type := captures.getD 1 ""
      s!"API breaking: Column \"{column}\" type changed to {type} - update API schemas") operation.sql ++
    apiIssue ReportPattern.dropTable ReportPattern.droppedTable (fun captures =>
      let table := captures.getD 0 ""
      s!"API breaking: Table \"{table}\" dropped - remove all API endpoints") operation.sql ++
    apiIssue ReportPattern.dropColumn ReportPattern.droppedColumn (fun captures =>
      let column := captures.getD 0 ""
      s!"API breaking: Column \"{column}\" dropped - update API responses") operation.sql

/-! ## The operations of a table -/

abbrev TableOperations := List (String × List SchemaOperation)

/-- What an object without entries answers to, of all names in small letters. -/
def inheritedKeys : List String := ["constructor", "__proto__"]

/-- `grouped[table].push(operation)`. What is inherited takes no operation. -/
def pushOperation (operation : SchemaOperation) (grouped : TableOperations) (table : String) :
    Except String TableOperations :=
  if table ∈ inheritedKeys then .error "grouped[table].push is not a function"
  else .ok (Keyed.put grouped table ((Keyed.get grouped table).getD [] ++ [operation]))

def groupOperationsByTable (operations : List SchemaOperation) : Except String TableOperations :=
  operations.foldlM (fun grouped operation =>
    (extractTableReferences operation.sql).foldlM (pushOperation operation) grouped) []

/-- The number that a key of an object is, where it is written as numbers are. -/
def arrayIndex (key : String) : Option Nat :=
  let n := key.toList.foldl (fun n c => 10 * n + (c.toNat - '0'.toNat)) 0
  if toString n = key ∧ n < 4294967295 then some n else none

/-- `Object.entries(grouped)`: numbers come first and in their order. -/
def entries (grouped : TableOperations) : TableOperations :=
  let numbers := grouped.filterMap fun entry => (arrayIndex entry.1).map fun n => (n, entry)
  (numbers.mergeSort fun first next => first.1 ≤ next.1).map Prod.snd ++
    grouped.filter fun entry => (arrayIndex entry.1).isNone

/-- One operation of the table matches the one test, and one the other. -/
def bothIn (operations : List SchemaOperation) (first second : SchemaOperation → Bool) : Bool :=
  operations.any first && operations.any second

def checkMigrationCompatibility (operations : List SchemaOperation) : Except String (List String) := do
  let has (category : SqlCategory) := operations.any (·.category = category)
  let mixed :=
    (if has .BREAKING && has .SAFE then
      ["Mixed SAFE and BREAKING operations - use expand-contract pattern"] else []) ++
    if has .BREAKING && has .DATA then
      ["Mixed DATA and BREAKING operations - ensure data operations complete before breaking changes"] else []
  let tableOperations ← groupOperationsByTable operations
  let ordering := (entries tableOperations).flatMap fun (tableName, ops) =>
    (if bothIn ops (fun op => (SqlRule.whole ["ADD", "COLUMN"] empty).test op.sql)
        (fun op => ReportPattern.setNotNull.test op.sql) then
      [s!"Table \"{tableName}\": ADD COLUMN and SET NOT NULL should be separated into different phases"] else []) ++
    if bothIn ops (fun op => ReportPattern.dropColumn.test op.sql) (fun op => op.category = .DATA) then
      [s!"Table \"{tableName}\": Data operations should complete before DROP COLUMN"] else []
  return mixed ++ ordering

/-! ## The report -/

def checkCompatibility (operations : List SchemaOperation) : Except String CompatibilityReport := do
  let breakingChanges := findBreakingChanges operations
  let apiIssues := checkApiCompatibility operations
  let migrationIssues ← checkMigrationCompatibility operations
  return {
    breakingChanges
    backwardCompatible := breakingChanges.isEmpty
    apiCompatibility := apiIssues.isEmpty
    migrationCompatibility := migrationIssues.isEmpty
    recommendations := apiIssues ++ migrationIssues }

structure CompatibilitySummary where
  isCompatible : Bool
  breakingChangesCount : Nat
  apiIssuesCount : Nat
  migrationIssuesCount : Nat
  recommendationsCount : Nat
deriving DecidableEq

def getCompatibilitySummary (operations : List SchemaOperation) : Except String CompatibilitySummary := do
  let report ← checkCompatibility operations
  return {
    isCompatible := report.backwardCompatible && report.apiCompatibility && report.migrationCompatibility
    breakingChangesCount := report.breakingChanges.length
    apiIssuesCount := (report.recommendations.filter fun r => includes r "API").length
    migrationIssuesCount :=
      (report.recommendations.filter fun r => includes r "migration" || includes r "phase").length
    recommendationsCount := report.recommendations.length }

end DriverMicroServices.PlanReports
