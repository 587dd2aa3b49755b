import DriverMicroServices.Tables.Keyed
import DriverMicroServices.Texts.Json
import DriverMicroServices.Texts.Regex

/-! The policies for a schema diff, before it is migrated. Each rule looks at one statement at a
time, but for the rule on conflicts, which looks at two. -/
namespace DriverMicroServices.Policy
open Texts Texts.Regex Texts.Regex.Pattern

inductive Severity where
  | CRITICAL
  | WARNING
  | INFO
deriving DecidableEq

inductive Decision where
  | ALLOW
  | REQUIRE_APPROVAL
  | DENY
deriving DecidableEq

structure PolicyViolation where
  rule : String
  severity : Severity
  message : String
  operation : String
  suggestedFix : Option String := none
deriving DecidableEq

structure PolicyDecision where
  decision : Decision
  reasons : List String
  violations : List PolicyViolation
deriving DecidableEq

structure SchemaDiff where
  up : List String
deriving DecidableEq

/-- Two times of the day. -/
structure MaintenanceWindow where
  start : String
  finish : String
deriving DecidableEq

/-- The rows of a table, as a number or as a text about them. -/
inductive RowEstimate (ν : Type) where
  | count (rows : ν)
  | text (description : String)

structure TableMetadata (ν : Type) where
  estimatedRows : Option (RowEstimate ν) := none
  requiresDowntime : Bool := false

/-- No rule reads the snapshot, which may be anything. -/
structure PolicyContext (σ ν : Type) where
  schemaDiff : SchemaDiff
  databaseSnapshot : σ
  operationMetadata : List (String × TableMetadata ν) := []
  maintenanceWindow : Option MaintenanceWindow := none

/-! ## Compatibility -/

namespace CompatibilityRules

/-- `(\w+\.\w+)` -/
def dotted : Pattern := group (seq (plus isWord) (seq (one (· = '.')) (plus isWord)))

/-- `\s+`, and what follows. -/
def spaced (next : Pattern) : Pattern := seq (plus isSpace) next

/-- The phrase is somewhere in the statement. -/
def phrased (phrase : List String) (sql : String) : Bool := (words phrase empty).test sql

def isDirectColumnRename (sql : String) : Bool :=
  phrased ["RENAME", "COLUMN"] sql && !phrased ["ADD", "COLUMN"] sql

def isDirectColumnTypeChange (sql : String) : Bool :=
  (words ["ALTER", "COLUMN"] (seq (many isDot) (text "TYPE" empty))).test sql &&
    !phrased ["ADD", "COLUMN"] sql

def isDirectColumnDrop (sql : String) : Bool :=
  phrased ["DROP", "COLUMN"] sql && !phrased ["ADD", "COLUMN"] sql

def isDirectTableDrop (sql : String) : Bool :=
  phrased ["DROP", "TABLE"] sql && !phrased ["CREATE", "TABLE"] sql

def isDirectConstraintDrop (sql : String) : Bool := phrased ["DROP", "CONSTRAINT"] sql

def isConstraintAddition (sql : String) : Bool := phrased ["ADD", "CONSTRAINT"] sql

/-- What detects a change, and what is then read from the statement. -/
structure DirectRule where
  rule : String
  severity : Severity
  detects : String → Bool
  extraction : Pattern
  message : List String → String
  suggestedFix : String

/-- A statement that is detected, but that nothing can be read from, passes. -/
def DirectRule.violation (rule : DirectRule) (sql : String) : Option PolicyViolation :=
  if rule.detects sql then
    (rule.extraction.search sql).map fun captures =>
      { rule := rule.rule
        severity := rule.severity
        message := rule.message captures
        operation := sql
        suggestedFix := some rule.suggestedFix }
  else none

/-- A message with the captures after it. -/
def said (message : String) (captures : List String) : String := message ++ " → ".intercalate captures

def columnRename : DirectRule where
  rule := "NO_DIRECT_COLUMN_RENAME"
  severity := .CRITICAL
  detects := isDirectColumnRename
  extraction :=
    words ["RENAME", "COLUMN"] (spaced (seq dotted (spaced (text "TO" (spaced (group (plus isWord)))))))
  message := said "Direct column rename detected: "
  suggestedFix := "Use Expand-Migrate-Contract pattern: 1) Add new column, 2) Backfill data, " ++
    "3) Update application code, 4) Drop old column"

def columnTypeChange : DirectRule where
  rule := "NO_DIRECT_COLUMN_TYPE_CHANGE"
  severity := .CRITICAL
  detects := isDirectColumnTypeChange
  extraction :=
    words ["ALTER", "COLUMN"] (spaced (seq dotted (spaced (text "TYPE" (spaced (group (plus isWord)))))))
  message := said "Direct column type change detected: "
  suggestedFix := "Use Expand-Migrate-Contract pattern: 1) Add new column with correct type, " ++
    "2) Migrate data, 3) Update application code, 4) Drop old column"

def columnDrop : DirectRule where
  rule := "NO_DIRECT_COLUMN_DROP"
  severity := .CRITICAL
  detects := isDirectColumnDrop
  extraction := words ["DROP", "COLUMN"] (spaced dotted)
  message := said "Direct column drop detected: "
  suggestedFix := "Use Expand-Migrate-Contract pattern: 1) Ensure column is no longer referenced, " ++
    "2) Drop column in separate migration"

def tableDrop : DirectRule where
  rule := "NO_DIRECT_TABLE_DROP"
  severity := .CRITICAL
  detects := isDirectTableDrop
  extraction := words ["DROP", "TABLE"] (spaced (group (plus isWord)))
  message := said "Direct table drop detected: "
  suggestedFix := "Use Expand-Migrate-Contract pattern: 1) Ensure table is no longer referenced, " ++
    "2) Drop table in separate migration"

def constraintDrop : DirectRule where
  rule := "NO_DIRECT_CONSTRAINT_DROP"
  severity := .WARNING
  detects := isDirectConstraintDrop
  extraction := words ["DROP", "CONSTRAINT"] (spaced dotted)
  message := said "Direct constraint drop detected: "
  suggestedFix := "Evaluate if constraint can be safely removed. Consider data integrity implications."

def constraintAddition : DirectRule where
  rule := "CONSTRAINT_ADDITION_RISK"
  severity := .WARNING
  detects := isConstraintAddition
  extraction := words ["ADD", "CONSTRAINT"] (spaced dotted)
  message := said "Constraint addition may fail due to existing data: "
  suggestedFix := "Verify existing data complies with constraint before adding. " ++
    "Consider data migration if needed."

/-- An addition is looked for only where no drop is detected. -/
def constraintChange (sql : String) : Option PolicyViolation :=
  if isDirectConstraintDrop sql then constraintDrop.violation sql else constraintAddition.violation sql

def checkColumnRenames (schemaDiff : SchemaDiff) : List PolicyViolation :=
  schemaDiff.up.filterMap columnRename.violation

def checkColumnTypeChanges (schemaDiff : SchemaDiff) : List PolicyViolation :=
  schemaDiff.up.filterMap columnTypeChange.violation

def checkColumnDrops (schemaDiff : SchemaDiff) : List PolicyViolation :=
  schemaDiff.up.filterMap columnDrop.violation

def checkTableDrops (schemaDiff : SchemaDiff) : List PolicyViolation :=
  schemaDiff.up.filterMap tableDrop.violation

def checkConstraintChanges (schemaDiff : SchemaDiff) : List PolicyViolation :=
  schemaDiff.up.filterMap constraintChange

def evaluate (schemaDiff : SchemaDiff) : List PolicyViolation :=
  checkColumnRenames schemaDiff ++ checkColumnTypeChanges schemaDiff ++ checkColumnDrops schemaDiff ++
    checkTableDrops schemaDiff ++ checkConstraintChanges schemaDiff

end CompatibilityRules

/-! ## Operation -/

/-- The value of a digit, of either case. -/
def digitValue (c : Char) : Option Nat :=
  if c.isDigit then some (c.toNat - '0'.toNat)
  else if 'a' ≤ c.toLower ∧ c.toLower ≤ 'f' then some (c.toLower.toNat - 'a'.toNat + 10)
  else none

/-- The digits at the start of a text. -/
def leadingDigits (base : Nat) : List Char → List Nat
  | [] => []
  | c :: cs =>
    match digitValue c with
    | some digit => if digit < base then digit :: leadingDigits base cs else []
    | none => []

def unsigned (base : Nat) (text : List Char) : Option Int :=
  match leadingDigits base text with
  | [] => none
  | digits => some (digits.foldl (fun total digit => base * total + digit) 0 : Nat)

/-- The base is written before the digits. -/
def prefixed : List Char → Option Int
  | '0' :: 'x' :: rest => unsigned 16 rest
  | '0' :: 'X' :: rest => unsigned 16 rest
  | rest => unsigned 10 rest

/-- `parseInt(text)`; `none` is `NaN`. -/
def parseInt (text : String) : Option Int :=
  match text.toList.dropWhile isSpace with
  | '-' :: rest => (prefixed rest).map (-·)
  | '+' :: rest => prefixed rest
  | rest => prefixed rest

/-- `parseInt(time.split(":")[0])` -/
def hourOf (time : String) : Option Int := parseInt (String.ofList (time.toList.takeWhile (· ≠ ':')))

/-- An hour that is no number is neither before nor after another one. -/
def MaintenanceWindow.holds (window : MaintenanceWindow) (currentHour : Nat) : Bool :=
  match hourOf window.start, hourOf window.finish with
  | some maintenanceStart, some maintenanceEnd =>
    maintenanceStart ≤ currentHour && currentHour ≤ maintenanceEnd
  | _, _ => false

namespace RowEstimate

variable {ν : Type} [Numerals ν]

/-- `(rows || 0) > limit` -/
def exceeds : RowEstimate ν → Nat → Bool
  | count rows, limit => !Numerals.isZero rows && Numerals.exceeds rows limit
  | text description, limit => (Numerals.ofText description).any fun rows : ν => Numerals.exceeds rows limit

/-- The estimate in a template. -/
def shown : RowEstimate ν → String
  | count rows => Numerals.text rows
  | text description => description

end RowEstimate

namespace OperationalRules
open CompatibilityRules

def defaultMaintenanceWindow : MaintenanceWindow := ⟨"02:00", "04:00"⟩

def LARGE_TABLE_THRESHOLD : Nat := 1000000

/-- `A\s+B.*C` -/
def before (phrase : List String) (word : String) : Pattern :=
  words phrase (seq (many isDot) (text word empty))

def isBlockingOperation (sql : String) : Bool :=
  [words ["DROP", "COLUMN"] empty, before ["ALTER", "COLUMN"] "DROP", words ["DROP", "CONSTRAINT"] empty,
    before ["ALTER", "TABLE"] "DROP", words ["RENAME", "COLUMN"] empty,
    before ["ALTER", "COLUMN"] "TYPE"].any fun pattern => pattern.test sql

def isHighRiskOperation (sql : String) : Bool :=
  [words ["DROP", "TABLE"] empty, words ["DROP", "COLUMN"] empty, before ["ALTER", "COLUMN"] "TYPE",
    before ["ALTER", "TABLE"] "DROP"].any fun pattern => pattern.test sql

/-- The capture of the first pattern that matches. -/
def extractTableName (sql : String) : Option String :=
  ([["CREATE", "TABLE"], ["ALTER", "TABLE"], ["DROP", "TABLE"], ["INSERT", "INTO"], ["UPDATE"],
    ["DELETE", "FROM"], ["RENAME", "TABLE"]].findSome? fun phrase =>
      (words phrase (spaced (group (plus isWord)))).search sql).map (·.headD "")

/-- `A\s+COLUMN.*\b(\w+)\b`: the last word on the line. -/
def lastWord (action : String) : Pattern :=
  words [action, "COLUMN"] (seq (many isDot) (seq boundary (seq (group (plus isWord)) boundary)))

/-- `A\s+COLUMN.*\bname\b` -/
def columnNamed (action columnName : String) : Pattern :=
  words [action, "COLUMN"] (seq (many isDot) (seq boundary (text columnName boundary)))

def hasColumnConflict (op1 op2 action1 action2 : String) : Bool :=
  match (lastWord action1).search op1 with
  | some captures => (columnNamed action2 (captures.headD "")).test op2
  | none => false

def hasSameColumnAlter (op1 op2 : String) : Bool := hasColumnConflict op1 op2 "ALTER" "ALTER"

def isConflictingOperations (op1 op2 : String) : Bool :=
  match extractTableName op1, extractTableName op2 with
  | some table1, some table2 =>
    table1 = table2 &&
      (hasColumnConflict op1 op2 "ADD" "DROP" || hasColumnConflict op2 op1 "ADD" "DROP" ||
        hasSameColumnAlter op1 op2 ||
        phrased ["ADD", "CONSTRAINT"] op1 && phrased ["DROP", "CONSTRAINT"] op2 ||
        phrased ["DROP", "CONSTRAINT"] op1 && phrased ["ADD", "CONSTRAINT"] op2)
  | _, _ => false

def outsideWindow (window : MaintenanceWindow) (sql : String) : PolicyViolation where
  rule := "OPERATION_OUTSIDE_MAINTENANCE_WINDOW"
  severity := .CRITICAL
  message := s!"Blocking operation scheduled outside maintenance window ({window.start}-{window.finish})"
  operation := sql
  suggestedFix := some "Schedule operation during maintenance window or use non-blocking alternatives"

def checkMaintenanceWindow (currentHour : Nat) (schemaDiff : SchemaDiff) (window : MaintenanceWindow) :
    List PolicyViolation :=
  if window.holds currentHour then []
  else (schemaDiff.up.filter isBlockingOperation).map (outsideWindow window)

section Metadata

variable {ν : Type} [Numerals ν]

def metadataOf (operationMetadata : List (String × TableMetadata ν)) (sql : String) :
    Option (TableMetadata ν) :=
  (extractTableName sql).bind (Tables.Keyed.get operationMetadata)

/-- The estimate for the table of a statement, if the table is large. -/
def largeTable (operationMetadata : List (String × TableMetadata ν)) (sql : String) :
    Option (RowEstimate ν) :=
  ((metadataOf operationMetadata sql).bind (·.estimatedRows)).filter (·.exceeds LARGE_TABLE_THRESHOLD)

def sizeViolation (operationMetadata : List (String × TableMetadata ν)) (sql : String) :
    Option PolicyViolation :=
  match extractTableName sql, largeTable operationMetadata sql with
  | some tableName, some estimatedRows =>
    if isHighRiskOperation sql then
      some
        { rule := "LARGE_TABLE_HIGH_RISK_OPERATION"
          severity := .CRITICAL
          message := s!"High-risk operation on large table ({tableName}) with " ++
            s!"{estimatedRows.shown} estimated rows"
          operation := sql
          suggestedFix := some
            "Consider using online schema change tools or schedule during low-traffic periods" }
    else if isBlockingOperation sql then
      some
        { rule := "LARGE_TABLE_BLOCKING_OPERATION"
          severity := .WARNING
          message := s!"Blocking operation on large table ({tableName}) with " ++
            s!"{estimatedRows.shown} estimated rows"
          operation := sql
          suggestedFix := some "Schedule during maintenance window or use non-blocking alternatives" }
    else none
  | _, _ => none

def checkTableSizeLimits {σ : Type} (schemaDiff : SchemaDiff) (_databaseSnapshot : σ)
    (operationMetadata : List (String × TableMetadata ν)) : List PolicyViolation :=
  schemaDiff.up.filterMap (sizeViolation operationMetadata)

def needsDowntime (operationMetadata : List (String × TableMetadata ν)) (sql : String) : Bool :=
  (metadataOf operationMetadata sql).any (·.requiresDowntime)

def blockingViolation (operationMetadata : List (String × TableMetadata ν)) (sql : String) :
    PolicyViolation where
  rule := "BLOCKING_OPERATION_DETECTED"
  severity := if needsDowntime operationMetadata sql then .CRITICAL else .WARNING
  message := s!"Blocking operation detected: {sql}"
  operation := sql
  suggestedFix := some <|
    if needsDowntime operationMetadata sql then
      "Schedule during maintenance window with application downtime"
    else "Consider using online schema change tools"

def checkBlockingOperations (schemaDiff : SchemaDiff)
    (operationMetadata : List (String × TableMetadata ν)) : List PolicyViolation :=
  (schemaDiff.up.filter isBlockingOperation).map (blockingViolation operationMetadata)

end Metadata

/-- Each two statements, in their order. -/
def pairs : List String → List (String × String)
  | [] => []
  | op1 :: rest => rest.map (op1, ·) ++ pairs rest

def conflict (ops : String × String) : PolicyViolation where
  rule := "OPERATION_CONFLICT_DETECTED"
  severity := .WARNING
  message := s!"Conflicting operations detected: {ops.1} and {ops.2}"
  operation := s!"{ops.1} | {ops.2}"
  suggestedFix := some "Split conflicting operations into separate migrations or reorder them"

def checkOperationConflicts (schemaDiff : SchemaDiff) : List PolicyViolation :=
  ((pairs schemaDiff.up).filter fun ops => isConflictingOperations ops.1 ops.2).map conflict

def evaluate {σ ν : Type} [Numerals ν] (currentHour : Nat) (schemaDiff : SchemaDiff)
    (databaseSnapshot : σ) (operationMetadata : List (String × TableMetadata ν))
    (maintenanceWindow : Option MaintenanceWindow) : List PolicyViolation :=
  checkMaintenanceWindow currentHour schemaDiff (maintenanceWindow.getD defaultMaintenanceWindow) ++
    checkTableSizeLimits schemaDiff databaseSnapshot operationMetadata ++
    checkBlockingOperations schemaDiff operationMetadata ++ checkOperationConflicts schemaDiff

end OperationalRules

/-! ## The engine -/

namespace SchemaPolicyEngine

def reason (message : String) (violations : List PolicyViolation) : String :=
  message ++ ", ".intercalate (violations.map (·.rule))

/-- The decision on violations. -/
def decisionOn (violations : List PolicyViolation) : PolicyDecision :=
  let criticalViolations := violations.filter (·.severity = .CRITICAL)
  let warningViolations := violations.filter (·.severity = .WARNING)
  if 0 < criticalViolations.length then
    ⟨.DENY, [reason "Critical violations detected: " criticalViolations], violations⟩
  else if 0 < warningViolations.length then
    ⟨.REQUIRE_APPROVAL, [reason "Warning violations detected: " warningViolations], violations⟩
  else ⟨.ALLOW, ["All policies passed"], violations⟩

variable {σ ν : Type} [Numerals ν]

def violations (currentHour : Nat) (context : PolicyContext σ ν) : List PolicyViolation :=
  CompatibilityRules.evaluate context.schemaDiff ++
    OperationalRules.evaluate currentHour context.schemaDiff context.databaseSnapshot
      context.operationMetadata context.maintenanceWindow

/-- The clock phrased which hour it is. -/
def evaluate (currentHour : Nat) (context : PolicyContext σ ν) : PolicyDecision :=
  decisionOn (violations currentHour context)

end SchemaPolicyEngine
end DriverMicroServices.Policy
