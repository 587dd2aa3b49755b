import DriverMicroServices.SchemaOperations
import DriverMicroServices.Texts.Regex

/-! The classification of statements. The rules are tried in their order, and a statement that
none of them knows is safe. -/
namespace DriverMicroServices
open Texts.Regex Texts.Regex.Pattern

/-- An entry of `SQL_RULES`. -/
structure SqlRule where
  pattern : Pattern
  category : SqlCategory
  reason : String

namespace SqlRule

/-- `\bA\s+B\b`, and what follows. -/
def whole (list : List String) (next : Pattern) : Pattern :=
  seq boundary (words list (seq boundary next))

/-- `^\s*`, and what follows. -/
def atLine (next : Pattern) : Pattern := seq lineStart (seq (many isSpace) next)

def all : List SqlRule :=
  [⟨whole ["DROP", "TABLE"] empty, .BREAKING, "DROP TABLE removes data permanently"⟩,
    ⟨whole ["DROP", "COLUMN"] empty, .BREAKING, "DROP COLUMN removes data permanently"⟩,
    ⟨whole ["DROP", "TYPE"] empty, .BREAKING, "DROP TYPE is destructive"⟩,
    ⟨whole ["ALTER", "TYPE"] empty, .BREAKING, "ALTER TYPE can cause table rewrites"⟩,
    ⟨words ["SET", "NOT", "NULL"] empty, .BREAKING,
      "SET NOT NULL enforces constraint (needs data prep first)"⟩,
    ⟨whole ["RENAME", "COLUMN"] empty, .BREAKING, "RENAME COLUMN breaks existing queries"⟩,
    ⟨whole ["RENAME", "TABLE"] empty, .BREAKING, "RENAME TABLE breaks existing queries"⟩,
    ⟨whole ["ALTER", "COLUMN"] (seq (many isDot) (text "TYPE" (seq boundary empty))), .BREAKING,
      "Changing column type can corrupt data"⟩,
    ⟨atLine (text "UPDATE" (seq (plus isSpace) (one isWord))), .DATA, "Data update / backfill"⟩,
    ⟨atLine (words ["INSERT", "INTO"] (seq boundary empty)), .DATA, "Data insert / backfill"⟩,
    ⟨atLine (words ["DELETE", "FROM"] (seq boundary empty)), .DATA, "Data deletion"⟩,
    ⟨atLine (text "COPY" (seq (plus isSpace) (one isWord))), .DATA, "Bulk data copy"⟩,
    ⟨whole ["CREATE", "TABLE"] empty, .SAFE, "New table (additive)"⟩,
    ⟨whole ["CREATE", "INDEX"] empty, .SAFE, "New index (additive)"⟩,
    ⟨whole ["CREATE", "TYPE"] empty, .SAFE, "New enum/type (additive)"⟩,
    ⟨whole ["ADD", "COLUMN"] empty, .SAFE, "New column (must be nullable)"⟩,
    ⟨whole ["ADD", "CONSTRAINT"] empty, .SAFE, "New constraint (check data first)"⟩,
    ⟨whole ["CREATE", "SEQUENCE"] empty, .SAFE, "New sequence (additive)"⟩]

end SqlRule

/-- The category of a statement, and the reason. -/
def classifySqlStatement (sql : String) : SqlCategory × String :=
  match SqlRule.all.find? fun rule => rule.pattern.test sql with
  | some rule => (rule.category, rule.reason)
  | none => (.SAFE, "Unrecognised statement — defaulting to SAFE")

/-- `["']?(\w+)` -/
def bareName : Pattern := seq (optional fun c => c = '"' || c = '\'') (seq (group (plus isWord)) empty)

/-- `/(?:FROM|INTO|UPDATE|TABLE)\s+["']?(\w+)/i` -/
def sizedTable : Pattern :=
  seq (either (text "FROM" empty) (either (text "INTO" empty) (either (text "UPDATE" empty) (text "TABLE" empty))))
    (seq (plus isSpace) bareName)

def containsOneOf (parts : List String) (name : String) : Bool :=
  parts.any fun part => (text part empty).test name

def extractOperationMetadata (sql : String) : OperationMetadata :=
  let tableSize : Option TableSize := (sizedTable.search sql).map fun captures =>
    let tableName := captures.headD ""
    if containsOneOf ["log", "audit", "event"] tableName then .LARGE
    else if containsOneOf ["user", "order", "product"] tableName then .MEDIUM
    else .SMALL
  { tableSize
    requiresDowntime :=
      if (words ["ALTER", "COLUMN"] (seq (many isDot) (words ["NOT", "NULL"] empty))).test sql ||
        (words ["DROP", "COLUMN"] empty).test sql then some true else none
    estimatedTime := some <|
      match tableSize with
      | some .LARGE => "5-30 minutes"
      | some .MEDIUM => "30 seconds - 5 minutes"
      | _ => "< 30 seconds" }

def classifyOperations (sqlStatements : List String) : List SchemaOperation :=
  sqlStatements.map fun sql =>
    { sql
      category := (classifySqlStatement sql).1
      reason := (classifySqlStatement sql).2
      metadata := some (extractOperationMetadata sql) }

end DriverMicroServices
