import DriverMicroServices.RuntimeClasses
import DriverMicroServices.Texts.Choices

/-! The classification of single changes for the analysis of their compatibility. The class of a statement
is looked for anywhere in it, the operation at its beginning, letter by letter. -/
namespace DriverMicroServices.SchemaClassification
open Texts.Regex Texts.Regex.Pattern

inductive RiskLevel where
  | low
  | medium
  | high
  | critical
deriving DecidableEq

/-- The last two are asked for, but no statement is one. -/
inductive ChangeOperation where
  | CREATE_TABLE | DROP_TABLE | ADD_COLUMN | DROP_COLUMN | ALTER_COLUMN_TYPE | ADD_CONSTRAINT | DROP_CONSTRAINT
  | ALTER_TABLE | ADD_INDEX | DROP_INDEX | INSERT_DATA | UPDATE_DATA | DELETE_DATA | TRUNCATE_TABLE | UNKNOWN
  | ADD_TABLE | ADD_FOREIGN_KEY
deriving DecidableEq

structure StatementClassification where
  type : SqlCategory
  riskLevel : RiskLevel
  description : String
  requiresReview : Bool

/-- What a statement is about, as far as its text tells; nothing is `undefined`. -/
structure ChangeTarget where
  table : Option String := none
  column : Option String := none
  index : Option String := none
  foreignKey : Option String := none
  columns : Option (List String) := none
deriving DecidableEq

structure ClassifiedChange where
  id : Nat
  type : SqlCategory
  operation : ChangeOperation
  target : ChangeTarget
  classification : SqlCategory
  description : String
  riskLevel : RiskLevel
  requiresReview : Bool

/-! ## Classes -/

/-- `A\s+` -/
def beforeSpace (word : String) : Pattern := text word (plus isSpace)

/-- `ALTER\s+COLUMN.*TYPE` -/
def typeChanged : Pattern := words ["ALTER", "COLUMN"] (seq (many isDot) (text "TYPE" empty))

def isBreakingChange (statement : String) : Bool :=
  [words ["DROP", "TABLE"] empty, words ["DROP", "COLUMN"] empty, typeChanged, words ["DROP", "INDEX"] empty,
    words ["DROP", "CONSTRAINT"] empty, text "TRUNCATE" empty].any fun pattern => pattern.test statement

def isDataOperation (statement : String) : Bool :=
  [words ["INSERT", "INTO"] empty, beforeSpace "UPDATE", words ["DELETE", "FROM"] empty, beforeSpace "COPY"].any
    fun pattern => pattern.test statement

def isFixOperation (statement : String) : Bool :=
  [words ["COMMENT", "ON"] empty, beforeSpace "GRANT", beforeSpace "REVOKE"].any fun pattern => pattern.test statement

def getBreakingRiskLevel (statement : String) : RiskLevel :=
  if (words ["DROP", "TABLE"] empty).test statement then .critical
  else if (words ["DROP", "COLUMN"] empty).test statement then .high
  else if typeChanged.test statement then .high
  else .medium

def getBreakingDescription (statement : String) : String :=
  if (words ["DROP", "TABLE"] empty).test statement then "Table deletion - will result in complete data loss"
  else if (words ["DROP", "COLUMN"] empty).test statement then
    "Column deletion - will result in data loss"
  else if typeChanged.test statement then "Column type change - may cause data conversion issues"
  else if (words ["DROP", "INDEX"] empty).test statement then "Index deletion - will impact query performance"
  else "Breaking schema change"

def getDataRiskLevel (statement : String) : RiskLevel :=
  if (words ["DELETE", "FROM"] empty).test statement then .high
  else if (beforeSpace "UPDATE").test statement then .medium
  else if (words ["INSERT", "INTO"] empty).test statement then .low
  else .medium

def getDataDescription (statement : String) : String :=
  if (words ["DELETE", "FROM"] empty).test statement then "Data deletion operation"
  else if (beforeSpace "UPDATE").test statement then "Data update operation"
  else if (words ["INSERT", "INTO"] empty).test statement then "Data insertion operation"
  else if (beforeSpace "COPY").test statement then "Bulk data copy operation"
  else "Data manipulation operation"

def classifyStatement (upper : UpperCase) (statement : String) : StatementClassification :=
  let upperStatement := upper.text statement
  if isBreakingChange upperStatement then
    { type := .BREAKING
      riskLevel := getBreakingRiskLevel upperStatement
      description := getBreakingDescription upperStatement
      requiresReview := true }
  else if isDataOperation upperStatement then
    { type := .DATA
      riskLevel := getDataRiskLevel upperStatement
      description := getDataDescription upperStatement
      requiresReview := true }
  else if isFixOperation upperStatement then
    { type := .FIX, riskLevel := .low, description := "Schema fix operation", requiresReview := false }
  else { type := .SAFE, riskLevel := .low, description := "Safe schema operation", requiresReview := false }

/-! ## Operations and targets -/

/-- `text.startsWith(start)` -/
def opens (start text : String) : Bool := start.toList.isPrefixOf text.toList

/-- `text.includes(part)` -/
def holds (part text : String) : Bool := text.toList.tails.any fun rest => part.toList.isPrefixOf rest

/-- The operation of a statement in capitals. -/
def operationOf (upperStatement : String) : ChangeOperation :=
  if opens "CREATE TABLE" upperStatement then .CREATE_TABLE
  else if opens "DROP TABLE" upperStatement then .DROP_TABLE
  else if opens "ALTER TABLE" upperStatement then
    if holds "ADD COLUMN" upperStatement then .ADD_COLUMN
    else if holds "DROP COLUMN" upperStatement then .DROP_COLUMN
    else if holds "ALTER COLUMN" upperStatement then .ALTER_COLUMN_TYPE
    else if holds "ADD CONSTRAINT" upperStatement then .ADD_CONSTRAINT
    else if holds "DROP CONSTRAINT" upperStatement then .DROP_CONSTRAINT
    else .ALTER_TABLE
  else if opens "CREATE INDEX" upperStatement then .ADD_INDEX
  else if opens "DROP INDEX" upperStatement then .DROP_INDEX
  else if opens "INSERT INTO" upperStatement then .INSERT_DATA
  else if opens "UPDATE" upperStatement then .UPDATE_DATA
  else if opens "DELETE FROM" upperStatement then .DELETE_DATA
  else if opens "TRUNCATE" upperStatement then .TRUNCATE_TABLE
  else .UNKNOWN

def extractOperation (upper : UpperCase) (statement : String) : ChangeOperation :=
  operationOf (upper.text statement)

/-- The back quote. -/
def isBackQuote (c : Char) : Bool := c.val = 0x60

/-- One of the words, white space and a word that may stand in back quotes. -/
def nameBehind (kinds : List String) : Pattern :=
  seq (anyOf kinds)
    (seq (plus isSpace) (seq (optional isBackQuote) (seq (group (plus isWord)) (optional isBackQuote))))

/-- `\(([^)]+)\)` -/
def inParentheses : Pattern := seq (one (· = '(')) (seq (group (plus (· ≠ ')'))) (one (· = ')')))

def capture (pattern : Pattern) (text : String) : Option String := (pattern.search text).map (·.headD "")

/-- The columns in a list, without back quotes. -/
def listed (columns : String) : List String :=
  let names := (columns.toList.splitOn ',').map fun col =>
    String.ofList ((LifecycleSplitter.trim (String.ofList col)).toList.filter fun c => !isBackQuote c)
  names.filter (· ≠ "")

/-- The target of a statement in capitals. -/
def targetOf (upperStatement : String) : ChangeTarget where
  table := capture (nameBehind ["TABLE", "INDEX", "CONSTRAINT"]) upperStatement
  column := capture (nameBehind ["COLUMN", "ADD", "DROP"]) upperStatement
  index := capture (nameBehind ["INDEX"]) upperStatement
  foreignKey := capture (nameBehind ["CONSTRAINT"]) upperStatement
  columns := (capture inParentheses upperStatement).map listed

def extractTarget (upper : UpperCase) (statement : String) : ChangeTarget := targetOf (upper.text statement)

def classifyChange (upper : UpperCase) (id : Nat) (change : String) : ClassifiedChange :=
  let classification := classifyStatement upper change
  { id
    type := classification.type
    operation := extractOperation upper change
    target := extractTarget upper change
    classification := classification.type
    description := classification.description
    riskLevel := classification.riskLevel
    requiresReview := classification.requiresReview }

def classifyChanges (upper : UpperCase) (changes : List String) : List ClassifiedChange :=
  changes.mapIdx (classifyChange upper)

/-! ## What the class and the operation share -/

section Shared

variable {upper : UpperCase} {statement : String}

@[simp] theorem operation_classifyChange (id : Nat) :
    (classifyChange upper id statement).operation = operationOf (upper.text statement) := by
  simp only [classifyChange, extractOperation]

@[simp] theorem target_classifyChange (id : Nat) :
    (classifyChange upper id statement).target = targetOf (upper.text statement) := by
  simp only [classifyChange, extractTarget]

/-- A breaking change is one by its text in capitals. -/
theorem classification_classifyChange (id : Nat) (breaks : isBreakingChange (upper.text statement)) :
    (classifyChange upper id statement).classification = .BREAKING := by
  simp only [classifyChange, classifyStatement, breaks, if_true]

/-- A statement that begins by dropping a table is breaking. -/
theorem isBreakingChange_of_opens (begun : opens "DROP TABLE" statement) : isBreakingChange statement := by
  obtain ⟨rest, split⟩ := List.isPrefixOf_iff_prefix.mp begun
  have here : ((words ["DROP", "TABLE"] empty).ways ⟨none, statement.toList⟩).head?.map Prod.snd = some [] := by
    have words_split : statement.toList = "DROP".toList ++ ' ' :: ("TABLE".toList ++ rest) := split.symm
    rw [words_split, ways_words rfl (by decide), ways_empty]
    rfl
  have found : (words ["DROP", "TABLE"] empty).test statement = true := by
    rw [test, search, searchFrom_here here]
    rfl
  simp [isBreakingChange, found]

theorem operationOf_dropTable : operationOf statement = .DROP_TABLE ↔ opens "DROP TABLE" statement := by
  constructor
  · intro drops
    by_contra other
    unfold operationOf at drops
    grind
  · intro begun
    obtain ⟨rest, split⟩ := List.isPrefixOf_iff_prefix.mp begun
    have other : opens "CREATE TABLE" statement = false := by
      rw [opens, ← split]
      rfl
    simp [operationOf, other, begun]

end Shared

end DriverMicroServices.SchemaClassification
