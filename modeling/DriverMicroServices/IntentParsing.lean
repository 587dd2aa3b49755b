import DriverMicroServices.Texts.Json

/-! The parser of intents. It collects what is missing, and then reads on as if nothing were: a
property of a missing part throws. -/
namespace DriverMicroServices.Intents
open Texts Texts.Json Tables.Keyed

inductive IntentType where
  | RENAME_COLUMN
  | CHANGE_COLUMN_TYPE
  | ADD_COLUMN
  | DROP_COLUMN
  | ADD_INDEX
  | DROP_INDEX
  | ADD_CONSTRAINT
  | DROP_CONSTRAINT
  | RENAME_TABLE
  | SPLIT_TABLE
  | MERGE_TABLES
deriving DecidableEq

def IntentType.text : IntentType → String
  | RENAME_COLUMN => "RENAME_COLUMN"
  | CHANGE_COLUMN_TYPE => "CHANGE_COLUMN_TYPE"
  | ADD_COLUMN => "ADD_COLUMN"
  | DROP_COLUMN => "DROP_COLUMN"
  | ADD_INDEX => "ADD_INDEX"
  | DROP_INDEX => "DROP_INDEX"
  | ADD_CONSTRAINT => "ADD_CONSTRAINT"
  | DROP_CONSTRAINT => "DROP_CONSTRAINT"
  | RENAME_TABLE => "RENAME_TABLE"
  | SPLIT_TABLE => "SPLIT_TABLE"
  | MERGE_TABLES => "MERGE_TABLES"

def IntentType.all : List IntentType :=
  [RENAME_COLUMN, CHANGE_COLUMN_TYPE, ADD_COLUMN, DROP_COLUMN, ADD_INDEX, DROP_INDEX, ADD_CONSTRAINT,
    DROP_CONSTRAINT, RENAME_TABLE, SPLIT_TABLE, MERGE_TABLES]

structure IntentValidation where
  valid : Bool
  errors : List String
  warnings : List String := []
  suggestions : List String := []
deriving DecidableEq

/-- The properties of an intent, an object of JSON. -/
abbrev Intent (ν : Type) := List (String × Json ν)

variable {ν : Type} [Numerals ν]

/-- The case of a `switch` over the types of intents. -/
def IntentType.of (value : Value ν) : Option IntentType := all.find? fun type => isText value type.text

namespace SchemaIntentParser

def SUPPORTED_VERSIONS : List String := ["1.0"]

/-- The error for a value that is missing, or counts as false. -/
def required (value : Value ν) (message : String) : List String := if truthy value then [] else [message]

def requiredColumns (payload : Value ν) (message : String) : List String :=
  let columns := peek payload "columns"
  if !truthy columns || hasLengthZero columns then [message] else []

def different (first second : Value ν) (message : String) : List String :=
  if strictEq first second then [message] else []

def validateRenameColumn (payload : Value ν) : List String :=
  required (peek payload "column") "RENAME_COLUMN intent must specify old column name" ++
    required (peek payload "newColumn") "RENAME_COLUMN intent must specify new column name" ++
    different (peek payload "column") (peek payload "newColumn") "Old and new column names must be different"

def validateChangeColumnType (payload : Value ν) : List String :=
  required (peek payload "column") "CHANGE_COLUMN_TYPE intent must specify column name" ++
    required (peek payload "newType") "CHANGE_COLUMN_TYPE intent must specify new type"

def validateAddColumn (payload : Value ν) : List String :=
  required (peek payload "column") "ADD_COLUMN intent must specify column name" ++
    required (peek payload "newType") "ADD_COLUMN intent must specify column type"

def validateDropColumn (payload : Value ν) : List String :=
  required (peek payload "column") "DROP_COLUMN intent must specify column name"

def validateAddIndex (payload : Value ν) : List String :=
  required (peek payload "indexName") "ADD_INDEX intent must specify index name" ++
    requiredColumns payload "ADD_INDEX intent must specify columns"

def validateDropIndex (payload : Value ν) : List String :=
  required (peek payload "indexName") "DROP_INDEX intent must specify index name"

def validateAddConstraint (payload : Value ν) : List String :=
  required (peek payload "constraintName") "ADD_CONSTRAINT intent must specify constraint name" ++
    required (peek payload "constraintType") "ADD_CONSTRAINT intent must specify constraint type"

def validateDropConstraint (payload : Value ν) : List String :=
  required (peek payload "constraintName") "DROP_CONSTRAINT intent must specify constraint name"

def validateRenameTable (payload : Value ν) : List String :=
  required (peek payload "newTable") "RENAME_TABLE intent must specify new table name" ++
    different (peek payload "table") (peek payload "newTable") "Old and new table names must be different"

def validateSplitTable (payload : Value ν) : List String :=
  required (peek payload "newTable") "SPLIT_TABLE intent must specify new table name" ++
    requiredColumns payload "SPLIT_TABLE intent must specify columns to move"

def validateMergeTables (payload : Value ν) : List String :=
  required (peek payload "newTable") "MERGE_TABLES intent must specify target table name" ++
    required (peek payload "oldTable") "MERGE_TABLES intent must specify source table name"

/-- The errors of the case for a type. -/
def validateType (payload : Value ν) : IntentType → List String
  | .RENAME_COLUMN => validateRenameColumn payload
  | .CHANGE_COLUMN_TYPE => validateChangeColumnType payload
  | .ADD_COLUMN => validateAddColumn payload
  | .DROP_COLUMN => validateDropColumn payload
  | .ADD_INDEX => validateAddIndex payload
  | .DROP_INDEX => validateDropIndex payload
  | .ADD_CONSTRAINT => validateAddConstraint payload
  | .DROP_CONSTRAINT => validateDropConstraint payload
  | .RENAME_TABLE => validateRenameTable payload
  | .SPLIT_TABLE => validateSplitTable payload
  | .MERGE_TABLES => validateMergeTables payload

/-- A part of the intent that must be there, with fields that must be in it. -/
def requiredPart (part : Value ν) (message : String) (fields : List (String × String)) : List String :=
  if truthy part then fields.flatMap fun field => required (peek part field.1) field.2 else [message]

/-- The errors before those of the type. -/
def requiredErrors (intentData : Intent ν) : List String :=
  required (get intentData "type") "Intent must specify a type" ++
    requiredPart (get intentData "metadata") "Intent must include metadata"
      [("author", "Intent metadata must include author"),
        ("description", "Intent metadata must include description")] ++
    requiredPart (get intentData "payload") "Intent must include payload"
      [("table", "Intent payload must include table name")]

/-- `/^[a-z_][a-z0-9_]*$/` -/
def isSnakeCase (text : String) : Bool :=
  match text.toList with
  | [] => false
  | c :: cs => (c.isLower || c = '_') && cs.all fun c => c.isLower || c.isDigit || c = '_'

/-- Whether a name that is given follows the convention. -/
def followsConvention (name : Value ν) : Option Bool :=
  if truthy name then (render name).map isSnakeCase else some true

def isLong (description : Value ν) : Option Bool :=
  if truthy description then lengthExceeds description 500 else some false

/-- The warnings, or nothing where a property of a missing part is read. -/
def checkCommonIssues (metadata payload : Value ν) : Option (List String) :=
  if isNullish metadata || isNullish payload then none
  else do
    let long ← isLong (peek metadata "description")
    let column ← followsConvention (peek payload "column")
    let table ← followsConvention (peek payload "table")
    some ((if long then ["Description is very long, consider shortening"] else []) ++
      required (peek metadata "priority") "Consider specifying priority for better planning" ++
      required (peek metadata "estimatedImpact")
        "Consider specifying estimated impact for better risk assessment" ++
      (if column then [] else ["Column name should follow snake_case convention"]) ++
      if table then [] else ["Table name should follow snake_case convention"])

/-- The errors of the type; the case of a type reads properties of the payload. -/
def typeErrors (intentData : Intent ν) : Option (List String) :=
  let payload := get intentData "payload"
  match IntentType.of (get intentData "type") with
  | none => some []
  | some type => if isNullish payload then none else some (validateType payload type)

/-- The validation, or nothing where it throws. -/
def parse (intentData : Intent ν) : Option IntentValidation :=
  let version := get intentData "version"
  if !truthy version then some { valid := false, errors := ["Intent must specify a version"] }
  else if !SUPPORTED_VERSIONS.any (isText version) then
    let versions := ", ".intercalate SUPPORTED_VERSIONS
    (render version).map fun text =>
      { valid := false
        errors := [s!"Unsupported intent version: {text}. Supported versions: {versions}"] }
  else do
    let specific ← typeErrors intentData
    let warnings ← checkCommonIssues (get intentData "metadata") (get intentData "payload")
    let errors := requiredErrors intentData ++ specific
    some { valid := errors.isEmpty, errors, warnings }

end SchemaIntentParser
end DriverMicroServices.Intents
