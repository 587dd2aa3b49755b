import DriverMicroServices.Tables.Index
import DriverMicroServices.LifecycleSplit

/-! The differences between the entities and the catalogue of the database, as the schema diff
service lists them. It normalises the names of tables, the types and the defaults first. `lower` is
`toLowerCase`. -/
namespace DriverMicroServices.Drift
open Tables.Keyed Texts.Regex

/-- The type of a column of an entity: a name, or a constructor such as `String`. -/
inductive EntityType where
  | name (text : String)
  | constructor (name : String)
deriving DecidableEq

/-- A default as far as it is looked at: whether it is truthy, and its text. -/
structure DefaultValue where
  truthy : Bool
  text : String
deriving DecidableEq

structure EntityColumn where
  databaseName : String
  type : EntityType
  isNullable : Bool := false
  default : DefaultValue := ⟨false, "undefined"⟩
  isPrimary : Bool := false

structure EntityMetadata where
  tableName : String
  columns : List EntityColumn

/-- A column in the catalogue, with the rows of `information_schema` that are read for it. -/
structure CatalogueColumn where
  name : String
  dataType : String
  isNullable : Bool := false
  default : Option String := none
  primaryKey : Bool := false

/-- A base table of the schema `public`. -/
structure CatalogueTable where
  name : String
  columns : List CatalogueColumn

/-! ## Normal forms -/

/-- `replace(/([a-z])([A-Z])/g, '$1_$2')` -/
def separateWords : List Char → List Char
  | c :: d :: rest =>
    if c.isLower && d.isUpper then c :: '_' :: separateWords (d :: rest) else c :: separateWords (d :: rest)
  | rest => rest

def normalizeTableName (lower : String → String) (tableName : String) : String :=
  lower (String.ofList (separateWords tableName.toList))

def normalizeEntityType (lower : String → String) : EntityType → String
  | .name text => text
  | .constructor "String" => "varchar"
  | .constructor "Number" => "integer"
  | .constructor "Date" => "timestamp"
  | .constructor "Boolean" => "boolean"
  | .constructor name => lower name

def normalizeDbType (type : String) : String :=
  match type with
  | "character varying" | "varchar" => "varchar"
  | "timestamp without time zone" | "timestamp" => "timestamp"
  | "integer" | "int4" => "int"
  | "bigint" | "int8" => "bigint"
  | "numeric" | "decimal" => "decimal"
  | "boolean" => "boolean"
  | "uuid" => "uuid"
  | "jsonb" => "jsonb"
  | "USER-DEFINED" => "enum"
  | other => other

/-- `[\w\s]` -/
def wordOrSpace (c : Char) : Bool := isWord c || isSpace c

/-- Where a text is relative to a match of `/::[\w\s]+/`. -/
inductive CastPart where
  | outside
  | colon
  | type
deriving DecidableEq

def startsCast : List Char → Bool
  | ':' :: ':' :: c :: _ => wordOrSpace c
  | _ => false

/-- `replace(/::[\w\s]+/g, '')` -/
def withoutCasts : CastPart → List Char → List Char
  | _, [] => []
  | part, c :: rest =>
    if part = .colon then withoutCasts .type rest
    else if part = .type ∧ wordOrSpace c then withoutCasts .type rest
    else if startsCast (c :: rest) then withoutCasts .colon rest
    else c :: withoutCasts .outside rest

/-- `text.includes(part)` -/
def includes (part text : String) : Bool := (text.toList.tails.any fun rest => part.toList.isPrefixOf rest)

def normalizeDefault (value : DefaultValue) : Option String :=
  if !value.truthy then none
  else if includes "createDateDefault" value.text || includes "updateDateDefault" value.text then some "now"
  else
    let v := if value.text = "[object Object]" then "{}" else value.text
    some (LifecycleSplitter.trim (String.ofList
      ((withoutCasts .outside v.toList).filter fun c => c ≠ '(' && c ≠ ')' && c ≠ '\'')))

/-! ## The details of a schema -/

structure ColumnDetails where
  name : String
  type : String
  nullable : Bool
  default : DefaultValue
  primaryKey : Bool
  unique : Bool := false

structure TableDetails where
  name : String
  columns : List (String × ColumnDetails)

abbrev SchemaDetails := List (String × TableDetails)

/-- `NOT LIKE 'xyz_%'`; the underscore stands for any character. -/
def notLike (start name : String) : Bool :=
  !(start.toList.isPrefixOf name.toList && start.length < name.length)

/-- The tables that the service asks for. -/
def comparedTable (name : String) : Bool :=
  notLike "pg" name && notLike "information" name && notLike "sql" name && name ≠ "_migrations" &&
    name ≠ "_migrations_lock"

def catalogueColumn (column : CatalogueColumn) : ColumnDetails :=
  { name := column.name, type := column.dataType, nullable := column.isNullable, primaryKey := column.primaryKey
    default :=
      match column.default with
      | some text => ⟨text ≠ "", text⟩
      | none => ⟨false, "null"⟩ }

section Schemas

variable (lower : String → String)

def getDatabaseSchemaDetails (catalogue : List CatalogueTable) : SchemaDetails :=
  index (·.name) ((catalogue.filter fun table => comparedTable table.name).map fun table =>
    { name := normalizeTableName lower table.name
      columns := index (·.name) (table.columns.map catalogueColumn) })

def entityColumn (column : EntityColumn) : ColumnDetails :=
  { name := column.databaseName, type := normalizeEntityType lower column.type, nullable := column.isNullable
    default := column.default, primaryKey := column.isPrimary }

def getEntitySchemaDetails (entities : List EntityMetadata) : SchemaDetails :=
  index (·.name) (entities.map fun metadata =>
    { name := normalizeTableName lower metadata.tableName
      columns := index (·.name) (metadata.columns.map (entityColumn lower)) })

/-! ## Differences -/

inductive Severity where
  | LOW
  | MEDIUM
  | HIGH
deriving DecidableEq

/-- What a difference tells of a column on one side. -/
structure ColumnFacts where
  type : Option String := none
  nullable : Option Bool := none
  default : Option String := none
  primaryKey : Option Bool := none
  unique : Option Bool := none
deriving DecidableEq

structure SchemaDifference where
  table : String
  column : Option String := none
  entity : ColumnFacts := {}
  database : ColumnFacts := {}
  severity : Severity
  description : String
deriving DecidableEq

def ColumnDetails.facts (column : ColumnDetails) : ColumnFacts :=
  { type := column.type, nullable := column.nullable, default := column.default.text
    primaryKey := column.primaryKey, unique := column.unique }

/-- An undefined default in a text. -/
def shown (value : Option String) : String := value.getD "undefined"

/-- One comparison of two columns. -/
def difference (differs : Bool) (severity : Severity) (description : String) (entity database : ColumnFacts) :
    List SchemaDifference :=
  if differs then [{ table := "", entity, database, severity, description }] else []

def compareColumns (entityColumn dbColumn : ColumnDetails) : List SchemaDifference :=
  let entityType := normalizeDbType entityColumn.type
  let dbType := normalizeDbType dbColumn.type
  let entityDefault := normalizeDefault entityColumn.default
  let dbDefault := normalizeDefault dbColumn.default
  let nullability (nullable : Bool) := if nullable then "nullable" else "NOT NULL"
  let key (primaryKey : Bool) := if primaryKey then "PRIMARY KEY" else "NOT PRIMARY KEY"
  let uniqueness (unique : Bool) := if unique then "UNIQUE" else "NOT UNIQUE"
  difference (entityType ≠ dbType) .HIGH
      ("Type mismatch: entity has '" ++ entityType ++ "', database has '" ++ dbType ++ "'")
      { type := entityType } { type := dbType } ++
    difference (entityColumn.nullable ≠ dbColumn.nullable) .MEDIUM
      ("Nullable mismatch: entity is " ++ nullability entityColumn.nullable ++ ", database is " ++
        nullability dbColumn.nullable)
      { nullable := entityColumn.nullable } { nullable := dbColumn.nullable } ++
    difference (entityDefault ≠ dbDefault && entityDefault.isSome) .MEDIUM
      ("Default value mismatch: entity has '" ++ shown entityDefault ++ "', database has '" ++ shown dbDefault ++ "'")
      { default := entityDefault } { default := dbDefault } ++
    difference (entityColumn.primaryKey ≠ dbColumn.primaryKey) .HIGH
      ("Primary key mismatch: entity is " ++ key entityColumn.primaryKey ++ ", database is " ++
        key dbColumn.primaryKey)
      { primaryKey := entityColumn.primaryKey } { primaryKey := dbColumn.primaryKey } ++
    difference (entityColumn.unique ≠ dbColumn.unique) .MEDIUM
      ("Unique constraint mismatch: entity is " ++ uniqueness entityColumn.unique ++ ", database is " ++
        uniqueness dbColumn.unique)
      { unique := entityColumn.unique } { unique := dbColumn.unique }

/-- The columns of an entity against a table that is there. -/
def compareTable (tableName : String) (entityTable dbTable : TableDetails) : List SchemaDifference :=
  entityTable.columns.flatMap (fun (name, column) =>
      match get dbTable.columns name with
      | none =>
        [{ table := tableName, column := some name, severity := .HIGH
           description := "Column '" ++ name ++ "' exists in entity but not in database table '" ++ tableName ++ "'"
           entity := column.facts }]
      | some dbColumn =>
        (compareColumns column dbColumn).map fun found => { found with table := tableName, column := some name }) ++
    (dbTable.columns.filter fun (name, _) => (get entityTable.columns name).isNone).map fun (name, column) =>
      { table := tableName, column := some name, severity := .MEDIUM
        description := "Column '" ++ name ++ "' exists in database but not in entity table '" ++ tableName ++ "'"
        database := column.facts }

def compareSchemas (dbSchema entitySchema : SchemaDetails) : List SchemaDifference :=
  entitySchema.flatMap (fun (name, entityTable) =>
      match get dbSchema name with
      | none =>
        [{ table := name, severity := .HIGH
           description := "Table '" ++ name ++ "' exists in entities but not in database" }]
      | some dbTable => compareTable name entityTable dbTable) ++
    (dbSchema.filter fun (name, _) => (get entitySchema name).isNone).map fun (name, _) =>
      { table := name, severity := .MEDIUM
        description := "Table '" ++ name ++ "' exists in database but not in entities" }

structure DiffSummary where
  totalDifferences : Nat
  criticalDifferences : Nat
  mediumDifferences : Nat
  lowDifferences : Nat
deriving DecidableEq

structure DetailedSchemaDiff where
  differences : List SchemaDifference
  newTables : List String
  droppedTables : List String
  alteredTables : List String
  summary : DiffSummary
deriving DecidableEq

def generateSummary (differences : List SchemaDifference) : DiffSummary :=
  { totalDifferences := differences.length
    criticalDifferences := differences.countP (·.severity = .HIGH)
    mediumDifferences := differences.countP (·.severity = .MEDIUM)
    lowDifferences := differences.countP (·.severity = .LOW) }

def getAlteredTables (differences : List SchemaDifference) : List String :=
  differences.foldl (fun names found =>
    if found.table = "" ∨ found.table ∈ names then names else names ++ [found.table]) []

def getDetailedSchemaDiff (entities : List EntityMetadata) (catalogue : List CatalogueTable) : DetailedSchemaDiff :=
  let dbSchema := getDatabaseSchemaDetails lower catalogue
  let entitySchema := getEntitySchemaDetails lower entities
  let differences := compareSchemas dbSchema entitySchema
  { differences
    newTables := (entitySchema.map (·.1)).filter fun name => (get dbSchema name).isNone
    droppedTables := (dbSchema.map (·.1)).filter fun name => (get entitySchema name).isNone
    alteredTables := getAlteredTables differences
    summary := generateSummary differences }

end Schemas

end DriverMicroServices.Drift
