import DriverMicroServices.SchemaDifferences
import DriverMicroServices.Tables.TwoSided

/-! The three answers of the drift engine to the question whether entities and database differ. Two
of them compare names and types as they are, and the third one takes the differences of the schema
diff service. -/
namespace DriverMicroServices.Drift
open Tables.Keyed Tables.TwoSided

/-! ## Snapshots -/

structure SnapshotColumn where
  name : String
  type : EntityType
  nullable : Bool
  primaryKey : Bool

structure SnapshotTable where
  name : String
  columns : List SnapshotColumn

/-- No column of the database is taken for a primary key. -/
def databaseColumn (column : CatalogueColumn) : SnapshotColumn :=
  { name := column.name, type := .name column.dataType, nullable := column.isNullable, primaryKey := false }

def databaseTable (table : CatalogueTable) : SnapshotTable :=
  { name := table.name, columns := table.columns.map databaseColumn }

def buildDatabaseSnapshot (catalogue : List CatalogueTable) : List SnapshotTable := catalogue.map databaseTable

def expectedColumn (column : EntityColumn) : SnapshotColumn :=
  { name := column.databaseName, type := column.type, nullable := column.isNullable, primaryKey := column.isPrimary }

def expectedTable (metadata : EntityMetadata) : SnapshotTable :=
  { name := metadata.tableName, columns := metadata.columns.map expectedColumn }

def buildEntitySnapshot (entities : List EntityMetadata) : List SnapshotTable := entities.map expectedTable

/-- An expected column that is missing, or has another type, nullability or key. -/
def columnDiffers (current : List (String × SnapshotColumn)) (name : String) (column : SnapshotColumn) : Bool :=
  match get current name with
  | none => true
  | some currentCol =>
    currentCol.type ≠ column.type || currentCol.nullable ≠ column.nullable ||
      currentCol.primaryKey ≠ column.primaryKey

def tableDiffers (current : List SnapshotTable) (table : SnapshotTable) : Bool :=
  match current.find? (·.name = table.name) with
  | none => false
  | some currentTable =>
    (index (·.name) table.columns).any fun (name, column) =>
      columnDiffers (index (·.name) currentTable.columns) name column

def snapshotsDiffer (current expected : List SnapshotTable) : Bool :=
  (expected.any fun table => table.name ∉ current.map (·.name)) ||
    (current.any fun table => table.name ∉ expected.map (·.name)) ||
    expected.any (tableDiffers current)

def checkEntityDrift (entities : List EntityMetadata) (catalogue : List CatalogueTable) : Bool :=
  snapshotsDiffer (buildDatabaseSnapshot catalogue) (buildEntitySnapshot entities)

def checkSchemaDrift (entities : List EntityMetadata) (catalogue : List CatalogueTable) : Bool :=
  snapshotsDiffer (buildDatabaseSnapshot catalogue) (buildEntitySnapshot entities)

/-! ## Reports -/

inductive DriftType where
  | ENTITY
  | MIGRATION
  | SCHEMA
deriving DecidableEq

inductive DriftSeverity where
  | HIGH
  | CRITICAL
deriving DecidableEq

structure DriftDetail where
  type : DriftType
  description : String
  severity : DriftSeverity
  affectedTables : List String := []
  suggestedAction : String
  differences : List SchemaDifference := []
deriving DecidableEq

structure DriftReport where
  entityDrift : Bool
  migrationDrift : Bool
  schemaDrift : Bool
  driftDetails : List DriftDetail
  recommendations : List String
  detailedDiff : Option DetailedSchemaDiff
deriving DecidableEq

/-- The report from the pending migrations and, if there is one, the detailed diff. -/
def driftReport (migrationDrift : Bool) (detailedDiff : Option DetailedSchemaDiff) : DriftReport :=
  let differences := (detailedDiff.map (·.differences)).getD []
  let entityDifferences := differences.filter (·.table ≠ "")
  let schemaDifferences := differences.filter (·.table ≠ "")
  let entityDrift := 0 < entityDifferences.length
  let schemaDrift := 0 < schemaDifferences.length
  { entityDrift, migrationDrift, schemaDrift, detailedDiff
    driftDetails :=
      (if entityDrift then
        [{ type := .ENTITY, description := "Entity definitions differ from database schema", severity := .HIGH
           suggestedAction := "Run schema synchronization or generate new migrations"
           affectedTables := entityDifferences.map (·.table), differences := entityDifferences }] else []) ++
      (if migrationDrift then
        [{ type := .MIGRATION, description := "Pending migrations detected", severity := .CRITICAL
           suggestedAction := "Run pending migrations before deployment" }] else []) ++
      (if schemaDrift then
        [{ type := .SCHEMA, description := "Database schema differs from expected state", severity := .HIGH
           suggestedAction := "Compare schema snapshots and resolve discrepancies"
           affectedTables := schemaDifferences.map (·.table), differences := schemaDifferences }] else [])
    recommendations :=
      (if entityDrift then ["Review entity changes and generate appropriate migrations"] else []) ++
      (if migrationDrift then ["Execute pending migrations in development environment"] else []) ++
      (if schemaDrift then ["Investigate manual schema changes and update entity definitions"] else []) }

/-- What the queries of a check answer, or the message of their error. -/
structure DriftChecks where
  isInitialized : Bool := true
  showMigrations : Except String Bool
  detailedDiff : Except String DetailedSchemaDiff

/-- A failed query counts as no drift. -/
def checkMigrationDrift (checks : DriftChecks) : Except String Bool :=
  if !checks.isInitialized then .error "DataSource not initialized"
  else
    match checks.showMigrations with
    | .ok pendingMigrations => .ok pendingMigrations
    | .error _ => .ok false

def checkFullDrift (checks : DriftChecks) : Except String DriftReport :=
  (checkMigrationDrift checks).map fun migrationDrift => driftReport migrationDrift checks.detailedDiff.toOption

/-- No query fails. -/
def answered (lower : String → String) (pendingMigrations : Bool) (entities : List EntityMetadata)
    (catalogue : List CatalogueTable) : DriftChecks :=
  { showMigrations := .ok pendingMigrations, detailedDiff := .ok (getDetailedSchemaDiff lower entities catalogue) }

/-! ## What the comparisons find -/

section Coarse

variable {entities : List EntityMetadata} {catalogue : List CatalogueTable}

/-- The last column of each name. -/
def EntityMetadata.column (metadata : EntityMetadata) (name : String) : Option EntityColumn :=
  get (index (·.databaseName) metadata.columns) name

def CatalogueTable.column (table : CatalogueTable) (name : String) : Option CatalogueColumn :=
  get (index (·.name) table.columns) name

def HasPrimary (entities : List EntityMetadata) : Prop :=
  ∃ metadata ∈ entities, ∃ name column, metadata.column name = some column ∧ column.isPrimary = true

/-- The names of the tables are not the same. -/
def TablesDiffer (entities : List EntityMetadata) (catalogue : List CatalogueTable) : Prop :=
  (∃ metadata ∈ entities, metadata.tableName ∉ catalogue.map (·.name)) ∨
    ∃ table ∈ catalogue, table.name ∉ entities.map (·.tableName)

/-- A column of an entity is missing in the table of that name, or has another type or nullability. -/
def ColumnsDiffer (entities : List EntityMetadata) (catalogue : List CatalogueTable) : Prop :=
  ∃ metadata ∈ entities, ∃ table, catalogue.find? (·.name = metadata.tableName) = some table ∧
    ∃ name column, metadata.column name = some column ∧
      ∀ current, table.column name = some current →
        .name current.dataType ≠ column.type ∨ current.isNullable ≠ column.isNullable

private theorem find_snapshot (tableName : String) :
    (buildDatabaseSnapshot catalogue).find? (·.name = tableName) =
      (catalogue.find? (·.name = tableName)).map databaseTable := by
  rw [buildDatabaseSnapshot, List.find?_map]
  rfl

theorem columnDiffers_iff (table : CatalogueTable) (name : String) (column : EntityColumn) :
    columnDiffers (index (·.name) (databaseTable table).columns) name (expectedColumn column) = true ↔
      column.isPrimary = true ∨ ∀ current, table.column name = some current →
        .name current.dataType ≠ column.type ∨ current.isNullable ≠ column.isNullable := by
  have found : get (index (·.name) (databaseTable table).columns) name = (table.column name).map databaseColumn :=
    get_index_map _ _ _ _
  unfold columnDiffers
  rw [found]
  cases table.column name with
  | none => simp
  | some current =>
    cases primary : column.isPrimary with
    | true => simp [databaseColumn, expectedColumn, primary]
    | false => simp [databaseColumn, expectedColumn, primary]

private theorem tableDiffers_iff (metadata : EntityMetadata) :
    tableDiffers (buildDatabaseSnapshot catalogue) (expectedTable metadata) = true ↔
      ∃ table, catalogue.find? (·.name = metadata.tableName) = some table ∧
        ∃ name column, metadata.column name = some column ∧
          (column.isPrimary = true ∨ ∀ current, table.column name = some current →
            .name current.dataType ≠ column.type ∨ current.isNullable ≠ column.isNullable) := by
  have columns (name : String) : get (index (·.name) (expectedTable metadata).columns) name =
      (metadata.column name).map expectedColumn := get_index_map _ _ _ _
  have distinct := index_distinct SnapshotColumn.name (expectedTable metadata).columns
  unfold tableDiffers
  rw [show (expectedTable metadata).name = metadata.tableName from rfl, find_snapshot]
  cases catalogue.find? (·.name = metadata.tableName) with
  | none => simp
  | some table =>
    simp only [Option.map_some, List.any_eq_true, Option.some.injEq, exists_eq_left']
    constructor
    · rintro ⟨⟨name, snapshot⟩, member, differs⟩
      have held := (mem_iff_get distinct).mp member
      rw [columns] at held
      obtain ⟨column, there, rfl⟩ := Option.map_eq_some_iff.mp held
      exact ⟨name, column, there, (columnDiffers_iff table name column).mp differs⟩
    · rintro ⟨name, column, there, differs⟩
      refine ⟨(name, expectedColumn column), (mem_iff_get distinct).mpr ?_, (columnDiffers_iff table name column).mpr differs⟩
      rw [columns, there]
      rfl

/-- Names and types as they are: any primary key is a difference. -/
theorem checkEntityDrift_iff :
    checkEntityDrift entities catalogue = true ↔
      HasPrimary entities ∨ TablesDiffer entities catalogue ∨ ColumnsDiffer entities catalogue := by
  have names : (buildDatabaseSnapshot catalogue).map (·.name) = catalogue.map (·.name) := by
    simp [buildDatabaseSnapshot, databaseTable, Function.comp_def]
  have expected : (buildEntitySnapshot entities).map (·.name) = entities.map (·.tableName) := by
    simp [buildEntitySnapshot, expectedTable, Function.comp_def]
  have parts : checkEntityDrift entities catalogue = true ↔
      TablesDiffer entities catalogue ∨
        ∃ metadata ∈ entities, tableDiffers (buildDatabaseSnapshot catalogue) (expectedTable metadata) = true := by
    unfold checkEntityDrift snapshotsDiffer TablesDiffer
    rw [names, expected]
    simp only [Bool.or_eq_true, List.any_eq_true, decide_eq_true_eq]
    simp [buildEntitySnapshot, buildDatabaseSnapshot, databaseTable, expectedTable]
  rw [parts]
  simp only [tableDiffers_iff]
  constructor
  · rintro (tables | ⟨metadata, member, table, found, name, column, there, primary | differs⟩)
    · exact .inr (.inl tables)
    · exact .inl ⟨metadata, member, name, column, there, primary⟩
    · exact .inr (.inr ⟨metadata, member, table, found, name, column, there, differs⟩)
  · rintro (⟨metadata, member, name, column, there, primary⟩ | tables | ⟨metadata, member, table, found, differs⟩)
    · cases found : catalogue.find? (·.name = metadata.tableName) with
      | none =>
        refine .inl (.inl ⟨metadata, member, fun named => ?_⟩)
        obtain ⟨table, inCatalogue, same⟩ := List.mem_map.mp named
        have other := List.find?_eq_none.mp found table inCatalogue
        simp [same] at other
      | some table => exact .inr ⟨metadata, member, table, found, name, column, there, .inl primary⟩
    · exact .inl tables
    · obtain ⟨name, column, there, apart⟩ := differs
      exact .inr ⟨metadata, member, table, found, name, column, there, .inr apart⟩

end Coarse

section Detailed

variable {lower : String → String} {entities : List EntityMetadata} {catalogue : List CatalogueTable}

/-- A column of an entity is missing, or has another normal form. -/
def ColumnDrifts (dbTable : TableDetails) (name : String) (column : ColumnDetails) : Prop :=
  ∀ dbColumn, get dbTable.columns name = some dbColumn →
    normalizeDbType column.type ≠ normalizeDbType dbColumn.type ∨ column.nullable ≠ dbColumn.nullable ∨
      (normalizeDefault column.default ≠ normalizeDefault dbColumn.default ∧ (normalizeDefault column.default).isSome) ∨
      column.primaryKey ≠ dbColumn.primaryKey

/-- A column on one side is missing or different on the other. -/
def TableDrifts (entityTable dbTable : TableDetails) : Prop :=
  (∃ name column, get entityTable.columns name = some column ∧ ColumnDrifts dbTable name column) ∨
    ∃ name, (get dbTable.columns name).isSome ∧ get entityTable.columns name = none

/-- A table on one side is missing or different on the other. -/
def SchemaDrifts (dbSchema entitySchema : SchemaDetails) : Prop :=
  (∃ name entityTable, name ≠ "" ∧ get entitySchema name = some entityTable ∧
      ∀ dbTable, get dbSchema name = some dbTable → TableDrifts entityTable dbTable) ∨
    ∃ name, name ≠ "" ∧ (get dbSchema name).isSome ∧ get entitySchema name = none

private theorem difference_eq_nil {differs : Bool} {severity : Severity} {description : String} {entity database : ColumnFacts} :
    difference differs severity description entity database = [] ↔ differs = false := by
  unfold difference
  cases differs <;> simp

/-- Neither side knows of a unique column. -/
theorem compareColumns_eq_nil {entityColumn dbColumn : ColumnDetails} (unique : entityColumn.unique = dbColumn.unique) :
    compareColumns entityColumn dbColumn = [] ↔
      normalizeDbType entityColumn.type = normalizeDbType dbColumn.type ∧
      entityColumn.nullable = dbColumn.nullable ∧
      (normalizeDefault entityColumn.default = normalizeDefault dbColumn.default ∨
        (normalizeDefault entityColumn.default).isSome = false) ∧
      entityColumn.primaryKey = dbColumn.primaryKey := by
  simp only [compareColumns, List.append_eq_nil_iff, difference_eq_nil, decide_eq_false_iff_not, not_not,
    Bool.and_eq_false_iff, unique, and_true, and_assoc]

/-- The comparison of two columns finds nothing just when they have the same normal form. -/
theorem compareColumns_ne_nil {entityColumn dbColumn : ColumnDetails} (unique : entityColumn.unique = dbColumn.unique) :
    compareColumns entityColumn dbColumn ≠ [] ↔
      normalizeDbType entityColumn.type ≠ normalizeDbType dbColumn.type ∨
      entityColumn.nullable ≠ dbColumn.nullable ∨
      (normalizeDefault entityColumn.default ≠ normalizeDefault dbColumn.default ∧
        (normalizeDefault entityColumn.default).isSome) ∨
      entityColumn.primaryKey ≠ dbColumn.primaryKey := by
  rw [Ne, compareColumns_eq_nil unique]
  simp only [not_and_or, not_or, Bool.not_eq_false]

section Columns

variable (name column : String)

/-- What the comparison says of a column that the database does not have. -/
def onlyInEntity (entityColumn : ColumnDetails) : List SchemaDifference :=
  [{ table := name, column := some column, severity := .HIGH
     description := "Column '" ++ column ++ "' exists in entity but not in database table '" ++ name ++ "'"
     entity := entityColumn.facts }]

def inBoth (entityColumn dbColumn : ColumnDetails) : List SchemaDifference :=
  (compareColumns entityColumn dbColumn).map fun found => { found with table := name, column := some column }

def onlyInDatabase (dbColumn : ColumnDetails) : SchemaDifference where
  table := name
  column := some column
  severity := .MEDIUM
  description := "Column '" ++ column ++ "' exists in database but not in entity table '" ++ name ++ "'"
  database := dbColumn.facts

theorem compareTable_eq (entityTable dbTable : TableDetails) :
    compareTable name entityTable dbTable =
      twoSided (onlyInEntity name) (inBoth name) (onlyInDatabase name) entityTable.columns dbTable.columns := by
  unfold compareTable twoSided
  refine congrArg₂ _ (List.flatMap_congr ?_) rfl
  rintro ⟨column, entityColumn⟩ _
  dsimp only
  cases get dbTable.columns column <;> rfl

/-- What it says of a table that the database does not have. -/
def entityOnly (_ : TableDetails) : List SchemaDifference :=
  [{ table := name, severity := .HIGH
     description := "Table '" ++ name ++ "' exists in entities but not in database" }]

def databaseOnly (_ : TableDetails) : SchemaDifference where
  table := name
  severity := .MEDIUM
  description := "Table '" ++ name ++ "' exists in database but not in entities"

theorem compareSchemas_eq (dbSchema entitySchema : SchemaDetails) :
    compareSchemas dbSchema entitySchema =
      twoSided entityOnly compareTable databaseOnly entitySchema dbSchema := by
  unfold compareSchemas twoSided
  refine congrArg₂ _ (List.flatMap_congr ?_) rfl
  rintro ⟨name, entityTable⟩ _
  dsimp only
  cases get dbSchema name <;> rfl

end Columns

/-- The columns of a table have different names, and none is said to be unique. -/
structure Plain (table : TableDetails) : Prop where
  distinct : Distinct table.columns
  unique : ∀ name column, get table.columns name = some column → column.unique = false

theorem compareTable_ne_nil {tableName : String} {entityTable dbTable : TableDetails} (entity : Plain entityTable)
    (database : Plain dbTable) :
    compareTable tableName entityTable dbTable ≠ [] ↔ TableDrifts entityTable dbTable := by
  unfold compareTable TableDrifts
  rw [ne_eq, List.append_eq_nil_iff, not_and_or, List.flatMap_eq_nil_iff, List.map_eq_nil_iff, List.filter_eq_nil_iff]
  refine or_congr ?_ ?_
  · simp only [not_forall, Prod.exists, exists_prop, mem_iff_get entity.distinct]
    refine exists₂_congr fun name column => and_congr_right fun there => ?_
    unfold ColumnDrifts
    cases held : get dbTable.columns name with
    | none => simp
    | some dbColumn =>
      have unique : column.unique = dbColumn.unique :=
        (entity.unique name column there).trans (database.unique name dbColumn held).symm
      simp only [List.map_eq_nil_iff, Option.some.injEq, forall_eq']
      exact compareColumns_ne_nil unique
  · simp only [not_forall, Prod.exists, exists_prop, mem_iff_get database.distinct, not_not, Option.isNone_iff_eq_none,
      Option.isSome_iff_exists]
    exact exists_congr fun name => exists_and_right

theorem compareTable_table {tableName : String} {entityTable dbTable : TableDetails} {found : SchemaDifference}
    (member : found ∈ compareTable tableName entityTable dbTable) : found.table = tableName := by
  rw [compareTable_eq] at member
  revert member
  apply forall_twoSided
  · intro column entityColumn found here
    rw [List.mem_singleton.mp here]
  · intro column entityColumn dbColumn found here
    obtain ⟨found, -, rfl⟩ := List.mem_map.mp here
    rfl
  · exact fun _ _ => rfl

theorem table_of_found {name : String} {found : SchemaDifference} {entityTable dbTable : Option TableDetails}
    (here : Finds entityOnly compareTable databaseOnly name found entityTable dbTable) : found.table = name := by
  cases entityTable with
  | none =>
    cases dbTable with
    | none => cases here
    | some dbTable =>
      cases here
      rfl
  | some entityTable =>
    cases dbTable with
    | none => rw [List.mem_singleton.mp here]
    | some dbTable => exact compareTable_table here

private theorem compareSchemas_iff {dbSchema entitySchema : SchemaDetails} (dbDistinct : Distinct dbSchema)
    (entityDistinct : Distinct entitySchema) (database : ∀ name table, get dbSchema name = some table → Plain table)
    (entity : ∀ name table, get entitySchema name = some table → Plain table) :
    (∃ found ∈ compareSchemas dbSchema entitySchema, found.table ≠ "") ↔ SchemaDrifts dbSchema entitySchema := by
  rw [compareSchemas_eq]
  constructor
  · rintro ⟨found, member, named⟩
    obtain ⟨name, here⟩ := (mem_twoSided entityDistinct dbDistinct).mp member
    rw [table_of_found here] at named
    cases there : get entitySchema name with
    | none =>
      cases held : get dbSchema name with
      | none => simp [there, held, Finds] at here
      | some dbTable => exact .inr ⟨name, named, by simp [held], there⟩
    | some entityTable =>
      refine .inl ⟨name, entityTable, named, there, fun dbTable held => ?_⟩
      rw [there, held] at here
      exact (compareTable_ne_nil (entity name entityTable there) (database name dbTable held)).mp
        (List.ne_nil_of_mem here)
  · have finds : ∀ name found, name ≠ "" →
        Finds entityOnly compareTable databaseOnly name found (get entitySchema name) (get dbSchema name) →
        ∃ found ∈ twoSided entityOnly compareTable databaseOnly entitySchema dbSchema, found.table ≠ "" :=
      fun name found named here =>
        ⟨found, (mem_twoSided entityDistinct dbDistinct).mpr ⟨name, here⟩, by rwa [table_of_found here]⟩
    rintro (⟨name, entityTable, named, there, drifts⟩ | ⟨name, named, there, absent⟩)
    · cases held : get dbSchema name with
      | none => exact finds name _ named (by rw [there, held]; exact List.mem_singleton_self _)
      | some dbTable =>
        have some : compareTable name entityTable dbTable ≠ [] :=
          (compareTable_ne_nil (entity name entityTable there) (database name dbTable held)).mpr (drifts dbTable held)
        obtain ⟨found, here⟩ := List.exists_mem_of_ne_nil _ some
        exact finds name found named (by rw [there, held]; exact here)
    · obtain ⟨dbTable, held⟩ := Option.isSome_iff_exists.mp there
      exact finds name _ named (by rw [absent, held]; rfl)

end Detailed

/-! ## The answers -/

section Answers

variable {lower : String → String} {entities : List EntityMetadata} {catalogue : List CatalogueTable}

private theorem database_plain {name : String} {table : TableDetails}
    (held : get (getDatabaseSchemaDetails lower catalogue) name = some table) : Plain table := by
  obtain ⟨member, -⟩ := of_get_index held
  obtain ⟨source, -, rfl⟩ := List.mem_map.mp member
  refine ⟨index_distinct _ _, fun name column there => ?_⟩
  obtain ⟨among, -⟩ := of_get_index there
  obtain ⟨raw, -, rfl⟩ := List.mem_map.mp among
  rfl

private theorem entity_plain {name : String} {table : TableDetails}
    (held : get (getEntitySchemaDetails lower entities) name = some table) : Plain table := by
  obtain ⟨member, -⟩ := of_get_index held
  obtain ⟨source, -, rfl⟩ := List.mem_map.mp member
  refine ⟨index_distinct _ _, fun name column there => ?_⟩
  obtain ⟨among, -⟩ := of_get_index there
  obtain ⟨raw, -, rfl⟩ := List.mem_map.mp among
  rfl

/-- The flag of the report: the normal forms are not the same. -/
theorem entityDrift_iff {migrationDrift : Bool} :
    (driftReport migrationDrift (some (getDetailedSchemaDiff lower entities catalogue))).entityDrift = true ↔
      SchemaDrifts (getDatabaseSchemaDetails lower catalogue) (getEntitySchemaDetails lower entities) := by
  have database : Distinct (getDatabaseSchemaDetails lower catalogue) := index_distinct _ _
  have entity : Distinct (getEntitySchemaDetails lower entities) := index_distinct _ _
  rw [← compareSchemas_iff database entity (fun _ _ => database_plain) fun _ _ => entity_plain]
  simp [driftReport, getDetailedSchemaDiff, List.length_pos_iff_exists_mem]

end Answers

/-- The drift engine finds a difference wherever the other two do, and nowhere else. -/
def DetectorsAgree (lower : String → String) (pendingMigrations : Bool) (entities : List EntityMetadata)
    (catalogue : List CatalogueTable) : Prop :=
  checkEntityDrift entities catalogue = checkSchemaDrift entities catalogue ∧
    (checkFullDrift (answered lower pendingMigrations entities catalogue)).map (·.entityDrift) =
      .ok (checkSchemaDrift entities catalogue)

section Answers

variable (lower : String → String) (pendingMigrations : Bool) {entities : List EntityMetadata}
  (catalogue : List CatalogueTable)

theorem agree_iff_checked :
    DetectorsAgree lower pendingMigrations entities catalogue ↔
      (checkEntityDrift entities catalogue = true ↔
        SchemaDrifts (getDatabaseSchemaDetails lower catalogue) (getEntitySchemaDetails lower entities)) := by
  have flag : (checkFullDrift (answered lower pendingMigrations entities catalogue)).map (·.entityDrift) =
      .ok (driftReport pendingMigrations (some (getDetailedSchemaDiff lower entities catalogue))).entityDrift := rfl
  rw [DetectorsAgree, ← @entityDrift_iff lower entities catalogue pendingMigrations, ← Bool.eq_iff_iff, flag]
  constructor
  · rintro ⟨-, same⟩
    exact (Except.ok.inj same).symm
  · intro same
    exact ⟨rfl, congrArg Except.ok same.symm⟩

/-- Where there is a primary key, the answers are the same just when the normal forms differ. -/
theorem agree_of_primary (primary : HasPrimary entities) :
    DetectorsAgree lower pendingMigrations entities catalogue ↔
      SchemaDrifts (getDatabaseSchemaDetails lower catalogue) (getEntitySchemaDetails lower entities) := by
  have differs : checkEntityDrift entities catalogue = true := checkEntityDrift_iff.mpr (.inl primary)
  rw [agree_iff_checked, iff_true_left differs]

end Answers

/-- The three answers are the same if and only if the comparison of the normal forms finds a
difference just when there is a primary key, or the raw names, types or nullabilities differ. -/
theorem detectors_agree_iff (lower : String → String) (pendingMigrations : Bool) (entities : List EntityMetadata)
    (catalogue : List CatalogueTable) :
    (checkEntityDrift entities catalogue = checkSchemaDrift entities catalogue ∧
        (checkFullDrift (answered lower pendingMigrations entities catalogue)).map (·.entityDrift) =
          .ok (checkSchemaDrift entities catalogue)) ↔
      (HasPrimary entities ∨ TablesDiffer entities catalogue ∨ ColumnsDiffer entities catalogue ↔
        SchemaDrifts (getDatabaseSchemaDetails lower catalogue) (getEntitySchemaDetails lower entities)) :=
  (agree_iff_checked lower pendingMigrations catalogue).trans (iff_congr checkEntityDrift_iff Iff.rfl)

def usersEntity : EntityMetadata :=
  { tableName := "users", columns := [{ databaseName := "id", type := .name "uuid", isPrimary := true }] }

def usersTable : CatalogueTable :=
  { name := "users", columns := [{ name := "id", dataType := "uuid", primaryKey := true }] }

/-- An entity and its table, as the database has been made from it. -/
theorem detectors_contradict :
    checkEntityDrift [usersEntity] [usersTable] = true ∧ checkSchemaDrift [usersEntity] [usersTable] = true ∧
      (checkFullDrift (answered String.toLower false [usersEntity] [usersTable])).map (·.entityDrift) = .ok false := by
  refine ⟨by decide, by decide, by decide +kernel⟩

end DriverMicroServices.Drift
