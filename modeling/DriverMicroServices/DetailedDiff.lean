import DriverMicroServices.SchemaDrift

/-! What the detailed diff names, against where the two schemas differ. A default of an entity that counts
as false is never compared, and the others are compared without quotes and parentheses. -/
namespace DriverMicroServices.Drift
open Tables.Keyed Tables.TwoSided

/-- A schema as both sides of the service build it. -/
structure Schema where
  details : SchemaDetails
  distinct : Distinct details
  plain : ∀ name table, get details name = some table → Plain table

def Schema.table (schema : Schema) (name : String) : Option TableDetails := get schema.details name

/-- The default is given, if only as a value that counts as false. -/
def DefaultValue.Stated (value : DefaultValue) : Prop :=
  value.truthy = true ∨ value.text ≠ "undefined" ∧ value.text ≠ "null"

section Spec

variable (Same : DefaultValue → DefaultValue → Prop)

/-- The columns are the same but for their defaults. -/
structure SameShape (entityColumn dbColumn : ColumnDetails) : Prop where
  type : normalizeDbType entityColumn.type = normalizeDbType dbColumn.type
  nullable : entityColumn.nullable = dbColumn.nullable
  primaryKey : entityColumn.primaryKey = dbColumn.primaryKey

/-- A default that the entity states denotes that of the database. -/
def SameDefault (entityColumn dbColumn : ColumnDetails) : Prop :=
  entityColumn.default.Stated → Same entityColumn.default dbColumn.default

def ColumnAgrees (entityColumn dbColumn : ColumnDetails) : Prop :=
  SameShape entityColumn dbColumn ∧ SameDefault Same entityColumn dbColumn

def TableAgrees (entityTable dbTable : TableDetails) : Prop :=
  ∀ name, Both (ColumnAgrees Same) (get entityTable.columns name) (get dbTable.columns name)

/-- The differences are none just for schemas that agree, and name just the tables and the columns that do
not. -/
structure DiffExact (dbSchema entitySchema : Schema) : Prop where
  empty : compareSchemas dbSchema.details entitySchema.details = [] ↔
    ∀ name, Both (TableAgrees Same) (entitySchema.table name) (dbSchema.table name)
  tables : ∀ name, (∃ found ∈ compareSchemas dbSchema.details entitySchema.details, found.table = name) ↔
    ¬ Both (TableAgrees Same) (entitySchema.table name) (dbSchema.table name)
  columns : ∀ name column,
    (∃ found ∈ compareSchemas dbSchema.details entitySchema.details,
      found.table = name ∧ found.column = some column) ↔
    ∃ entityTable dbTable, entitySchema.table name = some entityTable ∧ dbSchema.table name = some dbTable ∧
      ¬ Both (ColumnAgrees Same) (get entityTable.columns column) (get dbTable.columns column)

/-- The comparison of defaults finds nothing. -/
def Quiet (entityColumn dbColumn : ColumnDetails) : Prop :=
  entityColumn.default.truthy = false ∨ normalizeDefault entityColumn.default = normalizeDefault dbColumn.default

/-- Where two columns have the same shape, their defaults are told apart just when they differ. -/
def DefaultsTold (dbSchema entitySchema : Schema) : Prop :=
  ∀ name entityTable dbTable, entitySchema.table name = some entityTable → dbSchema.table name = some dbTable →
    ∀ column entityColumn dbColumn, get entityTable.columns column = some entityColumn →
      get dbTable.columns column = some dbColumn → SameShape entityColumn dbColumn →
        (Quiet entityColumn dbColumn ↔ SameDefault Same entityColumn dbColumn)

end Spec

/-! ## What is named -/

private theorem normalizeDefault_isSome (value : DefaultValue) :
    (normalizeDefault value).isSome = value.truthy := by
  unfold normalizeDefault
  cases value.truthy with
  | false => rfl
  | true => split_ifs <;> simp_all

theorem compareColumns_quiet {entityColumn dbColumn : ColumnDetails}
    (unique : entityColumn.unique = dbColumn.unique) :
    compareColumns entityColumn dbColumn = [] ↔ SameShape entityColumn dbColumn ∧ Quiet entityColumn dbColumn := by
  rw [compareColumns_eq_nil unique, normalizeDefault_isSome]
  unfold Quiet
  constructor
  · rintro ⟨type, nullable, default, primaryKey⟩
    exact ⟨⟨type, nullable, primaryKey⟩, default.symm⟩
  · rintro ⟨shape, quiet⟩
    exact ⟨shape.type, shape.nullable, quiet.symm, shape.primaryKey⟩

section Named

variable {name column : String} {entityTable dbTable : TableDetails} {found : SchemaDifference}

theorem column_of_found {entityColumn dbColumn : Option ColumnDetails}
    (here : Finds (onlyInEntity name) (inBoth name) (onlyInDatabase name) column found entityColumn dbColumn) :
    found.column = some column := by
  cases entityColumn with
  | none =>
    cases dbColumn with
    | none => cases here
    | some dbColumn =>
      cases here
      rfl
  | some entityColumn =>
    cases dbColumn with
    | none => rw [List.mem_singleton.mp here]
    | some dbColumn =>
      obtain ⟨found, -, rfl⟩ := List.mem_map.mp here
      rfl

/-- The columns of a table that are named are those that are not the same on both sides. -/
theorem column_named (entity : Plain entityTable) (database : Plain dbTable) :
    (∃ found ∈ compareTable name entityTable dbTable, found.column = some column) ↔
      ¬ Both (fun entityColumn dbColumn => compareColumns entityColumn dbColumn = [])
        (get entityTable.columns column) (get dbTable.columns column) := by
  have said : ∀ entityColumn, onlyInEntity name column entityColumn ≠ [] := fun _ => List.cons_ne_nil _ _
  rw [compareTable_eq, exists_mem_twoSided SchemaDifference.column entity.distinct database.distinct
    fun _ _ here => column_of_found here, exists_finds said]
  apply not_congr
  apply both_congr
  intro entityColumn dbColumn _ _
  exact List.map_eq_nil_iff

private theorem finds_table {dbSchema entitySchema : Schema} :
    (∃ found ∈ compareSchemas dbSchema.details entitySchema.details, found.table = name) ↔
      ∃ found, Finds entityOnly compareTable databaseOnly name found (entitySchema.table name)
        (dbSchema.table name) := by
  have keyed : (∃ found ∈ twoSided entityOnly compareTable databaseOnly entitySchema.details dbSchema.details,
      some found.table = some name) ↔ _ :=
    exists_mem_twoSided (fun found => some found.table) entitySchema.distinct dbSchema.distinct
      fun name found here => congrArg some (table_of_found here)
  rw [← compareSchemas_eq] at keyed
  simp only [Option.some.injEq] at keyed
  exact keyed

theorem table_named {dbSchema entitySchema : Schema} :
    (∃ found ∈ compareSchemas dbSchema.details entitySchema.details, found.table = name) ↔
      ¬ Both (fun entityTable dbTable => compareTable name entityTable dbTable = [])
        (entitySchema.table name) (dbSchema.table name) :=
  finds_table.trans (exists_finds fun _ => List.cons_ne_nil _ _)

theorem schema_column_named {dbSchema entitySchema : Schema} :
    (∃ found ∈ compareSchemas dbSchema.details entitySchema.details,
      found.table = name ∧ found.column = some column) ↔
    ∃ entityTable dbTable, entitySchema.table name = some entityTable ∧ dbSchema.table name = some dbTable ∧
      ¬ Both (fun entityColumn dbColumn => compareColumns entityColumn dbColumn = [])
        (get entityTable.columns column) (get dbTable.columns column) := by
  constructor
  · rintro ⟨found, member, rfl, named⟩
    rw [compareSchemas_eq, mem_twoSided entitySchema.distinct dbSchema.distinct] at member
    obtain ⟨name, here⟩ := member
    obtain rfl := table_of_found here
    cases held : get entitySchema.details found.table with
    | none =>
      cases there : get dbSchema.details found.table with
      | none =>
        rw [held, there] at here
        cases here
      | some dbTable =>
        rw [held, there] at here
        rw [show found = _ from here] at named
        cases named
    | some entityTable =>
      cases there : get dbSchema.details found.table with
      | none =>
        rw [held, there] at here
        rw [List.mem_singleton.mp here] at named
        cases named
      | some dbTable =>
        rw [held, there] at here
        exact ⟨entityTable, dbTable, held, there,
          (column_named (entitySchema.plain _ _ held) (dbSchema.plain _ _ there)).mp ⟨found, here, named⟩⟩
  · rintro ⟨entityTable, dbTable, held, there, differs⟩
    rw [← column_named (entitySchema.plain _ _ held) (dbSchema.plain _ _ there)] at differs
    obtain ⟨found, here, named⟩ := differs
    refine ⟨found, ?_, compareTable_table here, named⟩
    rw [compareSchemas_eq, mem_twoSided entitySchema.distinct dbSchema.distinct]
    refine ⟨name, ?_⟩
    rw [show get entitySchema.details name = some entityTable from held,
      show get dbSchema.details name = some dbTable from there]
    exact here

private theorem compareTable_eq_nil (entity : Plain entityTable) (database : Plain dbTable) :
    compareTable name entityTable dbTable = [] ↔
      ∀ column, Both (fun entityColumn dbColumn => compareColumns entityColumn dbColumn = [])
        (get entityTable.columns column) (get dbTable.columns column) := by
  constructor
  · intro nothing column
    by_contra differs
    obtain ⟨found, member, -⟩ := (column_named entity database).mpr differs
    rw [nothing] at member
    cases member
  · intro agree
    by_contra some_found
    obtain ⟨found, member⟩ := List.exists_mem_of_ne_nil _ some_found
    have here := member
    rw [compareTable_eq, mem_twoSided entity.distinct database.distinct] at here
    obtain ⟨column, here⟩ := here
    exact (column_named entity database).mp ⟨found, member, column_of_found here⟩ (agree column)

private theorem compareSchemas_eq_nil {dbSchema entitySchema : Schema} :
    compareSchemas dbSchema.details entitySchema.details = [] ↔
      ∀ name, Both (fun entityTable dbTable => compareTable name entityTable dbTable = [])
        (entitySchema.table name) (dbSchema.table name) := by
  constructor
  · intro nothing name
    by_contra differs
    obtain ⟨found, member, -⟩ := table_named.mpr differs
    rw [nothing] at member
    cases member
  · intro agree
    by_contra some_found
    obtain ⟨found, member⟩ := List.exists_mem_of_ne_nil _ some_found
    exact table_named.mp ⟨found, member, rfl⟩ (agree found.table)

end Named

/-! ## When the differences are exact -/

section Exact

variable {Same : DefaultValue → DefaultValue → Prop} {dbSchema entitySchema : Schema}

theorem column_told (told : DefaultsTold Same dbSchema entitySchema) {name : String}
    {entityTable dbTable : TableDetails} (held : entitySchema.table name = some entityTable)
    (there : dbSchema.table name = some dbTable) (column : String) :
    Both (fun entityColumn dbColumn => compareColumns entityColumn dbColumn = [])
        (get entityTable.columns column) (get dbTable.columns column) ↔
      Both (ColumnAgrees Same) (get entityTable.columns column) (get dbTable.columns column) := by
  apply both_congr
  intro entityColumn dbColumn one other
  have unique : entityColumn.unique = dbColumn.unique :=
    ((entitySchema.plain _ _ held).unique column entityColumn one).trans
      ((dbSchema.plain _ _ there).unique column dbColumn other).symm
  rw [compareColumns_quiet unique]
  exact and_congr_right fun shape => told name entityTable dbTable held there column _ _ one other shape

theorem table_told (told : DefaultsTold Same dbSchema entitySchema) (name : String) :
    Both (fun entityTable dbTable => compareTable name entityTable dbTable = [])
        (entitySchema.table name) (dbSchema.table name) ↔
      Both (TableAgrees Same) (entitySchema.table name) (dbSchema.table name) := by
  apply both_congr
  intro entityTable dbTable held there
  rw [compareTable_eq_nil (entitySchema.plain _ _ held) (dbSchema.plain _ _ there)]
  exact forall_congr' fun column => column_told told held there column

end Exact

/-- The differences are exact just when the comparison of defaults tells those apart that differ. -/
theorem diff_exact_iff (Same : DefaultValue → DefaultValue → Prop) (dbSchema entitySchema : Schema) :
    DiffExact Same dbSchema entitySchema ↔ DefaultsTold Same dbSchema entitySchema := by
  constructor
  · intro exact' name entityTable dbTable held there column entityColumn dbColumn one other shape
    have unique : entityColumn.unique = dbColumn.unique :=
      ((entitySchema.plain _ _ held).unique column entityColumn one).trans
        ((dbSchema.plain _ _ there).unique column dbColumn other).symm
    have named := schema_column_named.symm.trans (exact'.columns name column)
    have same : compareColumns entityColumn dbColumn = [] ↔ ColumnAgrees Same entityColumn dbColumn := by
      constructor
      · intro nothing
        by_contra differs
        obtain ⟨entityTable', dbTable', held', there', found⟩ :=
          named.mpr ⟨entityTable, dbTable, held, there, by rwa [one, other]⟩
        cases held.symm.trans held'
        cases there.symm.trans there'
        rw [one, other] at found
        exact found nothing
      · intro agrees
        by_contra some_found
        obtain ⟨entityTable', dbTable', held', there', differs⟩ :=
          named.mp ⟨entityTable, dbTable, held, there, by rwa [one, other]⟩
        cases held.symm.trans held'
        cases there.symm.trans there'
        rw [one, other] at differs
        exact differs agrees
    rw [compareColumns_quiet unique] at same
    exact ⟨fun quiet => (same.mp ⟨shape, quiet⟩).2, fun default => (same.mpr ⟨shape, default⟩).2⟩
  · intro told
    refine ⟨?_, ?_, ?_⟩
    · rw [compareSchemas_eq_nil]
      exact forall_congr' fun name => table_told told name
    · intro name
      rw [table_named]
      exact not_congr (table_told told name)
    · intro name column
      rw [schema_column_named]
      constructor
      · rintro ⟨entityTable, dbTable, held, there, differs⟩
        exact ⟨entityTable, dbTable, held, there, mt (column_told told held there column).mpr differs⟩
      · rintro ⟨entityTable, dbTable, held, there, differs⟩
        exact ⟨entityTable, dbTable, held, there, mt (column_told told held there column).mp differs⟩

section Examples

/-- A schema of one table with one column. -/
def single (type : String) (default : DefaultValue) : Schema where
  details :=
    [("orders",
      { name := "orders"
        columns := [("state", { name := "state", type, nullable := false, default, primaryKey := false })] })]
  distinct := List.nodup_singleton _
  plain := by
    intro name table held
    have member := mem_of_get held
    rw [List.mem_singleton] at member
    cases member
    refine ⟨List.nodup_singleton _, fun name column held => ?_⟩
    have member := mem_of_get held
    rw [List.mem_singleton] at member
    cases member
    rfl

/-- A default that is `false` in the entity and `true` in the database, and a text that has parentheses in
the database only. -/
theorem drift_missed :
    ¬ DiffExact (fun entity database => entity.text = database.text) (single "boolean" ⟨true, "true"⟩)
        (single "boolean" ⟨false, "false"⟩) ∧
      ¬ DiffExact (fun entity database => "'" ++ entity.text ++ "'::text" = database.text)
        (single "text" ⟨true, "'(new)'::text"⟩) (single "text" ⟨true, "new"⟩) := by
  constructor
  · intro exact'
    have quiet : compareSchemas (single "boolean" ⟨true, "true"⟩).details
        (single "boolean" ⟨false, "false"⟩).details = [] := by
      decide
    have agrees := exact'.empty.mp quiet "orders" "state"
    exact absurd (agrees.2 (.inr ⟨by decide, by decide⟩)) (by decide)
  · intro exact'
    have quiet : compareSchemas (single "text" ⟨true, "'(new)'::text"⟩).details
        (single "text" ⟨true, "new"⟩).details = [] := by
      decide
    have agrees := exact'.empty.mp quiet "orders" "state"
    exact absurd (agrees.2 (.inl rfl)) (by decide)

end Examples

end DriverMicroServices.Drift
