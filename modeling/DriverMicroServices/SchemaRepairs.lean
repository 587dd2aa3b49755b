import DriverMicroServices.SchemaVerifier

/-! What a comparison finds, and what the repairs of it change. Where no table is unexpected, a repair adds a
column or an index. -/
namespace DriverMicroServices.SchemaVerifier
open Texts.Tokens Transactions

variable {pg : Postgres} {expected current : SchemaSnapshot} {tables after : List TableSchema}

/-! ## What a comparison sees -/

/-- The type of a column of a table, where there are both. -/
def typeIn (tables : List TableSchema) (table column : String) : Option String :=
  (findTable tables table).bind fun own => (findColumn own.columns column).map (·.type)

def hasIndex (tables : List TableSchema) (table index : String) : Bool :=
  (findTable tables table).any fun own => index ∈ own.indexes

/-- No table of the database is unexpected. -/
def NoExtra (expected : SchemaSnapshot) (tables : List TableSchema) : Prop :=
  ∀ table ∈ tables, (findTable expected.tables table.name).isSome = true

/-- An expected table is there, with all its columns and indexes. -/
structure Matches (tables : List TableSchema) (table : TableSchema) : Prop where
  there : (findTable tables table.name).isSome = true
  columns : ∀ column ∈ table.columns, typeIn tables table.name column.name = some column.type
  indexes : ∀ index ∈ table.indexes, hasIndex tables table.name index = true

private theorem tableDrifts_eq_nil (table : TableSchema) :
    tableDrifts current table = [] ↔ Matches current.tables table := by
  unfold tableDrifts
  cases found : findTable current.tables table.name with
  | none =>
    refine ⟨fun none => (List.cons_ne_nil _ _ none).elim, fun held => ?_⟩
    have there := held.there
    rw [found] at there
    cases there
  | some own =>
    simp only [List.append_eq_nil_iff, List.filterMap_eq_nil_iff]
    have columns : ∀ column, columnDrift table own column = none ↔
        typeIn current.tables table.name column.name = some column.type := by
      intro column
      unfold columnDrift typeIn
      rw [found]
      cases there : findColumn own.columns column.name with
      | none => simp [there]
      | some held => by_cases same : held.type = column.type <;> simp [there, same]
    have indexes : ∀ index, indexDrift table own index = none ↔
        hasIndex current.tables table.name index = true := by
      intro index
      by_cases there : index ∈ own.indexes <;> simp [indexDrift, hasIndex, found, there]
    constructor
    · rintro ⟨all, each⟩
      exact ⟨by rw [found]; rfl, fun column member => (columns column).mp (all column member),
        fun index member => (indexes index).mp (each index member)⟩
    · intro held
      exact ⟨fun column member => (columns column).mpr (held.columns column member),
        fun index member => (indexes index).mpr (held.indexes index member)⟩

theorem extraDrift_eq_none (table : TableSchema) :
    extraDrift expected table = none ↔ (findTable expected.tables table.name).isSome = true := by
  unfold extraDrift
  cases findTable expected.tables table.name <;> simp

theorem drifts_eq_nil : (compareSchemas expected current).drifts = [] ↔
    (∀ table ∈ expected.tables, Matches current.tables table) ∧ NoExtra expected current.tables := by
  simp only [compareSchemas, List.append_eq_nil_iff, List.flatMap_eq_nil_iff, List.filterMap_eq_nil_iff,
    tableDrifts_eq_nil, extraDrift_eq_none]
  rfl

/-- The worker repairs what differs when each expected table is there, and no column has another type. -/
theorem autoRepairable_iff : (compareSchemas expected current).autoRepairable = true ↔
    ∀ table ∈ expected.tables, (findTable current.tables table.name).isSome = true ∧
      ∀ column ∈ table.columns, ∀ type ∈ typeIn current.tables table.name column.name, type = column.type := by
  have extra : ∀ drift ∈ current.tables.filterMap (extraDrift expected), drift.autoRepairable = true := by
    intro drift member
    obtain ⟨table, -, made⟩ := List.mem_filterMap.mp member
    unfold extraDrift at made
    split at made
    · cases made
      rfl
    · cases made
  have each : ∀ table, (∀ drift ∈ tableDrifts current table, drift.autoRepairable = true) ↔
      (findTable current.tables table.name).isSome = true ∧
        ∀ column ∈ table.columns, ∀ type ∈ typeIn current.tables table.name column.name, type = column.type := by
    intro table
    unfold tableDrifts typeIn
    cases found : findTable current.tables table.name with
    | none => simp [missingTable]
    | some own =>
      have columns : ∀ column, (∀ drift ∈ columnDrift table own column, drift.autoRepairable = true) ↔
          ∀ type ∈ (findColumn own.columns column.name).map (·.type), type = column.type := by
        intro column
        unfold columnDrift
        cases there : findColumn own.columns column.name with
        | none => simp [missingColumn]
        | some held => by_cases same : held.type = column.type <;> simp [same, typeMismatch]
      have indexes : ∀ index, ∀ drift ∈ indexDrift table own index, drift.autoRepairable = true := by
        intro index drift made
        unfold indexDrift at made
        split at made
        · cases made
        · cases made
          rfl
      simp only [List.forall_mem_append, List.mem_filterMap, forall_exists_index, and_imp, Option.isSome_some,
        true_and, Option.bind_some]
      constructor
      · rintro ⟨all, -⟩ column member
        exact (columns column).mp fun drift made => all drift column member made
      · intro all
        exact ⟨fun drift column member made => (columns column).mpr (all column member) drift made,
          fun drift index _ made => indexes index drift made⟩
  simp only [compareSchemas, List.all_eq_true, List.mem_append, List.mem_flatMap]
  constructor
  · intro all table member
    exact (each table).mp fun drift made => all drift (.inl ⟨table, member, made⟩)
  · rintro all drift (⟨table, member, made⟩ | made)
    · exact (each table).mpr (all table member) drift made
    · exact extra drift made

/-! ## What a repair adds -/

section Additions

variable {change : Change} {changes : List Change} {table column type index name : String} {own : TableSchema}

theorem findTable_alter (tables : List TableSchema) (table name : String) (alter : TableSchema → TableSchema)
    (named : ∀ own, (alter own).name = own.name) :
    findTable (alterTables tables table alter) name =
      (findTable tables name).map fun own => if own.name = table then alter own else own := by
  unfold findTable alterTables
  induction tables with
  | nil => rfl
  | cons first rest ih =>
    have kept : (if first.name = table then alter first else first).name = first.name := by
      split
      · exact named first
      · rfl
    simp only [List.map_cons, List.find?_cons, kept]
    split
    · rfl
    · exact ih

theorem name_of_found (found : findTable tables name = some own) : own.name = name := by
  have named := List.find?_some found
  exact of_decide_eq_true named

private theorem findColumn_append (columns : List ColumnSchema) (added : ColumnSchema) (name : String) :
    findColumn (columns ++ [added]) name =
      (findColumn columns name).or (if added.name = name then some added else none) := by
  unfold findColumn
  rw [List.find?_append]
  congr 1
  by_cases same : added.name = name <;> simp [same]

/-- A column is added that was not there; nothing else is seen of it. -/
theorem perform_addColumn (done : (Change.addColumn table column type).perform tables = some after) :
    typeIn tables table column = none ∧
      (∀ name, (findTable after name).isSome = (findTable tables name).isSome) ∧
      (∀ name index, hasIndex after name index = hasIndex tables name index) ∧
      ∀ name other, typeIn after name other =
        if name = table ∧ other = column then some type else typeIn tables name other := by
  obtain ⟨own, there, done⟩ := Option.bind_eq_some_iff.mp done
  split at done
  · cases done
  rename_i fresh
  cases done
  have named := name_of_found there
  have found (name : String) := findTable_alter tables table name
    (fun own => { own with columns := own.columns ++ [⟨column, type⟩] }) fun _ => rfl
  refine ⟨?_, fun name => ?_, fun name index => ?_, fun name other => ?_⟩
  · simp [typeIn, there, fresh]
  · rw [found, Option.isSome_map]
  · unfold hasIndex
    rw [found]
    cases held : findTable tables name with
    | none => rfl
    | some table' => by_cases same : table'.name = table <;> simp [same]
  · unfold typeIn
    rw [found]
    by_cases here : name = table
    · subst here
      rw [there, Option.map_some, if_pos named, Option.bind_some, Option.bind_some, findColumn_append]
      by_cases same : other = column
      · subst same
        simp [fresh]
      · have apart : column ≠ other := fun equal => same equal.symm
        simp [same, apart]
    · cases held : findTable tables name with
      | none => simp [here]
      | some table' =>
        have other_table : table'.name ≠ table := by
          rw [name_of_found held]
          exact here
        simp [here, other_table]

/-- An index is created under its name; nothing else is seen of it. -/
theorem perform_createIndex (done : (Change.createIndex index table column).perform tables = some after) :
    (∀ name, (findTable after name).isSome = (findTable tables name).isSome) ∧
      (∀ name other, hasIndex after name other = (hasIndex tables name other || (name = table && other = index))) ∧
      ∀ name other, typeIn after name other = typeIn tables name other := by
  obtain ⟨own, there, done⟩ := Option.bind_eq_some_iff.mp done
  split at done
  · cases done
    have named := name_of_found there
    have found (name : String) := findTable_alter tables table name
      (fun own => { own with indexes := own.indexes ++ [index] }) fun _ => rfl
    refine ⟨fun name => ?_, fun name other => ?_, fun name other => ?_⟩
    · rw [found, Option.isSome_map]
    · unfold hasIndex
      rw [found]
      by_cases here : name = table
      · subst here
        by_cases same : other = index <;> simp [there, named, same]
      · cases held : findTable tables name with
        | none => simp [here]
        | some table' =>
          have other_table : table'.name ≠ table := by
            rw [name_of_found held]
            exact here
          simp [here, other_table]
    · unfold typeIn
      rw [found]
      cases held : findTable tables name with
      | none => rfl
      | some table' => by_cases same : table'.name = table <;> simp [same]
  · cases done

/-- The changes one after the other. -/
def performAll (tables : List TableSchema) (changes : List Change) : Option (List TableSchema) :=
  changes.foldlM Change.perform tables

/-- The change takes no table away. -/
def Change.adds : Change → Bool
  | .dropTable _ => false
  | _ => true

/-- After changes that add, a column has the type it had, or it was not there and has the type it is added
with, and there are the indexes from before and those that are created. -/
structure Added (tables after : List TableSchema) (changes : List Change) : Prop where
  there : ∀ name, (findTable after name).isSome = (findTable tables name).isSome
  kept : ∀ table column type, typeIn tables table column = some type → typeIn after table column = some type
  fresh : ∀ table column type, typeIn tables table column = none →
    (typeIn after table column = some type ↔ .addColumn table column type ∈ changes)
  indexes : ∀ table index, hasIndex after table index = true ↔
    hasIndex tables table index = true ∨ ∃ column, .createIndex index table column ∈ changes

private theorem added_column {before : List TableSchema} (added : Added tables before changes)
    (done : (Change.addColumn table column type).perform before = some after) :
    Added tables after (changes ++ [.addColumn table column type]) := by
  obtain ⟨absent, there, indexes, types⟩ := perform_addColumn done
  constructor
  · intro name
    rw [there, added.there]
  · intro name other own held
    have before := added.kept name other own held
    rw [types, if_neg ?_]
    · exact before
    · rintro ⟨rfl, rfl⟩
      rw [absent] at before
      cases before
  · intro name other own held
    rw [types]
    split
    · rename_i same
      obtain ⟨rfl, rfl⟩ := same
      have never : Change.addColumn name other own ∉ changes := by
        rw [← added.fresh name other own held, absent]
        exact nofun
      simp [never, eq_comm]
    · rename_i other_column
      rw [added.fresh name other own held]
      constructor
      · exact fun member => List.mem_append_left _ member
      · intro member
        rcases List.mem_append.mp member with earlier | last
        · exact earlier
        · cases List.mem_singleton.mp last
          exact absurd ⟨rfl, rfl⟩ other_column
  · intro name other
    rw [indexes, added.indexes]
    simp

private theorem added_index {before : List TableSchema} (added : Added tables before changes)
    (done : (Change.createIndex index table column).perform before = some after) :
    Added tables after (changes ++ [.createIndex index table column]) := by
  obtain ⟨there, indexes, types⟩ := perform_createIndex done
  constructor
  · intro name
    rw [there, added.there]
  · intro name other own held
    rw [types]
    exact added.kept name other own held
  · intro name other own held
    rw [types, added.fresh name other own held]
    simp
  · intro name other
    rw [indexes, Bool.or_eq_true, added.indexes]
    simp only [List.mem_append, List.mem_singleton, Change.createIndex.injEq, Bool.and_eq_true, decide_eq_true_eq]
    constructor
    · rintro ((held | ⟨own, earlier⟩) | ⟨rfl, rfl⟩)
      · exact .inl held
      · exact .inr ⟨own, .inl earlier⟩
      · exact .inr ⟨column, .inr ⟨rfl, rfl, rfl⟩⟩
    · rintro (held | ⟨own, earlier | ⟨rfl, rfl, rfl⟩⟩)
      · exact .inl (.inl held)
      · exact .inl (.inr ⟨own, earlier⟩)
      · exact .inr ⟨rfl, rfl⟩

theorem added_performAll {before : List TableSchema} {later : List Change} (added : Added tables before changes)
    (adds : ∀ change ∈ later, change.adds = true) (done : performAll before later = some after) :
    Added tables after (changes ++ later) := by
  induction later generalizing before changes with
  | nil =>
    cases done
    rw [List.append_nil]
    exact added
  | cons change rest ih =>
    obtain ⟨here, others⟩ := List.forall_mem_cons.mp adds
    obtain ⟨next, first, remaining⟩ := Option.bind_eq_some_iff.mp done
    rw [List.append_cons]
    cases change with
    | dropTable table => cases here
    | addColumn table column type => exact ih (added_column added first) others remaining
    | createIndex index table column => exact ih (added_index added first) others remaining

theorem added_nil (tables : List TableSchema) : Added tables tables [] where
  there _ := rfl
  kept _ _ _ held := held
  fresh table column type none := by simp [none]
  indexes table index := by simp

end Additions

/-! ## What is executed -/

/-- The statement drops a table. -/
def dropsTable (sql : String) : Prop := [.word "DROP", .word "TABLE"] <+: tokens sql

/-- The repairs of the drift between two schemas. -/
def repairs (expected current : SchemaSnapshot) : List RepairAction :=
  (repairsOf (compareSchemas expected current).drifts).map (·.2)

/-- The repairs one after the other, where the database can execute them. -/
def Postgres.applyAll (pg : Postgres) (tables : List TableSchema) (repairs : List RepairAction) :
    Option (List TableSchema) :=
  repairs.foldlM (fun tables repair => (pg.read (tokens repair.sql)).bind (·.perform tables)) tables

/-- The changes that repairs ask for, as the database reads them. -/
def Postgres.changes (pg : Postgres) (repairs : List RepairAction) : List Change :=
  repairs.filterMap fun repair => pg.read (tokens repair.sql)

theorem tokens_begins (text : String) (begun : List Token) (rest : String)
    (scanned : scan .plain text.toList = (begun, .plain)) : tokens (text ++ rest) = begun ++ tokens rest := by
  rw [tokens, String.toList_append, lex_append, scanned, tokens]

private theorem tokens_alter (rest : String) :
    tokens ("ALTER TABLE " ++ rest) = .word "ALTER" :: .word "TABLE" :: tokens rest :=
  tokens_begins "ALTER TABLE " [.word "ALTER", .word "TABLE"] rest rfl

private theorem tokens_create (rest : String) :
    tokens ("CREATE INDEX " ++ rest) = .word "CREATE" :: .word "INDEX" :: tokens rest :=
  tokens_begins "CREATE INDEX " [.word "CREATE", .word "INDEX"] rest rfl

private theorem tokens_drop (rest : String) :
    tokens ("DROP TABLE " ++ rest) = .word "DROP" :: .word "TABLE" :: tokens rest :=
  tokens_begins "DROP TABLE " [.word "DROP", .word "TABLE"] rest rfl

private theorem read_alter_adds {list : List Token} {change : Change}
    (read : pg.read (.word "ALTER" :: .word "TABLE" :: list) = some change) : change.adds = true := by
  unfold Postgres.read at read
  split at read
  · simp only [Option.bind_eq_bind, Option.bind_eq_some_iff] at read
    obtain ⟨table, -, column, -, type, -, made⟩ := read
    cases made
    rfl
  · rename_i same
    simp at same
  · rename_i same
    simp at same
  · cases read

private theorem read_create_adds {list : List Token} {change : Change}
    (read : pg.read (.word "CREATE" :: .word "INDEX" :: list) = some change) : change.adds = true := by
  unfold Postgres.read at read
  split at read
  · rename_i same
    simp at same
  · simp only [Option.bind_eq_bind, Option.bind_eq_some_iff] at read
    obtain ⟨index, -, table, -, column, -, made⟩ := read
    cases made
    rfl
  · rename_i same
    simp at same
  · cases read

/-- A repair that adds something needs no approval, and takes no table away. -/
structure Harmless (pg : Postgres) (repair : RepairAction) : Prop where
  approved : repair.requiresApproval = false
  keeps : ¬ dropsTable repair.sql
  adds : ∀ change ∈ pg.read (tokens repair.sql), change.adds = true

private theorem missingColumn_harmless (drift : SchemaDrift) : Harmless pg (createMissingColumnRepair drift) := by
  have begins : tokens (createMissingColumnRepair drift).sql = .word "ALTER" :: .word "TABLE" ::
      tokens ((splitName drift.objectName).1 ++ " ADD COLUMN " ++ (splitName drift.objectName).2 ++ " " ++
        "VARCHAR(255)") := by
    rw [← tokens_alter, ← String.append_assoc, ← String.append_assoc, ← String.append_assoc, ← String.append_assoc]
    rfl
  refine ⟨rfl, ?_, ?_⟩
  · unfold dropsTable
    rw [begins]
    simp
  · rw [begins]
    exact fun change read => read_alter_adds read

private theorem missingIndex_harmless (drift : SchemaDrift) : Harmless pg (createMissingIndexRepair drift) := by
  have begins : tokens (createMissingIndexRepair drift).sql = .word "CREATE" :: .word "INDEX" :: tokens
      ((splitName drift.objectName).2 ++ " ON " ++ (splitName drift.objectName).1 ++ " " ++ "(id)") := by
    rw [← tokens_create, ← String.append_assoc, ← String.append_assoc, ← String.append_assoc, ← String.append_assoc]
    rfl
  refine ⟨rfl, ?_, ?_⟩
  · unfold dropsTable
    rw [begins]
    simp
  · rw [begins]
    exact fun change read => read_create_adds read

theorem mem_repairs {repair : RepairAction} : repair ∈ repairs expected current ↔
    ∃ drift ∈ (compareSchemas expected current).drifts, createRepairAction drift = some repair := by
  simp [repairs, repairsOf]

/-- A drift of an expected table that has a repair is a missing column or a missing index. -/
theorem tableDrifts_repair {table : TableSchema} {drift : SchemaDrift} {repair : RepairAction}
    (member : drift ∈ tableDrifts current table) (made : createRepairAction drift = some repair) :
    (∃ column ∈ table.columns, repair = createMissingColumnRepair (missingColumn table column)) ∨
      ∃ index ∈ table.indexes, repair = createMissingIndexRepair (missingIndex table index) := by
  unfold tableDrifts at member
  split at member
  · cases List.mem_singleton.mp member
    cases made
  · rcases List.mem_append.mp member with inColumns | inIndexes
    · obtain ⟨column, ofTable, found⟩ := List.mem_filterMap.mp inColumns
      unfold columnDrift at found
      split at found
      · cases found
        cases made
        exact .inl ⟨column, ofTable, rfl⟩
      · split at found
        · cases found
          cases made
        · cases found
    · obtain ⟨index, ofTable, found⟩ := List.mem_filterMap.mp inIndexes
      unfold indexDrift at found
      split at found
      · cases found
      · cases found
        cases made
        exact .inr ⟨index, ofTable, rfl⟩

/-- Where no table is unexpected, all repairs are those of missing columns and indexes. -/
theorem repairs_cases (expectedOnly : NoExtra expected current.tables) {repair : RepairAction}
    (member : repair ∈ repairs expected current) : ∃ table ∈ expected.tables,
      (∃ column ∈ table.columns, repair = createMissingColumnRepair (missingColumn table column)) ∨
        ∃ index ∈ table.indexes, repair = createMissingIndexRepair (missingIndex table index) := by
  obtain ⟨drift, inDrifts, made⟩ := mem_repairs.mp member
  rcases List.mem_append.mp inDrifts with ofTable | ofExtra
  · obtain ⟨table, ofSchema, ofTable⟩ := List.mem_flatMap.mp ofTable
    exact ⟨table, ofSchema, tableDrifts_repair ofTable made⟩
  · obtain ⟨table, there, found⟩ := List.mem_filterMap.mp ofExtra
    rw [(extraDrift_eq_none table).mpr (expectedOnly table there)] at found
    cases found

theorem repairs_harmless (pg : Postgres) (expectedOnly : NoExtra expected current.tables) :
    ∀ repair ∈ repairs expected current, Harmless pg repair := by
  intro repair member
  obtain ⟨table, -, ⟨column, -, rfl⟩ | ⟨index, -, rfl⟩⟩ := repairs_cases expectedOnly member
  · exact missingColumn_harmless _
  · exact missingIndex_harmless _

/-- An unexpected table is to be dropped, and that needs approval. -/
theorem extra_repair {table : TableSchema} (there : table ∈ current.tables)
    (extra : (findTable expected.tables table.name).isSome = false) :
    createExtraObjectRepair (extraTable table) ∈ repairs expected current := by
  refine mem_repairs.mpr ⟨extraTable table, List.mem_append_right _ ?_, rfl⟩
  refine List.mem_filterMap.mpr ⟨table, there, ?_⟩
  cases found : findTable expected.tables table.name with
  | none => simp [extraDrift, found]
  | some own =>
    rw [found] at extra
    cases extra

theorem extra_drops (table : TableSchema) : (createExtraObjectRepair (extraTable table)).requiresApproval = true ∧
    dropsTable (createExtraObjectRepair (extraTable table)).sql := by
  refine ⟨rfl, ?_⟩
  have begins : (createExtraObjectRepair (extraTable table)).sql = "DROP TABLE " ++ table.name := rfl
  unfold dropsTable
  rw [begins, tokens_drop]
  exact ⟨_, rfl⟩

end DriverMicroServices.SchemaVerifier
