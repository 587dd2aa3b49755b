import DriverMicroServices.SchemaRepairs
import DriverMicroServices.Texts.Spelling

/-! Whether the repairs of the verifier are safe, and what they leave to find. A statement names its table and
its column bare, and adds all columns with the same type. -/
namespace DriverMicroServices.SchemaVerifier
open Texts.Tokens Transactions

variable {pg : Postgres} {expected current : SchemaSnapshot} {tables after : List TableSchema}

/-! ## What a repair answers -/

section Answers

variable {refuses : String → Option String} {commitError : Option String}

/-- What can be executed is what the database reads and can do. -/
theorem applyAll_of_execute {pairs : List (SchemaDrift × RepairAction)}
    (done : pairs.foldlM (pg.execute refuses) tables = .ok after) :
    pg.applyAll tables (pairs.map (·.2)) = some after := by
  induction pairs generalizing tables with
  | nil =>
    cases done
    rfl
  | cons pair rest ih =>
    rw [List.foldlM_cons] at done
    cases executed : pg.execute refuses tables pair with
    | error message =>
      rw [executed] at done
      cases done
    | ok next =>
      rw [executed] at done
      unfold Postgres.execute at executed
      split at executed
      · cases executed
      split at executed
      · rename_i performed
        cases executed
        have later := ih done
        simp only [Postgres.applyAll, List.map_cons, List.foldlM_cons, performed] at later ⊢
        exact later
      · cases executed

private theorem execute_of_applyAll {pairs : List (SchemaDrift × RepairAction)}
    (done : pg.applyAll tables (pairs.map (·.2)) = some after) :
    pairs.foldlM (pg.execute fun _ => none) tables = .ok after := by
  induction pairs generalizing tables with
  | nil =>
    cases done
    rfl
  | cons pair rest ih =>
    obtain ⟨next, performed, later⟩ := Option.bind_eq_some_iff.mp done
    have executed : pg.execute (fun _ => none) tables pair = .ok next := by
      simp only [Postgres.execute, performed]
    rw [List.foldlM_cons, executed]
    exact ih later

/-- A repair that is said to be one has done all of it; otherwise the database is as before. -/
theorem performAutoRepair_spec (pg : Postgres) (refuses : String → Option String) (commitError : Option String)
    (tables : List TableSchema) (drifts : List SchemaDrift) :
    let repaired := performAutoRepair pg refuses commitError tables drifts
    repaired.executed = (repairsOf drifts).map (·.2) ∧
      (repaired.result.success = true → repaired.result.repairs = (repairsOf drifts).map (·.2) ∧
        pg.applyAll tables ((repairsOf drifts).map (·.2)) = some repaired.tables) ∧
      (repaired.result.success = false → repaired.tables = tables) := by
  unfold performAutoRepair
  have sound := attemptAll_sound (pg.execute refuses) abortedMessage (repairsOf drifts) (sound_start tables)
  generalize ended : attemptAll (pg.execute refuses) abortedMessage (repairsOf drifts) { state := tables } = t
    at sound ⊢
  cases commitError with
  | some message => exact ⟨rfl, nofun, fun _ => rfl⟩
  | none =>
    refine ⟨rfl, fun success => ?_, fun failed => ?_⟩
    · have clean : t.errors = [] := by simpa using success
      have going : t.aborted = false := Bool.eq_false_iff.mpr fun aborted => sound.mp aborted clean
      obtain ⟨folded, done⟩ := attemptAll_clean rfl (ended ▸ clean)
      rw [ended] at folded done
      refine ⟨by simp [done], ?_⟩
      simp only [Attempts.commit, going]
      exact applyAll_of_execute folded
    · have some_error : t.errors ≠ [] := by simpa using failed
      simp [Attempts.commit, sound.mpr some_error]

/-- Where nothing fails, a repair that can be executed is said to be one. -/
theorem performAutoRepair_succeeds {drifts : List SchemaDrift}
    (done : pg.applyAll tables ((repairsOf drifts).map (·.2)) = some after) :
    (performAutoRepair pg (fun _ => none) none tables drifts).result.success = true := by
  have all : attemptAll (pg.execute fun _ => none) abortedMessage (repairsOf drifts) { state := tables } =
      { state := after, done := repairsOf drifts } := attemptAll_of_ok rfl (execute_of_applyAll done)
  simp [performAutoRepair, all]

end Answers

/-! ## Safe and effective -/

/-- No repair that needs approval and no statement that drops a table is executed. A success leaves nothing
to find, and a failure leaves the database as it was. -/
structure SafeRepair (pg : Postgres) (expected current : SchemaSnapshot) (repaired : Repaired) : Prop where
  approved : ∀ repair ∈ repaired.executed, repair.requiresApproval = false
  keeps : ∀ repair ∈ repaired.executed, ¬ dropsTable repair.sql
  effective : repaired.result.success = true →
    pg.applyAll current.tables repaired.result.repairs = some repaired.tables ∧
      (compareSchemas expected { tables := repaired.tables }).drifts = []
  unchanged : repaired.result.success = false → repaired.tables = current.tables

/-- Whatever fails. -/
def SafeRepairs (pg : Postgres) (expected current : SchemaSnapshot) : Prop :=
  ∀ refuses commitError,
    ∀ repaired ∈ handleDrift pg refuses commitError current.tables (compareSchemas expected current),
      SafeRepair pg expected current repaired

/-- Each missing column is added with its type, and each missing index is created, as the database reads
the repairs. -/
structure Fits (pg : Postgres) (expected current : SchemaSnapshot) : Prop where
  columns : ∀ table ∈ expected.tables, ∀ column ∈ table.columns,
    typeIn current.tables table.name column.name = none →
      .addColumn table.name column.name column.type ∈ pg.changes (repairs expected current)
  indexes : ∀ table ∈ expected.tables, ∀ index ∈ table.indexes, hasIndex current.tables table.name index = false →
    ∃ column, .createIndex index table.name column ∈ pg.changes (repairs expected current)

/-- Where the worker repairs at all, no table is unexpected, and the repairs fit unless they cannot be
executed. -/
def Repairable (pg : Postgres) (expected current : SchemaSnapshot) : Prop :=
  (compareSchemas expected current).autoRepairable = true → NoExtra expected current.tables ∧
    ((pg.applyAll current.tables (repairs expected current)).isSome = true → Fits pg expected current)

private theorem performAll_of_applyAll {list : List RepairAction} (done : pg.applyAll tables list = some after) :
    performAll tables (pg.changes list) = some after := by
  induction list generalizing tables with
  | nil => exact done
  | cons repair rest ih =>
    obtain ⟨next, performed, later⟩ := Option.bind_eq_some_iff.mp done
    obtain ⟨change, read, performed⟩ := Option.bind_eq_some_iff.mp performed
    rw [Postgres.changes, List.filterMap_cons, read]
    show Option.bind _ _ = _
    rw [performed]
    exact ih later

/-- Repairs of what is missing only add to the tables. -/
theorem added_repairs (expectedOnly : NoExtra expected current.tables)
    (done : pg.applyAll current.tables (repairs expected current) = some after) :
    Added current.tables after (pg.changes (repairs expected current)) := by
  have adds : ∀ change ∈ pg.changes (repairs expected current), change.adds = true := by
    intro change member
    obtain ⟨repair, there, read⟩ := List.mem_filterMap.mp member
    exact (repairs_harmless pg expectedOnly repair there).adds change read
  exact added_performAll (added_nil current.tables) adds (performAll_of_applyAll done)

private theorem noExtra_applied (expectedOnly : NoExtra expected current.tables)
    (done : pg.applyAll current.tables (repairs expected current) = some after) : NoExtra expected after := by
  intro table there
  have found : (findTable after table.name).isSome = true :=
    List.find?_isSome.mpr ⟨table, there, decide_eq_true rfl⟩
  rw [(added_repairs expectedOnly done).there] at found
  obtain ⟨own, held⟩ := Option.isSome_iff_exists.mp found
  rw [← name_of_found held]
  exact expectedOnly own (List.mem_of_find?_eq_some held)

/-- After repairs that add, nothing is found just when they fit. -/
theorem fits_iff (open' : (compareSchemas expected current).autoRepairable = true)
    (expectedOnly : NoExtra expected current.tables)
    (done : pg.applyAll current.tables (repairs expected current) = some after) :
    (∀ table ∈ expected.tables, Matches after table) ↔ Fits pg expected current := by
  have added := added_repairs expectedOnly done
  have repairable := autoRepairable_iff.mp open'
  constructor
  · intro found
    constructor
    · intro table member column ofTable absent
      exact (added.fresh _ _ _ absent).mp ((found table member).columns column ofTable)
    · intro table member index ofTable absent
      rcases (added.indexes _ _).mp ((found table member).indexes index ofTable) with held | created
      · rw [absent] at held
        cases held
      · exact created
  · intro fits table member
    refine ⟨?_, fun column ofTable => ?_, fun index ofTable => ?_⟩
    · rw [added.there]
      exact (repairable table member).1
    · cases held : typeIn current.tables table.name column.name with
      | none => exact (added.fresh _ _ _ held).mpr (fits.columns table member column ofTable held)
      | some type =>
        rw [← (repairable table member).2 column ofTable type held]
        exact added.kept _ _ _ held
    · refine (added.indexes _ _).mpr ?_
      cases held : hasIndex current.tables table.name index with
      | true => exact .inl rfl
      | false => exact .inr (fits.indexes table member index ofTable held)

/-! ## Names that are read as they are -/

section Plain

/-- A name without a dot that a statement takes as it is written. -/
def Plain (pg : Postgres) (name : String) : Prop :=
  '.' ∉ name.toList ∧ ∃ token, nameToken name = some token ∧ pg.name? token = some name

structure PlainTable (pg : Postgres) (table : TableSchema) : Prop where
  name : Plain pg table.name
  columns : ∀ column ∈ table.columns, Plain pg column.name
  indexes : ∀ index ∈ table.indexes, Plain pg index

theorem splitName_dotted {first second : String} (one : '.' ∉ first.toList) (other : '.' ∉ second.toList) :
    splitName s!"{first}.{second}" = (first, second) := by
  have written : (s!"{first}.{second}").toList = first.toList ++ '.' :: second.toList := by
    show ((first ++ ".") ++ second).toList = _
    rw [String.toList_append, String.toList_append]
    simp
  have split : (s!"{first}.{second}").toList.splitOn '.' = [first.toList, second.toList] := by
    rw [written, List.splitOn_append_cons_self_of_not_mem one, List.splitOn_eq_singleton other]
  unfold splitName
  rw [split]
  simp only [List.map_cons, List.map_nil, String.ofList_toList]
  rfl

variable {table : TableSchema} {column : ColumnSchema} {index : String}

theorem read_missingColumn (named : Plain pg table.name) (plain : Plain pg column.name) :
    pg.read (tokens (createMissingColumnRepair (missingColumn table column)).sql) =
      some (.addColumn table.name column.name "character varying(255)") := by
  obtain ⟨undotted, token, ofTable, tableName⟩ := named
  obtain ⟨undotted', token', ofColumn, columnName⟩ := plain
  have spelled : Spelled ["ALTER TABLE ", table.name, " ADD COLUMN ", column.name, " VARCHAR(255)"]
      ([.word "ALTER", .word "TABLE"] ++ token :: ([.word "ADD", .word "COLUMN"] ++ token' :: varcharTokens)) :=
    .fixed rfl (.name ofTable rfl (.fixed rfl (.name ofColumn rfl (.last _))))
  have written : (createMissingColumnRepair (missingColumn table column)).sql =
      String.join ["ALTER TABLE ", table.name, " ADD COLUMN ", column.name, " VARCHAR(255)"] := by
    have parts : splitName (missingColumn table column).objectName = (table.name, column.name) :=
      splitName_dotted undotted undotted'
    unfold createMissingColumnRepair
    rw [parts]
    simp only [String.join_cons, String.join_nil, String.append_empty]
    simp only [getColumnDefinition, toString, String.append_assoc]
    rfl
  rw [written, spelled.tokens_eq]
  simp [Postgres.read, tableName, columnName, pg.format_varchar]

theorem read_missingIndex (named : Plain pg table.name) (plain : Plain pg index) :
    pg.read (tokens (createMissingIndexRepair (missingIndex table index)).sql) =
      some (.createIndex index table.name "id") := by
  obtain ⟨undotted, token, ofTable, tableName⟩ := named
  obtain ⟨undotted', token', ofIndex, indexName⟩ := plain
  have spelled : Spelled ["CREATE INDEX ", index, " ON ", table.name, " (id)"]
      ([.word "CREATE", .word "INDEX"] ++ token' ::
        ([.word "ON"] ++ token :: [.symbol '(', .word "ID", .symbol ')'])) :=
    .fixed rfl (.name ofIndex rfl (.fixed rfl (.name ofTable rfl (.last _))))
  have written : (createMissingIndexRepair (missingIndex table index)).sql =
      String.join ["CREATE INDEX ", index, " ON ", table.name, " (id)"] := by
    have parts : splitName (missingIndex table index).objectName = (table.name, index) :=
      splitName_dotted undotted undotted'
    unfold createMissingIndexRepair
    rw [parts]
    simp only [String.join_cons, String.join_nil, String.append_empty]
    simp only [getIndexDefinition, toString, String.append_assoc]
    rfl
  have id : pg.name? (.word "ID") = some "id" := by
    have small : "ID".map Char.toLower = "id" := String.toList_inj.mp (by rw [String.toList_map]; rfl)
    have letter : ("ID".toList.head?.all fun c => c.isDigit || c = '$') = false := by decide
    rw [Postgres.name?, pg.reserved_id, letter, small]
    rfl
  rw [written, spelled.tokens_eq]
  simp [Postgres.read, tableName, indexName, id]

private theorem mem_missingColumn (there : (findTable current.tables table.name).isSome = true)
    (ofSchema : table ∈ expected.tables) (ofTable : column ∈ table.columns)
    (absent : typeIn current.tables table.name column.name = none) :
    createMissingColumnRepair (missingColumn table column) ∈ repairs expected current := by
  obtain ⟨own, found⟩ := Option.isSome_iff_exists.mp there
  have missing : columnDrift table own column = some (missingColumn table column) := by
    simp only [typeIn, found, Option.bind_some, Option.map_eq_none_iff] at absent
    simp [columnDrift, absent]
  refine mem_repairs.mpr ⟨missingColumn table column, List.mem_append_left _ ?_, rfl⟩
  refine List.mem_flatMap.mpr ⟨table, ofSchema, ?_⟩
  rw [tableDrifts, found]
  exact List.mem_append_left _ (List.mem_filterMap.mpr ⟨column, ofTable, missing⟩)

private theorem mem_missingIndex (there : (findTable current.tables table.name).isSome = true)
    (ofSchema : table ∈ expected.tables) (ofTable : index ∈ table.indexes)
    (absent : hasIndex current.tables table.name index = false) :
    createMissingIndexRepair (missingIndex table index) ∈ repairs expected current := by
  obtain ⟨own, found⟩ := Option.isSome_iff_exists.mp there
  have missing : indexDrift table own index = some (missingIndex table index) := by
    simp only [hasIndex, found, Option.any_some, decide_eq_false_iff_not] at absent
    simp [indexDrift, absent]
  refine mem_repairs.mpr ⟨missingIndex table index, List.mem_append_left _ ?_, rfl⟩
  refine List.mem_flatMap.mpr ⟨table, ofSchema, ?_⟩
  rw [tableDrifts, found]
  exact List.mem_append_right _ (List.mem_filterMap.mpr ⟨index, ofTable, missing⟩)

/-- With names that are read as they are, the repairs fit just when each missing column is expected with the
type that all columns are added with. -/
theorem fits_plain_iff (plain : ∀ table ∈ expected.tables, PlainTable pg table)
    (there : ∀ table ∈ expected.tables, (findTable current.tables table.name).isSome = true)
    (expectedOnly : NoExtra expected current.tables) :
    Fits pg expected current ↔ ∀ table ∈ expected.tables, ∀ column ∈ table.columns,
      typeIn current.tables table.name column.name = none → column.type = "character varying(255)" := by
  constructor
  · intro fits table ofSchema column ofTable absent
    obtain ⟨repair, member, read⟩ := List.mem_filterMap.mp (fits.columns table ofSchema column ofTable absent)
    obtain ⟨other, inSchema, ⟨own, ofOther, rfl⟩ | ⟨index, ofOther, rfl⟩⟩ := repairs_cases expectedOnly member
    · rw [read_missingColumn (plain other inSchema).name ((plain other inSchema).columns own ofOther)] at read
      injection read with same
      injection same with sameTable sameColumn sameType
      exact sameType.symm
    · rw [read_missingIndex (plain other inSchema).name ((plain other inSchema).indexes index ofOther)] at read
      cases read
  · intro types
    constructor
    · intro table ofSchema column ofTable absent
      refine List.mem_filterMap.mpr ⟨_, mem_missingColumn (there table ofSchema) ofSchema ofTable absent, ?_⟩
      rw [read_missingColumn (plain table ofSchema).name ((plain table ofSchema).columns column ofTable),
        types table ofSchema column ofTable absent]
    · intro table ofSchema index ofTable absent
      refine ⟨"id", List.mem_filterMap.mpr ⟨_, mem_missingIndex (there table ofSchema) ofSchema ofTable absent, ?_⟩⟩
      exact read_missingIndex (plain table ofSchema).name ((plain table ofSchema).indexes index ofTable)

end Plain

/-- The worker is safe and effective just when it repairs nothing, or no table is unexpected and the repairs fit
or cannot be executed. -/
theorem auto_repair_iff (pg : Postgres) (expected current : SchemaSnapshot) :
    SafeRepairs pg expected current ↔ Repairable pg expected current := by
  constructor
  · intro safe open'
    have handled (some_drift : (compareSchemas expected current).drifts ≠ []) :
        SafeRepair pg expected current
          (performAutoRepair pg (fun _ => none) none current.tables (compareSchemas expected current).drifts) := by
      refine safe (fun _ => none) none _ ?_
      rw [handleDrift, if_pos ⟨open', List.length_pos_iff.mpr some_drift⟩]
      rfl
    have expectedOnly : NoExtra expected current.tables := by
      intro table there
      by_contra extra
      have repair := extra_repair there (Bool.not_eq_true _ ▸ extra)
      obtain ⟨drift, inDrifts, -⟩ := mem_repairs.mp repair
      have approved := (handled (List.ne_nil_of_mem inDrifts)).approved
      rw [(performAutoRepair_spec _ _ _ _ _).1] at approved
      exact Bool.false_ne_true ((approved _ repair).symm.trans (extra_drops table).1)
    refine ⟨expectedOnly, fun executable => ?_⟩
    obtain ⟨after, done⟩ := Option.isSome_iff_exists.mp executable
    refine (fits_iff open' expectedOnly done).mp ?_
    by_cases some_drift : (compareSchemas expected current).drifts = []
    · have same : after = current.tables := by
        have nothing : repairs expected current = [] := by simp [repairs, some_drift, repairsOf]
        rw [nothing] at done
        exact (Option.some.inj done).symm
      rw [same]
      exact (drifts_eq_nil.mp some_drift).1
    · obtain ⟨applied, found⟩ := (handled some_drift).effective (performAutoRepair_succeeds done)
      have reached := (performAutoRepair_spec _ _ _ _ _).2.1 (performAutoRepair_succeeds done)
      have same : after = (performAutoRepair pg (fun _ => none) none current.tables
          (compareSchemas expected current).drifts).tables := Option.some.inj (done.symm.trans reached.2)
      rw [same]
      exact (drifts_eq_nil.mp found).1
  · intro repairable refuses commitError repaired handled
    unfold handleDrift at handled
    split at handled
    · rename_i opened
      cases handled
      obtain ⟨expectedOnly, fits⟩ := repairable opened.1
      obtain ⟨executed, succeeds, fails⟩ :=
        performAutoRepair_spec pg refuses commitError current.tables (compareSchemas expected current).drifts
      have harmless := repairs_harmless pg expectedOnly
      refine ⟨?_, ?_, fun success => ?_, fails⟩
      · rw [executed]
        exact fun repair member => (harmless repair member).approved
      · rw [executed]
        exact fun repair member => (harmless repair member).keeps
      · obtain ⟨all, done⟩ := succeeds success
        refine ⟨by rw [all]; exact done, drifts_eq_nil.mpr ⟨?_, ?_⟩⟩
        · exact (fits_iff opened.1 expectedOnly done).mpr (fits (by rw [repairs, done]; rfl))
        · exact noExtra_applied expectedOnly done
    · cases handled

theorem hasDrift_iff :
    (compareSchemas expected current).hasDrift = true ↔ (compareSchemas expected current).drifts ≠ [] :=
  decide_eq_true_iff.trans List.length_pos_iff

/-- The expected schema of a verification has no table, so each table of the database is dropped. -/
theorem verification_drops {refuses : String → Option String} {commitError : Option String} (migration : String)
    {table : TableSchema} (there : table ∈ current.tables) :
    ∃ repaired, performVerification pg refuses commitError (some migration) current = some repaired ∧
      createExtraObjectRepair (extraTable table) ∈ repaired.executed := by
  have repair : createExtraObjectRepair (extraTable table) ∈ repairs { tables := [] } current :=
    extra_repair there rfl
  obtain ⟨drift, inDrifts, -⟩ := mem_repairs.mp repair
  have some_drift : 0 < (compareSchemas { tables := [] } current).drifts.length :=
    List.length_pos_iff.mpr (List.ne_nil_of_mem inDrifts)
  have opened : (compareSchemas { tables := [] } current).autoRepairable = true :=
    autoRepairable_iff.mpr fun other member => by cases member
  refine ⟨performAutoRepair pg refuses commitError current.tables
    (compareSchemas { tables := [] } current).drifts, ?_, ?_⟩
  · have detected := hasDrift_iff.mpr (List.ne_nil_of_mem inDrifts)
    simp [performVerification, getExpectedSchema, handleDrift, detected, opened, some_drift]
  · rw [(performAutoRepair_spec _ _ _ _ _).1]
    exact repair

def samplePostgres : Postgres where
  reserved word := word ∈ ["TABLE", "COLUMN", "ON"]
  reserved_id := by decide
  formatType type := if type = varcharTokens then some "character varying(255)" else none
  format_varchar := rfl
  message sql := "syntax error in " ++ sql

def usersTable (columns : List ColumnSchema) : SchemaSnapshot := { tables := [{ name := "users", columns }] }

def withoutAge : SchemaSnapshot := usersTable [⟨"id", "uuid"⟩]

def withAge : SchemaSnapshot := usersTable [⟨"id", "uuid"⟩, ⟨"age", "integer"⟩]

/-- The worker drops a table that no migration expects. It adds a column of numbers as one of texts, and calls
that a success. -/
theorem repairs_are_unsafe :
    ¬ SafeRepairs samplePostgres { tables := [] } withoutAge ∧
      ¬ SafeRepairs samplePostgres withAge withoutAge := by
  constructor
  · intro safe
    have run : (handleDrift samplePostgres (fun _ => none) none withoutAge.tables
        (compareSchemas { tables := [] } withoutAge)).any
          (fun repaired => repaired.tables = [] ∧ repaired.executed.any (·.requiresApproval)) = true := by
      decide +kernel
    obtain ⟨repaired, handled, holds⟩ := (Option.any_eq_true _ _).mp run
    obtain ⟨repair, member, needs⟩ := List.any_eq_true.mp (of_decide_eq_true holds).2
    exact Bool.false_ne_true (((safe _ _ repaired handled).approved repair member).symm.trans needs)
  · intro safe
    have run : (handleDrift samplePostgres (fun _ => none) none withoutAge.tables
        (compareSchemas withAge withoutAge)).any
          (fun repaired => repaired.result.success ∧
            (compareSchemas withAge { tables := repaired.tables }).hasDrift) =
        true := by
      decide +kernel
    obtain ⟨repaired, handled, holds⟩ := (Option.any_eq_true _ _).mp run
    obtain ⟨success, found⟩ := of_decide_eq_true holds
    have nothing := ((safe _ _ repaired handled).effective success).2
    exact hasDrift_iff.mp found nothing

end DriverMicroServices.SchemaVerifier
