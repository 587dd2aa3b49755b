import DriverMicroServices.WrittenPhases

/-! Whether the lint accepts what the generator writes. The splitter leaves tables, indexes and some changes of
type as they are in its first phase, and the lint does not accept them there. -/
namespace DriverMicroServices.BuiltSchema
open Texts.Regex Texts.Regex.Pattern LifecycleSplitter MigrationGenerator MigrationLint Change

/-! ## From phases to files -/

/-- `phases.find(...)?.operations ?? []` -/
def operationsIn (phases : List PhasePlan) (phase : PhaseName) : List SchemaOperation :=
  ((phases.find? fun plan => plan.phase = phase).map (·.operations)).getD []

def lifecycleSetOf (phases : List PhasePlan) : MigrationLifecycleSet where
  safe := operationsIn phases .EXPAND
  data := operationsIn phases .DATA
  breaking := operationsIn phases .CONTRACT

/-- The statements of the files: what the operations are put into the phases as, one after the other. -/
def fileStatements (typeMap : TypeMap) (operations : List SchemaOperation) (type : Prefix) : List String :=
  operations.flatMap fun operation => placed typeMap operation type

private theorem operationsOf_split (typeMap : TypeMap) (operations : List SchemaOperation) (type : Prefix) :
    operationsOf (lifecycleSetOf (split operations typeMap)) type =
      operations.flatMap fun operation => operationsOf (place typeMap operation) type := by
  have found (safe data breaking : List SchemaOperation) :
      operationsOf (lifecycleSetOf ([phaseOf .EXPAND safe, phaseOf .DATA data, phaseOf .CONTRACT breaking,
        phaseOf .FIX []].filter fun phase => !phase.operations.isEmpty)) type =
        operationsOf ⟨safe, data, breaking⟩ type := by
    cases safe <;> cases data <;> cases breaking <;> cases type <;> rfl
  rw [split, found]
  cases type <;> rfl

theorem statementsOf_split (typeMap : TypeMap) (operations : List SchemaOperation) (type : Prefix) :
    statementsOf (lifecycleSetOf (split operations typeMap)) type = fileStatements typeMap operations type := by
  rw [statementsOf, operationsOf_split, fileStatements, List.map_flatMap]
  congr 1
  funext operation
  cases type <;> rfl

/-- The type that a file of the prefix is linted as. -/
def lintType : Prefix → MigrationType
  | .SAFE_ => .SAFE
  | .DATA_ => .DATA
  | .BREAKING_ => .BREAKING

section Files

variable (clock : Prefix → Nat) (outputDir : OutputDir) (name : MigrationName) (typeMap : TypeMap)
  (operations : List SchemaOperation) (disk : Disk)

/-- The lint accepts every file that is written from the phases. -/
def Accepts : Prop :=
  let made := generateLifecycleMigrations clock outputDir name (lifecycleSetOf (split operations typeMap)) [] disk
  ∀ filePath ∈ made.1, lintMigration made.2 filePath = some []

/-- The file of a phase. -/
def phaseFile (type : Prefix) : MigrationFile where
  filename := fileName (generateTimestamp (clock type)) type name.text
  className := classNameOf (generateTimestamp (clock type)) type name.text
  header := buildLifecycleHeader type name.text (phaseName type) (fileStatements typeMap operations type).length
  sqls := fileStatements typeMap operations type
  down := rollbackNote

/-- What the lint looks for is not in the file. -/
def Unremarked (file : MigrationFile) : Prop :=
  match getMigrationType file.filename with
  | none => True
  | some type =>
    includes file.filename "AddOutboxPriorityAndIdempotencyTracker" ∨
      file.filename ∈ LEGACY_SAFE_MIGRATION_EXCEPTIONS ∨
      if type = .SAFE ∧ includes file.filename "BASELINE" then
        ∀ source ∈ baselineForbiddenPatterns, ¬ Complaint.Says source (contentWithoutComments file.shown)
      else ∀ complaint : Complaint, ¬ complaint.Holds type file.shown

private theorem sectionErrors_eq_nil {type : MigrationType} {upSection : String} :
    sectionErrors type upSection = [] ↔ ∀ complaint : Complaint, ¬ complaint.Holds type upSection := by
  rw [List.eq_nil_iff_forall_not_mem]
  constructor
  · exact fun silent complaint holds => silent _ (mem_sectionErrors.mpr ⟨complaint, holds, rfl⟩)
  · intro unheld error member
    obtain ⟨complaint, holds, -⟩ := mem_sectionErrors.mp member
    exact unheld complaint holds

theorem errors_eq_nil (file : MigrationFile) : file.errors = [] ↔ Unremarked file := by
  rw [MigrationFile.errors, lintContent, Unremarked, file.upSection_content]
  cases getMigrationType file.filename with
  | none => simp
  | some type =>
    dsimp only
    by_cases tracked : includes file.filename "AddOutboxPriorityAndIdempotencyTracker"
    · simp [tracked]
    · by_cases legacy : file.filename ∈ LEGACY_SAFE_MIGRATION_EXCEPTIONS
      · simp [tracked, legacy]
      · simp only [tracked, legacy, if_false, false_or, Bool.false_eq_true]
        split
        · rw [baselineErrors, List.flatMap_eq_nil_iff]
          refine forall₂_congr fun source _ => ?_
          rw [errorIf, ← phrase_test]
          split <;> simp_all
        · exact sectionErrors_eq_nil

/-- The lint accepts the files whose phases it has nothing to remark on. -/
theorem accepts_iff_unremarked : Accepts clock outputDir name typeMap operations disk ↔
    ∀ type, fileStatements typeMap operations type ≠ [] →
      Unremarked (phaseFile clock name typeMap operations type) := by
  have filled (type : Prefix) : operationsOf (lifecycleSetOf (split operations typeMap)) type ≠ [] ↔
      fileStatements typeMap operations type ≠ [] := by
    rw [← statementsOf_split, statementsOf, Ne, Ne, List.map_eq_nil_iff]
  have linted {type : Prefix} (nonempty : operationsOf (lifecycleSetOf (split operations typeMap)) type ≠ []) :
      lintMigration (generateLifecycleMigrations clock outputDir name (lifecycleSetOf (split operations typeMap)) []
          disk).2 ((mainLabel name (type, clock type)).filePath outputDir) =
        some (phaseFile clock name typeMap operations type).errors := by
    have counted : (operationsOf (lifecycleSetOf (split operations typeMap)) type).length =
        (fileStatements typeMap operations type).length := by
      rw [← statementsOf_split, statementsOf, List.length_map]
    have flat : '/' ∉ (mainLabel name (type, clock type)).filename.toList := (readable_stamped name.flat).flat
    have named : basename ((mainLabel name (type, clock type)).filePath outputDir) =
        fileName (generateTimestamp (clock type)) type name.text := basename_join flat
    rw [lintMigration, file_text clock outputDir name disk nonempty, Option.map_some, named, statementsOf_split,
      counted, buildMigrationFile_eq (fileName (generateTimestamp (clock type)) type name.text)]
    rfl
  have paths := (written_phases clock name (lifecycleSetOf (split operations typeMap)) outputDir disk).paths
  constructor
  · intro accepted type nonempty
    have there : (mainLabel name (type, clock type)).filePath outputDir ∈
        (generateLifecycleMigrations clock outputDir name (lifecycleSetOf (split operations typeMap)) [] disk).1 := by
      rw [paths]
      exact List.mem_map_of_mem (List.mem_map_of_mem (mem_mainFiles.mpr ⟨(filled type).mpr nonempty, rfl⟩))
    have clean := (linted ((filled type).mpr nonempty)).symm.trans (accepted _ there)
    exact (errors_eq_nil _).mp (Option.some.inj clean)
  · intro unremarked filePath member
    rw [paths] at member
    obtain ⟨label, listed, rfl⟩ := List.mem_map.mp member
    obtain ⟨⟨type, now⟩, written, rfl⟩ := List.mem_map.mp listed
    obtain ⟨nonempty, rfl⟩ := mem_mainFiles.mp written
    rw [linted nonempty, (errors_eq_nil _).mpr (unremarked type ((filled type).mp nonempty))]

end Files

/-! ## Plain changes -/

section Plain

variable {typeMap : TypeMap} {operation : BuiltOperation}

private theorem tables_commands : ("CREATE", "TABLE") ∈ commands ∧ ("CREATE", "INDEX") ∈ commands := by decide

private theorem within_commands {type : Prefix} (later : type ≠ .SAFE_) :
    ∀ two ∈ unwelcome (lintType type), two ∈ commands ∧ two ∈ strict := by
  cases type with
  | SAFE_ => exact absurd rfl later
  | DATA_ | BREAKING_ => decide

private theorem within_strict (type : Prefix) : ∀ two ∈ unwelcome (lintType type), two ∈ strict ∧ two ∈ strict := by
  cases type <;> decide

/-- A statement as it is passes in a later phase, unless it is a change of a column's name or type. -/
theorem passes_later {type : Prefix} {change : Change} (plain : change.Plain typeMap) (later : type ≠ .SAFE_)
    (fit : fits (lintType type) change.literals) : Passes (lintType type) change.sql :=
  (written_sql plain).passes fit tables_commands (within_commands later)

theorem passes_written (type : Prefix) {literals : List String} {sql : String}
    (written : Written strict literals sql) (fit : fits (lintType type) literals) : Passes (lintType type) sql :=
  written.passes fit ⟨by decide, by decide⟩ (within_strict type)

theorem passes_asItIs {literals : List String} (plain : operation.change.Plain typeMap)
    (phase : phase? operation.change.sql = some .DATA ∨ phase? operation.change.sql = some .CONTRACT)
    (own : operation.change.literals = literals) (fit : fits .DATA literals ∧ fits .BREAKING literals)
    (type : Prefix) :
    ∀ sql ∈ placed typeMap operation.toSchemaOperation type, Passes (lintType type) sql := by
  intro sql member
  rw [← phase_operation] at phase
  obtain ⟨later, rfl⟩ := placed_later phase type sql member
  rw [operation.written]
  refine passes_later plain later ?_
  rw [own]
  cases type with
  | SAFE_ => exact absurd rfl later
  | DATA_ => exact fit.1
  | BREAKING_ => exact fit.2

/-- A creation that is not exposed goes to a later phase. -/
theorem later_of_hidden {change : Change}
    (known : (phase? change.sql = some .EXPAND ↔ change.Exposed) ∧
      (phase? change.sql = some .EXPAND ∨ phase? change.sql = some .DATA ∨ phase? change.sql = some .CONTRACT))
    (hidden : ¬ change.Exposed) : phase? change.sql = some .DATA ∨ phase? change.sql = some .CONTRACT :=
  known.2.resolve_left fun expand => hidden (known.1.mp expand)

/-- What a hidden change is put into a phase as passes there. -/
theorem passes_placed (plain : operation.change.Plain typeMap) (hidden : ¬ operation.change.Exposed) (type : Prefix) :
    ∀ sql ∈ placed typeMap operation.toSchemaOperation type, Passes (lintType type) sql := by
  cases same : operation.change with
  | addColumnNotNull table column definition rest =>
    have fit : fits .DATA ["ALTER TABLE ", " ADD "] ∧ fits .BREAKING ["ALTER TABLE ", " ADD "] := by decide
    have phase := phase_add (same ▸ plain)
    rw [← same] at phase
    exact passes_asItIs plain phase (by rw [same]; rfl) fit type
  | renameColumn table oldCol newCol =>
    have fit : fits .SAFE ["ALTER TABLE ", " ADD COLUMN "] ∧ fits .DATA ["UPDATE ", " SET ", " = ", ""] ∧
        fits .BREAKING ["ALTER TABLE ", " DROP COLUMN ", ""] := by
      decide
    rw [placed_renameColumn same plain]
    rw [same] at plain
    obtain ⟨named, named', named'', calm, nullable⟩ := plain
    cases type <;> simp only [List.forall_mem_cons, List.not_mem_nil, false_implies, implies_true, and_true]
    · exact passes_written .SAFE_ (written_addColumn (fun _ listed => listed) named.bound named''.bound
        (calm.quiet_strict nullable)) fit.1
    · exact passes_written .DATA_ (written_copy named.bound named''.bound named'.bound) fit.2.1
    · exact passes_written .BREAKING_ (written_dropColumn named.bound named'.bound) fit.2.2
  | changeType table column type' =>
    have fit : fits .SAFE ["ALTER TABLE ", " ADD COLUMN "] ∧ fits .DATA ["UPDATE ", " SET ", " = CAST("] ∧
        fits .BREAKING ["ALTER TABLE ", " DROP COLUMN ", ""] ∧
        fits .BREAKING ["ALTER TABLE ", " RENAME COLUMN ", " TO ", ""] := by
      decide
    obtain ⟨newType, all, placed'⟩ := placed_changeType same plain hidden
    have word := bound_words all
    rw [placed']
    rw [same] at plain
    obtain ⟨named, named', -⟩ := plain
    cases type <;> simp only [List.forall_mem_cons, List.not_mem_nil, false_implies, implies_true, and_true]
    · exact passes_written .SAFE_ (written_addColumn (fun _ listed => listed) named.bound named'.bound.v2
        word.quiet) fit.1
    · exact passes_written .DATA_ (written_cast (fun _ listed => listed) named.bound named'.bound.v2
        named'.bound word) fit.2.1
    · exact ⟨passes_written .BREAKING_ (written_dropColumn named.bound named'.bound) fit.2.2.1,
        passes_written .BREAKING_ (written_renameColumn named.bound named'.bound.v2 named'.bound) fit.2.2.2⟩
  | createTable table columns =>
    have fit : fits .DATA ["CREATE TABLE "] ∧ fits .BREAKING ["CREATE TABLE "] := by decide
    have known := phase_table (same ▸ plain)
    rw [← same] at known
    exact passes_asItIs plain (later_of_hidden known hidden) (by rw [same]; rfl) fit type
  | createIndex unique index table columns rest =>
    have fit : ∀ unique : Bool, fits .DATA [if unique then "CREATE UNIQUE INDEX " else "CREATE INDEX ", " ON "] ∧
        fits .BREAKING [if unique then "CREATE UNIQUE INDEX " else "CREATE INDEX ", " ON "] := by
      decide
    have known := phase_index (same ▸ plain)
    rw [← same] at known
    exact passes_asItIs plain (later_of_hidden known hidden) (by rw [same]; rfl) (fit unique) type

/-- The literals have no marks and say nothing of what is there. -/
def bare (literals : List String) : Bool :=
  literals.all (fun literal => !(pair "IF" "NOT").test literal) &&
    literals.all fun literal => marks.all fun c => !literal.toList.contains c

theorem quiet_written {list : List (String × String)} {literals : List String} {sql : String}
    (written : Written list literals sql) (listed : ("IF", "NOT") ∈ list) (clean : bare literals) :
    Absent (pair "IF" "NOT") sql.toList ∧ ∀ c ∈ marks, c ∉ sql.toList := by
  obtain ⟨missed, unmarked⟩ := Bool.and_eq_true_iff.mp clean
  exact ⟨written.absent listed (by decide) missed, written.unmarked unmarked⟩

private theorem quiet_sql {change : Change} (plain : change.Plain typeMap) :
    Absent (pair "IF" "NOT") change.sql.toList ∧ ∀ c ∈ marks, c ∉ change.sql.toList := by
  have clean : bare ["ALTER TABLE ", " ADD "] ∧ bare ["ALTER TABLE ", " RENAME COLUMN ", " TO ", ""] ∧
      bare ["ALTER TABLE ", " ALTER COLUMN "] ∧ bare ["CREATE TABLE "] ∧
      ∀ unique : Bool, bare [if unique then "CREATE UNIQUE INDEX " else "CREATE INDEX ", " ON "] := by
    decide
  refine quiet_written (written_sql plain) (by decide) ?_
  cases change with
  | addColumnNotNull _ _ _ _ => exact clean.1
  | renameColumn _ _ _ => exact clean.2.1
  | changeType _ _ _ => exact clean.2.2.1
  | createTable _ _ => exact clean.2.2.2.1
  | createIndex unique _ _ _ _ => exact clean.2.2.2.2 unique

/-- A change that is exposed is left in the first phase as it is. -/
theorem placed_exposed (plain : operation.change.Plain typeMap) (exposed : operation.change.Exposed) :
    placed typeMap operation.toSchemaOperation .SAFE_ = [operation.change.sql] := by
  have phase : phase? operation.change.sql = some .EXPAND := by
    cases same : operation.change with
    | addColumnNotNull _ _ _ _ | renameColumn _ _ _ =>
      rw [same] at exposed
      exact exposed.elim
    | changeType table column type => exact phase_changeType (same ▸ plain) (same ▸ exposed)
    | createTable table columns => exact (phase_table (same ▸ plain)).1.mpr (same ▸ exposed)
    | createIndex unique index table columns rest => exact (phase_index (same ▸ plain)).1.mpr (same ▸ exposed)
  rw [← phase_operation] at phase
  rw [placed_expand phase, if_pos rfl, operation.written]

/-- In the first phase, no statement has marks or says that something is made only where it is not there. -/
theorem quiet_first (plain : operation.change.Plain typeMap) :
    ∀ sql ∈ placed typeMap operation.toSchemaOperation .SAFE_,
      Absent (pair "IF" "NOT") sql.toList ∧ ∀ c ∈ marks, c ∉ sql.toList := by
  have clean : bare ["ALTER TABLE ", " ADD COLUMN "] := by decide
  have listed : ("IF", "NOT") ∈ strict := by decide
  by_cases exposed : operation.change.Exposed
  · rw [placed_exposed plain exposed, List.forall_mem_singleton]
    exact quiet_sql plain
  · have none (phase : phase? operation.change.sql = some .DATA ∨ phase? operation.change.sql = some .CONTRACT) :
        ∀ sql ∈ placed typeMap operation.toSchemaOperation .SAFE_,
          Absent (pair "IF" "NOT") sql.toList ∧ ∀ c ∈ marks, c ∉ sql.toList := by
      rw [← phase_operation] at phase
      exact fun sql member => absurd rfl (placed_later phase .SAFE_ sql member).1
    cases same : operation.change with
    | addColumnNotNull table column definition rest =>
      have phase := phase_add (same ▸ plain)
      exact none (same ▸ phase)
    | renameColumn table oldCol newCol =>
      rw [placed_renameColumn same plain, List.forall_mem_singleton]
      rw [same] at plain
      obtain ⟨named, named', named'', calm, nullable⟩ := plain
      exact quiet_written (written_addColumn (fun _ listed => listed) named.bound named''.bound
        (calm.quiet_strict nullable)) listed clean
    | changeType table column type =>
      obtain ⟨newType, all, placed'⟩ := placed_changeType same plain exposed
      rw [placed', List.forall_mem_singleton]
      rw [same] at plain
      obtain ⟨named, named', -⟩ := plain
      exact quiet_written (written_addColumn (fun _ listed => listed) named.bound named'.bound.v2
        (bound_words all).quiet) listed clean
    | createTable table columns =>
      have known := phase_table (same ▸ plain)
      rw [← same] at known
      exact none (later_of_hidden known exposed)
    | createIndex unique index table columns rest =>
      have known := phase_index (same ▸ plain)
      rw [← same] at known
      exact none (later_of_hidden known exposed)

end Plain

/-! ## Files of plain changes -/

/-- A file of the name is linted as the type, without an exception. -/
def Checked (filename : String) (type : MigrationType) : Prop :=
  getMigrationType filename = some type ∧ includes filename "BASELINE" = false ∧
    includes filename "AddOutboxPriorityAndIdempotencyTracker" = false ∧ filename ∉ LEGACY_SAFE_MIGRATION_EXCEPTIONS

instance (filename : String) (type : MigrationType) : Decidable (Checked filename type) :=
  inferInstanceAs (Decidable (_ ∧ _))

/-- The files are linted as what they are, the name opens nothing, and the changes are plain. -/
structure Ordinary (clock : Prefix → Nat) (name : MigrationName) (typeMap : TypeMap)
    (operations : List BuiltOperation) : Prop where
  checked : ∀ type, Checked (fileName (generateTimestamp (clock type)) type name.text) (lintType type)
  unopened : '(' ∉ name.text.toList
  plain : ∀ operation ∈ operations, operation.change.Plain typeMap

section Ordinary

variable {clock : Prefix → Nat} {outputDir : OutputDir} {name : MigrationName} {typeMap : TypeMap}
  {operations : List BuiltOperation} {disk : Disk}

/-- The file of a phase of operations of the schema builder. -/
def builtFile (clock : Prefix → Nat) (name : MigrationName) (typeMap : TypeMap) (operations : List BuiltOperation)
    (type : Prefix) : MigrationFile :=
  phaseFile clock name typeMap (operations.map (·.toSchemaOperation)) type

theorem mem_builtFile {type : Prefix} {sql : String} : sql ∈ (builtFile clock name typeMap operations type).sqls ↔
    ∃ operation ∈ operations, sql ∈ placed typeMap operation.toSchemaOperation type := by
  show sql ∈ List.flatMap _ (operations.map _) ↔ _
  simp only [List.mem_flatMap, List.mem_map, exists_exists_and_eq_and]

private theorem unremarked_checked {file : MigrationFile} {type : MigrationType} (checked : Checked file.filename type) :
    Unremarked file ↔ ∀ complaint : Complaint, ¬ complaint.Holds type file.shown := by
  obtain ⟨typed, baseline, tracked, legacy⟩ := checked
  simp only [Unremarked, typed, baseline, tracked, legacy, Bool.false_eq_true, and_false, if_false, false_or]

theorem Ordinary.unremarked_iff (ordinary : Ordinary clock name typeMap operations) (type : Prefix) :
    Unremarked (builtFile clock name typeMap operations type) ↔
      ∀ complaint : Complaint,
        ¬ complaint.Holds (lintType type) (builtFile clock name typeMap operations type).shown :=
  unremarked_checked (ordinary.checked type)

theorem Ordinary.opened (ordinary : Ordinary clock name typeMap operations) (type : Prefix) :
    (builtFile clock name typeMap operations type).Unopened :=
  unopened_lifecycle ordinary.unopened rfl rfl

/-- A statement that creates a table or an index is seen. -/
theorem creates_seen {text sql second : String} {rest : List Char} (kind : second = "TABLE" ∨ second = "INDEX")
    (begun : sql.toList = ("CREATE".toList ++ ' ' :: second.toList) ++ rest) (inside : sql.toList <:+: text.toList) :
    (spaced "CREATE" ["TABLE", "INDEX"]).test text := by
  have plain : (spaced "CREATE" ["TABLE", "INDEX"]).anchorless := by decide
  have last : (Pattern.text second empty).Spells (second.toList ++ []) := spells_followed_of rfl spells_nothing
  rw [List.append_nil] at last
  have chosen : (group (anyOf ["TABLE", "INDEX"])).Spells second.toList := by
    rcases kind with rfl | rfl
    · exact .inl last
    · exact .inr last
  have spelled : (spaced "CREATE" ["TABLE", "INDEX"]).Spells ("CREATE".toList ++ ([' '] ++ second.toList)) :=
    spells_followed_of rfl ⟨[' '], _, rfl, spells_blank, chosen⟩
  by_contra unread
  obtain ⟨early, late, split⟩ := inside
  refine absent_of_test plain (Bool.not_eq_true _ ▸ unread) early _ (rest ++ late) ?_ spelled
  rw [← split, begun]
  simp only [List.append_assoc, List.cons_append, List.nil_append]

/-- A table, an index or a type in the first phase is remarked on. -/
theorem remarked_of_exposed (ordinary : Ordinary clock name typeMap operations) {operation : BuiltOperation}
    (member : operation ∈ operations) (exposed : operation.change.Exposed) :
    ¬ Unremarked (builtFile clock name typeMap operations .SAFE_) := by
  have plain := ordinary.plain operation member
  have there : operation.change.sql ∈ (builtFile clock name typeMap operations .SAFE_).sqls := by
    rw [mem_builtFile]
    refine ⟨operation, member, ?_⟩
    rw [placed_exposed plain exposed]
    exact List.mem_singleton_self _
  have quiet : ∀ sql ∈ (builtFile clock name typeMap operations .SAFE_).sqls,
      Absent (pair "IF" "NOT") sql.toList ∧ ∀ c ∈ marks, c ∉ sql.toList := by
    intro sql inside
    obtain ⟨other, listed, own⟩ := mem_builtFile.mp inside
    exact quiet_first (ordinary.plain other listed) sql own
  have nonempty := List.ne_nil_of_mem there
  obtain ⟨shown, uncommented⟩ := shown_plain (ordinary.opened .SAFE_) nonempty fun sql inside => (quiet sql inside).2
  have text : (builtFile clock name typeMap operations .SAFE_).shown.toList =
      '\n' :: callsOf (builtFile clock name typeMap operations .SAFE_).sqls := by
    rw [shown, String.toList_ofList]
  have inside : operation.change.sql.toList <:+: (builtFile clock name typeMap operations .SAFE_).shown.toList := by
    rw [text]
    exact (infix_callsOf there).trans (List.suffix_cons _ _).isInfix
  have unsaid : ¬ Complaint.Says "IF NOT EXISTS" (builtFile clock name typeMap operations .SAFE_).shown := by
    have split : "IF NOT EXISTS".toList = "IF".toList ++ ' ' :: ("NOT".toList ++ " EXISTS".toList) := by decide
    have inner : isInner "IF" "NOT" := by decide
    refine unsaid_of_absent split ?_
    rw [text]
    exact absent_calls (inner_pair inner) (fun sql inside => (quiet sql inside).1) nonempty
  have created (second : String) (rest : List Char) (kind : second = "TABLE" ∨ second = "INDEX")
      (begun : operation.change.sql.toList = ("CREATE".toList ++ ' ' :: second.toList) ++ rest) :
      Complaint.noIfNotExists.Holds .SAFE (builtFile clock name typeMap operations .SAFE_).shown :=
    ⟨rfl, creates_seen kind begun inside, unsaid⟩
  intro unremarked
  have silent := (ordinary.unremarked_iff .SAFE_).mp unremarked
  cases same : operation.change with
  | addColumnNotNull _ _ _ _ | renameColumn _ _ _ =>
    rw [same] at exposed
    exact exposed
  | changeType table column type =>
    refine silent (.forbidden "ALTER COLUMN") ⟨by simp [FORBIDDEN_PATTERNS, lintType], ?_⟩
    rw [uncommented]
    have said : "ALTER COLUMN".toList <:+: operation.change.sql.toList := by
      have phrase : "ALTER COLUMN".toList = "ALTER".toList ++ ' ' :: "COLUMN".toList := by decide
      rw [same, toList_changeType, typeTail, phrase]
      refine ⟨quotedParts ["ALTER TABLE ", table.text] ++ ['"', ' '], ' ' :: '"' :: (column.text.toList ++ '"' ::
        ' ' :: ("TYPE".toList ++ ' ' :: type.toList)), ?_⟩
      simp only [List.append_assoc, List.cons_append, List.nil_append]
    exact (said.trans inside).map _
  | createTable table columns =>
    refine silent .noIfNotExists (created "TABLE" (' ' :: '"' :: (table.text.toList ++ '"' ::
      (" (" ++ columns ++ ")").toList)) (.inl rfl) ?_)
    rw [same, toList_sql]
    rfl
  | createIndex unique index table columns rest =>
    rw [same] at exposed
    obtain ⟨rfl, -⟩ := exposed
    refine silent .noIfNotExists (created "INDEX" (' ' :: '"' :: (index.text.toList ++ '"' ::
      (" ON ".toList ++ '"' :: (table.text.toList ++ '"' :: (" (" ++ columns ++ ")" ++ rest).toList)))) (.inr rfl) ?_)
    rw [same, toList_sql]
    rfl

theorem accepts_of_ordinary (ordinary : Ordinary clock name typeMap operations) :
    Accepts clock outputDir name typeMap (operations.map (·.toSchemaOperation)) disk ↔
      ∀ operation ∈ operations, ¬ operation.change.Exposed := by
  rw [accepts_iff_unremarked]
  constructor
  · intro unremarked operation member exposed
    have there : operation.change.sql ∈ (builtFile clock name typeMap operations .SAFE_).sqls := by
      rw [mem_builtFile]
      refine ⟨operation, member, ?_⟩
      rw [placed_exposed (ordinary.plain operation member) exposed]
      exact List.mem_singleton_self _
    exact remarked_of_exposed ordinary member exposed (unremarked .SAFE_ (List.ne_nil_of_mem there))
  · intro hidden type nonempty
    refine (ordinary.unremarked_iff type).mpr (silent (ordinary.opened type) nonempty fun sql member => ?_)
    obtain ⟨operation, listed, own⟩ := mem_builtFile.mp member
    exact passes_placed (ordinary.plain operation listed) (hidden operation listed) type sql own

end Ordinary

/-- When the lint accepts the files: of plain changes, none is exposed; in other files, nothing is remarked on. -/
structure Acceptable (clock : Prefix → Nat) (name : MigrationName) (typeMap : TypeMap)
    (operations : List BuiltOperation) : Prop where
  plain : Ordinary clock name typeMap operations → ∀ operation ∈ operations, ¬ operation.change.Exposed
  other : ¬ Ordinary clock name typeMap operations → ∀ type,
    (builtFile clock name typeMap operations type).sqls ≠ [] →
      Unremarked (builtFile clock name typeMap operations type)

/-- The lint accepts the generated files if and only if they are acceptable. -/
theorem generated_accepted_iff (clock : Prefix → Nat) (outputDir : OutputDir) (name : MigrationName)
    (typeMap : TypeMap) (operations : List BuiltOperation) (disk : Disk) :
    Accepts clock outputDir name typeMap (operations.map (·.toSchemaOperation)) disk ↔
      Acceptable clock name typeMap operations := by
  by_cases ordinary : Ordinary clock name typeMap operations
  · rw [accepts_of_ordinary ordinary]
    exact ⟨fun hidden => ⟨fun _ => hidden, fun other => absurd ordinary other⟩,
      fun acceptable => acceptable.plain ordinary⟩
  · rw [accepts_iff_unremarked]
    exact ⟨fun unremarked => ⟨fun plain => absurd plain ordinary, fun _ => unremarked⟩,
      fun acceptable => acceptable.other ordinary⟩

def stateIndexChange : Change :=
  .createIndex false ⟨"IDX_deliveries_status", by decide, by decide⟩ ⟨"deliveries", by decide, by decide⟩
    "\"status\"" ""

/-- An index on the states of deliveries. -/
def stateIndex : BuiltOperation where
  sql := stateIndexChange.sql
  category := .SAFE
  reason := "Index creation"
  change := stateIndexChange
  written := rfl

def addStateIndex : MigrationName where
  text := "AddStateIndex"
  flat := by decide

/-- An index is written into a safe file without the words that the lint asks for there. -/
theorem index_rejected :
    ¬ Accepts (fun _ => 1774500000000) ⟨"migrations/", .inr (by decide)⟩ addStateIndex []
      [stateIndex.toSchemaOperation] ⟨[], List.nodup_nil⟩ := by
  have plain : stateIndexChange.Plain [] := ⟨by decide, by decide, by decide, by decide⟩
  have ordinary : Ordinary (fun _ => 1774500000000) addStateIndex [] [stateIndex] := by
    refine ⟨fun type => ?_, by decide, List.forall_mem_singleton.mpr plain⟩
    cases type <;> decide
  have exposed : stateIndex.change.Exposed := by decide
  intro accepted
  exact (accepts_of_ordinary ordinary).mp accepted stateIndex List.mem_cons_self exposed

end DriverMicroServices.BuiltSchema
