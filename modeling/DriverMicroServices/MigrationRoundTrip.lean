import DriverMicroServices.FileOrder
import DriverMicroServices.MigrationReading

/-! What the classification says of the generated files: their statements, and the prefix that
their statements ask for. -/
namespace DriverMicroServices.MigrationGenerator
open Tables.Keyed Texts.Regex Texts.Regex.Pattern Texts.Units LifecycleSplitter

def operationsOf (lifecycleSet : MigrationLifecycleSet) : Prefix → List SchemaOperation
  | .SAFE_ => lifecycleSet.safe
  | .DATA_ => lifecycleSet.data
  | .BREAKING_ => lifecycleSet.breaking

def statementsOf (lifecycleSet : MigrationLifecycleSet) (type : Prefix) : List String :=
  (operationsOf lifecycleSet type).map (·.sql)

/-- Each file that is written has the statements of its phase, and the prefix that it is named by. -/
def ReadsBack (lifecycleSet : MigrationLifecycleSet) (made : List String × Disk) : Prop :=
  ∀ filePath ∈ made.1, ∃ type found, typeOf filePath = some type ∧
    classifyMigrationFile made.2 filePath = some found ∧
    found.statements.map (·.sql) = statementsOf lifecycleSet type ∧ found.dominantPrefix = type

def categoryOf (sql : String) : SqlCategory := (classifySqlStatement sql).1

/-- The most restrictive category of the statements is the one of the prefix. -/
def Fits (statements : List String) : Prefix → Prop
  | .SAFE_ => ∀ sql ∈ statements, categoryOf sql ≠ .BREAKING ∧ categoryOf sql ≠ .DATA
  | .DATA_ => (∀ sql ∈ statements, categoryOf sql ≠ .BREAKING) ∧ ∃ sql ∈ statements, categoryOf sql = .DATA
  | .BREAKING_ => ∃ sql ∈ statements, categoryOf sql = .BREAKING

/-! ## The texts in front of the calls -/

/-- A name with no mark of a statement, either. -/
structure UnmarkedName extends MigrationName where
  unmarked : Unmarked text

private theorem unmarked_className (now : Nat) (type : Prefix) (name : UnmarkedName) :
    Unmarked (classNameOf (generateTimestamp now) type name.text) := by
  have word : Unmarked type.word := by cases type <;> exact unmarked_ofList rfl
  have digits : Unmarked (generateTimestamp now) := absent_from_toString (by decide)
  exact (word.append name.unmarked).append digits

private theorem unmarked_checklist (type : Prefix) : Unmarked (checklist type) := by
  cases type with
  | SAFE_ | DATA_ =>
    unfold checklist
    refine .append (.append (.append ?_ ?_) ?_) ?_ <;> exact unmarked_ofList rfl
  | BREAKING_ =>
    unfold checklist
    refine .append (.append (.append (.append ?_ ?_) ?_) ?_) ?_ <;> exact unmarked_ofList rfl

private theorem unmarked_header (type : Prefix) (name : UnmarkedName) {phase : String} (plain : Unmarked phase)
    (count : Nat) : Unmarked (buildLifecycleHeader type name.text phase count) := by
  have word : Unmarked type.word := by cases type <;> exact unmarked_ofList rfl
  have level : Unmarked (risk type) := by cases type <;> exact unmarked_ofList rfl
  have roll : Unmarked (rollback type) := by cases type <;> exact unmarked_ofList rfl
  have approval : Unmarked (breakingApproval type) := by cases type <;> exact unmarked_ofList rfl
  have digits : Unmarked (toString count) := absent_from_toString (by decide)
  have intent : Unmarked s!"{phase} phase for {name.text} — {count} statement(s)" := by
    refine .append (.append (.append (.append (.append plain ?_) name.unmarked) ?_) digits) ?_ <;>
      exact unmarked_ofList rfl
  unfold buildLifecycleHeader headerWith
  refine .append (.append (.append (.append (.append (.append (.append (.append (.append (.append (.append (.append
    ?_ intent) ?_) word) ?_) level) ?_) roll) ?_) approval) ?_) (unmarked_checklist type)) ?_ <;>
    exact unmarked_ofList rfl

private theorem unmarked_fileStart {className header : String} (plain : Unmarked className) (plain' : Unmarked header) :
    Unmarked (fileStart className header) := by
  unfold fileStart
  refine .append (.append (.append (.append (.append (.append ?_ plain') ?_) plain) ?_) plain) ?_ <;>
    exact unmarked_ofList rfl

/-! ## The files on the disk -/

variable {clock : Prefix → Nat} {outputDir : OutputDir} {name : MigrationName}
  {lifecycleSet : MigrationLifecycleSet} {type : Prefix} {now : Nat} {made : List String × Disk}
  {operations : List SchemaOperation} {disk : Disk} {statements : List String}

theorem writePhase_self (nonempty : operations ≠ []) (phase : String) :
    (writePhase now outputDir name type phase operations made).2.readFileSync
        ((mainLabel name (type, now)).filePath outputDir) =
      some (buildMigrationFile (classNameOf (generateTimestamp now) type name.text) (operations.map (·.sql))
        (buildLifecycleHeader type name.text phase operations.length)) := by
  obtain ⟨operation, rest, rfl⟩ := List.exists_cons_of_ne_nil nonempty
  exact get_put_self

theorem writePhase_other {filePath : String} (other : filePath ≠ (mainLabel name (type, now)).filePath outputDir)
    (phase : String) :
    (writePhase now outputDir name type phase operations made).2.readFileSync filePath =
      made.2.readFileSync filePath := by
  cases operations with
  | nil => rfl
  | cons operation rest => exact get_put_ne other

theorem filePath_ne {type' : Prefix} {now' : Nat} (other : type ≠ type') :
    (mainLabel name (type, now)).filePath outputDir ≠ (mainLabel name (type', now')).filePath outputDir := by
  intro same
  have filenames : (mainLabel name (type, now)).filename = (mainLabel name (type', now')).filename := by
    simpa [Label.filePath, join] using same
  have labels := filename_injective (readable_stamped name.flat) (readable_stamped name.flat) filenames
  exact other (congrArg Label.type labels)

/-- The name of the phase that a file is for. -/
def phaseName : Prefix → String
  | .SAFE_ => "Expand"
  | .DATA_ => "Migrate"
  | .BREAKING_ => "Contract"

/-- The file of each phase is there when the call returns, as it was written. -/
theorem file_text (clock : Prefix → Nat) (outputDir : OutputDir) (name : MigrationName) (disk : Disk)
    (nonempty : operationsOf lifecycleSet type ≠ []) :
    (generateLifecycleMigrations clock outputDir name lifecycleSet [] disk).2.readFileSync
        ((mainLabel name (type, clock type)).filePath outputDir) =
      some (buildMigrationFile (classNameOf (generateTimestamp (clock type)) type name.text)
        (statementsOf lifecycleSet type)
        (buildLifecycleHeader type name.text (phaseName type) (operationsOf lifecycleSet type).length)) := by
  unfold generateLifecycleMigrations
  cases type with
  | SAFE_ =>
    exact (writePhase_other (filePath_ne (by decide)) _).trans
      ((writePhase_other (filePath_ne (by decide)) _).trans (writePhase_self nonempty "Expand"))
  | DATA_ => exact (writePhase_other (filePath_ne (by decide)) _).trans (writePhase_self nonempty "Migrate")
  | BREAKING_ => exact writePhase_self nonempty "Contract"

private theorem file_written (clock : Prefix → Nat) (outputDir : OutputDir) (name : UnmarkedName) (disk : Disk)
    (nonempty : operationsOf lifecycleSet type ≠ []) :
    ∃ header, Unmarked header ∧
      (generateLifecycleMigrations clock outputDir name.toMigrationName lifecycleSet [] disk).2.readFileSync
          ((mainLabel name.toMigrationName (type, clock type)).filePath outputDir) =
        some (buildMigrationFile (classNameOf (generateTimestamp (clock type)) type name.text)
          (statementsOf lifecycleSet type) header) := by
  have phase : Unmarked (phaseName type) := by cases type <;> exact unmarked_ofList rfl
  exact ⟨_, unmarked_header type name phase _, file_text clock outputDir name.toMigrationName disk nonempty⟩

theorem mem_mainFiles :
    (type, now) ∈ mainFiles clock lifecycleSet ↔ operationsOf lifecycleSet type ≠ [] ∧ now = clock type := by
  have kept (type : Prefix) (operations : List SchemaOperation) {file : Prefix × Nat} :
      (if operations.isEmpty then none else some (type, clock type)) = some file ↔
        operations ≠ [] ∧ (type, clock type) = file := by
    cases operations <;> simp
  rw [mainFiles, List.mem_filterMap]
  constructor
  · rintro ⟨phase, member, made⟩
    obtain ⟨nonempty, same⟩ := (kept _ _).mp made
    cases same
    simp only [List.mem_cons, List.not_mem_nil, or_false] at member
    rcases member with rfl | rfl | rfl <;> exact ⟨nonempty, rfl⟩
  · rintro ⟨nonempty, rfl⟩
    refine ⟨(type, operationsOf lifecycleSet type), ?_, (kept _ _).mpr ⟨nonempty, rfl⟩⟩
    cases type <;> simp [operationsOf]

/-! ## What the classification says -/

theorem classified_statements (content : String) :
    (classifyContent content).statements.map (·.sql) = sqlBlocks content := by
  simp [classifyContent, Function.comp_def]

theorem fits_iff (statements : List String) (type : Prefix) :
    Fits statements type ↔ dominantPrefix (statements.map categoryOf) = type := by
  have held (category : SqlCategory) :
      category ∈ statements.map categoryOf ↔ ∃ sql ∈ statements, categoryOf sql = category := List.mem_map
  unfold dominantPrefix
  by_cases breaking : ∃ sql ∈ statements, categoryOf sql = .BREAKING
  · rw [if_pos ((held .BREAKING).mpr breaking)]
    obtain ⟨sql, member, category⟩ := breaking
    cases type with
    | SAFE_ => exact ⟨fun fits => absurd category (fits sql member).1, nofun⟩
    | DATA_ => exact ⟨fun fits => absurd category (fits.1 sql member), nofun⟩
    | BREAKING_ => exact ⟨fun _ => rfl, fun _ => ⟨sql, member, category⟩⟩
  · rw [if_neg (mt (held .BREAKING).mp breaking)]
    have none (sql : String) (member : sql ∈ statements) : categoryOf sql ≠ .BREAKING :=
      fun category => breaking ⟨sql, member, category⟩
    by_cases data : ∃ sql ∈ statements, categoryOf sql = .DATA
    · rw [if_pos ((held .DATA).mpr data)]
      cases type with
      | SAFE_ =>
        obtain ⟨sql, member, category⟩ := data
        exact ⟨fun fits => absurd category (fits sql member).2, nofun⟩
      | DATA_ => exact ⟨fun _ => rfl, fun _ => ⟨none, data⟩⟩
      | BREAKING_ => exact ⟨fun fits => absurd fits breaking, nofun⟩
    · rw [if_neg (mt (held .DATA).mp data)]
      cases type with
      | SAFE_ =>
        exact ⟨fun _ => rfl, fun _ sql member => ⟨none sql member, fun category => data ⟨sql, member, category⟩⟩⟩
      | DATA_ => exact ⟨fun fits => absurd fits.2 data, nofun⟩
      | BREAKING_ => exact ⟨fun fits => absurd fits breaking, nofun⟩

theorem classified_dominant (content : String) :
    (classifyContent content).dominantPrefix = dominantPrefix ((sqlBlocks content).map categoryOf) := by
  simp [classifyContent, dominantPrefix, categoryOf]

/-- The file of a phase is classified by its content; its statements come back just if they survive. -/
theorem classified_phase (clock : Prefix → Nat) (outputDir : OutputDir) (name : UnmarkedName) (disk : Disk)
    (nonempty : operationsOf lifecycleSet type ≠ []) :
    ∃ content, classifyMigrationFile (generateLifecycleMigrations clock outputDir name.toMigrationName lifecycleSet [] disk).2
        ((mainLabel name.toMigrationName (type, clock type)).filePath outputDir) = some (classifyContent content) ∧
      (sqlBlocks content = statementsOf lifecycleSet type ↔
        ∀ sql ∈ statementsOf lifecycleSet type, Survives sql) := by
  obtain ⟨header, plain, held⟩ := file_written clock outputDir name disk nonempty
  refine ⟨_, by rw [classifyMigrationFile, held, Option.map_some], ?_⟩
  exact sqlBlocks_buildMigrationFile (unmarked_fileStart (unmarked_className _ _ name) plain)
    (by simpa [statementsOf] using nonempty)

theorem typeOf_phase (clock : Prefix → Nat) (outputDir : OutputDir) (name : MigrationName) (type : Prefix) :
    typeOf ((mainLabel name (type, clock type)).filePath outputDir) = some type :=
  typeOf_filePath (readable_stamped name.flat)

theorem fits_of_readsBack {name : UnmarkedName}
    (reads : ReadsBack lifecycleSet (generateLifecycleMigrations clock outputDir name.toMigrationName lifecycleSet [] disk))
    (nonempty : operationsOf lifecycleSet type ≠ []) :
    (∀ sql ∈ statementsOf lifecycleSet type, Survives sql) ∧ Fits (statementsOf lifecycleSet type) type := by
  have member : (mainLabel name.toMigrationName (type, clock type)).filePath outputDir ∈
      (generateLifecycleMigrations clock outputDir name.toMigrationName lifecycleSet [] disk).1 := by
    rw [(written_phases clock name.toMigrationName lifecycleSet outputDir disk).paths, List.map_map]
    exact List.mem_map.mpr ⟨(type, clock type), mem_mainFiles.mpr ⟨nonempty, rfl⟩, rfl⟩
  obtain ⟨type', found, same, classified, statements, dominant⟩ := reads _ member
  obtain rfl : type = type' := Option.some.inj ((typeOf_phase clock outputDir name.toMigrationName type).symm.trans same)
  obtain ⟨content, classified', survive⟩ := classified_phase clock outputDir name disk nonempty
  obtain rfl : classifyContent content = found := Option.some.inj (classified'.symm.trans classified)
  rw [classified_statements] at statements
  rw [classified_dominant, statements] at dominant
  exact ⟨survive.mp statements, (fits_iff _ _).mpr dominant⟩

/-- The files of a call read back just if their statements survive and ask for their prefixes. -/
theorem files_read_back_iff (clock : Prefix → Nat) (outputDir : OutputDir) (name : UnmarkedName)
    (lifecycleSet : MigrationLifecycleSet) (disk : Disk) :
    ReadsBack lifecycleSet (generateLifecycleMigrations clock outputDir name.toMigrationName lifecycleSet [] disk) ↔
      ∀ type, operationsOf lifecycleSet type ≠ [] →
        (∀ sql ∈ statementsOf lifecycleSet type, Survives sql) ∧ Fits (statementsOf lifecycleSet type) type := by
  constructor
  · exact fun reads type nonempty => fits_of_readsBack reads nonempty
  · intro each filePath member
    rw [(written_phases clock name.toMigrationName lifecycleSet outputDir disk).paths, List.map_map] at member
    obtain ⟨⟨type, now⟩, held, rfl⟩ := List.mem_map.mp member
    obtain ⟨nonempty, rfl⟩ := mem_mainFiles.mp held
    obtain ⟨survive, fits⟩ := each type nonempty
    obtain ⟨content, classified, back⟩ := classified_phase clock outputDir name disk nonempty
    have statements := back.mpr survive
    refine ⟨type, _, typeOf_phase clock outputDir name.toMigrationName type, classified, ?_, ?_⟩
    · rw [classified_statements, statements]
    · rw [classified_dominant, statements]
      exact (fits_iff _ _).mp fits

/-- What the splitter makes of a rename. -/
def renamed : MigrationLifecycleSet :=
  place [] {
    sql := "ALTER TABLE \"users\" RENAME COLUMN \"note\" TO \"remark\""
    category := .BREAKING
    reason := "" }

def renameNote : UnmarkedName where
  text := "RenameNote"
  flat := by decide
  unmarked := unmarked_ofList rfl

/-- The copy of the data has a quoted table, and no rule knows it as an update. -/
theorem quoted_update_is_safe :
    ¬ ReadsBack renamed
      (generateLifecycleMigrations (fun _ => 1700000000000) ⟨"", .inl rfl⟩ renameNote.toMigrationName renamed []
        ⟨[], List.nodup_nil⟩) := by
  intro reads
  have fits : Fits (statementsOf renamed .DATA_) .DATA_ := (fits_of_readsBack reads (by decide +kernel)).2
  have safe : dominantPrefix ((statementsOf renamed .DATA_).map categoryOf) = .SAFE_ := by decide +kernel
  rw [fits_iff, safe] at fits
  cases fits

end DriverMicroServices.MigrationGenerator
