import DriverMicroServices.MigrationFiles
import Mathlib.Data.List.TakeWhile

/-! The order of generated files. Their names are read back part by part, and the stamps in front
decide the order: the phases only where the stamps are the same, and then the wrong way round. -/
namespace DriverMicroServices.MigrationGenerator
open Tables.Keyed Texts.Units

/-- The parts of the name of a generated file. -/
structure Label where
  timestamp : String
  type : Prefix
  name : String
deriving DecidableEq

namespace Label

def filename (label : Label) : String := fileName label.timestamp label.type label.name

def filePath (outputDir : OutputDir) (label : Label) : String := join outputDir label.filename

/-- The parts can be told apart. -/
structure Readable (label : Label) : Prop where
  dashless : '-' ∉ label.timestamp.toList
  flat : '/' ∉ label.filename.toList

end Label

/-- The phases that have operations, with the times of their files. -/
def mainFiles (clock : Prefix → Nat) (lifecycleSet : MigrationLifecycleSet) : List (Prefix × Nat) :=
  [(Prefix.SAFE_, lifecycleSet.safe), (.DATA_, lifecycleSet.data), (.BREAKING_, lifecycleSet.breaking)].filterMap
    fun phase => if phase.2.isEmpty then none else some (phase.1, clock phase.1)

/-- The companions, with the times that come after the first file's. -/
def companionFiles (base : Nat) (companions : List CompanionMigration) : List (Prefix × Nat) :=
  companions.zipIdx.map fun companion => (companion.1.phase.toPrefix, base + companion.2 + 1)

def mainLabel (name : MigrationName) (file : Prefix × Nat) : Label := ⟨toString file.2, file.1, name.text⟩

/-- The labels of all files of a call. -/
def labels (clock : Prefix → Nat) (name : MigrationName) (lifecycleSet : MigrationLifecycleSet)
    (companions : List CompanionMigration) : List Label :=
  match (mainFiles clock lifecycleSet).head? with
  | none => companions.map fun companion => ⟨"NaN", companion.phase.toPrefix, ""⟩
  | some (type, base) =>
    (mainFiles clock lifecycleSet).map (mainLabel name) ++
      (companionFiles base companions).map fun file => ⟨toString file.2, file.1, type.text ++ name.text⟩

/-! ## Reading a name back -/

variable {outputDir : OutputDir} {label : Label} {disk : Disk} {made : List String × Disk}

theorem isDigit_of_mem_toString {n : Nat} {c : Char} (member : c ∈ (toString n).toList) : c.isDigit = true := by
  rw [Nat.toString_eq_ofList_toDigits, String.toList_ofList] at member
  exact Nat.isDigit_of_mem_toDigits (by omega) (by omega) member

theorem absent_from_toString {n : Nat} {c : Char} (other : c.isDigit = false) : c ∉ (toString n).toList := by
  intro member
  simp [isDigit_of_mem_toString member] at other

theorem basename_join {name : String} (flat : '/' ∉ name.toList) : basename (join outputDir name) = name := by
  have closed : outputDir.path.toList.reverse.takeWhile (· ≠ '/') = [] := by
    rcases outputDir.closed with empty | last
    · simp [empty]
    · rw [← List.head?_reverse] at last
      cases reversed : outputDir.path.toList.reverse with
      | nil => rfl
      | cons c cs => simp_all
  have passes : ∀ c ∈ name.toList.reverse, decide (c ≠ '/') = true := by
    intro c member
    have other : c ≠ '/' := by
      rintro rfl
      exact flat (List.mem_reverse.mp member)
    simpa using other
  rw [basename, join, String.toList_append, List.reverse_append, List.takeWhile_append_of_pos passes, closed]
  simp

theorem splitAtDashes_filename (dashless : '-' ∉ label.timestamp.toList) (ending : String) :
    splitAtDashes (label.timestamp ++ ("-" ++ ending)) =
      label.timestamp.toList :: splitAtDashes ending := by
  simp only [splitAtDashes, String.toList_append]
  exact List.splitOn_append_cons_self_of_not_mem dashless ending.toList

theorem bareBasename_filePath (readable : label.Readable) :
    bareBasename (label.filePath outputDir) = label.timestamp ++ ("-" ++ (label.type.text ++ label.name)) := by
  have base : basename (join outputDir label.filename) = label.filename := basename_join readable.flat
  have parts : label.filename.toList =
      (label.timestamp ++ ("-" ++ (label.type.text ++ label.name))).toList ++ ".ts".toList := by
    simp [Label.filename, fileName]
  have longer : label.filename ≠ ".ts" := by
    intro same
    have dash : '-' ∈ label.filename.toList := by simp [Label.filename, fileName]
    rw [same] at dash
    simp at dash
  have suffix : ".ts".toList.isSuffixOf label.filename.toList = true := by
    rw [List.isSuffixOf_iff_suffix, parts]
    exact List.suffix_append _ _
  simp only [bareBasename, Label.filePath, base]
  rw [suffix, if_pos (by simp [longer])]
  apply String.toList_injective
  rw [String.toList_ofList, parts, List.length_append]
  exact List.take_left

theorem companionName_filePath (readable : label.Readable) :
    companionName (label.filePath outputDir) = label.type.text ++ label.name := by
  rw [companionName, bareBasename_filePath readable, splitAtDashes_filename readable.dashless,
    List.drop_one, List.tail_cons, splitAtDashes, List.intercalate_splitOn, String.ofList_toList]

private theorem companionTimestamp_filePath {n : Nat} (readable : label.Readable)
    (stamp : label.timestamp = toString n) (index : Nat) :
    companionTimestamp (label.filePath outputDir) index = toString (n + index + 1) := by
  have digits : ∀ c ∈ (toString n).toList, c.isDigit = true := fun c => isDigit_of_mem_toString
  have read : parseInt (toString n) = some n := by
    have all : (toString n).toList.takeWhile Char.isDigit = (toString n).toList := by
      rw [List.takeWhile_eq_self_iff]
      exact digits
    have value : Nat.ofDigitChars 10 (toString n).toList 0 = n := by
      rw [Nat.toString_eq_ofList_toDigits, String.toList_ofList, Nat.ofDigitChars_ten_toDigits]
    unfold parseInt
    rw [all]
    split
    · rename_i empty
      simp at empty
    · rw [value]
  rw [companionTimestamp, Label.filePath, basename_join readable.flat, Label.filename, fileName,
    splitAtDashes_filename readable.dashless, List.headD_cons, String.ofList_toList, stamp, read]

/-- The phase of a file, by what stands after the dash of its name. -/
def typeOf (filePath : String) : Option Prefix :=
  Prefix.all.find? fun type => type.text.toList.isPrefixOf (companionName filePath).toList

theorem typeOf_filePath (readable : label.Readable) : typeOf (label.filePath outputDir) = some label.type := by
  rw [typeOf, companionName_filePath readable, String.toList_append]
  cases label.type <;> simp [Prefix.all, Prefix.text]

theorem filename_injective {other : Label} (readable : label.Readable) (readable' : other.Readable)
    (same : label.filename = other.filename) : label = other := by
  have whole : label.filePath ⟨"", .inl rfl⟩ = other.filePath ⟨"", .inl rfl⟩ := by
    rw [Label.filePath, Label.filePath, same]
  have types : some label.type = some other.type := by
    rw [← typeOf_filePath readable, ← typeOf_filePath readable', whole]
  have names : label.type.text ++ label.name = other.type.text ++ other.name := by
    rw [← companionName_filePath readable, ← companionName_filePath readable', whole]
  have bases : label.timestamp ++ ("-" ++ (label.type.text ++ label.name)) =
      other.timestamp ++ ("-" ++ (other.type.text ++ other.name)) := by
    rw [← bareBasename_filePath readable, ← bareBasename_filePath readable', whole]
  obtain ⟨timestamp, type, name⟩ := label
  obtain ⟨timestamp', type', name'⟩ := other
  obtain rfl : type = type' := Option.some.inj types
  obtain rfl : name = name' := by simpa using names
  obtain rfl : timestamp = timestamp' := by simpa using bases
  rfl

/-! ## What is listed -/

private theorem entry_join {name : String} (flat : '/' ∉ name.toList) :
    Disk.entry outputDir (join outputDir name) = some name := by
  simp [Disk.entry, join, flat]

private theorem mem_getMigrationFiles (written : label.filePath outputDir ∈ disk.files.map (·.1))
    (flat : '/' ∉ label.filename.toList) :
    label.filePath outputDir ∈ getMigrationFiles outputDir disk ↔ isMigrationFile label.filename = true := by
  rw [getMigrationFiles, mem_sort, List.mem_map]
  constructor
  · rintro ⟨name, member, same⟩
    obtain rfl : name = label.filename := by simpa [Label.filePath, join] using same
    exact (List.mem_filter.mp member).2
  · intro stamped
    obtain ⟨file, member, path⟩ := List.mem_map.mp written
    refine ⟨label.filename, List.mem_filter.mpr ⟨?_, stamped⟩, rfl⟩
    exact List.mem_filterMap.mpr ⟨file, member, by rw [path, Label.filePath, entry_join flat]⟩

theorem isMigrationFile_filename (label : Label) :
    isMigrationFile label.filename = true ↔ 13 ≤ (label.filename.toList.takeWhile Char.isDigit).length ∧
      (label.filename.toList.drop (label.filename.toList.takeWhile Char.isDigit).length).head? = some '-' := by
  have suffix : ".ts".toList.isSuffixOf label.filename.toList = true := by
    rw [List.isSuffixOf_iff_suffix]
    exact ⟨(label.timestamp ++ ("-" ++ (label.type.text ++ label.name))).toList, by simp [Label.filename, fileName]⟩
  unfold isMigrationFile
  rw [suffix]
  simp only [Bool.true_and, Bool.and_eq_true, decide_eq_true_eq]

/-- A stamp is long enough from the year 2001 on. -/
theorem isMigrationFile_stamped {n : Nat} (stamp : label.timestamp = toString n) :
    isMigrationFile label.filename = true ↔ 1000000000000 ≤ n := by
  have digits : ∀ c ∈ (toString n).toList, c.isDigit = true := fun c => isDigit_of_mem_toString
  have parts : label.filename.toList =
      (toString n).toList ++ '-' :: (label.type.text ++ (label.name ++ ".ts")).toList := by
    simp [Label.filename, fileName, stamp]
  have front : label.filename.toList.takeWhile Char.isDigit = (toString n).toList := by
    rw [parts, List.takeWhile_append_of_pos digits]
    simp
  have bound : (toString n).toList.length ≤ 12 ↔ n < 10 ^ 12 := Nat.length_repr_le_iff (by omega)
  rw [isMigrationFile_filename, front, parts, List.drop_left]
  simp only [List.head?_cons, and_true]
  omega

theorem not_isMigrationFile_unstamped (unstamped : label.timestamp = "NaN") :
    isMigrationFile label.filename = false := by
  have front : label.filename.toList.takeWhile Char.isDigit = [] := by
    simp [Label.filename, fileName, unstamped]
  rw [← Bool.not_eq_true, isMigrationFile_filename, front]
  simp

/-! ## What is written -/

/-- The files of some labels, and they are there. -/
structure Written (outputDir : OutputDir) (list : List Label) (made : List String × Disk) : Prop where
  paths : made.1 = list.map (·.filePath outputDir)
  kept : ∀ filePath ∈ made.1, filePath ∈ made.2.files.map (·.1)

private theorem mem_writeFileSync (disk : Disk) (filePath content other : String) :
    other ∈ (disk.writeFileSync filePath content).files.map (·.1) ↔
      other = filePath ∨ other ∈ disk.files.map (·.1) := by
  rw [Disk.writeFileSync, keys_put]
  split
  · rename_i there
    constructor
    · exact .inr
    · rintro (rfl | held)
      · exact there
      · exact held
  · simp [or_comm]

theorem Written.append {list : List Label} (written : Written outputDir list made) (label : Label)
    (content : String) :
    Written outputDir (list ++ [label])
      (made.1 ++ [label.filePath outputDir], made.2.writeFileSync (label.filePath outputDir) content) where
  paths := by simp [written.paths]
  kept := by
    intro filePath member
    rw [mem_writeFileSync]
    rcases List.mem_append.mp member with old | new
    · exact .inr (written.kept filePath old)
    · exact .inl (List.mem_singleton.mp new)

theorem written_writePhase {list : List Label} (written : Written outputDir list made) (now : Nat)
    (name : MigrationName) (type : Prefix) (phase : String) (operations : List SchemaOperation) :
    Written outputDir
      (list ++ if operations.isEmpty then [] else [⟨toString now, type, name.text⟩])
      (writePhase now outputDir name type phase operations made) := by
  cases operations with
  | nil => simpa [writePhase] using written
  | cons operation rest =>
    have nonempty : join outputDir (fileName (toString now) type name.text) ≠ "" := by
      intro empty
      have dash := congrArg (fun text => '-' ∈ text.toList) empty
      simp [join, fileName] at dash
    simp only [writePhase, writeMigrationFile, generateTimestamp, List.isEmpty_cons, List.map_cons,
      Bool.false_eq_true, if_false, if_neg nonempty]
    exact written.append ⟨toString now, type, name.text⟩ _

/-- The label of a companion. -/
def companionLabel (basePath : String) (companion : CompanionMigration × Nat) : Label :=
  ⟨companionTimestamp basePath companion.2, companion.1.phase.toPrefix, companionName basePath⟩

private theorem writeCompanion_eq (basePath : String) (companion : CompanionMigration × Nat) :
    writeCompanion basePath outputDir made companion =
      (made.1 ++ [(companionLabel basePath companion).filePath outputDir],
        made.2.writeFileSync ((companionLabel basePath companion).filePath outputDir)
          (companionContent basePath companion)) := by
  simp only [writeCompanion, Label.filePath, Label.filename, companionLabel]

private theorem written_writeCompanions {list : List Label} (written : Written outputDir list made) (basePath : String)
    (companions : List (CompanionMigration × Nat)) :
    Written outputDir (list ++ companions.map (companionLabel basePath))
      (companions.foldl (writeCompanion basePath outputDir) made) := by
  induction companions generalizing list made with
  | nil => simpa using written
  | cons companion rest ih =>
    rw [List.foldl_cons, List.map_cons, ← List.singleton_append, ← List.append_assoc, writeCompanion_eq]
    exact ih (written.append (companionLabel basePath companion) _)

/-- The companions start with an empty list of paths, on the disk as it is. -/
theorem written_writeCompanionMigrations {list : List Label} (written : Written outputDir list made)
    (basePath : String) (companions : List CompanionMigration) :
    Written outputDir (list ++ companions.zipIdx.map (companionLabel basePath))
      (made.1 ++ (writeCompanionMigrations basePath companions outputDir made.2).1,
        (writeCompanionMigrations basePath companions outputDir made.2).2) := by
  have prepended (paths front : List String) (disk : Disk) (rest : List (CompanionMigration × Nat)) :
      (rest.foldl (writeCompanion basePath outputDir) (front ++ paths, disk)) =
        (front ++ (rest.foldl (writeCompanion basePath outputDir) (paths, disk)).1,
          (rest.foldl (writeCompanion basePath outputDir) (paths, disk)).2) := by
    induction rest generalizing paths disk with
    | nil => rfl
    | cons companion rest ih =>
      simp only [List.foldl_cons, writeCompanion, List.append_assoc]
      exact ih _ _
  have whole := written_writeCompanions written basePath companions.zipIdx
  have same := prepended [] made.1 made.2 companions.zipIdx
  rw [List.append_nil] at same
  rw [show made = (made.1, made.2) from rfl, same] at whole
  exact whole

theorem readable_of (dashless : '-' ∉ label.timestamp.toList) (flat : '/' ∉ label.timestamp.toList)
    (flat' : '/' ∉ label.name.toList) : label.Readable where
  dashless := dashless
  flat := by
    have type : '/' ∉ label.type.text.toList := by cases label.type <;> simp [Prefix.text]
    simp [Label.filename, fileName, flat, flat', type]

theorem readable_stamped {n : Nat} {type : Prefix} {name : String} (flat : '/' ∉ name.toList) :
    Label.Readable ⟨toString n, type, name⟩ :=
  readable_of (absent_from_toString rfl) (absent_from_toString rfl) flat

variable {clock : Prefix → Nat} {name : MigrationName} {lifecycleSet : MigrationLifecycleSet}
  {companions : List CompanionMigration}

private theorem flat_after_type (type : Prefix) (name : MigrationName) : '/' ∉ (type.text ++ name.text).toList := by
  have first : '/' ∉ type.text.toList := by cases type <;> simp [Prefix.text]
  simp [first, name.flat]

private theorem readable_labels (member : label ∈ labels clock name lifecycleSet companions) : label.Readable := by
  unfold labels at member
  split at member
  · obtain ⟨companion, -, rfl⟩ := List.mem_map.mp member
    exact readable_of (by simp) (by simp) (by simp)
  · rcases List.mem_append.mp member with member | member
    · obtain ⟨file, -, rfl⟩ := List.mem_map.mp member
      exact readable_stamped name.flat
    · obtain ⟨file, -, rfl⟩ := List.mem_map.mp member
      exact readable_stamped (flat_after_type _ name)

theorem written_phases (clock : Prefix → Nat) (name : MigrationName) (lifecycleSet : MigrationLifecycleSet)
    (outputDir : OutputDir) (disk : Disk) :
    Written outputDir ((mainFiles clock lifecycleSet).map (mainLabel name))
      (generateLifecycleMigrations clock outputDir name lifecycleSet [] disk) := by
  have start : Written outputDir [] (([], disk) : List String × Disk) := ⟨rfl, by simp⟩
  have safe := written_writePhase start (clock .SAFE_) name .SAFE_ "Expand" lifecycleSet.safe
  have data := written_writePhase safe (clock .DATA_) name .DATA_ "Migrate" lifecycleSet.data
  have breaking := written_writePhase data (clock .BREAKING_) name .BREAKING_ "Contract" lifecycleSet.breaking
  have same : (mainFiles clock lifecycleSet).map (mainLabel name) =
      (([] ++ if lifecycleSet.safe.isEmpty then [] else [⟨toString (clock .SAFE_), .SAFE_, name.text⟩]) ++
        if lifecycleSet.data.isEmpty then [] else [⟨toString (clock .DATA_), .DATA_, name.text⟩]) ++
        if lifecycleSet.breaking.isEmpty then [] else [⟨toString (clock .BREAKING_), .BREAKING_, name.text⟩] := by
    unfold mainFiles
    cases lifecycleSet.safe <;> cases lifecycleSet.data <;> cases lifecycleSet.breaking <;> rfl
  rw [same]
  exact breaking

private theorem generate_companions (companions : List CompanionMigration) (disk : Disk) :
    generateLifecycleMigrations clock outputDir name lifecycleSet companions disk =
      ((generateLifecycleMigrations clock outputDir name lifecycleSet [] disk).1 ++
          (writeCompanionMigrations
            ((generateLifecycleMigrations clock outputDir name lifecycleSet [] disk).1.headD "") companions
            outputDir (generateLifecycleMigrations clock outputDir name lifecycleSet [] disk).2).1,
        (writeCompanionMigrations
          ((generateLifecycleMigrations clock outputDir name lifecycleSet [] disk).1.headD "") companions
          outputDir (generateLifecycleMigrations clock outputDir name lifecycleSet [] disk).2).2) := by
  unfold generateLifecycleMigrations
  cases companions with
  | nil => simp [writeCompanionMigrations]
  | cons companion rest => rfl

theorem zipIdx_map_fst {α β : Type} (list : List α) (f : α → β) :
    list.zipIdx.map (fun entry => f entry.1) = list.map f := by
  have same : (fun entry : α × Nat => f entry.1) = f ∘ Prod.fst := rfl
  rw [same, ← List.map_map, List.zipIdx_map_fst]

/-- The companions are named after the first file. -/
theorem labels_eq (clock : Prefix → Nat) (outputDir : OutputDir) (name : MigrationName)
    (lifecycleSet : MigrationLifecycleSet) (companions : List CompanionMigration) :
    labels clock name lifecycleSet companions =
      (mainFiles clock lifecycleSet).map (mainLabel name) ++
        companions.zipIdx.map (companionLabel
          ((((mainFiles clock lifecycleSet).map (mainLabel name)).map (·.filePath outputDir)).headD "")) := by
  unfold labels
  cases files : mainFiles clock lifecycleSet with
  | nil =>
    have unnamed (companion : CompanionMigration × Nat) :
        companionLabel "" companion = ⟨"NaN", companion.1.phase.toPrefix, ""⟩ := rfl
    have forgotten := zipIdx_map_fst companions fun companion => (⟨"NaN", companion.phase.toPrefix, ""⟩ : Label)
    simp [unnamed, ← forgotten]
  | cons first rest =>
    obtain ⟨type, base⟩ := first
    have readable : (mainLabel name (type, base)).Readable := readable_stamped name.flat
    have named : companionLabel ((mainLabel name (type, base)).filePath outputDir) =
        fun companion =>
          ⟨toString (base + companion.2 + 1), companion.1.phase.toPrefix, type.text ++ name.text⟩ := by
      funext companion
      rw [companionLabel, companionTimestamp_filePath readable rfl, companionName_filePath readable]
      rfl
    simp only [List.map_cons, List.headD_cons, List.head?_cons, companionFiles, List.map_map,
      Function.comp_def, named]

/-- The files of a call have its labels. -/
theorem written_labels (clock : Prefix → Nat) (outputDir : OutputDir) (name : MigrationName)
    (lifecycleSet : MigrationLifecycleSet) (companions : List CompanionMigration) (disk : Disk) :
    Written outputDir (labels clock name lifecycleSet companions)
      (generateLifecycleMigrations clock outputDir name lifecycleSet companions disk) := by
  have main := written_phases clock name lifecycleSet outputDir disk
  rw [generate_companions, labels_eq clock outputDir, ← main.paths]
  exact written_writeCompanionMigrations main _ companions

/-! ## The order -/

/-- The files of a call have different names, and those that are run are run by their phases. -/
structure InLifecycleOrder (outputDir : OutputDir) (made : List String × Disk) : Prop where
  distinct : (made.1.map basename).Nodup
  ordered : ∀ first ∈ made.1, ∀ second ∈ made.1, ∀ early late, typeOf first = some early →
    typeOf second = some late → early.phase < late.phase →
    first ∈ getMigrationFiles outputDir made.2 → second ∈ getMigrationFiles outputDir made.2 →
    [first, second].Sublist (getMigrationFiles outputDir made.2)

theorem units_toString {n unit : Nat} (member : unit ∈ units (toString n)) : 45 < unit := by
  obtain ⟨c, held, mine⟩ := List.mem_flatMap.mp member
  have digit := isDigit_of_mem_toString held
  have bounds : 48 ≤ c.toNat ∧ c.toNat ≤ 57 := by
    simp only [Char.isDigit, Bool.and_eq_true, decide_eq_true_eq, UInt32.le_iff_toNat_le] at digit
    exact digit
  have small : c.toNat < 0x10000 := by omega
  rw [ofChar, if_pos small, List.mem_singleton] at mine
  omega

/-- A later phase has the smaller text. -/
theorem sortsBefore_types {early late : Prefix} (phases : early.phase < late.phase) (x y : String) :
    sortsBefore (late.text ++ x) (early.text ++ y) = true := by
  have safe : units "SAFE_" = [83, 65, 70, 69, 95] := by decide
  have data : units "DATA_" = [68, 65, 84, 65, 95] := by decide
  have breaking : units "BREAKING_" = [66, 82, 69, 65, 75, 73, 78, 71, 95] := by decide
  cases early <;> cases late <;> simp [Prefix.phase] at phases <;>
    simp [sortsBefore, units_append, Prefix.text, safe, data, breaking, List.cons_lt_cons_iff]

theorem sortsBefore_filePath {first second : Label} {m n : Nat} (stamp : first.timestamp = toString m)
    (stamp' : second.timestamp = toString n) :
    sortsBefore (first.filePath outputDir) (second.filePath outputDir) = true ↔
      sortsBefore (toString m) (toString n) = true ∨
        units (toString m) = units (toString n) ∧
          sortsBefore (first.type.text ++ (first.name ++ ".ts")) (second.type.text ++ (second.name ++ ".ts")) =
            true := by
  rw [Label.filePath, Label.filePath, join, join, Label.filename, Label.filename, fileName, fileName, stamp, stamp']
  exact sortsBefore_stamped _ _ (by decide) (fun _ => units_toString) fun _ => units_toString

/-- Files of two phases sort by their stamps; with one stamp, the later phase comes first. -/
theorem sortsBefore_phases (outputDir : OutputDir) {first second : Label} {m n : Nat}
    (stamp : first.timestamp = toString m) (stamp' : second.timestamp = toString n) (phases : first.type.phase < second.type.phase) :
    if sortsBefore (toString m) (toString n) then
      sortsBefore (first.filePath outputDir) (second.filePath outputDir) = true
    else sortsBefore (second.filePath outputDir) (first.filePath outputDir) = true := by
  split
  · rename_i before
    exact (sortsBefore_filePath stamp stamp').mpr (.inl before)
  · rename_i behind
    rw [sortsBefore_filePath stamp' stamp]
    simp only [sortsBefore, decide_eq_true_eq, List.not_lt] at behind
    rcases List.le_iff_lt_or_eq.mp behind with less | same
    · exact .inl (by simpa [sortsBefore] using less)
    · exact .inr ⟨same, sortsBefore_types phases _ _⟩

/-- A label has a number in front, or what is no number. -/
theorem stamped_labels (member : label ∈ labels clock name lifecycleSet companions) :
    label.timestamp = "NaN" ∨ ∃ n : Nat, label.timestamp = toString n := by
  unfold labels at member
  split at member
  · obtain ⟨companion, -, rfl⟩ := List.mem_map.mp member
    exact .inl rfl
  · rcases List.mem_append.mp member with member | member
    · obtain ⟨file, -, rfl⟩ := List.mem_map.mp member
      exact .inr ⟨file.2, rfl⟩
    · obtain ⟨file, -, rfl⟩ := List.mem_map.mp member
      exact .inr ⟨file.2, rfl⟩

/-- The labels that say what runs when. -/
def LabelsInOrder (list : List Label) : Prop :=
  list.Nodup ∧ ∀ first ∈ list, ∀ second ∈ list, first.type.phase < second.type.phase →
    isMigrationFile first.filename = true → isMigrationFile second.filename = true →
    sortsBefore first.timestamp second.timestamp = true

theorem nodup_basenames {list : List Label} (readable : ∀ label ∈ list, label.Readable) :
    ((list.map (·.filePath outputDir)).map basename).Nodup ↔ list.Nodup := by
  have names : (list.map (·.filePath outputDir)).map basename = list.map Label.filename := by
    rw [List.map_map]
    exact List.map_congr_left fun label member => basename_join (readable label member).flat
  rw [names]
  constructor
  · exact List.Nodup.of_map _
  · exact fun distinct => distinct.map_on fun label member other member' =>
      filename_injective (readable label member) (readable other member')

theorem inLifecycleOrder_iff_labels (outputDir : OutputDir) (disk : Disk) :
    InLifecycleOrder outputDir (generateLifecycleMigrations clock outputDir name lifecycleSet companions disk) ↔
      LabelsInOrder (labels clock name lifecycleSet companions) := by
  have written := written_labels clock outputDir name lifecycleSet companions disk
  have readable : ∀ label ∈ labels clock name lifecycleSet companions, label.Readable :=
    fun _ => readable_labels
  generalize generateLifecycleMigrations clock outputDir name lifecycleSet companions disk = made at written ⊢
  have made' (label : Label) (member : label ∈ labels clock name lifecycleSet companions) :
      label.filePath outputDir ∈ made.1 := by
    rw [written.paths]
    exact List.mem_map_of_mem member
  have listed (label : Label) (member : label ∈ labels clock name lifecycleSet companions) :
      label.filePath outputDir ∈ getMigrationFiles outputDir made.2 ↔ isMigrationFile label.filename = true :=
    mem_getMigrationFiles (written.kept _ (made' label member)) (readable label member).flat
  have number (label : Label) (member : label ∈ labels clock name lifecycleSet companions)
      (stamped : isMigrationFile label.filename = true) : ∃ n : Nat, label.timestamp = toString n := by
    rcases stamped_labels member with unstamped | number
    · simp [not_isMigrationFile_unstamped unstamped] at stamped
    · exact number
  constructor
  · intro inOrder
    refine ⟨(nodup_basenames readable).mp (written.paths ▸ inOrder.distinct), ?_⟩
    intro first member second member' phases stamped stamped'
    obtain ⟨m, stamp⟩ := number first member stamped
    obtain ⟨n, stamp'⟩ := number second member' stamped'
    have kept := inOrder.ordered _ (made' first member) _ (made' second member') _ _
      (typeOf_filePath (readable first member)) (typeOf_filePath (readable second member')) phases
      ((listed first member).mpr stamped) ((listed second member').mpr stamped')
    have sorts := sortsBefore_phases outputDir stamp stamp' phases
    rw [stamp, stamp']
    split at sorts
    · assumption
    · exact absurd kept (not_sublist_sort _ sorts)
  · rintro ⟨distinct, ordered⟩
    refine ⟨written.paths ▸ (nodup_basenames readable).mpr distinct, ?_⟩
    intro path held path' held' early late type type' phases run run'
    rw [written.paths] at held held'
    obtain ⟨first, member, rfl⟩ := List.mem_map.mp held
    obtain ⟨second, member', rfl⟩ := List.mem_map.mp held'
    rw [typeOf_filePath (readable first member), Option.some.injEq] at type
    rw [typeOf_filePath (readable second member'), Option.some.injEq] at type'
    subst type type'
    have stamped := (listed first member).mp run
    have stamped' := (listed second member').mp run'
    obtain ⟨m, stamp⟩ := number first member stamped
    obtain ⟨n, stamp'⟩ := number second member' stamped'
    have before := ordered first member second member' phases stamped stamped'
    have sorts := sortsBefore_phases outputDir stamp stamp' phases
    rw [stamp, stamp'] at before
    rw [if_pos before] at sorts
    exact sublist_sort (mem_sort.mp run) (mem_sort.mp run') sorts

/-- The files of a later phase have the later stamps, as texts, where both stamps are long enough
for the files to run. Without a file of a phase there are no stamps, and each companion needs a
phase of its own for a name of its own. -/
def StampsInOrder (clock : Prefix → Nat) (lifecycleSet : MigrationLifecycleSet)
    (companions : List CompanionMigration) : Prop :=
  match (mainFiles clock lifecycleSet).head? with
  | none => (companions.map (·.phase)).Nodup
  | some (_, base) =>
    ∀ first ∈ mainFiles clock lifecycleSet ++ companionFiles base companions,
      ∀ second ∈ mainFiles clock lifecycleSet ++ companionFiles base companions,
        first.1.phase < second.1.phase → 1000000000000 ≤ first.2 → 1000000000000 ≤ second.2 →
          sortsBefore (toString first.2) (toString second.2) = true

private theorem mainFiles_types : ((mainFiles clock lifecycleSet).map (·.1)).Nodup := by
  unfold mainFiles
  cases lifecycleSet.safe <;> cases lifecycleSet.data <;> cases lifecycleSet.breaking <;> simp

theorem toString_injective {m n : Nat} (same : toString m = toString n) : m = n := by
  rw [Nat.toString_eq_ofList_toDigits, Nat.toString_eq_ofList_toDigits, String.ofList_inj] at same
  rw [← Nat.ofDigitChars_ten_toDigits (n := m), same, Nat.ofDigitChars_ten_toDigits]

private theorem mainLabels_nodup : ((mainFiles clock lifecycleSet).map (mainLabel name)).Nodup := by
  refine List.Nodup.map_on ?_ (List.Nodup.of_map _ mainFiles_types)
  rintro ⟨type, m⟩ - ⟨type', n⟩ - same
  have types := congrArg Label.type same
  have stamps := toString_injective (congrArg Label.timestamp same)
  exact Prod.ext types stamps

/-- Companions have the stamps of their places, and a longer name than the files of the phases. -/
theorem labels_nodup {type : Prefix} {base : Nat}
    (head : (mainFiles clock lifecycleSet).head? = some (type, base)) :
    (labels clock name lifecycleSet companions).Nodup := by
  unfold labels
  rw [head]
  refine List.Nodup.append mainLabels_nodup ?_ ?_
  · refine List.Nodup.of_map (fun label : Label => label.timestamp) ?_
    have places : (companions.zipIdx.map Prod.snd).Nodup := by
      rw [List.zipIdx_map_snd]
      exact List.nodup_range'
    have stamps : ((companionFiles base companions).map fun file =>
          (⟨toString file.2, file.1, type.text ++ name.text⟩ : Label)).map (fun label => label.timestamp) =
        (companions.zipIdx.map Prod.snd).map fun index => toString (base + index + 1) := by
      simp only [companionFiles, List.map_map, Function.comp_def]
    rw [stamps]
    refine places.map fun i j same => ?_
    have numbers := toString_injective same
    omega
  · intro label main companion
    obtain ⟨file, -, rfl⟩ := List.mem_map.mp main
    obtain ⟨file', -, same⟩ := List.mem_map.mp companion
    have names := congrArg (fun label : Label => label.name.toList.length) same
    have longer : 0 < type.text.toList.length := by cases type <;> simp [Prefix.text]
    simp only [mainLabel, String.toList_append, List.length_append] at names
    omega

/-- The labels have the types and the stamps of the files. -/
theorem labels_parts (name : MigrationName) (companions : List CompanionMigration) {type : Prefix} {base : Nat}
    (head : (mainFiles clock lifecycleSet).head? = some (type, base)) :
    (labels clock name lifecycleSet companions).map (fun label => (label.type, label.timestamp)) =
      (mainFiles clock lifecycleSet ++ companionFiles base companions).map fun file =>
        (file.1, toString file.2) := by
  unfold labels
  rw [head]
  simp only [List.map_append, List.map_map, Function.comp_def, mainLabel]

/-- For each choice of operations, companions, name and clock: what decides the order of the files. -/
theorem files_run_in_order_iff (clock : Prefix → Nat) (outputDir : OutputDir) (name : MigrationName)
    (lifecycleSet : MigrationLifecycleSet) (companions : List CompanionMigration) (disk : Disk) :
    InLifecycleOrder outputDir (generateLifecycleMigrations clock outputDir name lifecycleSet companions disk) ↔
      StampsInOrder clock lifecycleSet companions := by
  rw [inLifecycleOrder_iff_labels, StampsInOrder, LabelsInOrder]
  cases head : (mainFiles clock lifecycleSet).head? with
  | none =>
    have unstamped : labels clock name lifecycleSet companions =
        companions.map fun companion => ⟨"NaN", companion.phase.toPrefix, ""⟩ := by
      rw [labels, head]
    have phases : (companions.map fun companion => (⟨"NaN", companion.phase.toPrefix, ""⟩ : Label)).Nodup ↔
        (companions.map (·.phase)).Nodup := by
      have parts : companions.map (fun companion => (⟨"NaN", companion.phase.toPrefix, ""⟩ : Label)) =
          (companions.map (·.phase)).map fun phase => ⟨"NaN", phase.toPrefix, ""⟩ := by
        rw [List.map_map]
        rfl
      rw [parts]
      refine List.nodup_map_iff fun phase other same => ?_
      have types := congrArg Label.type same
      cases phase <;> cases other <;> simp [CompanionPhase.toPrefix] at types <;> rfl
    rw [unstamped, phases]
    constructor
    · exact fun inOrder => inOrder.1
    · refine fun distinct => ⟨distinct, fun first member _ _ _ stamped => ?_⟩
      obtain ⟨companion, -, rfl⟩ := List.mem_map.mp member
      simp [not_isMigrationFile_unstamped] at stamped
  | some file =>
    obtain ⟨type, base⟩ := file
    have parts := labels_parts name companions head
    constructor
    · rintro ⟨-, ordered⟩ first member second member' phases late late'
      have held := List.mem_map_of_mem (f := fun file : Prefix × Nat => (file.1, toString file.2)) member
      have held' := List.mem_map_of_mem (f := fun file : Prefix × Nat => (file.1, toString file.2)) member'
      rw [← parts] at held held'
      obtain ⟨label, here, same⟩ := List.mem_map.mp held
      obtain ⟨label', here', same'⟩ := List.mem_map.mp held'
      obtain ⟨types, stamp⟩ := Prod.mk.inj same
      obtain ⟨types', stamp'⟩ := Prod.mk.inj same'
      have before := ordered label here label' here' (by rwa [types, types'])
        ((isMigrationFile_stamped stamp).mpr late) ((isMigrationFile_stamped stamp').mpr late')
      rwa [stamp, stamp'] at before
    · refine fun ordered => ⟨labels_nodup head, fun label here label' here' phases run run' => ?_⟩
      have held := List.mem_map_of_mem (f := fun label : Label => (label.type, label.timestamp)) here
      have held' := List.mem_map_of_mem (f := fun label : Label => (label.type, label.timestamp)) here'
      rw [parts] at held held'
      obtain ⟨first, member, same⟩ := List.mem_map.mp held
      obtain ⟨second, member', same'⟩ := List.mem_map.mp held'
      obtain ⟨types, stamp⟩ := Prod.mk.inj same
      obtain ⟨types', stamp'⟩ := Prod.mk.inj same'
      rw [← stamp, ← stamp']
      exact ordered first member second member' (by rwa [types, types'])
        ((isMigrationFile_stamped stamp.symm).mp run) ((isMigrationFile_stamped stamp'.symm).mp run')

/-- Statements of the first and the last phase, written within one millisecond. -/
def hurried : MigrationLifecycleSet where
  safe := [{ sql := "ALTER TABLE \"users\" ADD COLUMN \"name\" text", category := .SAFE, reason := "" }]
  breaking := [{ sql := "ALTER TABLE \"users\" DROP COLUMN \"title\"", category := .BREAKING, reason := "" }]

theorem hurried_files_are_reversed :
    ¬ InLifecycleOrder ⟨"", .inl rfl⟩
      (generateLifecycleMigrations (fun _ => 1700000000000) ⟨"", .inl rfl⟩ ⟨"Rename", by decide⟩ hurried []
        ⟨[], List.nodup_nil⟩) := by
  intro ordered
  have inOrder := (inLifecycleOrder_iff_labels _ _).mp ordered
  have before := inOrder.2 ⟨toString 1700000000000, .SAFE_, "Rename"⟩ (by decide)
    ⟨toString 1700000000000, .BREAKING_, "Rename"⟩ (by decide) (by decide) (by decide)
    (by decide)
  simp [sortsBefore] at before

end DriverMicroServices.MigrationGenerator
