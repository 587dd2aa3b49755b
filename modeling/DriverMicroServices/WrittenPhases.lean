import DriverMicroServices.ChangePhases
import DriverMicroServices.LintedCalls

/-! The words of the statements in the phases of plain changes. -/
namespace DriverMicroServices.BuiltSchema
open Texts.Regex Texts.Regex.Pattern LifecycleSplitter MigrationGenerator MigrationLint

section Written

variable {list : List (String × String)} {literals : List String} {sql text : String}

theorem Bound.v2 (bound : Bound text) : Bound (text ++ "_v2") := by
  have ending : marks.all (fun c => !"_v2".toList.contains c) ∧ "_v2".toList.all fun c => !isSpace c := by decide
  constructor
  · intro c marked
    rw [String.toList_append, List.mem_append, not_or]
    exact ⟨bound.unmarked c marked, by simpa using List.all_eq_true.mp ending.1 c marked⟩
  · intro c member
    rw [String.toList_append, List.mem_append] at member
    exact member.elim (bound.dark c) fun last => by simpa using List.all_eq_true.mp ending.2 c last

theorem bound_words (all : ∀ c ∈ text.toList, isWord c) : Bound text := by
  refine ⟨fun c marked member => ?_, fun c member => isSpace_of_isWord (all c member)⟩
  have other : marks.all fun c => !isWord c := by decide
  have unword : isWord c = false := by simpa using List.all_eq_true.mp other c marked
  exact Bool.false_ne_true (unword.symm.trans (all c member))

theorem Written.unmarked (written : Written list literals sql)
    (clean : literals.all fun literal => marks.all fun c => !literal.toList.contains c) :
    ∀ c ∈ marks, c ∉ sql.toList := by
  intro c marked
  have quote : '"' ≠ c := by
    rintro rfl
    exact absurd marked (by decide)
  have apart {part : String} {rest : List String}
      (each : ∀ other ∈ part :: rest, other ∈ literals ∨ Quiet list other) : c ∉ quotedParts (part :: rest) := by
    have here {other : String} (either : other ∈ literals ∨ Quiet list other) : c ∉ other.toList := by
      rcases either with literal | quiet
      · simpa using List.all_eq_true.mp (List.all_eq_true.mp clean other literal) c marked
      · exact quiet.unmarked c marked
    induction rest generalizing part with
    | nil => exact here (each part List.mem_cons_self)
    | cons other rest ih =>
      obtain ⟨first, later⟩ := List.forall_mem_cons.mp each
      have split : quotedParts (part :: other :: rest) = part.toList ++ '"' :: quotedParts (other :: rest) := rfl
      rw [split, List.mem_append, List.mem_cons, not_or, not_or]
      exact ⟨here first, quote.symm, ih later⟩
  obtain ⟨part, rest, split, each⟩ := written
  rw [split]
  exact apart each

/-- The literal parts do not name a table or an index either. -/
theorem Written.named {source : String} (written : Written list literals sql)
    (listed : source ∈ ["CREATE TABLE", "CREATE INDEX"])
    (tables : ("CREATE", "TABLE") ∈ list ∧ ("CREATE", "INDEX") ∈ list)
    (missed : literals.all fun literal => !(phraseAndName source).test literal) :
    Absent (phraseAndName source) sql.toList := by
  have plain : ∀ source ∈ ["CREATE TABLE", "CREATE INDEX"], (phraseAndName source).anchorless ∧
      (phraseAndName source).quoteless := by
    decide
  obtain ⟨anchorless, quoteless⟩ := plain source listed
  obtain ⟨second, split, -, kind⟩ := phraseAndName_split listed
  have there : ("CREATE", second) ∈ list := by
    rcases List.mem_pair.mp kind with rfl | rfl
    · exact tables.1
    · exact tables.2
  obtain ⟨part, rest, same, each⟩ := written
  rw [same]
  refine absent_quotedParts (bare_of_quoteless quoteless) fun other member => ?_
  rcases each other member with literal | quiet
  · exact absent_of_test anchorless (by simpa using List.all_eq_true.mp missed other literal)
  · exact (contains_phrase split).absent (quiet.absent _ there)

/-- What the literals must be without. -/
def fits (type : MigrationType) (literals : List String) : Bool :=
  literals.all fun literal => (unwelcome type).all (fun two => !(pair two.1 two.2).test literal) &&
    ["CREATE TABLE", "CREATE INDEX"].all (fun source => !(phraseAndName source).test literal) &&
    marks.all fun c => !literal.toList.contains c

theorem Written.passes {type : MigrationType} (written : Written list literals sql) (fit : fits type literals)
    (tables : ("CREATE", "TABLE") ∈ list ∧ ("CREATE", "INDEX") ∈ list)
    (within : ∀ two ∈ unwelcome type, two ∈ list ∧ two ∈ strict) : Passes type sql := by
  have each (literal : String) (member : literal ∈ literals) := List.all_eq_true.mp fit literal member
  simp only [Bool.and_eq_true] at each
  refine ⟨fun two listed => ?_, fun source listed => ?_, ?_⟩
  · exact written.absent (within two listed).1 (within two listed).2
      (List.all_eq_true.mpr fun literal member => List.all_eq_true.mp (each literal member).1.1 two listed)
  · exact written.named listed tables
      (List.all_eq_true.mpr fun literal member => List.all_eq_true.mp (each literal member).1.2 source listed)
  · exact written.unmarked (List.all_eq_true.mpr fun literal member => (each literal member).2)

end Written

/-! ## Statements -/

section Statements

variable {list : List (String × String)} {table column oldCol newCol type : String}

theorem toList_addColumn :
    ("ALTER TABLE \"" ++ table ++ "\" ADD COLUMN \"" ++ column ++ "\" " ++ type).toList =
      quotedParts ["ALTER TABLE ", table, " ADD COLUMN ", column, " " ++ type] := by
  simp [quotedParts]

theorem toList_copy :
    ("UPDATE \"" ++ table ++ "\" SET \"" ++ newCol ++ "\" = \"" ++ oldCol ++ "\"").toList =
      quotedParts ["UPDATE ", table, " SET ", newCol, " = ", oldCol, ""] := by
  simp [quotedParts]

theorem toList_cast :
    ("UPDATE \"" ++ table ++ "\" SET \"" ++ newCol ++ "\" = CAST(\"" ++ column ++ "\" AS " ++ type ++ ")").toList =
      quotedParts ["UPDATE ", table, " SET ", newCol, " = CAST(", column, " AS " ++ (type ++ ")")] := by
  simp [quotedParts]

theorem written_addColumn (within : ∀ two ∈ list, two ∈ strict) (named : Bound table) (named' : Bound column)
    (quiet : Quiet list type) :
    Written list ["ALTER TABLE ", " ADD COLUMN "]
      ("ALTER TABLE \"" ++ table ++ "\" ADD COLUMN \"" ++ column ++ "\" " ++ type) := by
  refine ⟨_, _, toList_addColumn, ?_⟩
  simp only [List.forall_mem_cons]
  exact ⟨.inl (by simp), .inr named.quiet, .inl (by simp), .inr named'.quiet,
    .inr (quiet.behind " " within List.mem_cons_self), List.forall_mem_nil _⟩

theorem written_copy (named : Bound table) (named' : Bound newCol) (named'' : Bound oldCol) :
    Written list ["UPDATE ", " SET ", " = ", ""]
      ("UPDATE \"" ++ table ++ "\" SET \"" ++ newCol ++ "\" = \"" ++ oldCol ++ "\"") := by
  refine ⟨_, _, toList_copy, ?_⟩
  simp only [List.forall_mem_cons]
  exact ⟨.inl (by simp), .inr named.quiet, .inl (by simp), .inr named'.quiet, .inl (by simp), .inr named''.quiet,
    .inl (by simp), List.forall_mem_nil _⟩

theorem written_cast (within : ∀ two ∈ list, two ∈ strict) (named : Bound table) (named' : Bound newCol)
    (named'' : Bound column) (word : Bound type) :
    Written list ["UPDATE ", " SET ", " = CAST("]
      ("UPDATE \"" ++ table ++ "\" SET \"" ++ newCol ++ "\" = CAST(\"" ++ column ++ "\" AS " ++ type ++ ")") := by
  have ending : Bound (type ++ ")") := by
    have mark : ")".toList = [')'] := rfl
    refine ⟨fun c marked => ?_, fun c member => ?_⟩
    · rw [String.toList_append, mark, List.mem_append, List.mem_singleton, not_or]
      refine ⟨word.unmarked c marked, ?_⟩
      rintro rfl
      exact absurd marked (by decide)
    · rw [String.toList_append, mark, List.mem_append, List.mem_singleton] at member
      rcases member with inside | rfl
      · exact word.dark c inside
      · decide
  refine ⟨_, _, toList_cast, ?_⟩
  simp only [List.forall_mem_cons]
  exact ⟨.inl (by simp), .inr named.quiet, .inl (by simp), .inr named'.quiet, .inl (by simp), .inr named''.quiet,
    .inr (ending.quiet.behind " AS " within (by simp)), List.forall_mem_nil _⟩

theorem written_dropColumn (named : Bound table) (named' : Bound column) :
    Written list ["ALTER TABLE ", " DROP COLUMN ", ""]
      ("ALTER TABLE \"" ++ table ++ "\" DROP COLUMN \"" ++ column ++ "\"") := by
  refine ⟨_, _, toList_drop, ?_⟩
  simp only [List.forall_mem_cons]
  exact ⟨.inl (by simp), .inr named.quiet, .inl (by simp), .inr named'.quiet, .inl (by simp), List.forall_mem_nil _⟩

theorem written_renameColumn (named : Bound table) (named' : Bound oldCol) (named'' : Bound newCol) :
    Written list ["ALTER TABLE ", " RENAME COLUMN ", " TO ", ""]
      ("ALTER TABLE \"" ++ table ++ "\" RENAME COLUMN \"" ++ oldCol ++ "\" TO \"" ++ newCol ++ "\"") := by
  refine ⟨_, _, toList_rename, ?_⟩
  simp only [List.forall_mem_cons]
  exact ⟨.inl (by simp), .inr named.quiet, .inl (by simp), .inr named'.quiet, .inl (by simp), .inr named''.quiet,
    .inl (by simp), List.forall_mem_nil _⟩

end Statements

end DriverMicroServices.BuiltSchema
