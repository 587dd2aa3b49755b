import DriverMicroServices.LintedCalls
import DriverMicroServices.SplitNames
import DriverMicroServices.Texts.Words

/-! Changes as the schema builder writes them, with their names in quotes, and where the splitter puts them. -/
namespace DriverMicroServices.BuiltSchema
open Texts.Regex Texts.Regex.Pattern LifecycleSplitter MigrationLint

/-- A name that the builder puts in quotes. -/
structure Identifier where
  text : String
  nonempty : text.toList ≠ []
  unquoted : Unquoted text

namespace Identifier

def quote (name : Identifier) : String := "\"" ++ name.text ++ "\""

end Identifier

inductive Change where
  /-- The type, and what follows `NOT NULL`. -/
  | addColumnNotNull (table column : Identifier) (type rest : String)
  | renameColumn (table oldCol newCol : Identifier)
  | changeType (table column : Identifier) (type : String)
  | createTable (table : Identifier) (columns : String)
  | createIndex (unique : Bool) (index table : Identifier) (columns rest : String)

namespace Change

def sql : Change → String
  | addColumnNotNull table column type rest =>
    "ALTER TABLE " ++ table.quote ++ " ADD " ++ column.quote ++ (" " ++ (type ++ " NOT NULL" ++ rest))
  | renameColumn table oldCol newCol =>
    "ALTER TABLE " ++ table.quote ++ " RENAME COLUMN " ++ oldCol.quote ++ " TO " ++ newCol.quote
  | changeType table column type =>
    "ALTER TABLE " ++ table.quote ++ " ALTER COLUMN " ++ column.quote ++ (" TYPE " ++ type)
  | createTable table columns => "CREATE TABLE " ++ table.quote ++ (" (" ++ columns ++ ")")
  | createIndex unique index table columns rest =>
    (if unique then "CREATE UNIQUE INDEX " else "CREATE INDEX ") ++ index.quote ++ " ON " ++ table.quote ++
      (" (" ++ columns ++ ")" ++ rest)

/-- What stands between the quotes. -/
def parts : Change → List String
  | addColumnNotNull table column type rest =>
    ["ALTER TABLE ", table.text, " ADD ", column.text, " " ++ (type ++ " NOT NULL" ++ rest)]
  | renameColumn table oldCol newCol =>
    ["ALTER TABLE ", table.text, " RENAME COLUMN ", oldCol.text, " TO ", newCol.text, ""]
  | changeType table column type => ["ALTER TABLE ", table.text, " ALTER COLUMN ", column.text, " TYPE " ++ type]
  | createTable table columns => ["CREATE TABLE ", table.text, " (" ++ columns ++ ")"]
  | createIndex unique index table columns rest =>
    [if unique then "CREATE UNIQUE INDEX " else "CREATE INDEX ", index.text, " ON ", table.text,
      " (" ++ columns ++ ")" ++ rest]

theorem toList_sql (change : Change) : change.sql.toList = quotedParts change.parts := by
  cases change <;> delta sql parts <;> simp [quotedParts, Identifier.quote]

end Change

/-- An operation of the schema builder. -/
structure BuiltOperation extends SchemaOperation where
  change : Change
  written : sql = change.sql

/-! ## Plain changes -/

/-- The first two words of what a statement does, and of what the checks look for. -/
def commands : List (String × String) :=
  [("ADD", "COLUMN"), ("RENAME", "COLUMN"), ("ALTER", "COLUMN"), ("DROP", "COLUMN"), ("ALTER", "TYPE"),
    ("CREATE", "TYPE"), ("DROP", "TYPE"), ("CREATE", "TABLE"), ("RENAME", "TABLE"), ("DROP", "TABLE"),
    ("CREATE", "INDEX"), ("DROP", "INDEX"), ("SET", "NOT"), ("IF", "NOT")]

/-- Nothing in the text looks like a command, a comment or the end of a function. -/
def Calm (text : String) : Prop :=
  (∀ c ∈ marks, c ∉ text.toList) ∧ ∀ two ∈ commands, (pair two.1 two.2).test text = false

instance (text : String) : Decidable (Calm text) :=
  @instDecidableAnd _ _ (List.decidableBAll _ _) (List.decidableBAll _ _)

/-- A name without white space. -/
def Identifier.Plain (name : Identifier) : Prop :=
  (∀ c ∈ marks, c ∉ name.text.toList) ∧ name.text.toList.all (fun c => !isSpace c)

instance (name : Identifier) : Decidable name.Plain := @instDecidableAnd _ _ (List.decidableBAll _ _) inferInstance

/-- The names are plain, and the texts calm; so is the type that is known of a renamed column. -/
def Change.Plain (typeMap : TypeMap) : Change → Prop
  | addColumnNotNull table column type rest => table.Plain ∧ column.Plain ∧ Calm (type ++ " NOT NULL" ++ rest)
  | renameColumn table oldCol newCol => table.Plain ∧ oldCol.Plain ∧ newCol.Plain ∧
      Calm (detectedType typeMap table.text oldCol.text) ∧
      SplitPattern.notNull.test (detectedType typeMap table.text oldCol.text) = false
  | changeType table column type => table.Plain ∧ column.Plain ∧ Calm type ∧
      type.toList.head?.any fun c => !isSpace c
  | createTable table columns => table.Plain ∧ Calm columns
  | createIndex _ index table columns rest => index.Plain ∧ table.Plain ∧ Calm columns ∧ Calm rest

instance (typeMap : TypeMap) : (change : Change) → Decidable (change.Plain typeMap)
  | .addColumnNotNull _ _ _ _ | .renameColumn _ _ _ | .changeType _ _ _ | .createTable _ _
  | .createIndex _ _ _ _ _ => inferInstanceAs (Decidable (_ ∧ _))

/-- The splitter takes the statement for one that only adds something, or does not read its type. -/
def Change.Exposed : Change → Prop
  | addColumnNotNull _ _ _ _ | renameColumn _ _ _ => False
  | changeType _ _ type => ¬ type.toList.head?.any isWord
  | createTable table columns => SplitPattern.notNull.test (createTable table columns).sql = false
  | createIndex unique index table columns rest => unique = false ∧
      SplitPattern.notNull.test (createIndex unique index table columns rest).sql = false

instance : (change : Change) → Decidable change.Exposed
  | .addColumnNotNull _ _ _ _ | .renameColumn _ _ _ => inferInstanceAs (Decidable False)
  | .changeType _ _ _ => inferInstanceAs (Decidable (¬ _))
  | .createTable _ _ => inferInstanceAs (Decidable (_ = _))
  | .createIndex _ _ _ _ _ => inferInstanceAs (Decidable (_ ∧ _))

/-! ## What is not in the texts -/

/-- The commands, and what a column that may be empty does not say. -/
def strict : List (String × String) := ("NOT", "NULL") :: commands

theorem mem_strict {two : String × String} (listed : two ∈ commands) : two ∈ strict := List.mem_cons_of_mem _ listed

section Absent

variable {two : String × String} {text literal : String}

private theorem solid_strict (listed : two ∈ strict) : ∀ c ∈ two.1.toList, isSpace c.toLower = false := by
  have all : ∀ two ∈ strict, two.1.toList.all fun c => isSpace c.toLower = false := by decide
  exact fun c member => of_decide_eq_true (List.all_eq_true.mp (all two listed) c member)

/-- Quotes, parentheses and backticks separate the words. -/
theorem apart_strict (listed : two ∈ strict) {c : Char} (separates : c ∈ ['"', '(', ')', '\x60']) :
    ∀ read, (pair two.1 two.2).Spells read → c ∉ read := by
  have outside : ['"', '(', ')', '\x60'].all fun c => strict.all fun two => c.toLower = c && !isSpace c &&
      c ∉ two.1.toList.map Char.toLower && c ∉ two.2.toList.map Char.toLower := by
    decide
  have own := List.all_eq_true.mp (List.all_eq_true.mp outside c separates) two listed
  simp only [Bool.and_eq_true, decide_eq_true_eq, Bool.not_eq_true'] at own
  obtain ⟨⟨⟨lower, dark⟩, first⟩, second⟩ := own
  exact apart_pair lower dark first second

theorem absent_literal (unread : (pair two.1 two.2).test literal = false) : Absent (pair two.1 two.2) literal.toList :=
  absent_of_test (anchorless_pair _ _) unread

theorem Calm.absent (calm : Calm text) (listed : two ∈ commands) : Absent (pair two.1 two.2) text.toList :=
  absent_literal (calm.2 two listed)

theorem Identifier.Plain.dark {name : Identifier} (plain : name.Plain) : ∀ c ∈ name.text.toList, isSpace c = false :=
  fun c member => by simpa using List.all_eq_true.mp plain.2 c member

theorem Identifier.Plain.unspaced {name : Identifier} (plain : name.Plain) : Unspaced name.text :=
  ⟨name.nonempty, name.unquoted, plain.dark⟩

/-- What the builder and the splitter write in front of a text. -/
theorem absent_behind (literal : String) (listed : two ∈ strict) (front : literal ∈ [" ", " TYPE ", " AS "])
    (absent : Absent (pair two.1 two.2) text.toList) : Absent (pair two.1 two.2) (literal ++ text).toList := by
  have unbegun : ∀ literal ∈ [" ", " TYPE ", " AS "], ∀ two ∈ strict, (pair two.1 "").test literal = false := by
    decide
  have ended : ∀ literal ∈ [" ", " TYPE ", " AS "], literal.toList = literal.toList.dropLast ++ [' '] := by
    decide
  have last := ended literal front
  have first := absent_of_test (anchorless_pair two.1 "") (unbegun literal front two listed)
  rw [String.toList_append, last, List.append_assoc]
  rw [last] at first
  exact absent_before (solid_strict listed) first absent

private theorem absent_enclosed (inner rest : String) (listed : two ∈ strict) (absent : Absent (pair two.1 two.2) inner.toList)
    (absent' : Absent (pair two.1 two.2) rest.toList) :
    Absent (pair two.1 two.2) (" (" ++ inner ++ ")" ++ rest).toList := by
  have blank : Absent (pair two.1 two.2) [' '] := by
    have unread : ∀ two ∈ strict, (pair two.1 two.2).test " " = false := by decide
    exact absent_literal (unread two listed)
  have whole : (" (" ++ inner ++ ")" ++ rest).toList = [' '] ++ '(' :: (inner.toList ++ ')' :: rest.toList) := by
    have mark : " (".toList = [' ', '('] := rfl
    have mark' : ")".toList = [')'] := rfl
    simp only [String.toList_append, mark, mark', List.append_assoc, List.cons_append, List.nil_append]
  rw [whole]
  exact absent_apart (apart_strict listed (by simp)) blank (absent_apart (apart_strict listed (by simp)) absent absent')

end Absent

/-- The words are in none of the literal parts, nor in the others. -/
theorem absent_quoted_parts {two : String × String} {literals : List String} {part : String} {rest : List String}
    (listed : two ∈ strict) (missed : literals.all fun literal => !(pair two.1 two.2).test literal)
    (each : ∀ other ∈ part :: rest, other ∈ literals ∨ Absent (pair two.1 two.2) other.toList) :
    Absent (pair two.1 two.2) (quotedParts (part :: rest)) := by
  refine absent_quotedParts (apart_strict listed (by simp)) fun other member => ?_
  rcases each other member with literal | absent
  · exact absent_literal (by simpa using List.all_eq_true.mp missed other literal)
  · exact absent

/-- Nothing of the list, and no marks. -/
structure Quiet (list : List (String × String)) (text : String) : Prop where
  absent : ∀ two ∈ list, Absent (pair two.1 two.2) text.toList
  unmarked : ∀ c ∈ marks, c ∉ text.toList

/-- Characters that are no white space and no marks. -/
structure Bound (text : String) : Prop where
  unmarked : ∀ c ∈ marks, c ∉ text.toList
  dark : ∀ c ∈ text.toList, isSpace c = false

/-- A statement whose parts between quotes are literal or quiet. -/
def Written (list : List (String × String)) (literals : List String) (sql : String) : Prop :=
  ∃ part rest, sql.toList = quotedParts (part :: rest) ∧ ∀ other ∈ part :: rest, other ∈ literals ∨ Quiet list other

section Quiet

variable {list : List (String × String)} {literals : List String} {sql text other : String}

theorem Bound.quiet (bound : Bound text) : Quiet list text := ⟨fun _ _ => absent_unspaced bound.dark, bound.unmarked⟩

theorem Identifier.Plain.bound {name : Identifier} (plain : name.Plain) : Bound name.text := ⟨plain.1, plain.dark⟩

theorem Identifier.Plain.quiet {name : Identifier} (plain : name.Plain) : Quiet list name.text := plain.bound.quiet

theorem Quiet.behind (literal : String) (within : ∀ two ∈ list, two ∈ strict)
    (front : literal ∈ [" ", " TYPE ", " AS "]) (quiet : Quiet list text) : Quiet list (literal ++ text) := by
  have clean : [" ", " TYPE ", " AS "].all fun literal => marks.all fun c => !literal.toList.contains c := by decide
  refine ⟨fun two listed => absent_behind literal (within two listed) front (quiet.absent two listed),
    fun c marked => ?_⟩
  rw [String.toList_append, List.mem_append, not_or]
  exact ⟨by simpa using List.all_eq_true.mp (List.all_eq_true.mp clean literal front) c marked, quiet.unmarked c marked⟩

theorem Quiet.enclosed (within : ∀ two ∈ list, two ∈ strict) (quiet : Quiet list text) (quiet' : Quiet list other) :
    Quiet list (" (" ++ text ++ ")" ++ other) := by
  have clean : [" (", ")"].all fun literal => marks.all fun c => !literal.toList.contains c := by decide
  refine ⟨fun two listed => absent_enclosed text other (within two listed) (quiet.absent two listed)
    (quiet'.absent two listed), fun c marked => ?_⟩
  have own (literal : String) (front : literal ∈ [" (", ")"]) : c ∉ literal.toList := by
    simpa using List.all_eq_true.mp (List.all_eq_true.mp clean literal front) c marked
  simp only [String.toList_append, List.mem_append, not_or]
  exact ⟨⟨⟨own " (" (by simp), quiet.unmarked c marked⟩, own ")" (by simp)⟩, quiet'.unmarked c marked⟩

theorem Calm.quiet (calm : Calm text) : Quiet commands text := ⟨fun _ listed => calm.absent listed, calm.1⟩

/-- A type that says nothing of `NOT NULL` either. -/
theorem Calm.quiet_strict (calm : Calm text) (nullable : SplitPattern.notNull.test text = false) :
    Quiet strict text := by
  refine ⟨fun two listed => ?_, calm.1⟩
  rcases List.mem_cons.mp listed with rfl | listed
  · exact absent_of_test (anchorless_pair _ _) nullable
  · exact calm.absent listed

private theorem quiet_empty : Quiet list "" :=
  ⟨fun _ _ => absent_unspaced (List.forall_mem_nil _), fun _ _ => List.not_mem_nil⟩

theorem Written.absent {two : String × String} (written : Written list literals sql) (listed : two ∈ list)
    (strictly : two ∈ strict) (missed : literals.all fun literal => !(pair two.1 two.2).test literal) :
    Absent (pair two.1 two.2) sql.toList := by
  obtain ⟨part, rest, split, each⟩ := written
  rw [split]
  exact absent_quoted_parts strictly missed fun other member => (each other member).imp_right fun quiet =>
    quiet.absent two listed

end Quiet

/-! ## Where a change is put -/

namespace Change

/-- The words of a statement itself. -/
def literals : Change → List String
  | addColumnNotNull _ _ _ _ => ["ALTER TABLE ", " ADD "]
  | renameColumn _ _ _ => ["ALTER TABLE ", " RENAME COLUMN ", " TO ", ""]
  | changeType _ _ _ => ["ALTER TABLE ", " ALTER COLUMN "]
  | createTable _ _ => ["CREATE TABLE "]
  | createIndex unique _ _ _ _ => [if unique then "CREATE UNIQUE INDEX " else "CREATE INDEX ", " ON "]

variable {typeMap : TypeMap} {change : Change} {two : String × String}

/-- The statement of a plain change. -/
theorem written_sql (plain : change.Plain typeMap) : Written commands change.literals change.sql := by
  have within : ∀ two ∈ commands, two ∈ strict := fun two listed => mem_strict listed
  cases change with
  | addColumnNotNull table column type rest =>
    obtain ⟨named, named', calm⟩ := plain
    have last := calm.quiet.behind " " within List.mem_cons_self
    refine ⟨_, _, toList_sql _, ?_⟩
    simp only [literals, List.forall_mem_cons]
    exact ⟨.inl (by simp), .inr named.quiet, .inl (by simp), .inr named'.quiet, .inr last, List.forall_mem_nil _⟩
  | renameColumn table oldCol newCol =>
    obtain ⟨named, named', named'', -⟩ := plain
    refine ⟨_, _, toList_sql _, ?_⟩
    simp only [literals, List.forall_mem_cons]
    exact ⟨.inl (by simp), .inr named.quiet, .inl (by simp), .inr named'.quiet, .inl (by simp), .inr named''.quiet,
      .inl (by simp), List.forall_mem_nil _⟩
  | changeType table column type =>
    obtain ⟨named, named', calm, -⟩ := plain
    have last := calm.quiet.behind " TYPE " within (by simp)
    refine ⟨_, _, toList_sql _, ?_⟩
    simp only [literals, List.forall_mem_cons]
    exact ⟨.inl (by simp), .inr named.quiet, .inl (by simp), .inr named'.quiet, .inr last, List.forall_mem_nil _⟩
  | createTable table columns =>
    obtain ⟨named, calm⟩ := plain
    have last := calm.quiet.enclosed within quiet_empty
    rw [String.append_empty] at last
    refine ⟨_, _, toList_sql _, ?_⟩
    simp only [literals, List.forall_mem_cons]
    exact ⟨.inl (by simp), .inr named.quiet, .inr last, List.forall_mem_nil _⟩
  | createIndex unique index table columns rest =>
    obtain ⟨named, named', calm, calm'⟩ := plain
    have last := calm.quiet.enclosed within calm'.quiet
    refine ⟨_, _, toList_sql _, ?_⟩
    simp only [literals, List.forall_mem_cons]
    exact ⟨.inl (by simp), .inr named.quiet, .inl (by simp), .inr named'.quiet, .inr last, List.forall_mem_nil _⟩

/-- A command is in the statement only where the statement itself says it. -/
theorem absent_sql (plain : change.Plain typeMap) (listed : two ∈ commands)
    (missed : change.literals.all fun literal => !(pair two.1 two.2).test literal) :
    Absent (pair two.1 two.2) change.sql.toList :=
  (written_sql plain).absent listed (mem_strict listed) missed

end Change

end DriverMicroServices.BuiltSchema
