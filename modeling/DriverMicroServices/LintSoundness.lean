import DriverMicroServices.LintedFiles
import DriverMicroServices.Texts.Tokens

/-! What executing a migration takes away, and whether the lint has said so. -/
namespace DriverMicroServices.MigrationLint
open Texts.Regex Texts.Regex.Pattern MigrationGenerator Tables

/-! ## What is lost -/

structure Column where
  name : String
  definition : String
deriving DecidableEq

/-- The columns keep their numbers when they are renamed or altered. -/
structure TableEntry where
  name : String
  columns : List (Nat × Column)
deriving DecidableEq

/-- The tables by their numbers. -/
abbrev Catalog := List (Nat × TableEntry)

/-- A table or a column is dropped or, in a safe migration, a column is altered or renamed. -/
inductive Loses (type : MigrationType) (before after : Catalog) : Prop
  | table (number : Nat) (there : (Keyed.get before number).isSome) (gone : Keyed.get after number = none)
  | column (number place : Nat) {table table' : TableEntry} (was : Keyed.get before number = some table)
    (is : Keyed.get after number = some table') (there : (Keyed.get table.columns place).isSome)
    (gone : Keyed.get table'.columns place = none)
  | change (safe : type = .SAFE) (number place : Nat) {table table' : TableEntry} {column column' : Column}
    (was : Keyed.get before number = some table) (is : Keyed.get after number = some table')
    (was' : Keyed.get table.columns place = some column) (is' : Keyed.get table'.columns place = some column')
    (other : column' ≠ column)

/-- A database server, of any kind. -/
structure Server (σ : Type) where
  catalog : σ → Catalog
  /-- The states that executing a text goes through, if nothing in it fails. -/
  execute : σ → String → Option (List σ)

/-- The text between the backticks of a call. -/
def asGiven (sql : String) : String := "\n      " ++ sql ++ "\n    "

/-- The statement means itself between backticks. -/
def Plain (sql : String) : Prop :=
  '\x60' ∉ sql.toList ∧ '\\' ∉ sql.toList ∧ '\r' ∉ sql.toList ∧ ¬ ['$', '\x7b'] <:+: sql.toList

/-- How files are executed: the texts that `up` hands to the server, if the file compiles. -/
structure Script where
  runs : List String → Option (List String)
  plain : ∀ sqls, (∀ sql ∈ sqls, Plain sql) → runs sqls = some (sqls.map asGiven)

section Runs

variable {σ : Type} (server : Server σ) (script : Script)

/-- The states after a state that executing the texts goes through. -/
def Server.runUp : List String → σ → Option (List σ)
  | [], _ => some []
  | text :: rest, state => do
    let states ← server.execute state text
    let later ← runUp rest (states.getLast?.getD state)
    return states ++ later

/-- Executing `up` to its end loses something on its way. -/
def Destroys (type : MigrationType) (sqls : List String) : Prop :=
  ∃ texts state states, script.runs sqls = some texts ∧ server.runUp texts state = some states ∧
    ∃ step ∈ (state :: states).zip states, Loses type (server.catalog step.1) (server.catalog step.2)

end Runs

/-! ## Files that are linted -/

/-- A safe file or one for data, without an exception. -/
structure LintedFile extends MigrationFile where
  type : MigrationType
  typed : getMigrationType filename = some type
  checked : type ≠ .BREAKING ∧ includes filename "BASELINE" = false ∧
    includes filename "AddOutboxPriorityAndIdempotencyTracker" = false ∧ filename ∉ LEGACY_SAFE_MIGRATION_EXCEPTIONS

namespace LintedFile

theorem errors_of (file : LintedFile) {other : MigrationFile} (same : other.filename = file.filename) :
    other.errors = sectionErrors file.type other.shown := by
  obtain ⟨-, ordinary, untracked, strict⟩ := file.checked
  rw [MigrationFile.errors, lintContent, same, file.typed, other.upSection_content]
  simp only [ordinary, untracked, strict, Bool.false_eq_true, and_false, if_false]

theorem mem_errors (file : LintedFile) (other : MigrationFile) (same : other.filename = file.filename)
    {error : String} :
    error ∈ other.errors ↔
      ∃ complaint : Complaint, complaint.Holds file.type other.shown ∧ error = complaint.text file.type := by
  rw [file.errors_of same, mem_sectionErrors]

end LintedFile

section Catches

variable {σ : Type} (server : Server σ) (script : Script)

/-- What is lost is complained about, and nothing that stands in the header or in `down`. -/
structure Catches (file : LintedFile) : Prop where
  caught : Destroys server script file.type file.sqls → file.errors ≠ []
  own : ∀ error ∈ file.errors, error ∈ file.bare.errors

/-- What the file must show to the lint: something to complain about where something is lost, and nothing that
the file without header and `down` does not show. -/
structure Shows (file : LintedFile) : Prop where
  lost : Destroys server script file.type file.sqls → ∃ complaint : Complaint, complaint.Holds file.type file.shown
  own : ∀ complaint : Complaint, complaint.Holds file.type file.shown → complaint.Holds file.type file.bare.shown

end Catches

/-! ## Files that show what they do -/

section Shown

variable {file : LintedFile}

theorem remove_unmarked {pattern : Pattern} {c : Char} {text : String}
    (marked : ∀ read, pattern.Spells read → c ∈ read) (without : c ∉ text.toList) : pattern.remove text = text := by
  refine remove_absent fun early read after split spelled => without ?_
  rw [split]
  exact List.mem_append_right _ (List.mem_append_left _ (marked read spelled))

/-- A text without dashes and slashes has no comments. -/
theorem contentWithoutComments_plain {text : String} (dashless : '-' ∉ text.toList) (slashless : '/' ∉ text.toList) :
    contentWithoutComments text = text := by
  have dashes : ∀ read, sqlComment.Spells read → '-' ∈ read := by
    intro read spelled
    obtain ⟨rest, rfl, -⟩ := spells_exactly spelled
    exact List.mem_cons_self
  have slashes : ∀ read, jsComment.Spells read → '/' ∈ read := by
    intro read spelled
    obtain ⟨rest, rfl, -⟩ := spells_exactly spelled
    exact List.mem_cons_self
  have stars : ∀ read, blockComment.Spells read → '/' ∈ read := by
    intro read spelled
    obtain ⟨rest, rfl, -⟩ := spells_exactly spelled
    exact List.mem_cons_self
  rw [contentWithoutComments, remove_unmarked dashes dashless, remove_unmarked slashes slashless,
    remove_unmarked stars slashless]

/-- Characters that comments and the end of a function are made of. -/
def marks : List Char := ['-', '/', '\x7d']

theorem clean_calls {sqls : List String} {c : Char} (plain : ∀ sql ∈ sqls, ∀ c ∈ marks, c ∉ sql.toList)
    (marked : c ∈ marks) : c ∉ '\n' :: callsOf sqls := by
  have around : marks.all fun c => !('\n' :: (queryCall "").toList).contains c := by decide
  have outside : c ∉ '\n' :: (queryCall "").toList := by simpa using List.all_eq_true.mp around c marked
  rw [List.mem_cons, not_or] at outside ⊢
  refine ⟨outside.1, fun inside => ?_⟩
  rcases mem_callsOf inside with ⟨other, there, own⟩ | around
  · exact plain other there c marked own
  · exact outside.2 around

/-- A file whose statements have no marks shows its calls. -/
theorem shown_plain {file : MigrationFile} (unopened : file.Unopened) (nonempty : file.sqls ≠ [])
    (plain : ∀ sql ∈ file.sqls, ∀ c ∈ marks, c ∉ sql.toList) :
    file.shown = String.ofList ('\n' :: callsOf file.sqls) ∧ contentWithoutComments file.shown = file.shown := by
  have ended : ∃ front, '\n' :: callsOf file.sqls = front ++ [';'] := by
    obtain ⟨front, same⟩ := callsOf_ended nonempty
    exact ⟨'\n' :: front, by rw [same, List.cons_append]⟩
  have shown : file.shown = String.ofList ('\n' :: callsOf file.sqls) := by
    rw [MigrationFile.shown_of_unopened unopened]
    exact congrArg String.ofList (beforeFirst_calls (clean_calls plain (by decide)) ended)
  refine ⟨shown, ?_⟩
  apply contentWithoutComments_plain <;> rw [shown, String.toList_ofList]
  · exact clean_calls plain (by decide)
  · exact clean_calls plain (by decide)

/-- A phrase in one of the statements is found, where these have no dash, slash or closing brace. -/
theorem caught_plainly (unopened : file.Unopened) (plain : ∀ sql ∈ file.sqls, ∀ c ∈ marks, c ∉ sql.toList)
    {sql source : String} (member : sql ∈ file.sqls) (listed : source ∈ FORBIDDEN_PATTERNS file.type)
    (said : Complaint.Says source sql) : file.errors ≠ [] := by
  obtain ⟨shown, uncommented⟩ := shown_plain unopened (List.ne_nil_of_mem member) plain
  have found : (Complaint.forbidden source).Holds file.type file.shown := by
    refine ⟨listed, ?_⟩
    rw [uncommented, shown, Complaint.Says, String.toList_ofList]
    exact said.trans (((infix_callsOf member).trans (List.suffix_cons _ _).isInfix).map _)
  exact List.ne_nil_of_mem ((file.mem_errors file.toMigrationFile rfl).mpr ⟨_, found, rfl⟩)

end Shown

/-- The lint catches what it should if and only if the file shows it; where the statements have no marks, a
phrase in one of them is enough. -/
theorem lint_catches_iff {σ : Type} (server : Server σ) (script : Script) (file : LintedFile) :
    (Catches server script file ↔ Shows server script file) ∧
      (file.Unopened → (∀ sql ∈ file.sqls, ∀ c ∈ marks, c ∉ sql.toList) →
        ∀ sql ∈ file.sqls, ∀ source ∈ FORBIDDEN_PATTERNS file.type, Complaint.Says source sql → file.errors ≠ []) := by
  refine ⟨?_, fun unopened plain sql member source listed said => caught_plainly unopened plain member listed said⟩
  have told := @LintedFile.mem_errors file file.toMigrationFile rfl
  have told' := @LintedFile.mem_errors file file.bare rfl
  constructor
  · rintro ⟨caught, own⟩
    refine ⟨fun destroys => ?_, fun complaint holds => ?_⟩
    · obtain ⟨error, member⟩ := List.exists_mem_of_ne_nil _ (caught destroys)
      obtain ⟨complaint, holds, -⟩ := told.mp member
      exact ⟨complaint, holds⟩
    · obtain ⟨complaint', holds', same⟩ := told'.mp (own _ (told.mpr ⟨complaint, holds, rfl⟩))
      rwa [Complaint.text_injective file.type same]
  · rintro ⟨lost, own⟩
    refine ⟨fun destroys => ?_, fun error member => ?_⟩
    · obtain ⟨complaint, holds⟩ := lost destroys
      exact List.ne_nil_of_mem (told.mpr ⟨complaint, holds, rfl⟩)
    · obtain ⟨complaint, holds, same⟩ := told.mp member
      exact told'.mpr ⟨complaint, own complaint holds, same⟩

/-! ## A server -/

def dropTable (catalog : Catalog) (statement : List Texts.Tokens.Token) : Catalog :=
  match statement with
  | .word "DROP" :: .word "TABLE" :: rest =>
    match Texts.Tokens.readName (Texts.Tokens.skip ["IF", "EXISTS"] rest) with
    | some (name, _) => catalog.filter fun entry => entry.2.name ≠ name
    | none => catalog
  | _ => catalog

/-- A server that drops tables and takes any other statement without effect. The statements of a text are one
transaction. -/
def dropping : Server Catalog where
  catalog := id
  execute catalog text := some [(Texts.Tokens.statements text).foldl dropTable catalog]

instance (sql : String) : Decidable (Plain sql) := inferInstanceAs (Decidable (_ ∧ _ ∧ _ ∧ _))

/-- Files whose statements mean themselves are executed as they stand, and no others. -/
def literally : Script where
  runs sqls := if ∀ sql ∈ sqls, Plain sql then some (sqls.map asGiven) else none
  plain _ plain := if_pos plain

/-- A file for data, without a header. -/
def cleanup (sqls : List String) : LintedFile where
  filename := "1774500000000-DATA_Cleanup.ts"
  className := "DATACleanup1774500000000"
  header := ""
  sqls := sqls
  down := ""
  type := .DATA
  typed := by decide
  checked := by decide

private theorem cleanup_errors (sqls : List String) : (cleanup sqls).errors =
    sectionErrors .DATA (String.ofList (beforeFirst upClosing (cleanup sqls).section')) := by
  have header : '(' ∉ "".toList := List.not_mem_nil
  have className : '(' ∉ "DATACleanup1774500000000".toList := by decide
  have unopened : (cleanup sqls).Unopened := MigrationFile.unopened_of_plain header className
  rw [← MigrationFile.shown_of_unopened unopened]
  exact (cleanup sqls).errors_of rfl

def users : Catalog := [(1, { name := "users", columns := [(1, ⟨"name", "varchar"⟩)] })]

/-- A second blank hides a table that is dropped, and so does an address in the statement before. -/
theorem lint_misses :
    let spaced := cleanup ["DROP  TABLE \"users\""]
    let linked := cleanup ["SELECT 'http://a'; DROP TABLE \"users\""]
    (Destroys dropping literally .DATA spaced.sqls ∧ spaced.errors = [] ∧ ¬ Catches dropping literally spaced) ∧
      Destroys dropping literally .DATA linked.sqls ∧ linked.errors = [] ∧ ¬ Catches dropping literally linked := by
  have missed {sqls : List String} (literal : ∀ sql ∈ sqls, Plain sql)
      (dropped : dropping.runUp (sqls.map asGiven) users = some [[]])
      (silent : sectionErrors .DATA (String.ofList (beforeFirst upClosing (cleanup sqls).section')) = []) :
      Destroys dropping literally .DATA (cleanup sqls).sqls ∧ (cleanup sqls).errors = [] ∧
        ¬ Catches dropping literally (cleanup sqls) := by
    have destroys : Destroys dropping literally .DATA sqls :=
      ⟨_, users, [[]], if_pos literal, dropped, (users, []), List.mem_cons_self, .table 1 rfl rfl⟩
    have errors := (cleanup_errors sqls).trans silent
    exact ⟨destroys, errors, fun catches => catches.caught destroys errors⟩
  intro spaced linked
  refine ⟨missed ?_ ?_ ?_, missed ?_ ?_ ?_⟩ <;> decide +kernel

end DriverMicroServices.MigrationLint
