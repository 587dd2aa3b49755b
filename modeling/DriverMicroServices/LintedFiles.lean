import DriverMicroServices.MigrationLint
import DriverMicroServices.Texts.Words
import Mathlib.Data.List.Basic

/-! What the lint sees of a generated file, and what it says about it. -/
namespace DriverMicroServices.MigrationLint
open Texts.Regex Texts.Regex.Pattern MigrationGenerator

/-! ## Files -/

/-- The end of a file, with what stands in `down`. -/
def fileEndWith (down : String) : String :=
  "\n  \x7d\n\n  public async down(queryRunner: QueryRunner): Promise<void> \x7b\n" ++ down ++ "\n  \x7d\n\x7d\n"

/-- A file as `buildMigrationFile` writes it, with any text in its header and in `down`. -/
structure MigrationFile where
  filename : String
  className : String
  header : String
  sqls : List String
  down : String

namespace MigrationFile

def calls (file : MigrationFile) : String := "\n\n".intercalate (file.sqls.map queryCall)

def content (file : MigrationFile) : String :=
  fileStart file.className file.header ++ file.calls ++ fileEndWith file.down

/-- The file without the texts of header and `down`. -/
def bare (file : MigrationFile) : MigrationFile := { file with header := "", down := "" }

def errors (file : MigrationFile) : List String := lintContent file.filename file.content

end MigrationFile

/-- What `buildMigrationFile` writes into `down`. -/
def rollbackNote : String :=
  "    // TODO: Implement rollback logic\n" ++
    "    throw new Error('Manual rollback required — see ROLLBACK PLAN in header');"

theorem buildMigrationFile_eq (filename className header : String) (sqls : List String) :
    buildMigrationFile className sqls header =
      MigrationFile.content { filename, className, header, sqls, down := rollbackNote } := by
  have same : fileEnd = fileEndWith rollbackNote := by decide +kernel
  rw [buildMigrationFile, same]
  rfl

/-! ## The section -/

/-- What stands behind the first opening of an `up`, to the next closing. -/
def MigrationFile.shown (file : MigrationFile) : String :=
  String.ofList (beforeFirst upClosing ((behindFirst upOpening file.content.toList).getD []))

/-- An opening ends at the first brace behind its first closing parenthesis. -/
theorem upOpening_shape {read : List Char} (spelled : upOpening.Spells read) :
    ∃ name parameters back, read = name ++ '(' :: (parameters ++ ')' :: (back ++ ['\x7b'])) ∧ ')' ∉ name ∧
      ')' ∉ parameters ∧ ')' ∉ back ∧ '\x7b' ∉ back ∧ ∃ short, name = short ++ ['p'] := by
  obtain ⟨_, rfl, first, _, rfl, blank, spelled⟩ := spells_exactly spelled
  obtain ⟨_, rfl, second, _, rfl, blank', spelled⟩ := spells_exactly spelled
  obtain ⟨_, rfl, parameters, _, rfl, unclosed, spelled⟩ := spells_exactly spelled
  obtain ⟨_, rfl, third, _, rfl, blank'', spelled⟩ := spells_exactly spelled
  obtain ⟨_, rfl, fourth, _, rfl, blank''', c, rfl, last⟩ := spells_exactly spelled
  obtain rfl := of_decide_eq_true last
  have dark (c : Char) (dark : isSpace c = false) {blank : List Char} (spaces : ∀ c ∈ blank, isSpace c) : c ∉ blank :=
    fun member => Bool.false_ne_true (dark.symm.trans (spaces c member))
  have closing {blank : List Char} := @dark ')' (by decide) blank
  have brace {blank : List Char} := @dark '\x7b' (by decide) blank
  have spaces := ((spells_plus _ _).mp blank).2
  have spaces' := ((spells_plus _ _).mp blank').2
  have closed : ')' ∉ parameters := fun member => by simpa using unclosed _ member
  refine ⟨"public".toList ++ (first ++ ("async".toList ++ (second ++ "up".toList))), parameters,
    ':' :: (third ++ ("Promise<void>".toList ++ fourth)), by simp, ?_, closed, ?_, ?_,
    "public".toList ++ (first ++ ("async".toList ++ (second ++ ['u']))), ?_⟩
  · simp [closing spaces, closing spaces']
  · simp [closing blank'', closing blank''']
  · simp [brace blank'', brace blank''']
  · have last : "up".toList = ['u'] ++ ['p'] := rfl
    simp only [last, List.append_assoc]

theorem upOpening_plain : upOpening.anchorless := rfl

theorem upClosing_plain : upClosing.anchorless := rfl

/-- A closing has no parenthesis in it. -/
theorem upClosing_avoids : upClosing.avoids '(' := by
  decide

/-- The opening in a file, in front of its parenthesis and behind it. -/
def ownOpening : List Char × List Char :=
  ("public async up(queryRunner: QueryRunner".toList, ": Promise<void> ".toList)

/-- What stands in front of it. -/
def fileFront (className header : String) : String :=
  "import \x7b MigrationInterface, QueryRunner \x7d from 'typeorm';\n\n" ++ header ++ "\nexport class " ++
    className ++ " implements MigrationInterface \x7b\n  name = '" ++ className

theorem fileStart_split (className header : String) :
    (fileStart className header).toList = (fileFront className header).toList ++ ("';\n\n  ".toList ++
      (ownOpening.1 ++ ')' :: (ownOpening.2 ++ '\x7b' :: ['\n']))) := by
  have last : "';\n\n  public async up(queryRunner: QueryRunner): Promise<void> \x7b\n".toList =
      "';\n\n  ".toList ++ (ownOpening.1 ++ ')' :: (ownOpening.2 ++ '\x7b' :: ['\n'])) := by
    decide
  rw [← last]
  exact String.toList_append ..

theorem spells_spaces {blank : List Char} (all : blank.all isSpace) : (many isSpace).Spells blank :=
  List.all_eq_true.mp all

private theorem upOpening_own : upOpening.Spells (ownOpening.1 ++ ')' :: (ownOpening.2 ++ ['\x7b'])) := by
  have parameters : (many (· ≠ ')')).Spells "queryRunner: QueryRunner".toList := by
    intro c member
    have closed : ')' ∉ "queryRunner: QueryRunner".toList := by decide
    simpa using fun same : c = ')' => closed (same ▸ member)
  have spaces : (many isSpace).Spells [' '] := spells_spaces (by decide)
  have spelled : upOpening.Spells _ := spells_exactly_append "public".toList ⟨[' '], _, rfl, spells_blank,
    spells_exactly_append "async".toList ⟨[' '], _, rfl, spells_blank,
      spells_exactly_append "up(".toList ⟨_, _, rfl, parameters,
        spells_exactly_append "):".toList ⟨[' '], _, rfl, spaces,
          spells_exactly_append "Promise<void>".toList ⟨[' '], _, rfl, spaces, '\x7b', rfl, rfl⟩⟩⟩⟩⟩
  exact spelled

theorem behind_eq {c : Char} {front front' late late' : List Char} (absent : c ∉ front) (absent' : c ∉ front')
    (same : front ++ c :: late = front' ++ c :: late') : late = late' := by
  induction front generalizing front' with
  | nil =>
    cases front' with
    | nil => exact (List.cons.inj same).2
    | cons d front' => exact absurd ((List.cons.inj same).1 ▸ List.mem_cons_self) absent'
  | cons d front ih =>
    cases front' with
    | nil => exact absurd ((List.cons.inj same).1 ▸ List.mem_cons_self) absent
    | cons e front' =>
      have later : c ∉ front := fun member => absent (List.mem_cons_of_mem d member)
      have later' : c ∉ front' := fun member => absent' (List.mem_cons_of_mem e member)
      exact ih later later' (List.cons.inj same).2

/-- The first opening ends where the file's own one does, or before. -/
theorem behindFirst_suffix (early late : List Char) :
    ∃ start read front, early ++ (ownOpening.1 ++ ')' :: (ownOpening.2 ++ ['\x7b'])) = start ++ (read ++ front) ∧
      upOpening.Spells read ∧
      behindFirst upOpening (early ++ (ownOpening.1 ++ ')' :: (ownOpening.2 ++ '\x7b' :: late))) =
        some (front ++ late) := by
  have starts : upOpening.Starts (ownOpening.1 ++ ')' :: (ownOpening.2 ++ '\x7b' :: late)) :=
    ⟨_, late, by simp, upOpening_own⟩
  obtain ⟨way, found⟩ := firstFrom_isSome upOpening_plain early starts none
  obtain ⟨early', read, split, spelled, nowhere⟩ := firstFrom_split upOpening_plain found
  obtain ⟨name, parameters, back, rfl, unclosed, unclosed', closed', unopened, -⟩ := upOpening_shape spelled
  obtain ⟨front, whole⟩ : ∃ front, front = name ++ '(' :: parameters := ⟨_, rfl⟩
  have closed : ')' ∉ front := by
    rw [whole]
    simp [unclosed, unclosed']
  have joined (rest : List Char) : name ++ '(' :: (parameters ++ rest) = front ++ rest := by
    simp [whole]
  rw [joined] at split spelled nowhere
  have own : ')' ∉ ownOpening.1 ∧ '\x7b' ∉ ownOpening.2 := by decide
  -- the first opening does not begin behind the file's own one
  obtain ⟨between, rfl⟩ : ∃ between, early = early' ++ between := by
    rcases List.append_eq_append_iff.mp split with ⟨between, rfl, rest⟩ | ⟨between, rfl, -⟩
    · cases between with
      | nil => exact ⟨[], by simp⟩
      | cons c between => exact absurd (rest ▸ starts) (nowhere early (c :: between) rfl (List.cons_ne_nil _ _))
    · exact ⟨between, rfl⟩
  have same : (between ++ ownOpening.1) ++ ')' :: (ownOpening.2 ++ '\x7b' :: late) =
      front ++ ')' :: (back ++ '\x7b' :: way.1.rest) := by
    simpa using split
  suffices behind : ∃ gap, way.1.rest = gap ++ late by
    obtain ⟨gap, behind⟩ := behind
    refine ⟨early', _, gap, ?_, spelled, by rw [behindFirst, found, Option.map_some, behind]⟩
    rw [behind] at split
    have joined : (early' ++ between ++ (ownOpening.1 ++ ')' :: (ownOpening.2 ++ ['\x7b']))) ++ late =
        (early' ++ (front ++ ')' :: (back ++ ['\x7b']) ++ gap)) ++ late := by
      simpa using split
    exact List.append_cancel_right joined
  rcases List.append_eq_append_iff.mp same with ⟨more, rfl, rest⟩ | ⟨more, split', rest⟩
  · cases more with
    | nil =>
      have same := behind_eq own.2 unopened (List.cons.inj rest).2
      exact ⟨[], same.symm⟩
    | cons c more =>
      obtain ⟨rfl, -⟩ := List.cons.inj rest
      exact absurd (List.mem_append_right _ List.mem_cons_self) closed
  · cases more with
    | nil =>
      have same := behind_eq unopened own.2 (List.cons.inj rest).2
      exact ⟨[], same⟩
    | cons c more =>
      -- the first opening is over before the file's own parenthesis
      have rest' : (back ++ ['\x7b']) ++ way.1.rest = more ++ ')' :: (ownOpening.2 ++ '\x7b' :: late) := by
        simpa using (List.cons.inj rest).2
      rcases List.append_eq_append_iff.mp rest' with ⟨gap, -, behind⟩ | ⟨gap, read, behind⟩
      · exact ⟨gap ++ ')' :: (ownOpening.2 ++ ['\x7b']), by rw [behind]; simp⟩
      · cases gap with
        | nil => exact ⟨')' :: (ownOpening.2 ++ ['\x7b']), by rw [← List.nil_append way.1.rest, ← behind]; simp⟩
        | cons d gap =>
          obtain ⟨rfl, -⟩ := List.cons.inj behind
          have inside : ')' ∈ back ++ ['\x7b'] := read ▸ List.mem_append_right _ List.mem_cons_self
          exact absurd (List.mem_append.mp inside) (not_or.mpr ⟨closed', by decide⟩)

/-- What a file has behind its calls. -/
theorem fileEnd_split (down : String) :
    ∃ more, (fileEndWith down).toList = "\n  \x7d\n\n  public async down".toList ++ '(' :: more := by
  have first : "\n  \x7d\n\n  public async down(queryRunner: QueryRunner): Promise<void> \x7b\n".toList =
      "\n  \x7d\n\n  public async down".toList ++
        '(' :: "queryRunner: QueryRunner): Promise<void> \x7b\n".toList := by
    decide
  have front : ("\n  \x7d\n\n  public async down(queryRunner: QueryRunner): Promise<void> \x7b\n" ++ down).toList =
      _ ++ down.toList := String.toList_append ..
  have whole : (fileEndWith down).toList = _ ++ "\n  \x7d\n\x7d\n".toList := String.toList_append ..
  refine ⟨"queryRunner: QueryRunner): Promise<void> \x7b\n".toList ++ down.toList ++ "\n  \x7d\n\x7d\n".toList, ?_⟩
  rw [whole, front, first]
  simp only [List.append_assoc, List.cons_append]

theorem upClosing_own : upClosing.Starts "\n  \x7d\n\n  public async down".toList := by
  have spaces : (many isSpace).Spells [' ', ' '] := spells_spaces (by decide)
  have spaces' : (many isSpace).Spells ['\n', ' ', ' '] := spells_spaces (by decide)
  have nothing : empty.Spells [] := List.forall_mem_nil _
  have spelled : upClosing.Spells _ := ⟨['\n'], _, rfl, ⟨'\n', rfl, rfl⟩, [' ', ' '], _, rfl, spaces,
    spells_exactly_append "\x7d\n".toList ⟨['\n', ' ', ' '], _, rfl, spaces',
      spells_exactly_append "public".toList ⟨[' '], _, rfl, spells_blank,
        spells_exactly_append "async".toList ⟨[' '], _, rfl, spells_blank,
          spells_exactly_append "down".toList nothing⟩⟩⟩⟩
  exact ⟨_, [], (List.append_nil _).symm, spelled⟩

section Calls

variable {sqls : List String}

def callsOf (sqls : List String) : List Char := ("\n\n".intercalate (sqls.map queryCall)).toList

theorem callsOf_singleton (sql : String) : callsOf [sql] = (queryCall sql).toList := by
  rw [callsOf, List.map_singleton, String.intercalate_singleton]

theorem callsOf_cons (sql next : String) (others : List String) :
    callsOf (sql :: next :: others) = (queryCall sql).toList ++ ('\n' :: '\n' :: callsOf (next :: others)) := by
  rw [callsOf, List.map_cons, List.map_cons, String.intercalate_cons_cons, ← List.map_cons, String.append_assoc]
  exact (String.toList_append ..).trans (congrArg _ (String.toList_append ..))

theorem queryCall_split (sql : String) : (queryCall sql).toList =
    "    await queryRunner.query(\x60\n      ".toList ++ (sql.toList ++ "\n    \x60);".toList) := by
  rw [← List.append_assoc, ← String.toList_append]
  exact String.toList_append ..

/-- A character of the calls is one of a statement, or of what stands around it. -/
theorem mem_callsOf {c : Char} (member : c ∈ callsOf sqls) :
    (∃ sql ∈ sqls, c ∈ sql.toList) ∨ c ∈ (queryCall "").toList := by
  have called {sql : String} (member : c ∈ (queryCall sql).toList) : c ∈ sql.toList ∨ c ∈ (queryCall "").toList := by
    rw [queryCall_split, List.mem_append, List.mem_append] at member ⊢
    rcases member with front | own | back
    · exact .inr (.inl front)
    · exact .inl own
    · exact .inr (.inr (.inr back))
  induction sqls with
  | nil => cases member
  | cons sql rest ih =>
    have here (member : c ∈ (queryCall sql).toList) :
        (∃ other ∈ sql :: rest, c ∈ other.toList) ∨ c ∈ (queryCall "").toList :=
      (called member).imp_left fun own => ⟨sql, List.mem_cons_self, own⟩
    cases rest with
    | nil =>
      rw [callsOf_singleton] at member
      exact here member
    | cons next others =>
      have gap : '\n' ∈ (queryCall "").toList := by decide
      rw [callsOf_cons, List.mem_append, List.mem_cons, List.mem_cons] at member
      rcases member with member | rfl | rfl | member
      · exact here member
      · exact .inr gap
      · exact .inr gap
      · exact (ih member).imp_left fun ⟨other, later, own⟩ => ⟨other, List.mem_cons_of_mem _ later, own⟩

theorem callsOf_ended (nonempty : sqls ≠ []) : ∃ front, callsOf sqls = front ++ [';'] := by
  induction sqls with
  | nil => exact absurd rfl nonempty
  | cons sql rest ih =>
    cases rest with
    | nil =>
      refine ⟨"    await queryRunner.query(\x60\n      ".toList ++ (sql.toList ++ "\n    \x60)".toList), ?_⟩
      have last : "\n    \x60);".toList = "\n    \x60)".toList ++ [';'] := by decide
      rw [callsOf_singleton, queryCall_split, last]
      simp only [List.append_assoc]
    | cons next others =>
      obtain ⟨front, same⟩ := ih (List.cons_ne_nil _ _)
      exact ⟨(queryCall sql).toList ++ '\n' :: '\n' :: front, by rw [callsOf_cons, same]; simp⟩

theorem infix_callsOf {sql : String} (member : sql ∈ sqls) : sql.toList <:+: callsOf sqls := by
  have own (sql : String) : sql.toList <:+: (queryCall sql).toList :=
    ⟨_, _, by rw [queryCall_split, List.append_assoc]⟩
  induction sqls with
  | nil => cases member
  | cons first rest ih =>
    cases rest with
    | nil =>
      rw [callsOf_singleton, List.mem_singleton.mp member]
      exact own first
    | cons next others =>
      rw [callsOf_cons]
      rcases List.mem_cons.mp member with rfl | later
      · exact (own sql).trans (List.prefix_append _ _).isInfix
      · exact (ih later).trans ⟨(queryCall first).toList ++ ['\n', '\n'], [], by simp⟩

end Calls

/-- The calls without braces show themselves. -/
theorem beforeFirst_calls {calls : List Char} (braceless : '\x7d' ∉ calls) (ended : ∃ front, calls = front ++ [';']) :
    beforeFirst upClosing (calls ++ "\n  \x7d\n\n  public async down".toList) = calls := by
  refine beforeFirst_of upClosing_plain upClosing_own fun start stop split nonempty starts => ?_
  obtain ⟨read, rest, same, spelled⟩ := starts
  -- the closing ends before the semicolon, and so has no brace
  have braced : '\x7d' ∈ read := by
    obtain ⟨_, _, rfl, -, _, _, rfl, -, further⟩ := spelled
    obtain ⟨_, rfl, -⟩ := spells_exactly further
    simp
  have semicolon : ';' ∉ read := not_mem_of_avoids (by decide) spelled
  have last : ';' ∈ stop := by
    obtain ⟨front, rfl⟩ := ended
    obtain ⟨init, c, rfl⟩ := (List.eq_nil_or_concat stop).resolve_left nonempty
    rw [List.concat_eq_append, ← List.append_assoc] at split
    have same := (List.append_inj' split rfl).2
    rw [List.concat_eq_append, ← same]
    exact List.mem_append_right _ List.mem_cons_self
  rcases List.append_eq_append_iff.mp same with ⟨more, rfl, -⟩ | ⟨more, rfl, -⟩
  · exact semicolon (List.mem_append_left _ last)
  · exact braceless (split ▸ List.mem_append_right _ (List.mem_append_left _ braced))

namespace MigrationFile

/-- The calls of `up`, and what follows them to the name of `down`. -/
def section' (file : MigrationFile) : List Char :=
  '\n' :: (file.calls.toList ++ "\n  \x7d\n\n  public async down".toList)

theorem content_split (file : MigrationFile) :
    ∃ start read front more,
      (fileStart file.className file.header).toList = start ++ (read ++ (front ++ ['\n'])) ∧ upOpening.Spells read ∧
        behindFirst upOpening file.content.toList = some (front ++ (file.section' ++ '(' :: more)) := by
  obtain ⟨more, last⟩ := fileEnd_split file.down
  have whole : file.content.toList = (fileStart file.className file.header ++ file.calls).toList ++
      (fileEndWith file.down).toList := String.toList_append ..
  have front : (fileStart file.className file.header ++ file.calls).toList =
      (fileStart file.className file.header).toList ++ file.calls.toList := String.toList_append ..
  have start := fileStart_split file.className file.header
  obtain ⟨early, read, gap, split, spelled, behind⟩ := behindFirst_suffix
    ((fileFront file.className file.header).toList ++ "';\n\n  ".toList) (file.section' ++ '(' :: more)
  refine ⟨early, read, gap, more, ?_, spelled, ?_⟩
  · rw [start]
    simpa only [List.append_assoc, List.cons_append, List.nil_append] using congrArg (· ++ ['\n']) split
  · rw [whole, front, last, start, ← behind]
    simp only [section', List.append_assoc, List.cons_append, List.nil_append]

/-- The closing of the file itself stands behind every opening. -/
theorem closing_there (file : MigrationFile) (front : List Char) (more : List Char) :
    ∃ early late, front ++ (file.section' ++ '(' :: more) = early ++ late ∧ upClosing.Starts late := by
  refine ⟨front ++ '\n' :: file.calls.toList, _, ?_, (starts_before upClosing_avoids more).mpr upClosing_own⟩
  simp only [section', List.append_assoc, List.cons_append]

/-- The lint looks at what the file shows. -/
theorem upSection_content (file : MigrationFile) : upSection file.content = file.shown := by
  obtain ⟨start, read, front, more, -, -, behind⟩ := file.content_split
  obtain ⟨captures, captured⟩ := search_between upClosing_plain rfl behind (file.closing_there front more)
  rw [upSection, captured, shown, behind]
  rfl

/-- No opening but the file's own one. -/
def Unopened (file : MigrationFile) : Prop :=
  ∀ early read late, (fileStart file.className file.header).toList = early ++ (read ++ late) →
    upOpening.Spells read → late = ['\n']

/-- Where no parenthesis follows a letter p in front of the own opening, there is no other one. -/
theorem unopened_of_apart {file : MigrationFile}
    (apart : ¬ ['p', '('] <:+: (fileFront file.className file.header).toList ++ "';\n\n  public async up".toList) :
    file.Unopened := by
  intro early read late split spelled
  obtain ⟨name, parameters, back, rfl, -, unclosed, -, unopened, short, rfl⟩ := upOpening_shape spelled
  have own : ownOpening.1 = "public async up".toList ++ '(' :: "queryRunner: QueryRunner".toList := by decide
  have joined : "';\n\n  public async up".toList = "';\n\n  ".toList ++ "public async up".toList := by decide
  have behind : '(' ∉ "queryRunner: QueryRunner".toList ++ ')' :: (ownOpening.2 ++ '\x7b' :: ['\n']) := by decide
  have whole : ((fileFront file.className file.header).toList ++ "';\n\n  public async up".toList) ++
        '(' :: ("queryRunner: QueryRunner".toList ++ ')' :: (ownOpening.2 ++ '\x7b' :: ['\n'])) =
      (early ++ (short ++ ['p'])) ++ '(' :: (parameters ++ ')' :: (back ++ '\x7b' :: late)) := by
    rw [fileStart_split, own] at split
    rw [joined]
    simpa only [List.append_assoc, List.cons_append, List.nil_append] using split
  have same : "queryRunner: QueryRunner".toList ++ ')' :: (ownOpening.2 ++ '\x7b' :: ['\n']) =
      parameters ++ ')' :: (back ++ '\x7b' :: late) := by
    rcases List.append_eq_append_iff.mp whole with ⟨middle, -, rest⟩ | ⟨middle, front, rest⟩
    · cases middle with
      | nil => exact (List.cons.inj rest).2
      | cons c middle => exact absurd ((List.cons.inj rest).2 ▸ List.mem_append_right _ List.mem_cons_self) behind
    · cases middle with
      | nil => exact (List.cons.inj rest).2.symm
      | cons c middle =>
        obtain ⟨rfl, -⟩ := List.cons.inj rest
        exact absurd ⟨early ++ short, middle, by rw [front]; simp⟩ apart
  exact (behind_eq (by decide) unopened (behind_eq (by decide) unclosed same)).symm

/-- Without parentheses in the header, there is no other opening. -/
theorem unopened_of_plain {file : MigrationFile} (header : '(' ∉ file.header.toList)
    (className : '(' ∉ file.className.toList) : file.Unopened := by
  have literals : '(' ∉ "import \x7b MigrationInterface, QueryRunner \x7d from 'typeorm';\n\n".toList ∧
      '(' ∉ "\nexport class ".toList ∧ '(' ∉ " implements MigrationInterface \x7b\n  name = '".toList ∧
      '(' ∉ "';\n\n  public async up".toList := by
    decide
  have both {a b : String} (left : '(' ∉ a.toList) (right : '(' ∉ b.toList) : '(' ∉ (a ++ b).toList := by
    rw [String.toList_append, List.mem_append]
    exact not_or.mpr ⟨left, right⟩
  have front : '(' ∉ (fileFront file.className file.header).toList :=
    both (both (both (both (both literals.1 header) literals.2.1) className) literals.2.2.1) className
  refine unopened_of_apart fun inside => ?_
  have member := inside.subset (List.mem_cons_of_mem _ List.mem_cons_self)
  exact (List.mem_append.mp member).elim front literals.2.2.2

/-- Without another opening, the lint looks at what stands in `up`, whatever the texts of header and `down`. -/
theorem shown_of_unopened {file : MigrationFile} (unopened : file.Unopened) :
    file.shown = String.ofList (beforeFirst upClosing file.section') := by
  obtain ⟨start, read, front, more, split, spelled, behind⟩ := file.content_split
  obtain rfl : front = [] := by
    have last := unopened start read _ split spelled
    exact List.append_left_eq_self.mp last
  have there : ∃ early late, file.section' = early ++ late ∧ upClosing.Starts late :=
    ⟨'\n' :: file.calls.toList, _, rfl, upClosing_own⟩
  rw [shown, behind, Option.getD_some, List.nil_append, beforeFirst_before upClosing_plain upClosing_avoids there]

end MigrationFile

/-! ## Complaints -/

/-- What the lint may have to say. -/
inductive Complaint where
  | forbidden (source : String)
  | noIfNotExists
  | noIfExists
  | bareTable
  | bareIndex
  | notNull
deriving DecidableEq

namespace Complaint

def text (type : MigrationType) : Complaint → String
  | forbidden source => "❌ Forbidden pattern found in " ++ type.name ++ " migration: " ++ source
  | noIfNotExists => "❌ Required idempotency pattern missing in SAFE migration: IF NOT EXISTS"
  | noIfExists => "❌ Required idempotency pattern missing in SAFE migration: IF EXISTS"
  | bareTable => "❌ CREATE TABLE should use IF NOT EXISTS for idempotency"
  | bareIndex => "❌ CREATE INDEX should use IF NOT EXISTS for idempotency"
  | notNull => "❌ ADD COLUMN NOT NULL should be done in separate steps (expand → migrate → contract)"

/-- The phrase stands in the text, in letters of any case. -/
def Says (source text : String) : Prop := source.toList.map Char.toLower <:+: text.toList.map Char.toLower

/-- What must be so in a section for the lint to say it. -/
def Holds (type : MigrationType) (upSection : String) : Complaint → Prop
  | forbidden source => source ∈ FORBIDDEN_PATTERNS type ∧ Says source (contentWithoutComments upSection)
  | noIfNotExists => type = .SAFE ∧ (spaced "CREATE" ["TABLE", "INDEX"]).test upSection ∧
      ¬ Says "IF NOT EXISTS" upSection
  | noIfExists => type = .SAFE ∧ (spaced "DROP" ["TABLE", "INDEX", "COLUMN"]).test upSection ∧
      ¬ Says "IF EXISTS" upSection
  | bareTable => (phraseAndName "CREATE TABLE").test upSection ∧ ¬ Says "IF NOT EXISTS" upSection
  | bareIndex => (phraseAndName "CREATE INDEX").test upSection ∧ ¬ Says "IF NOT EXISTS" upSection
  | notNull => addColumnNotNull.test upSection

end Complaint

theorem phrase_test (source text : String) : (phrase source).test text ↔ Complaint.Says source text := by
  have plain : (phrase source).anchorless := anchorless_followed _ _
  constructor
  · intro found
    obtain ⟨early, read, after, split, spelled⟩ := spells_of_search found
    obtain ⟨letters, rest, rfl, same, -, -⟩ := spells_followed spelled
    refine ⟨early.map Char.toLower, (rest ++ after).map Char.toLower, ?_⟩
    rw [← same, split]
    simp only [List.map_append, List.append_assoc]
  · rintro ⟨early, after, split⟩
    obtain ⟨front, back, whole, before, rfl⟩ := List.map_eq_append_iff.mp split.symm
    obtain ⟨early, letters, rfl, rfl, same⟩ := List.map_eq_append_iff.mp before
    by_contra unfound
    rw [Bool.not_eq_true] at unfound
    have spelled : (phrase source).Spells (letters ++ []) := spells_followed_of same spells_nothing
    rw [List.append_nil] at spelled
    exact absent_of_test plain unfound early letters back (by rw [whole, List.append_assoc]) spelled

private theorem says_eq_false (source text : String) : (phrase source).test text = false ↔ ¬ Complaint.Says source text := by
  rw [← phrase_test, Bool.not_eq_true]

private theorem mem_errorIf {found : Bool} {error error' : String} :
    error ∈ errorIf found error' ↔ found ∧ error = error' := by
  cases found <;> simp [errorIf]

namespace Complaint

private theorem exists_iff {p : Complaint → Prop} :
    (∃ complaint, p complaint) ↔ (∃ source, p (forbidden source)) ∨ p noIfNotExists ∨ p noIfExists ∨ p bareTable ∨
      p bareIndex ∨ p notNull := by
  constructor
  · rintro ⟨complaint, holds⟩
    cases complaint with
    | forbidden source => exact .inl ⟨source, holds⟩
    | noIfNotExists => exact .inr (.inl holds)
    | noIfExists => exact .inr (.inr (.inl holds))
    | bareTable => exact .inr (.inr (.inr (.inl holds)))
    | bareIndex => exact .inr (.inr (.inr (.inr (.inl holds))))
    | notNull => exact .inr (.inr (.inr (.inr (.inr holds))))
  · rintro (⟨source, holds⟩ | holds | holds | holds | holds | holds)
    all_goals exact ⟨_, holds⟩

/-- No two complaints read the same. -/
theorem text_injective (type : MigrationType) : Function.Injective (text type) := by
  have third (complaint : Complaint) : (complaint.text type).toList[2]? = some (match complaint with
      | forbidden _ => 'F'
      | noIfNotExists | noIfExists => 'R'
      | bareTable | bareIndex => 'C'
      | notNull => 'A') := by
    cases complaint with
    | forbidden source =>
      have front : "❌ Forbidden pattern found in ".toList[2]? = some 'F' := by decide
      have whole : (text type (forbidden source)).toList = "❌ Forbidden pattern found in ".toList ++
          (type.name ++ (" migration: " ++ source)).toList := by
        rw [← String.toList_append, ← String.append_assoc, ← String.append_assoc]
        rfl
      rw [whole, List.getElem?_append_left (List.getElem?_eq_some_iff.mp front).1, front]
    | noIfNotExists => exact (by decide : (text .SAFE noIfNotExists).toList[2]? = some 'R')
    | noIfExists => exact (by decide : (text .SAFE noIfExists).toList[2]? = some 'R')
    | bareTable => exact (by decide : (text .SAFE bareTable).toList[2]? = some 'C')
    | bareIndex => exact (by decide : (text .SAFE bareIndex).toList[2]? = some 'C')
    | notNull => exact (by decide : (text .SAFE notNull).toList[2]? = some 'A')
  intro complaint complaint' same
  have letters := (third complaint).symm.trans ((congrArg (·.toList[2]?) same).trans (third complaint'))
  cases complaint with
  | forbidden source =>
    cases complaint' with
    | forbidden source' => exact congrArg forbidden ((String.append_right_inj _).mp same)
    | noIfNotExists | noIfExists | bareTable | bareIndex | notNull => simp at letters
  | noIfNotExists | noIfExists | bareTable | bareIndex | notNull =>
    have tables : "❌ CREATE TABLE should use IF NOT EXISTS for idempotency" ≠
        "❌ CREATE INDEX should use IF NOT EXISTS for idempotency" := by decide
    have checks : "❌ Required idempotency pattern missing in SAFE migration: IF NOT EXISTS" ≠
        "❌ Required idempotency pattern missing in SAFE migration: IF EXISTS" := by decide
    cases complaint' <;> first
      | rfl
      | exact absurd same tables
      | exact absurd same tables.symm
      | exact absurd same checks
      | exact absurd same checks.symm
      | simp at letters

end Complaint

/-- The errors of a section are the complaints that hold of it. -/
theorem mem_sectionErrors {type : MigrationType} {upSection error : String} :
    error ∈ sectionErrors type upSection ↔ ∃ complaint : Complaint, complaint.Holds type upSection ∧
      error = complaint.text type := by
  unfold sectionErrors
  simp only [List.mem_append, List.mem_flatMap, mem_errorIf]
  rw [Complaint.exists_iff, or_assoc, or_assoc, or_assoc, or_assoc]
  have forbidden : (∃ source ∈ FORBIDDEN_PATTERNS type, (phrase source).test (contentWithoutComments upSection) ∧
      error = (Complaint.forbidden source).text type) ↔
      ∃ source, (Complaint.forbidden source).Holds type upSection ∧
        error = (Complaint.forbidden source).text type := by
    simp only [Complaint.Holds, phrase_test, and_assoc]
  have missing (pattern : Pattern) (source : String) :
      (pattern.test upSection && !(phrase source).test upSection) ↔
        pattern.test upSection ∧ ¬ Complaint.Says source upSection := by
    rw [Bool.and_eq_true, Bool.not_eq_true', says_eq_false]
  have safe (pattern : Pattern) (source : String) :
      (decide (type = .SAFE) && pattern.test upSection && !(phrase source).test upSection) ↔
        type = .SAFE ∧ pattern.test upSection ∧ ¬ Complaint.Says source upSection := by
    rw [Bool.and_assoc, Bool.and_eq_true, missing, decide_eq_true_eq]
  exact or_congr forbidden (or_congr (and_congr (safe _ _) Iff.rfl) (or_congr (and_congr (safe _ _) Iff.rfl)
    (or_congr (and_congr (missing _ _) Iff.rfl) (or_congr (and_congr (missing _ _) Iff.rfl) Iff.rfl))))

end DriverMicroServices.MigrationLint
