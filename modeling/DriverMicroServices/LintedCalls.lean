import DriverMicroServices.LintSoundness
import DriverMicroServices.MigrationRoundTrip
import DriverMicroServices.Texts.Words

/-! What the lint says of a file by the words of its statements. The calls around the statements are made of
other characters, so that a match stands in one of the statements. -/
namespace DriverMicroServices.MigrationLint
open Texts.Regex Texts.Regex.Pattern MigrationGenerator

/-! ## The front of a file -/

/-- No parenthesis follows a letter p. -/
def sober (before : Char) : List Char → Bool
  | [] => true
  | c :: cs => (c ≠ '(' || before ≠ 'p') && sober c cs

section Sober

variable {a b : List Char} {before : Char}

private theorem sober_weaken (strong : sober 'p' a) (before : Char) : sober before a := by
  cases a with
  | nil => rfl
  | cons c cs =>
    simp only [sober, Bool.and_eq_true, Bool.or_eq_true, decide_eq_true_eq, ne_eq] at strong ⊢
    exact ⟨.inl (strong.1.resolve_right (by simp)), strong.2⟩

theorem sober_append (first : sober before a) (second : sober 'p' b) : sober before (a ++ b) := by
  induction a generalizing before with
  | nil => exact sober_weaken second before
  | cons c cs ih =>
    obtain ⟨here, later⟩ := Bool.and_eq_true_iff.mp first
    exact Bool.and_eq_true_iff.mpr ⟨here, ih later⟩

theorem sober_of_absent (absent : '(' ∉ a) : sober before a := by
  induction a generalizing before with
  | nil => rfl
  | cons c cs ih =>
    obtain ⟨other, later⟩ := not_or.mp (List.mem_cons.not.mp absent)
    simp only [sober, Bool.and_eq_true, Bool.or_eq_true, decide_eq_true_eq, ne_eq]
    exact ⟨.inl (Ne.symm other), ih later⟩

private theorem apart_of_sober (clean : sober before a) : ¬ ['p', '('] <:+: a := by
  rintro ⟨start, stop, rfl⟩
  induction start generalizing before with
  | nil => simp [sober] at clean
  | cons c cs ih => exact ih (Bool.and_eq_true_iff.mp clean).2

end Sober

/-- The texts that a front is made of. -/
def Sober (text : String) : Prop := sober 'p' text.toList

theorem Sober.append {a b : String} (first : Sober a) (second : Sober b) : Sober (a ++ b) := by
  rw [Sober, String.toList_append]
  exact sober_append first second

theorem sober_ofList {a : List Char} (clean : sober 'p' a) : Sober (String.ofList a) := by
  rwa [Sober, String.toList_ofList]

private theorem sober_className (now : Nat) (type : Prefix) {name : MigrationName} (plain : '(' ∉ name.text.toList) :
    Sober (classNameOf (generateTimestamp now) type name.text) := by
  have word : Sober type.word := by cases type <;> exact rfl
  have digits : Sober (generateTimestamp now) := sober_of_absent (absent_from_toString (by decide))
  exact (word.append (sober_of_absent plain)).append digits

private theorem sober_checklist (type : Prefix) : Sober (checklist type) := by
  cases type with
  | SAFE_ | DATA_ =>
    unfold checklist
    refine .append (.append (.append ?_ ?_) ?_) ?_ <;> exact sober_ofList rfl
  | BREAKING_ =>
    unfold checklist
    refine .append (.append (.append (.append ?_ ?_) ?_) ?_) ?_ <;> exact sober_ofList rfl

private theorem sober_header (type : Prefix) {name : MigrationName} (plain : '(' ∉ name.text.toList) (count : Nat) :
    Sober (buildLifecycleHeader type name.text (phaseName type) count) := by
  have phase : Sober (phaseName type) := by cases type <;> exact rfl
  have word : Sober type.word := by cases type <;> exact rfl
  have level : Sober (risk type) := by cases type <;> exact rfl
  have roll : Sober (rollback type) := by cases type <;> exact rfl
  have approval : Sober (breakingApproval type) := by cases type <;> exact rfl
  have digits : Sober (toString count) := sober_of_absent (absent_from_toString (by decide))
  have named : Sober name.text := sober_of_absent plain
  have intent : Sober s!"{phaseName type} phase for {name.text} — {count} statement(s)" := by
    refine .append (.append (.append (.append (.append phase ?_) named) ?_) digits) ?_ <;>
      exact sober_ofList rfl
  unfold buildLifecycleHeader headerWith
  refine .append (.append (.append (.append (.append (.append (.append (.append (.append (.append (.append (.append
    ?_ intent) ?_) word) ?_) level) ?_) roll) ?_) approval) ?_) (sober_checklist type)) ?_ <;>
    exact sober_ofList rfl

/-- The header of a file for a phase opens nothing. -/
theorem unopened_lifecycle {file : MigrationFile} {type : Prefix} {name : MigrationName} {now count : Nat}
    (plain : '(' ∉ name.text.toList) (className : file.className = classNameOf (generateTimestamp now) type name.text)
    (header : file.header = buildLifecycleHeader type name.text (phaseName type) count) : file.Unopened := by
  have named := sober_className now type plain
  have literals : sober 'p' "import \x7b MigrationInterface, QueryRunner \x7d from 'typeorm';\n\n".toList ∧
      sober 'p' "\nexport class ".toList ∧ sober 'p' " implements MigrationInterface \x7b\n  name = '".toList := by
    decide
  have front : Sober (fileFront file.className file.header) := by
    rw [className, header]
    exact .append (.append (.append (.append (.append literals.1 (sober_header type plain count)) literals.2.1) named)
      literals.2.2) named
  have last : sober 'p' "';\n\n  public async up".toList := by decide
  exact MigrationFile.unopened_of_apart (apart_of_sober (sober_append front last))

/-! ## The calls -/

/-- What a call of the query runner begins with. -/
def callFront : List Char := "    await queryRunner.query(".toList

/-- A statement between its backticks. -/
def between' (sql : String) : List Char := "\n      ".toList ++ (sql.toList ++ "\n    ".toList)

/-- The calls from the first backtick on. -/
def bodies : List String → List Char
  | [] => []
  | [sql] => between' sql ++ '\x60' :: ");".toList
  | sql :: rest => between' sql ++ '\x60' :: (");\n\n".toList ++ callFront) ++ '\x60' :: bodies rest

private theorem bodies_cons (sql next : String) (others : List String) : bodies (sql :: next :: others) =
    between' sql ++ '\x60' :: (");\n\n".toList ++ callFront) ++ '\x60' :: bodies (next :: others) := rfl

theorem queryCall_bodies (sql : String) : (queryCall sql).toList = callFront ++ '\x60' :: bodies [sql] := by
  have first : "    await queryRunner.query(\x60\n      ".toList = callFront ++ '\x60' :: "\n      ".toList := by
    decide
  have last : "\n    \x60);".toList = "\n    ".toList ++ '\x60' :: ");".toList := by decide
  have joined (front start stop ending : List Char) :
      (front ++ '\x60' :: start) ++ (sql.toList ++ (stop ++ '\x60' :: ending)) =
        front ++ '\x60' :: ((start ++ (sql.toList ++ stop)) ++ '\x60' :: ending) := by
    simp only [List.append_assoc, List.cons_append]
  exact (queryCall_split sql).trans
    ((congrArg₂ (fun front ending => front ++ (sql.toList ++ ending)) first last).trans (joined ..))

private theorem callsOf_bodies {sqls : List String} (nonempty : sqls ≠ []) :
    callsOf sqls = callFront ++ '\x60' :: bodies sqls := by
  induction sqls with
  | nil => exact absurd rfl nonempty
  | cons sql rest ih =>
    cases rest with
    | nil => exact (callsOf_singleton sql).trans (queryCall_bodies sql)
    | cons next others =>
      have gap : ");\n\n".toList = ");".toList ++ ['\n', '\n'] := by decide
      have here : bodies [sql] = between' sql ++ '\x60' :: ");".toList := rfl
      rw [callsOf_cons, queryCall_bodies, ih (List.cons_ne_nil _ _), bodies_cons, gap, here]
      simp only [List.append_assoc, List.cons_append, List.nil_append]

section Calls

variable {pattern : Pattern} {sqls : List String}

/-- What stands around the statements does not match, and does not help to. -/
structure Inner (pattern : Pattern) : Prop where
  dark : Dark pattern
  apart : ∀ read, pattern.Spells read → '\x60' ∉ read
  front : Absent pattern ('\n' :: callFront)
  gap : Absent pattern (");\n\n".toList ++ callFront)
  last : Absent pattern ");".toList

theorem absent_between' {sql : String} (inner : Inner pattern) (absent : Absent pattern sql.toList) :
    Absent pattern (between' sql) := by
  have blank {text : String} (spaces : text.toList.all isSpace) : ∀ c ∈ text.toList, isSpace c :=
    List.all_eq_true.mp spaces
  exact absent_padded inner.dark (blank (by decide)) (blank (by decide)) absent

private theorem absent_bodies (inner : Inner pattern) (each : ∀ sql ∈ sqls, Absent pattern sql.toList) (nonempty : sqls ≠ []) :
    Absent pattern (bodies sqls) := by
  induction sqls with
  | nil => exact absurd rfl nonempty
  | cons sql rest ih =>
    obtain ⟨here, later⟩ := List.forall_mem_cons.mp each
    cases rest with
    | nil => exact absent_apart inner.apart (absent_between' inner here) inner.last
    | cons next others =>
      have further := ih later (List.cons_ne_nil _ _)
      exact absent_apart inner.apart (absent_apart inner.apart (absent_between' inner here) inner.gap) further

/-- A pattern that no statement has in it is not in the calls. -/
theorem absent_calls (inner : Inner pattern) (each : ∀ sql ∈ sqls, Absent pattern sql.toList) (nonempty : sqls ≠ []) :
    Absent pattern ('\n' :: callsOf sqls) := by
  rw [callsOf_bodies nonempty, ← List.cons_append]
  exact absent_apart inner.apart inner.front (absent_bodies inner each nonempty)

end Calls

/-! ## Patterns that the calls do not match -/

section Inner

variable {word second : String}

theorem isSpace_of_isWord {c : Char} (word : isWord c) : isSpace c = false := by
  have small : ∀ n ∈ List.range 128, isWord (Char.ofNat n) → isSpace (Char.ofNat n) = false := by decide +kernel
  have bound : c.toNat < 128 := by
    delta isWord Char.isAlphanum Char.isAlpha Char.isUpper Char.isLower Char.isDigit at word
    simp only [Bool.or_eq_true, Bool.and_eq_true, decide_eq_true_eq] at word
    rcases word with ((upper | lower) | digit) | rfl
    · exact lt_of_le_of_lt (b := 90) upper.2 (by omega)
    · exact lt_of_le_of_lt (b := 122) lower.2 (by omega)
    · exact lt_of_le_of_lt (b := 57) digit.2 (by omega)
    · decide
  have dark := small c.toNat (List.mem_range.mpr bound)
  rw [Char.ofNat_toNat] at dark
  exact dark word

/-- The two words are not in the calls, and made of other characters than what stands around the statements. -/
def isInner (word second : String) : Bool :=
  edged word second && '\x60' ∉ word.toList.map Char.toLower && '\x60' ∉ second.toList.map Char.toLower &&
    [String.ofList ('\n' :: callFront), String.ofList (");\n\n".toList ++ callFront), ");"].all
      fun literal => !(pair word second).test literal

theorem inner_pair (checked : isInner word second) : Inner (pair word second) := by
  simp only [isInner, Bool.and_eq_true, decide_eq_true_eq, List.all_cons, List.all_nil, and_true,
    Bool.not_eq_true'] at checked
  obtain ⟨⟨⟨edges, first⟩, last⟩, front, gap, ending⟩ := checked
  have absent {literal : String} (unread : (pair word second).test literal = false) :
      Absent (pair word second) literal.toList :=
    absent_of_test (anchorless_pair _ _) unread
  have front' := absent front
  have gap' := absent gap
  rw [String.toList_ofList] at front' gap'
  exact ⟨dark_pair edges, apart_pair (by decide) (by decide) first last, front', gap', absent ending⟩

/-- A phrase that begins with two absent words is not said. -/
theorem unsaid_of_absent {source text : String} {more : List Char}
    (split : source.toList = word.toList ++ ' ' :: (second.toList ++ more))
    (absent : Absent (pair word second) text.toList) : ¬ Complaint.Says source text := by
  rw [← phrase_test, Bool.not_eq_true]
  exact test_of_absent ((contains_phrase split).absent absent)

private theorem spells_anyOf {list : List String} {read : List Char} (spelled : (anyOf list).Spells read) :
    ∃ second ∈ list, (Pattern.text second empty).Spells read := by
  induction list with
  | nil =>
    obtain ⟨c, -, impossible⟩ := spelled
    cases impossible
  | cons first rest ih =>
    cases rest with
    | nil => exact ⟨first, List.mem_cons_self, spelled⟩
    | cons other others =>
      rcases spelled with here | later
      · exact ⟨first, List.mem_cons_self, here⟩
      · obtain ⟨second, member, found⟩ := ih later
        exact ⟨second, List.mem_cons_of_mem _ member, found⟩

/-- A word and one of a list are absent where each pair is. -/
theorem absent_spaced {list : List String} {text : List Char}
    (absent : ∀ second ∈ list, Absent (pair word second) text) : Absent (spaced word list) text := by
  intro before read after split spelled
  obtain ⟨letters, rest, rfl, same, ⟨spaces, late, rfl, blank, chosen⟩, -⟩ := spells_followed spelled
  obtain ⟨second, member, found⟩ := spells_anyOf chosen
  exact absent second member before _ after split (spells_followed_of same ⟨spaces, late, rfl, blank, found⟩)

theorem phraseAndName_split {source : String} (listed : source ∈ ["CREATE TABLE", "CREATE INDEX"]) :
    ∃ second, source.toList = "CREATE".toList ++ ' ' :: (second.toList ++ []) ∧ isInner "CREATE" second ∧
      second ∈ ["TABLE", "INDEX"] := by
  have inner : isInner "CREATE" "TABLE" ∧ isInner "CREATE" "INDEX" := by decide
  rcases List.mem_pair.mp listed with rfl | rfl
  · exact ⟨"TABLE", by decide, inner.1, by simp⟩
  · exact ⟨"INDEX", by decide, inner.2, by simp⟩

private theorem inner_phraseAndName {source : String} (listed : source ∈ ["CREATE TABLE", "CREATE INDEX"]) :
    Inner (phraseAndName source) := by
  obtain ⟨second, split, inner, -⟩ := phraseAndName_split listed
  have begins : Contains (pair "CREATE" second) (phraseAndName source) := contains_phrase split
  have within := inner_pair inner
  refine ⟨?_, ?_, begins.absent within.front, begins.absent within.gap, begins.absent within.last⟩
  · -- it begins with the letter of the phrase, and ends with one of the name
    intro read spelled
    obtain ⟨letters, rest, rfl, same, ⟨spaces, name, rfl, -, named⟩, -⟩ := spells_followed spelled
    obtain ⟨nonempty, all⟩ := (spells_plus _ _).mp named
    rw [split] at same
    obtain ⟨c, letters, rfl, letter, -⟩ := List.map_eq_cons_iff.mp same
    obtain ⟨front, last, rfl⟩ := (List.eq_nil_or_concat' name).resolve_left nonempty
    refine ⟨⟨c, _, rfl, isSpace_of_toLower letter (by decide)⟩, c :: letters ++ (spaces ++ front), last, ?_,
      isSpace_of_isWord (all last (by simp))⟩
    simp only [List.append_assoc, List.cons_append]
  · have never : ∀ source ∈ ["CREATE TABLE", "CREATE INDEX"], (phraseAndName source).avoids '\x60' := by decide
    exact fun read spelled => not_mem_of_avoids (never source listed) spelled

end Inner

/-! ## Files without complaints -/

/-- The first two words of what the lint has to say something about. -/
def unwelcome : MigrationType → List (String × String)
  | .SAFE =>
    [("DROP", "TABLE"), ("DROP", "COLUMN"), ("DROP", "INDEX"), ("ALTER", "COLUMN"), ("SET", "NOT"), ("ALTER", "TYPE"),
      ("RENAME", "COLUMN"), ("RENAME", "TABLE"), ("CREATE", "TABLE"), ("CREATE", "INDEX"), ("NOT", "NULL")]
  | .DATA => [("ADD", "COLUMN"), ("DROP", "TABLE"), ("DROP", "COLUMN"), ("ALTER", "TYPE")]
  | .BREAKING => [("ADD", "COLUMN")]

/-- A statement that passes has none of these words, no bare table or index, and no marks. -/
structure Passes (type : MigrationType) (sql : String) : Prop where
  absent : ∀ two ∈ unwelcome type, Absent (pair two.1 two.2) sql.toList
  named : ∀ source ∈ ["CREATE TABLE", "CREATE INDEX"], Absent (phraseAndName source) sql.toList
  unmarked : ∀ c ∈ marks, c ∉ sql.toList

section Silent

variable {type : MigrationType}

private theorem inner_unwelcome {two : String × String} (listed : two ∈ unwelcome type) : Inner (pair two.1 two.2) := by
  have checked : ∀ type ∈ [MigrationType.SAFE, .DATA, .BREAKING], ∀ two ∈ unwelcome type, isInner two.1 two.2 := by
    decide
  exact inner_pair (checked type (by cases type <;> simp) two listed)

/-- Every forbidden phrase begins with two unwelcome words. -/
theorem unwelcome_forbidden {source : String} (listed : source ∈ FORBIDDEN_PATTERNS type) :
    ∃ two ∈ unwelcome type, ∃ more, source.toList = two.1.toList ++ ' ' :: (two.2.toList ++ more) := by
  have begins : ∀ type ∈ [MigrationType.SAFE, .DATA, .BREAKING], (FORBIDDEN_PATTERNS type).all fun source =>
      (unwelcome type).any fun two => (two.1.toList ++ ' ' :: two.2.toList).isPrefixOf source.toList := by
    decide
  have some := List.all_eq_true.mp (begins type (by cases type <;> simp)) source listed
  obtain ⟨two, member, front⟩ := List.any_eq_true.mp some
  obtain ⟨more, split⟩ := List.isPrefixOf_iff_prefix.mp front
  exact ⟨two, member, more, by rw [← split]; simp⟩

/-- The lint says nothing about a file whose statements pass. -/
theorem silent {file : MigrationFile} (unopened : file.Unopened) (nonempty : file.sqls ≠ [])
    (passes : ∀ sql ∈ file.sqls, Passes type sql) (complaint : Complaint) : ¬ complaint.Holds type file.shown := by
  obtain ⟨shown, uncommented⟩ := shown_plain unopened nonempty fun sql member => (passes sql member).unmarked
  have text : file.shown.toList = '\n' :: callsOf file.sqls := by rw [shown, String.toList_ofList]
  have absent (word second : String) (listed : (word, second) ∈ unwelcome type) :
      Absent (pair word second) file.shown.toList := by
    rw [text]
    exact absent_calls (inner_unwelcome listed) (fun sql member => (passes sql member).absent _ listed) nonempty
  have named {source : String} (listed : source ∈ ["CREATE TABLE", "CREATE INDEX"]) :
      (phraseAndName source).test file.shown = false := by
    refine test_of_absent ?_
    rw [text]
    exact absent_calls (inner_phraseAndName listed) (fun sql member => (passes sql member).named source listed) nonempty
  cases complaint with
  | forbidden source =>
    rintro ⟨listed, said⟩
    obtain ⟨two, member, more, split⟩ := unwelcome_forbidden listed
    rw [uncommented] at said
    exact unsaid_of_absent split (absent _ _ member) said
  | noIfNotExists =>
    rintro ⟨rfl, found, -⟩
    have listed : ∀ second ∈ ["TABLE", "INDEX"], ("CREATE", second) ∈ unwelcome .SAFE := by decide
    have none : Absent (spaced "CREATE" ["TABLE", "INDEX"]) file.shown.toList :=
      absent_spaced fun second member => absent "CREATE" second (listed second member)
    rw [test_of_absent none] at found
    cases found
  | noIfExists =>
    rintro ⟨rfl, found, -⟩
    have listed : ∀ second ∈ ["TABLE", "INDEX", "COLUMN"], ("DROP", second) ∈ unwelcome .SAFE := by decide
    have none : Absent (spaced "DROP" ["TABLE", "INDEX", "COLUMN"]) file.shown.toList :=
      absent_spaced fun second member => absent "DROP" second (listed second member)
    rw [test_of_absent none] at found
    cases found
  | bareTable =>
    rintro ⟨found, -⟩
    rw [named (by simp)] at found
    cases found
  | bareIndex =>
    rintro ⟨found, -⟩
    rw [named (by simp)] at found
    cases found
  | notNull =>
    intro found
    have split : "ADD COLUMN".toList = "ADD".toList ++ ' ' :: ("COLUMN".toList ++ []) := by decide
    have split' : "NOT NULL".toList = "NOT".toList ++ ' ' :: ("NULL".toList ++ []) := by decide
    have added : Contains (pair "ADD" "COLUMN") addColumnNotNull :=
      Contains.after_text (Contains.seq_right (contains_phrase split)) "ALTER TABLE"
    have required : Contains (pair "NOT" "NULL") addColumnNotNull :=
      Contains.after_text (Contains.seq_right (Contains.after_text (Contains.seq_right (contains_phrase split'))
        "ADD COLUMN")) "ALTER TABLE"
    have none : addColumnNotNull.test file.shown = false := by
      cases type with
      | SAFE => exact test_of_absent (required.absent (absent "NOT" "NULL" (by decide)))
      | DATA => exact test_of_absent (added.absent (absent "ADD" "COLUMN" (by decide)))
      | BREAKING => exact test_of_absent (added.absent (absent "ADD" "COLUMN" (by decide)))
    exact Bool.false_ne_true (none.symm.trans found)

end Silent

end DriverMicroServices.MigrationLint
