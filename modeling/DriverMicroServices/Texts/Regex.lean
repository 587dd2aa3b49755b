/-! Regular expressions as a backtracking engine matches them: the ways to match at a place are
listed in the order in which the engine tries them, and the first way at the first place counts. -/
namespace Texts.Regex

/-- A place in a text: the character before it, and the text from it on. -/
structure Place where
  before : Option Char
  rest : List Char
deriving DecidableEq

/-- `group` captures what its pattern matches. `many` takes as much as it can, `few` as little. -/
inductive Pattern where
  | one (test : Char → Bool)
  | many (test : Char → Bool)
  | few (test : Char → Bool)
  | seq (first second : Pattern)
  | either (first second : Pattern)
  | group (inner : Pattern)
  | boundary
  | lineStart
  | finish

/-- `\w` -/
def isWord (c : Char) : Bool := c.isAlphanum || c = '_'

/-- `\s` -/
def isSpace (c : Char) : Bool :=
  c.isWhitespace || c.val = 0x0b || c.val = 0x0c || c.val = 0xa0 || c.val = 0xfeff ||
    c.val = 0x1680 || (0x2000 ≤ c.val && c.val ≤ 0x200a) || c.val = 0x2028 || c.val = 0x2029 ||
    c.val = 0x202f || c.val = 0x205f || c.val = 0x3000

def isLineEnd (c : Char) : Bool := c = '\n' || c = '\r' || c.val = 0x2028 || c.val = 0x2029

/-- `.` -/
def isDot (c : Char) : Bool := !isLineEnd c

namespace Pattern

/-- The ways to go on over characters that pass the test, the longest first. -/
def stretch (test : Char → Bool) : Option Char → List Char → List Place
  | before, [] => [⟨before, []⟩]
  | before, c :: cs =>
    if test c then stretch test (some c) cs ++ [⟨before, c :: cs⟩] else [⟨before, c :: cs⟩]

/-- `\b`: just one of the characters around the place is a word character. -/
def atBoundary (place : Place) : Bool := place.before.any isWord != place.rest.head?.any isWord

/-- What lies between two places. -/
def between (start finish : Place) : List Char := start.rest.take (start.rest.length - finish.rest.length)

/-- The ways to match at a place, each with what it captures. -/
def ways : Pattern → Place → List (Place × List String)
  | one test, place =>
    match place.rest with
    | c :: cs => if test c then [(⟨some c, cs⟩, [])] else []
    | [] => []
  | many test, place => (stretch test place.before place.rest).map (·, [])
  | few test, place => (stretch test place.before place.rest).reverse.map (·, [])
  | seq first second, place =>
    (first.ways place).flatMap fun way => (second.ways way.1).map fun next => (next.1, way.2 ++ next.2)
  | either first second, place => first.ways place ++ second.ways place
  | group inner, place =>
    (inner.ways place).map fun way => (way.1, String.ofList (between place way.1) :: way.2)
  | boundary, place => if atBoundary place then [(place, [])] else []
  | lineStart, place => if place.before.all isLineEnd then [(place, [])] else []
  | finish, place => if place.rest.isEmpty then [(place, [])] else []

/-- The captures of the first match from a place on. -/
def searchFrom (pattern : Pattern) (before : Option Char) (rest : List Char) : Option (List String) :=
  match (pattern.ways ⟨before, rest⟩).head?, rest with
  | some way, _ => some way.2
  | none, [] => none
  | none, c :: cs => searchFrom pattern (some c) cs

/-- `text.match(pattern)`, without the text of the whole match. -/
def search (pattern : Pattern) (text : String) : Option (List String) :=
  pattern.searchFrom none text.toList

/-- `pattern.test(text)` -/
def test (pattern : Pattern) (text : String) : Bool := (pattern.search text).isSome

/-! ## Patterns to write with -/

/-- A letter of either case, another character as it is. -/
def letter (c : Char) : Pattern := one fun other => other.toLower = c.toLower

/-- The characters of a text one after the other, of either case. -/
def followed : List Char → Pattern → Pattern
  | [], next => next
  | c :: cs, next => seq (letter c) (followed cs next)

/-- A literal text, and what follows it. -/
def text (literal : String) (next : Pattern) : Pattern := followed literal.toList next

/-- Nothing. -/
def empty : Pattern := many fun _ => false

/-- One or more, as many as there are. -/
def plus (test : Char → Bool) : Pattern := seq (one test) (many test)

/-- One or more, as few as will do. -/
def plusFew (test : Char → Bool) : Pattern := seq (one test) (few test)

/-- Words that white space separates, and what follows the last of them. -/
def words : List String → Pattern → Pattern
  | [], next => next
  | [word], next => text word next
  | word :: rest, next => text word (seq (plus isSpace) (words rest next))

/-- A character or none. -/
def optional (test : Char → Bool) : Pattern := either (one test) empty

/-- `"([^"]+)"`, and what follows. -/
def quoted (next : Pattern) : Pattern :=
  seq (one (· = '"')) (seq (group (plus (· ≠ '"'))) (seq (one (· = '"')) next))

/-! ## What a match is -/

/-- The texts that a pattern matches, whatever stands around them. -/
def Spells : Pattern → List Char → Prop
  | one test, text => ∃ c, text = [c] ∧ test c
  | many test, text => ∀ c ∈ text, test c
  | few test, text => ∀ c ∈ text, test c
  | seq first second, text => ∃ start rest, text = start ++ rest ∧ first.Spells start ∧ second.Spells rest
  | either first second, text => first.Spells text ∨ second.Spells text
  | group inner, text => inner.Spells text
  | boundary, text => text = []
  | lineStart, text => text = []
  | finish, text => text = []

/-- What a pattern may capture. -/
def Captures : Pattern → List String → Prop
  | seq first second, texts => ∃ early late, texts = early ++ late ∧ first.Captures early ∧ second.Captures late
  | either first second, texts => first.Captures texts ∨ second.Captures texts
  | group inner, texts => ∃ text rest, texts = text :: rest ∧ inner.Spells text.toList ∧ inner.Captures rest
  | _, texts => texts = []

theorem stretch_sound {test : Char → Bool} {before : Option Char} {rest : List Char} {place : Place}
    (reached : place ∈ stretch test before rest) :
    ∃ read, rest = read ++ place.rest ∧ ∀ c ∈ read, test c := by
  induction rest generalizing before with
  | nil =>
    rw [stretch, List.mem_singleton] at reached
    exact ⟨[], by simp [reached], by simp⟩
  | cons c cs ih =>
    have here (same : place = ⟨before, c :: cs⟩) :
        ∃ read, c :: cs = read ++ place.rest ∧ ∀ c ∈ read, test c := ⟨[], by simp [same], by simp⟩
    unfold stretch at reached
    split at reached
    · rename_i passes
      rcases List.mem_append.mp reached with further | same
      · obtain ⟨read, split, all⟩ := ih further
        exact ⟨c :: read, by simp [split], by simpa using ⟨passes, all⟩⟩
      · exact here (List.mem_singleton.mp same)
    · exact here (List.mem_singleton.mp reached)

theorem between_of_append {start finish : Place} {read : List Char}
    (split : start.rest = read ++ finish.rest) : between start finish = read := by
  simp [between, split]

/-- A way to match reads a text that the pattern spells. -/
theorem ways_sound {pattern : Pattern} {place : Place} {way : Place × List String}
    (found : way ∈ pattern.ways place) :
    ∃ read, place.rest = read ++ way.1.rest ∧ pattern.Spells read ∧ pattern.Captures way.2 := by
  induction pattern generalizing place way with
  | one test =>
    unfold ways at found
    split at found
    · rename_i c cs ahead
      split at found
      · rename_i passes
        rw [List.mem_singleton.mp found]
        exact ⟨[c], ahead, ⟨c, rfl, passes⟩, rfl⟩
      · cases found
    · cases found
  | many test =>
    obtain ⟨reached, member, rfl⟩ := List.mem_map.mp found
    obtain ⟨read, split, all⟩ := stretch_sound member
    exact ⟨read, split, all, rfl⟩
  | few test =>
    obtain ⟨reached, member, rfl⟩ := List.mem_map.mp found
    obtain ⟨read, split, all⟩ := stretch_sound (List.mem_reverse.mp member)
    exact ⟨read, split, all, rfl⟩
  | seq first second ihFirst ihSecond =>
    obtain ⟨early, member, found⟩ := List.mem_flatMap.mp found
    obtain ⟨late, member', rfl⟩ := List.mem_map.mp found
    obtain ⟨start, split, spelled, captured⟩ := ihFirst member
    obtain ⟨rest, split', spelled', captured'⟩ := ihSecond member'
    exact ⟨start ++ rest, by simp [split, split'], ⟨start, rest, rfl, spelled, spelled'⟩,
      ⟨early.2, late.2, rfl, captured, captured'⟩⟩
  | either first second ihFirst ihSecond =>
    rcases List.mem_append.mp found with found | found
    · obtain ⟨read, split, spelled, captured⟩ := ihFirst found
      exact ⟨read, split, .inl spelled, .inl captured⟩
    · obtain ⟨read, split, spelled, captured⟩ := ihSecond found
      exact ⟨read, split, .inr spelled, .inr captured⟩
  | group inner ih =>
    obtain ⟨way, member, rfl⟩ := List.mem_map.mp found
    obtain ⟨read, split, spelled, captured⟩ := ih member
    exact ⟨read, split, spelled, String.ofList (between place way.1), way.2, rfl,
      by simpa [between_of_append split] using spelled, captured⟩
  | boundary =>
    unfold ways at found
    split at found
    · rw [List.mem_singleton.mp found]
      exact ⟨[], rfl, rfl, rfl⟩
    · cases found
  | lineStart =>
    unfold ways at found
    split at found
    · rw [List.mem_singleton.mp found]
      exact ⟨[], rfl, rfl, rfl⟩
    · cases found
  | finish =>
    unfold ways at found
    split at found
    · rw [List.mem_singleton.mp found]
      exact ⟨[], rfl, rfl, rfl⟩
    · cases found

theorem searchFrom_sound {pattern : Pattern} {before : Option Char} {rest : List Char}
    {texts : List String} (found : pattern.searchFrom before rest = some texts) :
    pattern.Captures texts := by
  induction rest generalizing before with
  | nil =>
    unfold searchFrom at found
    split at found
    · rename_i way first
      cases found
      exact (ways_sound (List.mem_of_mem_head? first)).choose_spec.2.2
    · cases found
    · rename_i impossible
      cases impossible
  | cons c cs ih =>
    unfold searchFrom at found
    split at found
    · rename_i way first
      cases found
      exact (ways_sound (List.mem_of_mem_head? first)).choose_spec.2.2
    · rename_i impossible
      cases impossible
    · rename_i same
      cases same
      exact ih found

/-- What a search captures is what the pattern may capture. -/
theorem search_sound {pattern : Pattern} {text : String} {texts : List String}
    (found : pattern.search text = some texts) : pattern.Captures texts := searchFrom_sound found

/-! ## Captures of the patterns to write with -/

/-- A pattern without a group before another one captures nothing. -/
theorem captures_after {first : Pattern} (silent : ∀ texts, first.Captures texts ↔ texts = [])
    (next : Pattern) (texts : List String) : (seq first next).Captures texts ↔ next.Captures texts := by
  constructor
  · rintro ⟨early, late, rfl, nothing, captured⟩
    simpa [(silent early).mp nothing] using captured
  · exact fun captured => ⟨[], texts, rfl, (silent []).mpr rfl, captured⟩

@[simp] theorem captures_one (test : Char → Bool) (next : Pattern) (texts : List String) :
    (seq (one test) next).Captures texts ↔ next.Captures texts :=
  captures_after (fun _ => Iff.rfl) next texts

@[simp] theorem captures_plus (test : Char → Bool) (next : Pattern) (texts : List String) :
    (seq (plus test) next).Captures texts ↔ next.Captures texts :=
  captures_after (captures_one test (many test)) next texts

@[simp] theorem captures_empty (texts : List String) : empty.Captures texts ↔ texts = [] := Iff.rfl

@[simp] theorem captures_followed (cs : List Char) (next : Pattern) (texts : List String) :
    (followed cs next).Captures texts ↔ next.Captures texts := by
  induction cs with
  | nil => rfl
  | cons c cs ih => exact (captures_one ..).trans ih

@[simp] theorem captures_text (literal : String) (next : Pattern) (texts : List String) :
    (Pattern.text literal next).Captures texts ↔ next.Captures texts := captures_followed ..

@[simp] theorem captures_words (list : List String) (next : Pattern) (texts : List String) :
    (words list next).Captures texts ↔ next.Captures texts := by
  induction list with
  | nil => rfl
  | cons word rest ih =>
    cases rest with
    | nil => exact captures_text word next texts
    | cons other rest => exact ((captures_text ..).trans (captures_plus ..)).trans ih

theorem spells_plus (test : Char → Bool) (text : List Char) :
    (plus test).Spells text ↔ text ≠ [] ∧ ∀ c ∈ text, test c := by
  constructor
  · rintro ⟨start, rest, rfl, ⟨c, rfl, passes⟩, all⟩
    exact ⟨by simp, by simpa using ⟨passes, all⟩⟩
  · rintro ⟨nonempty, all⟩
    obtain ⟨c, cs, rfl⟩ := List.exists_cons_of_ne_nil nonempty
    obtain ⟨passes, all⟩ := List.forall_mem_cons.mp all
    exact ⟨[c], cs, rfl, ⟨c, rfl, passes⟩, all⟩

/-- A captured stretch is not empty, and passes the test. -/
@[simp] theorem captures_group_plus (test : Char → Bool) (next : Pattern) (texts : List String) :
    (seq (group (plus test)) next).Captures texts ↔
      ∃ text rest, texts = text :: rest ∧ (text.toList ≠ [] ∧ ∀ c ∈ text.toList, test c) ∧
        next.Captures rest := by
  constructor
  · rintro ⟨early, late, rfl, ⟨text, rest, rfl, spelled, captured⟩, later⟩
    obtain rfl := (captures_one test (many test) rest).mp captured
    exact ⟨text, late, rfl, (spells_plus test _).mp spelled, later⟩
  · rintro ⟨text, rest, rfl, spelled, later⟩
    exact ⟨[text], rest, rfl, ⟨text, [], rfl, (spells_plus test _).mpr spelled,
      (captures_one test (many test) []).mpr rfl⟩, later⟩

/-- A quoted name is captured without its quotes. -/
@[simp] theorem captures_quoted (next : Pattern) (texts : List String) :
    (quoted next).Captures texts ↔
      ∃ name rest, texts = name :: rest ∧ (name.toList ≠ [] ∧ '"' ∉ name.toList) ∧ next.Captures rest := by
  have apart (name : String) : (∀ c ∈ name.toList, decide (c ≠ '"') = true) ↔ '"' ∉ name.toList := by
    constructor
    · exact fun all member => by simpa using all _ member
    · intro absent c member
      simp only [ne_eq, decide_not, Bool.not_eq_true', decide_eq_false_iff_not]
      rintro rfl
      exact absent member
  simp only [quoted, captures_one, captures_group_plus, apart]

end Pattern
end Texts.Regex
