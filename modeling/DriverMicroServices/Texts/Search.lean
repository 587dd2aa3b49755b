import DriverMicroServices.Texts.Regex
import Mathlib.Data.List.Basic

/-! What a search finds in a text that is written from literal parts and quoted names. Where
nothing that the pattern may begin with is spelled, no match begins. -/
namespace Texts.Regex.Pattern

variable {pattern first : Pattern} {text other read : List Char}

/-! ## Every match is found -/

/-- The pattern does not look at what is around a match. -/
def anchorless : Pattern → Bool
  | boundary | lineStart | finish => false
  | seq first second | either first second => anchorless first && anchorless second
  | group inner => anchorless inner
  | one _ | many _ | few _ => true

theorem stretch_self (test : Char → Bool) (before : Option Char) (rest : List Char) :
    ⟨before, rest⟩ ∈ stretch test before rest := by
  cases rest with
  | nil => simp [stretch]
  | cons c cs =>
    rw [stretch]
    split <;> simp

theorem stretch_complete {test : Char → Bool} (all : ∀ c ∈ read, test c) (before : Option Char) (rest : List Char) :
    ∃ place ∈ stretch test before (read ++ rest), place.rest = rest := by
  induction read generalizing before with
  | nil => exact ⟨_, stretch_self test before rest, rfl⟩
  | cons c cs ih =>
    obtain ⟨here, later⟩ := List.forall_mem_cons.mp all
    obtain ⟨place, member, same⟩ := ih later (some c)
    refine ⟨place, ?_, same⟩
    rw [List.cons_append, stretch, if_pos here]
    exact List.mem_append_left _ member

/-- What the pattern spells is read in one of the ways. -/
theorem ways_complete (plain : pattern.anchorless) (spelled : pattern.Spells read) (before : Option Char)
    (rest : List Char) : ∃ way ∈ pattern.ways ⟨before, read ++ rest⟩, way.1.rest = rest := by
  induction pattern generalizing read before rest with
  | one test =>
    obtain ⟨c, rfl, passes⟩ := spelled
    exact ⟨(⟨some c, rest⟩, []), by simp [ways, passes], rfl⟩
  | many test =>
    obtain ⟨place, member, same⟩ := stretch_complete spelled before rest
    exact ⟨(place, []), List.mem_map_of_mem member, same⟩
  | few test =>
    obtain ⟨place, member, same⟩ := stretch_complete spelled before rest
    exact ⟨(place, []), List.mem_map_of_mem (List.mem_reverse.mpr member), same⟩
  | seq first second ihFirst ihSecond =>
    obtain ⟨early, late⟩ := Bool.and_eq_true_iff.mp plain
    obtain ⟨start, finish, rfl, spelled, spelled'⟩ := spelled
    obtain ⟨⟨place, captures⟩, member, same⟩ := ihFirst early spelled before (finish ++ rest)
    obtain ⟨before', rest'⟩ := place
    obtain rfl : rest' = finish ++ rest := same
    obtain ⟨way, member', same'⟩ := ihSecond late spelled' before' rest
    rw [← List.append_assoc] at member
    exact ⟨(way.1, captures ++ way.2), List.mem_flatMap.mpr ⟨_, member, List.mem_map_of_mem member'⟩, same'⟩
  | either first second ihFirst ihSecond =>
    obtain ⟨one, two⟩ := Bool.and_eq_true_iff.mp plain
    rcases spelled with spelled | spelled
    · obtain ⟨way, member, same⟩ := ihFirst one spelled before rest
      exact ⟨way, List.mem_append_left _ member, same⟩
    · obtain ⟨way, member, same⟩ := ihSecond two spelled before rest
      exact ⟨way, List.mem_append_right _ member, same⟩
  | group inner ih =>
    obtain ⟨way, member, same⟩ := ih plain spelled before rest
    exact ⟨_, List.mem_map_of_mem member, same⟩
  | boundary | lineStart | finish => cases plain

theorem searchFrom_nil (pattern : Pattern) (before : Option Char) :
    pattern.searchFrom before [] = (pattern.ways ⟨before, []⟩).head?.map Prod.snd := by
  unfold searchFrom
  cases (pattern.ways ⟨before, []⟩).head? <;> rfl

theorem searchFrom_cons (pattern : Pattern) (before : Option Char) (c : Char) (cs : List Char) :
    pattern.searchFrom before (c :: cs) =
      ((pattern.ways ⟨before, c :: cs⟩).head?.map Prod.snd).or (pattern.searchFrom (some c) cs) := by
  conv_lhs => unfold searchFrom
  cases (pattern.ways ⟨before, c :: cs⟩).head? <;> rfl

/-! ## Where nothing is found -/

/-- The pattern spells no part of the text. -/
def Absent (pattern : Pattern) (text : List Char) : Prop :=
  ∀ before read after, text = before ++ (read ++ after) → ¬ pattern.Spells read

theorem absent_of_search (plain : pattern.anchorless) {before : Option Char}
    (unfound : pattern.searchFrom before text = none) : Absent pattern text := by
  intro early read after split spelled
  subst split
  induction early generalizing before with
  | nil =>
    obtain ⟨way, member, -⟩ := ways_complete plain spelled before after
    have silent : (pattern.ways ⟨before, read ++ after⟩).head?.map Prod.snd = none := by
      cases joined : read ++ after with
      | nil => simpa only [List.nil_append, joined, searchFrom_nil] using unfound
      | cons c cs =>
        rw [List.nil_append, joined, searchFrom_cons, Option.or_eq_none_iff] at unfound
        exact unfound.1
    rw [Option.map_eq_none_iff, List.head?_eq_none_iff] at silent
    rw [silent] at member
    cases member
  | cons c cs ih =>
    rw [List.cons_append, searchFrom_cons, Option.or_eq_none_iff] at unfound
    exact ih unfound.2

/-- Every match of the pattern begins with one of the other. -/
def Begins (first pattern : Pattern) : Prop :=
  ∀ read, pattern.Spells read → ∃ start rest, read = start ++ rest ∧ first.Spells start

/-- Every match of the pattern has one of the other in it. -/
def Contains (inner pattern : Pattern) : Prop :=
  ∀ read, pattern.Spells read → ∃ start middle rest, read = start ++ (middle ++ rest) ∧ inner.Spells middle

theorem Begins.contains (begins : Begins first pattern) : Contains first pattern := by
  intro read spelled
  obtain ⟨start, rest, rfl, begun⟩ := begins read spelled
  exact ⟨[], start, rest, rfl, begun⟩

theorem Contains.absent (contains : Contains first pattern) (absent : Absent first text) : Absent pattern text := by
  rintro before read after rfl spelled
  obtain ⟨start, middle, rest, rfl, found⟩ := contains read spelled
  exact absent (before ++ start) middle (rest ++ after) (by simp) found

theorem absent_either {second : Pattern} (one : Absent first text) (two : Absent second text) :
    Absent (either first second) text := by
  rintro before read after split (spelled | spelled)
  · exact one before read after split spelled
  · exact two before read after split spelled

theorem Contains.seq_right {inner second : Pattern} (contains : Contains inner second) :
    Contains inner (seq first second) := by
  rintro read ⟨early, late, rfl, -, spelled⟩
  obtain ⟨start, middle, rest, rfl, found⟩ := contains late spelled
  exact ⟨early ++ start, middle, rest, by simp, found⟩

theorem Contains.after_text {inner next : Pattern} (contains : Contains inner next) (literal : String) :
    Contains inner (Pattern.text literal next) := by
  unfold Pattern.text
  induction literal.toList with
  | nil => exact contains
  | cons c cs ih => exact ih.seq_right

/-- A match does not go over a quote. -/
def Bare (pattern : Pattern) : Prop := ∀ read, pattern.Spells read → '"' ∉ read

/-- No test of the pattern passes a quote. -/
def quoteless : Pattern → Bool
  | one test | many test | few test => !test '"'
  | seq first second | either first second => quoteless first && quoteless second
  | group inner => quoteless inner
  | boundary | lineStart | finish => true

theorem bare_of_quoteless (without : pattern.quoteless) : Bare pattern := by
  have stretch {test : Char → Bool} {read : List Char} (stops : !test '"') (all : ∀ c ∈ read, test c) :
      '"' ∉ read := by
    intro member
    simp [all _ member] at stops
  intro read spelled
  induction pattern generalizing read with
  | one test =>
    obtain ⟨c, rfl, passes⟩ := spelled
    exact stretch without (by simpa using passes)
  | many test | few test => exact stretch without spelled
  | seq first second ihFirst ihSecond =>
    obtain ⟨start, rest, rfl, spelled, spelled'⟩ := spelled
    obtain ⟨early, late⟩ := Bool.and_eq_true_iff.mp without
    simp [ihFirst early start spelled, ihSecond late rest spelled']
  | either first second ihFirst ihSecond =>
    obtain ⟨early, late⟩ := Bool.and_eq_true_iff.mp without
    rcases spelled with spelled | spelled
    · exact ihFirst early read spelled
    · exact ihSecond late read spelled
  | group inner ih => exact ih without read spelled
  | boundary | lineStart | finish =>
    obtain rfl : read = [] := spelled
    simp

/-- Without a character, what begins before it ends before it. -/
theorem before_other {c : Char} {rest after : List Char} (clean : c ∉ read)
    (split : text ++ c :: rest = read ++ after) :
    ∃ ending, text = read ++ ending := by
  rcases List.append_eq_append_iff.mp split with ⟨middle, longer, tail⟩ | ⟨ending, shorter, -⟩
  · cases middle with
    | nil => exact ⟨[], by simpa using longer.symm⟩
    | cons d ds =>
      cases (List.cons.inj tail).1
      exact absurd (by simp [longer]) clean
  · exact ⟨ending, shorter⟩

/-- Where a character that no match has stands between two texts without a match, there is none. -/
theorem absent_apart {c : Char} (apart : ∀ read, first.Spells read → c ∉ read) (absent : Absent first text)
    (absent' : Absent first other) : Absent first (text ++ c :: other) := by
  intro before read after split spelled
  have clean := apart read spelled
  rcases List.append_eq_append_iff.mp split with ⟨middle, longer, tail⟩ | ⟨middle, shorter, tail⟩
  · -- the match begins after the text
    cases middle with
    | nil =>
      cases read with
      | nil => exact absent' [] [] other rfl spelled
      | cons d ds =>
        cases (List.cons.inj tail).1
        exact clean (by simp)
    | cons d middle => exact absent' middle read after (List.cons.inj tail).2 spelled
  · obtain ⟨ending, rfl⟩ := before_other clean tail.symm
    exact absent before read ending shorter spelled

theorem absent_quoted (bare : Bare first) (absent : Absent first text) (absent' : Absent first other) :
    Absent first (text ++ '"' :: other) :=
  absent_apart bare absent absent'

/-- A search goes on at the quote that ends the text. -/
theorem searchFrom_skip (begins : Begins first pattern) (bare : Bare first) (absent : Absent first text)
    (before : Option Char) (rest : List Char) :
    ∃ before', pattern.searchFrom before (text ++ '"' :: rest) = pattern.searchFrom before' ('"' :: rest) := by
  induction text generalizing before with
  | nil => exact ⟨before, rfl⟩
  | cons c cs ih =>
    have nowhere : pattern.ways ⟨before, c :: cs ++ '"' :: rest⟩ = [] := by
      by_contra some
      obtain ⟨way, member⟩ := List.exists_mem_of_ne_nil _ some
      obtain ⟨read, split, spelled, -⟩ := ways_sound member
      obtain ⟨start, further, rfl, begun⟩ := begins read spelled
      rw [List.append_assoc] at split
      obtain ⟨ending, ends⟩ := before_other (bare start begun) split
      exact absent [] start ending ends begun
    obtain ⟨before', passed⟩ := ih (fun early read after split => absent (c :: early) read after (by simp [split]))
      (some c)
    refine ⟨before', ?_⟩
    rw [List.cons_append] at nowhere ⊢
    rw [searchFrom_cons, nowhere]
    exact passed

/-- What a search finds is spelled somewhere. -/
theorem spells_of_search {before : Option Char} (found : (pattern.searchFrom before text).isSome) :
    ∃ early read after, text = early ++ (read ++ after) ∧ pattern.Spells read := by
  have here {before : Option Char} {rest : List Char}
      (found : ((pattern.ways ⟨before, rest⟩).head?.map Prod.snd).isSome) :
      ∃ read after, rest = read ++ after ∧ pattern.Spells read := by
    rw [Option.isSome_map] at found
    obtain ⟨way, first⟩ := Option.isSome_iff_exists.mp found
    obtain ⟨read, split, spelled, -⟩ := ways_sound (List.mem_of_mem_head? first)
    exact ⟨read, _, split, spelled⟩
  induction text generalizing before with
  | nil =>
    rw [searchFrom_nil] at found
    obtain ⟨read, after, split, spelled⟩ := here found
    exact ⟨[], read, after, split, spelled⟩
  | cons c cs ih =>
    rw [searchFrom_cons, Option.isSome_or, Bool.or_eq_true] at found
    rcases found with found | found
    · obtain ⟨read, after, split, spelled⟩ := here found
      exact ⟨[], read, after, split, spelled⟩
    · obtain ⟨early, read, after, rfl, spelled⟩ := ih found
      exact ⟨c :: early, read, after, rfl, spelled⟩

theorem searchFrom_absent (absent : Absent pattern text) (before : Option Char) :
    pattern.searchFrom before text = none := by
  rw [← Option.not_isSome_iff_eq_none]
  intro found
  obtain ⟨early, read, after, split, spelled⟩ := spells_of_search found
  exact absent early read after split spelled

theorem test_of_absent {sql : String} (absent : Absent pattern sql.toList) : pattern.test sql = false :=
  congrArg Option.isSome (searchFrom_absent absent none)

theorem absent_of_test (plain : pattern.anchorless) {part : String} (unread : pattern.test part = false) :
    Absent pattern part.toList :=
  absent_of_search plain (Option.not_isSome_iff_eq_none.mp (by simpa [test, search] using unread))

/-! ## Words before white space -/

/-- The letters of the word, of either case, and what follows them. -/
theorem spells_followed {word : List Char} {next : Pattern} (spelled : (followed word next).Spells text) :
    ∃ read rest, text = read ++ rest ∧ read.map Char.toLower = word.map Char.toLower ∧ next.Spells rest ∧
      ∀ {next further}, next.Spells further → (followed word next).Spells (read ++ further) := by
  induction word generalizing text with
  | nil => exact ⟨[], text, rfl, rfl, spelled, id⟩
  | cons c cs ih =>
    obtain ⟨start, rest, rfl, ⟨other, rfl, same⟩, further⟩ := spelled
    obtain ⟨read, rest, rfl, letters, spelled, again⟩ := ih further
    refine ⟨other :: read, rest, rfl, ?_, spelled, fun spelled => ?_⟩
    · rw [List.map_cons, List.map_cons, letters, of_decide_eq_true same]
    · exact ⟨[other], _, rfl, ⟨other, rfl, same⟩, again spelled⟩

/-- The first two words of a pattern. -/
def pair (word second : String) : Pattern := words [word, second] empty

theorem spells_nothing : empty.Spells [] := List.forall_mem_nil _

theorem begins_pair {word second : String} {others : List String} {next : Pattern} :
    Begins (pair word second) (words (word :: second :: others) next) := by
  intro read spelled
  obtain ⟨letters, further, rfl, -, spelled, again⟩ := spells_followed spelled
  obtain ⟨spaces, late, rfl, blank, spelled⟩ := spelled
  have spelled : ∃ next : Pattern, (text second next).Spells late := by
    cases others with
    | nil => exact ⟨next, spelled⟩
    | cons other others => exact ⟨_, spelled⟩
  obtain ⟨next, spelled⟩ := spelled
  obtain ⟨letters', rest, rfl, -, -, again'⟩ := spells_followed spelled
  refine ⟨letters ++ (spaces ++ (letters' ++ [])), rest, by simp, ?_⟩
  exact again ⟨spaces, _, rfl, blank, again' spells_nothing⟩

theorem spells_pair {word second : String} (spelled : (pair word second).Spells read) :
    ∃ letters spaces letters', read = letters ++ (spaces ++ letters') ∧
      letters.map Char.toLower = word.toList.map Char.toLower ∧
      letters'.map Char.toLower = second.toList.map Char.toLower ∧ spaces ≠ [] ∧ ∀ c ∈ spaces, isSpace c := by
  obtain ⟨letters, further, rfl, same, ⟨spaces, late, rfl, blank, spelled⟩, -⟩ := spells_followed spelled
  obtain ⟨letters', rest, rfl, same', nothing, -⟩ := spells_followed spelled
  have none : rest = [] := List.eq_nil_iff_forall_not_mem.mpr fun c member => by simpa using nothing c member
  subst none
  exact ⟨letters, spaces, letters', by simp, same, same', (spells_plus _ _).mp blank⟩

theorem bare_pair {word second : String} (apart : '"' ∉ word.toList.map Char.toLower)
    (apart' : '"' ∉ second.toList.map Char.toLower) : Bare (pair word second) := by
  intro read spelled
  obtain ⟨letters, spaces, letters', rfl, same, same', -, blank⟩ := spells_pair spelled
  rw [← same] at apart
  rw [← same'] at apart'
  simp only [List.mem_append, not_or]
  refine ⟨fun member => ?_, fun member => ?_, fun member => ?_⟩
  · exact apart (List.mem_map.mpr ⟨_, member, rfl⟩)
  · exact absurd (blank _ member) (by decide)
  · exact apart' (List.mem_map.mpr ⟨_, member, rfl⟩)

/-- A text without white space has no two words. -/
theorem absent_unspaced {word second : String} (unspaced : ∀ c ∈ text, isSpace c = false) :
    Absent (pair word second) text := by
  intro before read after split spelled
  obtain ⟨letters, spaces, letters', rfl, -, -, nonempty, blank⟩ := spells_pair spelled
  obtain ⟨c, cs, rfl⟩ := List.exists_cons_of_ne_nil nonempty
  have dark := unspaced c (by simp [split])
  rw [blank c (by simp)] at dark
  cases dark

theorem anchorless_followed (cs : List Char) (next : Pattern) : (followed cs next).anchorless = next.anchorless := by
  induction cs with
  | nil => rfl
  | cons c cs ih => simpa [followed, anchorless, letter] using ih

theorem anchorless_pair (word second : String) : (pair word second).anchorless := by
  show (followed word.toList (seq (plus isSpace) (followed second.toList empty))).anchorless = true
  simp [anchorless_followed, anchorless, plus, empty]

/-- The parts of a text, with a quote between each two. -/
def quotedParts : List String → List Char
  | [] => []
  | [part] => part.toList
  | part :: rest => part.toList ++ '"' :: quotedParts rest

/-- Where the quotes separate parts without a match, there is none. -/
theorem absent_quotedParts {part : String} {rest : List String} (bare : Bare pattern)
    (absent : ∀ other ∈ part :: rest, Absent pattern other.toList) :
    Absent pattern (quotedParts (part :: rest)) := by
  induction rest generalizing part with
  | nil => exact absent part (by simp)
  | cons other rest ih =>
    obtain ⟨here, later⟩ := List.forall_mem_cons.mp absent
    exact absent_quoted bare here (ih later)

/-- Where the quotes separate parts without the two words, the text does not have them. -/
theorem absent_parts {word second : String} {parts : List String} (bare : Bare (pair word second))
    (unread : ∀ part ∈ parts, (pair word second).test part = false) :
    Absent (pair word second) (quotedParts parts) := by
  cases parts with
  | nil => exact absent_unspaced (by simp [quotedParts])
  | cons part rest =>
    exact absent_quotedParts bare fun other member =>
      absent_of_test (anchorless_pair word second) (unread other member)

/-! ## Reading literal parts and names -/

theorem ways_empty (place : Place) : empty.ways place = [(place, [])] := by
  obtain ⟨before, rest⟩ := place
  cases rest with
  | nil => rfl
  | cons c cs => rfl

theorem ways_one {test : Char → Bool} {c : Char} (passes : test c) (next : Pattern) (before : Option Char)
    (rest : List Char) : (seq (one test) next).ways ⟨before, c :: rest⟩ = next.ways ⟨some c, rest⟩ := by
  simp [ways, passes]

theorem ways_boundary {place : Place} (edge : atBoundary place) (next : Pattern) :
    (seq boundary next).ways place = next.ways place := by
  simp [ways, edge]

/-- A literal text reads itself. -/
theorem ways_text (literal : String) (next : Pattern) (before : Option Char) (rest : List Char) :
    (Pattern.text literal next).ways ⟨before, literal.toList ++ rest⟩ =
      next.ways ⟨literal.toList.getLast?.or before, rest⟩ := by
  unfold Pattern.text
  induction literal.toList generalizing before with
  | nil => rfl
  | cons c cs ih =>
    rw [followed, List.cons_append, letter, ways_one (by simp), ih, List.getLast?_cons]
    cases cs.getLast? <;> rfl

/-- A single blank. -/
theorem ways_blank {c : Char} (dark : isSpace c = false) (next : Pattern) (before : Option Char) (rest : List Char) :
    (seq (plus isSpace) next).ways ⟨before, ' ' :: c :: rest⟩ = next.ways ⟨some ' ', c :: rest⟩ := by
  have blank : isSpace ' ' = true := by decide
  simp [ways, plus, stretch, blank, dark]

theorem ways_blank_text {literal : String} {c : Char} {cs : List Char} (split : literal.toList = c :: cs)
    (dark : isSpace c = false) (next : Pattern) (before : Option Char) (rest : List Char) :
    (seq (plus isSpace) next).ways ⟨before, ' ' :: (literal.toList ++ rest)⟩ =
      next.ways ⟨some ' ', literal.toList ++ rest⟩ := by
  rw [split, List.cons_append, ways_blank dark]

theorem ways_words {word second : String} {c : Char} {cs : List Char} (split : second.toList = c :: cs)
    (dark : isSpace c = false) (next : Pattern) (before : Option Char) (rest : List Char) :
    (words [word, second] next).ways ⟨before, word.toList ++ ' ' :: (second.toList ++ rest)⟩ =
      next.ways ⟨second.toList.getLast?.or (some ' '), rest⟩ := by
  show (Pattern.text word (seq (plus isSpace) (Pattern.text second next))).ways _ = _
  rw [ways_text, ways_blank_text split dark, ways_text]

/-- The longest stretch ends before the first character that does not pass. -/
theorem stretch_stops {test : Char → Bool} {cs : List Char} (all : ∀ c ∈ cs, test c) (stop : Char)
    (ends : test stop = false) (before : Option Char) (rest : List Char) :
    ∃ last shorter, stretch test before (cs ++ stop :: rest) = ⟨last, stop :: rest⟩ :: shorter ∧
      ∀ place ∈ shorter, ∃ c tail, place.rest = c :: tail ∧ test c := by
  induction cs generalizing before with
  | nil => exact ⟨before, [], by simp [stretch, ends], by simp⟩
  | cons c cs ih =>
    obtain ⟨here, later⟩ := List.forall_mem_cons.mp all
    obtain ⟨last, shorter, reached, begins⟩ := ih later (some c)
    refine ⟨last, shorter ++ [⟨before, c :: (cs ++ stop :: rest)⟩], ?_, ?_⟩
    · rw [List.cons_append, stretch, if_pos here, reached, List.cons_append]
    · intro place member
      rcases List.mem_append.mp member with further | same
      · exact begins place further
      · rw [List.mem_singleton.mp same]
        exact ⟨c, _, rfl, here⟩

theorem ways_group_plus {test : Char → Bool} {c : Char} (passes : test c) (next : Pattern) (before : Option Char)
    (cs : List Char) :
    (seq (group (plus test)) next).ways ⟨before, c :: cs⟩ =
      (stretch test (some c) cs).flatMap fun place =>
        (next.ways place).map fun way => (way.1, String.ofList (between ⟨before, c :: cs⟩ place) :: way.2) := by
  simp [ways, plus, passes, List.flatMap_map]

/-- A quoted name is read up to its closing quote. -/
theorem ways_quoted {name : List Char} (nonempty : name ≠ []) (clean : '"' ∉ name) (next : Pattern)
    (before : Option Char) (rest : List Char) :
    (quoted next).ways ⟨before, '"' :: (name ++ '"' :: rest)⟩ =
      (next.ways ⟨some '"', rest⟩).map fun way => (way.1, String.ofList name :: way.2) := by
  obtain ⟨c, cs, rfl⟩ := List.exists_cons_of_ne_nil nonempty
  have all : ∀ d ∈ c :: cs, decide (d ≠ '"') = true := by
    intro d member
    rw [decide_eq_true_eq]
    rintro rfl
    exact clean member
  obtain ⟨here, later⟩ := List.forall_mem_cons.mp all
  obtain ⟨last, shorter, reached, begins⟩ := stretch_stops later '"' (by decide) (some c) rest
  have closed : (seq (one (· = '"')) next).ways ⟨last, '"' :: rest⟩ = next.ways ⟨some '"', rest⟩ :=
    ways_one (by decide) next last rest
  have goesOn : ∀ place ∈ shorter, (seq (one (· = '"')) next).ways place = [] := by
    intro place member
    obtain ⟨d, tail, begun, passes⟩ := begins place member
    have other : d ≠ '"' := of_decide_eq_true passes
    simp [ways, begun, other]
  have captured : between ⟨some '"', c :: (cs ++ '"' :: rest)⟩ ⟨last, '"' :: rest⟩ = c :: cs :=
    between_of_append rfl
  have further : shorter.flatMap (fun place =>
      ((seq (one (· = '"')) next).ways place).map fun way =>
        (way.1, String.ofList (between ⟨some '"', c :: (cs ++ '"' :: rest)⟩ place) :: way.2)) = [] := by
    rw [List.flatMap_eq_nil_iff]
    intro place member
    rw [goesOn place member, List.map_nil]
  have opened : (quoted next).ways ⟨before, '"' :: (c :: cs ++ '"' :: rest)⟩ =
      (seq (group (plus (· ≠ '"'))) (seq (one (· = '"')) next)).ways ⟨some '"', c :: (cs ++ '"' :: rest)⟩ :=
    ways_one (by decide) _ before _
  rw [opened, ways_group_plus here, reached, List.flatMap_cons, closed, captured, further, List.append_nil]

theorem searchFrom_here {before : Option Char} {captures : List String}
    (found : (pattern.ways ⟨before, text⟩).head?.map Prod.snd = some captures) :
    pattern.searchFrom before text = some captures := by
  cases text with
  | nil => rw [searchFrom_nil, found]
  | cons c cs => rw [searchFrom_cons, found, Option.some_or]

/-- What matches further on in a text makes the whole text match. -/
theorem searchFrom_later {before : Option Char} {early rest : List Char}
    (found : (pattern.searchFrom (early.getLast?.or before) rest).isSome) :
    (pattern.searchFrom before (early ++ rest)).isSome := by
  induction early generalizing before with
  | nil => simpa using found
  | cons c cs ih =>
    have later : (pattern.searchFrom (some c) (cs ++ rest)).isSome := by
      refine ih ?_
      cases last : cs.getLast? <;> simpa [List.getLast?_cons, last] using found
    rw [List.cons_append, searchFrom_cons, Option.isSome_or, later, Bool.or_true]

end Texts.Regex.Pattern
