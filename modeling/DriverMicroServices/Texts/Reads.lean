import DriverMicroServices.Texts.Search
import Mathlib.Data.List.DropRight

/-! What a pattern reads, said without the order in which a search tries: the text, and the
characters just before and just after it, which the anchors look at. With it, what a change of a text
does to the matches in it: another letter for each letter, and white space taken from the ends. -/
namespace Texts.Regex

/-! ## Characters -/

theorem ascii_of_isWord {c : Char} (word : isWord c) : c.val < 128 := by
  delta isWord Char.isAlphanum Char.isAlpha Char.isUpper Char.isLower Char.isDigit at word
  simp only [Bool.or_eq_true, Bool.and_eq_true, decide_eq_true_eq] at word
  rcases word with ((⟨-, below⟩ | ⟨-, below⟩) | ⟨-, below⟩) | rfl
  · exact UInt32.lt_of_le_of_lt below (by decide)
  · exact UInt32.lt_of_le_of_lt below (by decide)
  · exact UInt32.lt_of_le_of_lt below (by decide)
  · decide

theorem ascii_of_toLower {c : Char} (moved : c.toLower ≠ c) : c.val < 128 := by
  unfold Char.toLower at moved
  split at moved
  · rename_i upper
    exact UInt32.lt_of_le_of_lt upper.2 (by decide)
  · exact absurd rfl moved

/-- What is checked of the characters up to 127 holds of each of them. -/
theorem forall_ascii (holds : Char → Bool) (checked : (List.range 128).all fun n => holds (Char.ofNat n)) {c : Char}
    (ascii : c.val < 128) : holds c := by
  have below : c.toNat < 128 := ascii
  have found := List.all_eq_true.mp checked c.toNat (List.mem_range.mpr below)
  rwa [Char.ofNat_toNat] at found

theorem not_isWord_of_isSpace {c : Char} (blank : isSpace c) : isWord c = false := by
  by_contra word
  rw [Bool.not_eq_false] at word
  have apart := forall_ascii (fun c => !isWord c || !isSpace c) (by decide) (ascii_of_isWord word)
  simp [word, blank] at apart

theorem toLower_of_isSpace {c : Char} (blank : isSpace c) : c.toLower = c := by
  by_contra moved
  have same := forall_ascii (fun c => c.toLower == c || !isSpace c) (by decide) (ascii_of_toLower moved)
  simp [moved, blank] at same

theorem isSpace_of_isLineEnd {c : Char} (ends : isLineEnd c) : isSpace c := by
  simp only [isLineEnd, Bool.or_eq_true, decide_eq_true_eq] at ends
  rcases ends with ((rfl | rfl) | same) | same
  · decide
  · decide
  · simp [isSpace, same]
  · simp [isSpace, same]

namespace Pattern

/-! ## Reading -/

/-- The pattern reads the text between two characters, or at an end where there is none. -/
def Reads : Pattern → Option Char → List Char → Option Char → Prop
  | one test, _, read, _ => ∃ c, read = [c] ∧ test c
  | many test, _, read, _ => ∀ c ∈ read, test c
  | few test, _, read, _ => ∀ c ∈ read, test c
  | seq first second, before, read, after => ∃ early late, read = early ++ late ∧
      first.Reads before early (late.head?.or after) ∧ second.Reads (early.getLast?.or before) late after
  | either first second, before, read, after => first.Reads before read after ∨ second.Reads before read after
  | group inner, before, read, after => inner.Reads before read after
  | boundary, before, read, after => read = [] ∧ before.any isWord ≠ after.any isWord
  | lineStart, before, read, _ => read = [] ∧ before.all isLineEnd
  | finish, _, read, after => read = [] ∧ after = none

variable {pattern : Pattern} {before : Option Char} {rest : List Char} {place : Place}

theorem last_append (early late : List Char) (before : Option Char) :
    (early ++ late).getLast?.or before = late.getLast?.or (early.getLast?.or before) := by
  rw [List.getLast?_append, Option.or_assoc]

theorem last_cons (c : Char) (cs : List Char) (before : Option Char) :
    (c :: cs).getLast?.or before = cs.getLast?.or (some c) :=
  last_append [c] cs before

theorem mem_stretch {test : Char → Bool} :
    place ∈ stretch test before rest ↔
      ∃ read late, rest = read ++ late ∧ (∀ c ∈ read, test c) ∧ place = ⟨read.getLast?.or before, late⟩ := by
  constructor
  · intro member
    induction rest generalizing before with
    | nil => exact ⟨[], [], rfl, by simp, by simpa [stretch] using member⟩
    | cons c cs ih =>
      rw [stretch] at member
      split at member
      · rename_i passes
        rcases List.mem_append.mp member with longer | here
        · obtain ⟨read, late, rfl, all, rfl⟩ := ih longer
          refine ⟨c :: read, late, rfl, List.forall_mem_cons.mpr ⟨passes, all⟩, ?_⟩
          rw [last_cons]
        · exact ⟨[], c :: cs, rfl, by simp, by simpa using here⟩
      · exact ⟨[], c :: cs, rfl, by simp, by simpa using member⟩
  · rintro ⟨read, late, rfl, all, rfl⟩
    induction read generalizing before with
    | nil => exact stretch_self test before late
    | cons c cs ih =>
      obtain ⟨here, later⟩ := List.forall_mem_cons.mp all
      rw [List.cons_append, stretch, if_pos here, last_cons]
      exact List.mem_append_left _ (ih later)

/-- An anchor reads nothing. -/
theorem mem_anchor {holds : Bool} (cond : Option Char → Prop) (means : holds ↔ cond rest.head?) :
    (∃ way ∈ (if holds then [((⟨before, rest⟩ : Place), ([] : List String))] else []), way.1 = place) ↔
      ∃ read late, rest = read ++ late ∧ (read = [] ∧ cond late.head?) ∧ place = ⟨read.getLast?.or before, late⟩ := by
  constructor
  · rintro ⟨way, member, rfl⟩
    split at member
    · rename_i here
      rw [List.mem_singleton.mp member]
      exact ⟨[], rest, rfl, ⟨rfl, means.mp here⟩, rfl⟩
    · cases member
  · rintro ⟨_, late, rfl, ⟨rfl, fits⟩, rfl⟩
    exact ⟨(⟨before, late⟩, []), by simp [means.mpr fits], rfl⟩

/-- The ways of a search are what the pattern reads. -/
theorem mem_ways :
    (∃ way ∈ pattern.ways ⟨before, rest⟩, way.1 = place) ↔
      ∃ read late, rest = read ++ late ∧ pattern.Reads before read late.head? ∧
        place = ⟨read.getLast?.or before, late⟩ := by
  induction pattern generalizing before rest place with
  | one test =>
    constructor
    · rintro ⟨way, member, rfl⟩
      cases rest with
      | nil => simp [ways] at member
      | cons c cs =>
        simp only [ways] at member
        split at member
        · rename_i passes
          rw [List.mem_singleton.mp member]
          exact ⟨[c], cs, rfl, ⟨c, rfl, passes⟩, rfl⟩
        · cases member
    · rintro ⟨read, late, rfl, ⟨c, rfl, passes⟩, rfl⟩
      exact ⟨(⟨some c, late⟩, []), by simp [ways, passes], rfl⟩
  | many test | few test =>
    simp only [Reads, ← mem_stretch]
    simp [ways]
  | seq first second ihFirst ihSecond =>
    constructor
    · rintro ⟨way, member, rfl⟩
      obtain ⟨⟨⟨between, middle⟩, captures⟩, first, further⟩ := List.mem_flatMap.mp member
      obtain ⟨next, member', rfl⟩ := List.mem_map.mp further
      obtain ⟨early, late, rfl, start, same⟩ := ihFirst.mp ⟨_, first, rfl⟩
      cases same
      obtain ⟨early', late', rfl, finish, same⟩ := ihSecond.mp ⟨_, member', rfl⟩
      refine ⟨early ++ early', late', (List.append_assoc ..).symm, ⟨early, early', rfl, ?_, finish⟩, ?_⟩
      · rwa [List.head?_append] at start
      · rw [last_append]
        exact same
    · rintro ⟨_, late, rfl, ⟨early, early', rfl, start, finish⟩, rfl⟩
      rw [← List.head?_append] at start
      obtain ⟨⟨_, captures⟩, member, rfl⟩ := ihFirst.mpr ⟨early, early' ++ late, rfl, start, rfl⟩
      obtain ⟨next, member', same⟩ := ihSecond.mpr ⟨early', late, rfl, finish, rfl⟩
      rw [← List.append_assoc] at member
      exact ⟨(next.1, captures ++ next.2), List.mem_flatMap.mpr ⟨_, member, List.mem_map_of_mem member'⟩,
        by rw [same, last_append]⟩
  | either first second ihFirst ihSecond =>
    simp only [ways, List.mem_append, or_and_right, exists_or, ihFirst, ihSecond, Reads, and_or_left]
  | group inner ih =>
    simp only [Reads, ← ih]
    simp [ways]
  | boundary =>
    exact mem_anchor (fun after => before.any isWord ≠ after.any isWord) (by simp [atBoundary])
  | lineStart => exact mem_anchor (fun _ => before.all isLineEnd) Iff.rfl
  | finish => exact mem_anchor (fun after => after = none) (by cases rest <;> simp)

theorem searchFrom_iff :
    (pattern.searchFrom before rest).isSome ↔
      ∃ early read late, rest = early ++ (read ++ late) ∧
        pattern.Reads (early.getLast?.or before) read late.head? := by
  have here (before : Option Char) (rest : List Char) :
      ((pattern.ways ⟨before, rest⟩).head?.map Prod.snd).isSome ↔
        ∃ read late, rest = read ++ late ∧ pattern.Reads before read late.head? := by
    rw [Option.isSome_map, List.isSome_head?, ← List.isEmpty_eq_false_iff, List.isEmpty_eq_false_iff_exists_mem]
    constructor
    · rintro ⟨way, member⟩
      obtain ⟨read, late, split, reads, -⟩ := mem_ways.mp ⟨way, member, rfl⟩
      exact ⟨read, late, split, reads⟩
    · rintro ⟨read, late, split, reads⟩
      obtain ⟨way, member, -⟩ := mem_ways.mpr ⟨read, late, split, reads, rfl⟩
      exact ⟨way, member⟩
  induction rest generalizing before with
  | nil =>
    rw [searchFrom_nil, here]
    constructor
    · rintro ⟨read, late, split, reads⟩
      exact ⟨[], read, late, split, reads⟩
    · rintro ⟨early, read, late, split, reads⟩
      obtain ⟨rfl, nothing⟩ := List.append_eq_nil_iff.mp split.symm
      exact ⟨read, late, nothing.symm, reads⟩
  | cons c cs ih =>
    rw [searchFrom_cons, Option.isSome_or, Bool.or_eq_true]
    refine (or_congr (here before (c :: cs)) ih).trans ?_
    constructor
    · rintro (⟨read, late, split, reads⟩ | ⟨early, read, late, rfl, reads⟩)
      · exact ⟨[], read, late, split, reads⟩
      · exact ⟨c :: early, read, late, rfl, by rwa [last_cons]⟩
    · rintro ⟨early, read, late, split, reads⟩
      cases early with
      | nil => exact .inl ⟨read, late, split, reads⟩
      | cons d early =>
        obtain ⟨rfl, rfl⟩ := List.cons.inj split
        rw [last_cons] at reads
        exact .inr ⟨early, read, late, rfl, reads⟩

/-- A test is whether the pattern reads a part of the text. -/
theorem test_iff {text : String} :
    pattern.test text ↔ ∃ early read late, text.toList = early ++ (read ++ late) ∧
      pattern.Reads early.getLast? read late.head? := by
  unfold test search
  simpa using @searchFrom_iff pattern none text.toList

/-! ## Other letters -/

/-- The tests of the pattern take a character as they take its image. -/
def Respects (f : Char → Char) : Pattern → Prop
  | one test | many test | few test => ∀ c, test (f c) = test c
  | seq first second | either first second => first.Respects f ∧ second.Respects f
  | group inner => inner.Respects f
  | boundary => ∀ c, isWord (f c) = isWord c
  | lineStart => ∀ c, isLineEnd (f c) = isLineEnd c
  | finish => True

theorem reads_map {f : Char → Char} (respects : pattern.Respects f) {read : List Char} {after : Option Char} :
    pattern.Reads (before.map f) (read.map f) (after.map f) ↔ pattern.Reads before read after := by
  induction pattern generalizing before read after with
  | one test =>
    constructor
    · rintro ⟨c, same, passes⟩
      obtain ⟨d, rfl, rfl⟩ := List.map_eq_singleton_iff.mp same
      exact ⟨d, rfl, (respects d).symm.trans passes⟩
    · rintro ⟨c, rfl, passes⟩
      exact ⟨f c, rfl, (respects c).trans passes⟩
  | many test | few test => simp [Reads, respects _]
  | seq first second ihFirst ihSecond =>
    have start {early late : List Char} :
        first.Reads (before.map f) (early.map f) ((late.map f).head?.or (after.map f)) ↔
          first.Reads before early (late.head?.or after) := by
      rw [List.head?_map, ← Option.map_or, ihFirst respects.1]
    have finish {early late : List Char} :
        second.Reads ((early.map f).getLast?.or (before.map f)) (late.map f) (after.map f) ↔
          second.Reads (early.getLast?.or before) late after := by
      rw [List.getLast?_map, ← Option.map_or, ihSecond respects.2]
    constructor
    · rintro ⟨_, _, same, reads⟩
      obtain ⟨early, late, rfl, rfl, rfl⟩ := List.map_eq_append_iff.mp same
      exact ⟨early, late, rfl, start.mp reads.1, finish.mp reads.2⟩
    · rintro ⟨early, late, rfl, reads⟩
      exact ⟨_, _, List.map_append, start.mpr reads.1, finish.mpr reads.2⟩
  | either first second ihFirst ihSecond => exact or_congr (ihFirst respects.1) (ihSecond respects.2)
  | group inner ih => exact ih respects
  | boundary => simp [Reads, Option.any_map, respects _]
  | lineStart => simp [Reads, Option.all_map, respects _]
  | finish => simp [Reads]

theorem test_map {f : Char → Char} (respects : pattern.Respects f) (text : List Char) :
    pattern.test (String.ofList (text.map f)) = pattern.test (String.ofList text) := by
  rw [Bool.eq_iff_iff, test_iff, test_iff, String.toList_ofList, String.toList_ofList]
  constructor
  · rintro ⟨_, _, _, same, reads⟩
    obtain ⟨early, rest, rfl, rfl, again⟩ := List.map_eq_append_iff.mp same
    obtain ⟨read, late, rfl, rfl, rfl⟩ := List.map_eq_append_iff.mp again
    rw [List.getLast?_map, List.head?_map] at reads
    exact ⟨early, read, late, rfl, (reads_map respects).mp reads⟩
  · rintro ⟨early, read, late, rfl, reads⟩
    refine ⟨early.map f, read.map f, late.map f, by rw [List.map_append, List.map_append], ?_⟩
    rw [List.getLast?_map, List.head?_map]
    exact (reads_map respects).mpr reads

/-! ## White space at the ends -/

/-- No anchor of the pattern looks for an end of the text or of a line. -/
def loose : Pattern → Bool
  | lineStart | finish => false
  | seq first second | either first second => first.loose && second.loose
  | group inner => inner.loose
  | one _ | many _ | few _ | boundary => true

/-- Such a pattern looks only whether there is a word before and after. -/
theorem reads_near (free : pattern.loose) {read : List Char} {before' after after' : Option Char}
    (same : before.any isWord = before'.any isWord) (same' : after.any isWord = after'.any isWord)
    (reads : pattern.Reads before read after) : pattern.Reads before' read after' := by
  induction pattern generalizing before before' read after after' with
  | one test | many test | few test => exact reads
  | seq first second ihFirst ihSecond =>
    obtain ⟨free, free'⟩ := Bool.and_eq_true_iff.mp free
    obtain ⟨early, late, rfl, start, finish⟩ := reads
    refine ⟨early, late, rfl, ihFirst free same ?_ start, ihSecond free' ?_ same' finish⟩
    · cases late.head? with
      | none => exact same'
      | some c => rfl
    · cases early.getLast? with
      | none => exact same
      | some c => rfl
  | either first second ihFirst ihSecond =>
    obtain ⟨free, free'⟩ := Bool.and_eq_true_iff.mp free
    exact reads.imp (ihFirst free same same') (ihSecond free' same same')
  | group inner ih => exact ih free same same' reads
  | boundary => exact ⟨reads.1, by rw [← same, ← same']; exact reads.2⟩
  | lineStart | finish => cases free

/-- What the pattern reads begins with no white space. -/
def Opens (pattern : Pattern) : Prop :=
  ∀ {before read after}, pattern.Reads before read after → ∃ c ∈ read.head?, isSpace c = false

/-- What the pattern reads ends with no white space. -/
def Closes (pattern : Pattern) : Prop :=
  ∀ {before read after}, pattern.Reads before read after → ∃ c ∈ read.getLast?, isSpace c = false

/-- A text without white space around it. -/
def strip (text : List Char) : List Char := (text.dropWhile isSpace).rdropWhile isSpace

theorem dropWhile_kept {test : α → Bool} {first : α} (dark : test first = false) (early more : List α) :
    (early ++ first :: more).dropWhile test = early.dropWhile test ++ first :: more := by
  induction early with
  | nil => simp [dark]
  | cons c cs ih =>
    rw [List.cons_append, List.dropWhile_cons, List.dropWhile_cons, ih]
    split <;> simp

theorem rdropWhile_kept {test : α → Bool} {last : α} (dark : test last = false) (start more : List α) :
    (start ++ last :: more).rdropWhile test = start ++ last :: more.rdropWhile test := by
  induction more using List.reverseRecOn with
  | nil => simp [dark]
  | append_singleton more c ih =>
    have split : start ++ last :: (more ++ [c]) = (start ++ last :: more) ++ [c] := by simp
    rw [split, List.rdropWhile_concat, List.rdropWhile_concat, ih]
    split <;> simp

/-- White space is taken only from around a part that has none at its ends. -/
theorem strip_around {core : List Char} (front : ∃ c ∈ core.head?, isSpace c = false)
    (back : ∃ c ∈ core.getLast?, isSpace c = false) (early late : List Char) :
    strip (early ++ (core ++ late)) = early.dropWhile isSpace ++ (core ++ late.rdropWhile isSpace) := by
  obtain ⟨first, head, dark⟩ := front
  obtain ⟨last, ends, dark'⟩ := back
  obtain ⟨more, begun⟩ := List.head?_eq_some_iff.mp head
  obtain ⟨start, ended⟩ := List.getLast?_eq_some_iff.mp ends
  have first : (early ++ (core ++ late)).dropWhile isSpace = early.dropWhile isSpace ++ (core ++ late) := by
    rw [begun, List.cons_append, dropWhile_kept dark]
  have second : (early.dropWhile isSpace ++ start ++ last :: late).rdropWhile isSpace =
      early.dropWhile isSpace ++ start ++ last :: late.rdropWhile isSpace := rdropWhile_kept dark' _ _
  rw [strip, first, ended]
  simpa using second

theorem strip_split (text : List Char) :
    ∃ front back, (∀ c ∈ front, isSpace c) ∧ (∀ c ∈ back, isSpace c) ∧ text = front ++ (strip text ++ back) := by
  refine ⟨text.takeWhile isSpace, (text.dropWhile isSpace).rtakeWhile isSpace, ?_, ?_, ?_⟩
  · exact fun c member => List.mem_takeWhile_imp member
  · exact fun c member => List.mem_rtakeWhile_imp member
  · rw [strip, List.rdropWhile_append_rtakeWhile, List.takeWhile_append_dropWhile]

theorem word_before {blank : List Char} (all : ∀ c ∈ blank, isSpace c) (early : List Char) :
    (blank ++ early).getLast?.any isWord = early.getLast?.any isWord := by
  rw [List.getLast?_append]
  cases early.getLast? with
  | some c => rfl
  | none =>
    cases last : blank.getLast? with
    | none => rfl
    | some c => exact not_isWord_of_isSpace (all c (List.mem_of_getLast? last))

theorem word_after {blank : List Char} (all : ∀ c ∈ blank, isSpace c) (late : List Char) :
    (late ++ blank).head?.any isWord = late.head?.any isWord := by
  rw [List.head?_append]
  cases late.head? with
  | some c => rfl
  | none =>
    cases first : blank.head? with
    | none => rfl
    | some c => exact not_isWord_of_isSpace (all c (List.mem_of_head? first))

theorem test_strip (free : pattern.loose) (opens : Opens pattern) (closes : Closes pattern) (text : List Char) :
    pattern.test (String.ofList (strip text)) = pattern.test (String.ofList text) := by
  rw [Bool.eq_iff_iff, test_iff, test_iff, String.toList_ofList, String.toList_ofList]
  constructor
  · rintro ⟨early, read, late, split, reads⟩
    obtain ⟨front, back, blank, blank', whole⟩ := strip_split text
    refine ⟨front ++ early, read, late ++ back, by rw [whole, split]; simp only [List.append_assoc], ?_⟩
    exact reads_near free (word_before blank early).symm (word_after blank' late).symm reads
  · rintro ⟨early, read, late, rfl, reads⟩
    refine ⟨_, read, _, strip_around (opens reads) (closes reads) early late, reads_near free ?_ ?_ reads⟩
    · have front := word_before (fun c (member : c ∈ early.takeWhile isSpace) => List.mem_takeWhile_imp member)
        (early.dropWhile isSpace)
      rwa [List.takeWhile_append_dropWhile] at front
    · have back := word_after (fun c (member : c ∈ late.rtakeWhile isSpace) => List.mem_rtakeWhile_imp member)
        (late.rdropWhile isSpace)
      rwa [List.rdropWhile_append_rtakeWhile] at back

/-- At the start of a line and after white space there is no word. -/
theorem no_word_before {early blank : List Char} (ends : early.getLast?.all isLineEnd) (all : ∀ c ∈ blank, isSpace c) :
    (blank.getLast?.or early.getLast?).any isWord = false := by
  cases last : blank.getLast? with
  | some c => exact not_isWord_of_isSpace (all c (List.mem_of_getLast? last))
  | none =>
    cases last' : early.getLast? with
    | none => rfl
    | some c => exact not_isWord_of_isSpace (isSpace_of_isLineEnd (by simpa [last'] using ends))

theorem test_line_iff {text : List Char} :
    (seq lineStart (seq (many isSpace) pattern)).test (String.ofList text) ↔
      ∃ early blank core late, text = early ++ (blank ++ (core ++ late)) ∧ early.getLast?.all isLineEnd ∧
        (∀ c ∈ blank, isSpace c) ∧ pattern.Reads (blank.getLast?.or early.getLast?) core late.head? := by
  rw [test_iff, String.toList_ofList]
  constructor
  · rintro ⟨early, _, late, rfl, none, _, rfl, ⟨rfl, ends⟩, blank, core, rfl, all, reads⟩
    exact ⟨early, blank, core, late, by simp, ends, all, reads⟩
  · rintro ⟨early, blank, core, late, rfl, ends, all, reads⟩
    exact ⟨early, blank ++ core, late, by simp, [], blank ++ core, rfl, ⟨rfl, ends⟩, blank, core, rfl, all, reads⟩

/-- The same for a pattern at the start of a line, after white space. -/
theorem test_strip_line (free : pattern.loose) (opens : Opens pattern) (closes : Closes pattern) (text : List Char) :
    (seq lineStart (seq (many isSpace) pattern)).test (String.ofList (strip text)) =
      (seq lineStart (seq (many isSpace) pattern)).test (String.ofList text) := by
  have near {early blank early' blank' core late late' : List Char} (ends : early.getLast?.all isLineEnd)
      (all : ∀ c ∈ blank, isSpace c) (ends' : early'.getLast?.all isLineEnd) (all' : ∀ c ∈ blank', isSpace c)
      (same : late.head?.any isWord = late'.head?.any isWord)
      (reads : pattern.Reads (blank.getLast?.or early.getLast?) core late.head?) :
      pattern.Reads (blank'.getLast?.or early'.getLast?) core late'.head? :=
    reads_near free ((no_word_before ends all).trans (no_word_before ends' all').symm) same reads
  rw [Bool.eq_iff_iff, test_line_iff, test_line_iff]
  constructor
  · rintro ⟨early, blank, core, late, split, ends, all, reads⟩
    obtain ⟨front, back, space, space', whole⟩ := strip_split text
    have after := (word_after space' late).symm
    cases last : early.getLast? with
    | none =>
      -- the line starts with the text, and the white space before it belongs to the line
      rw [List.getLast?_eq_none_iff.mp last] at split ends reads
      have all' : ∀ c ∈ front ++ blank, isSpace c := fun c member => (List.mem_append.mp member).elim (space c) (all c)
      refine ⟨[], front ++ blank, core, late ++ back, ?_, rfl, all', near ends all rfl all' after reads⟩
      rw [whole, split]
      simp
    | some c =>
      have ends' : (front ++ early).getLast?.all isLineEnd := by rwa [List.getLast?_append, last, Option.some_or, ← last]
      refine ⟨front ++ early, blank, core, late ++ back, ?_, ends', all, near ends all ends' all after reads⟩
      rw [whole, split]
      simp
  · rintro ⟨early, blank, core, late, rfl, ends, all, reads⟩
    have after : late.head?.any isWord = (late.rdropWhile isSpace).head?.any isWord := by
      have back := word_after (fun c (member : c ∈ late.rtakeWhile isSpace) => List.mem_rtakeWhile_imp member)
        (late.rdropWhile isSpace)
      rwa [List.rdropWhile_append_rtakeWhile] at back
    have whole := strip_around (opens reads) (closes reads) (early ++ blank) late
    rw [List.append_assoc, List.dropWhile_append] at whole
    cases dropped : early.dropWhile isSpace with
    | nil =>
      rw [dropped, List.isEmpty_nil, if_pos rfl, List.dropWhile_eq_nil_iff.mpr all] at whole
      exact ⟨[], [], core, _, whole, rfl, by simp, near ends all rfl (by simp) after reads⟩
    | cons c cs =>
      have last : early.getLast? = (c :: cs).getLast? := by
        rw [← List.takeWhile_append_dropWhile (p := isSpace) (l := early), dropped, List.getLast?_append]
        simp [List.getLast?_cons]
      rw [dropped, List.isEmpty_cons, if_neg (by simp), List.append_assoc] at whole
      rw [last] at ends
      exact ⟨c :: cs, blank, core, _, whole, ends, all, near (last ▸ ends) all ends all after reads⟩

/-! ## Patterns of words -/

section Words

variable {first second next : Pattern}

theorem opens_seq (opens : Opens first) : Opens (seq first second) := by
  rintro before _ after ⟨early, late, rfl, reads, -⟩
  obtain ⟨c, head, dark⟩ := opens reads
  exact ⟨c, by rw [List.head?_append, Option.mem_def.mp head]; rfl, dark⟩

theorem opens_boundary (opens : Opens next) : Opens (seq boundary next) := by
  rintro before _ after ⟨_, late, rfl, ⟨rfl, -⟩, reads⟩
  exact opens reads

theorem closes_seq (closes : Closes second) : Closes (seq first second) := by
  rintro before _ after ⟨early, late, rfl, -, reads⟩
  obtain ⟨c, last, dark⟩ := closes reads
  exact ⟨c, by rw [List.getLast?_append, Option.mem_def.mp last]; rfl, dark⟩

/-- The end of a word reads nothing. -/
theorem closes_word (closes : Closes first) : Closes (seq first (seq boundary empty)) := by
  rintro before _ after ⟨early, _, rfl, reads, _, late, rfl, ⟨rfl, -⟩, nothing⟩
  have none : late = [] := List.eq_nil_iff_forall_not_mem.mpr fun c member => Bool.false_ne_true (nothing c member)
  rw [none, List.nil_append, List.append_nil]
  exact closes reads

theorem dark_letter {c d : Char} (dark : isSpace c.toLower = false) (same : d.toLower = c.toLower) :
    isSpace d = false := by
  by_contra blank
  rw [Bool.not_eq_false] at blank
  rw [← same, toLower_of_isSpace blank, blank] at dark
  cases dark

theorem dark_one {test : Char → Bool} (dark : ∀ c, test c → isSpace c = false) :
    Opens (one test) ∧ Closes (one test) := by
  constructor
  · rintro before _ after ⟨c, rfl, passes⟩
    exact ⟨c, rfl, dark c passes⟩
  · rintro before _ after ⟨c, rfl, passes⟩
    exact ⟨c, rfl, dark c passes⟩

theorem opens_text {literal : String} (dark : literal.toList.head?.any fun c => !isSpace c.toLower) :
    Opens (text literal next) := by
  obtain ⟨c, head, dark⟩ := (Option.any_eq_true ..).mp dark
  rw [Bool.not_eq_true'] at dark
  obtain ⟨cs, split⟩ := List.head?_eq_some_iff.mp head
  rw [text, split]
  exact opens_seq (dark_one fun d same => dark_letter dark (of_decide_eq_true same)).1

theorem closes_text {literal : String} (closes : Closes next) : Closes (text literal next) := by
  rw [text]
  induction literal.toList with
  | nil => exact closes
  | cons c cs ih => exact closes_seq ih

/-- The literal text at the end of a word. -/
theorem closes_text_word {literal : String} (dark : literal.toList.getLast?.any fun c => !isSpace c.toLower) :
    Closes (text literal (seq boundary empty)) := by
  obtain ⟨c, last, dark⟩ := (Option.any_eq_true ..).mp dark
  rw [Bool.not_eq_true'] at dark
  obtain ⟨cs, split⟩ := List.getLast?_eq_some_iff.mp last
  rw [text, split]
  clear split last
  induction cs with
  | nil => exact closes_word (dark_one fun d same => dark_letter dark (of_decide_eq_true same)).2
  | cons d ds ih => exact closes_seq ih

theorem loose_text (literal : String) : (text literal next).loose = next.loose := by
  rw [text]
  induction literal.toList with
  | nil => rfl
  | cons c cs ih => exact ih

theorem loose_words (list : List String) : (words list next).loose = next.loose := by
  induction list with
  | nil => rfl
  | cons word rest ih =>
    cases rest with
    | nil => exact loose_text word
    | cons word' rest => exact (loose_text word).trans ih

/-- An image of each character that no test of letters, words, white space and lines tells from it. -/
structure Alike (f : Char → Char) : Prop where
  word : ∀ c, isWord (f c) = isWord c
  space : ∀ c, isSpace (f c) = isSpace c
  lineEnd : ∀ c, isLineEnd (f c) = isLineEnd c
  letter : ∀ c d : Char, d.val < 128 → ((f c).toLower = d.toLower ↔ c.toLower = d.toLower)

theorem respects_text {f : Char → Char} (alike : Alike f) {literal : String}
    (plain : literal.toList.all (·.val < 128)) (respects : next.Respects f) : (text literal next).Respects f := by
  rw [text]
  revert plain
  induction literal.toList with
  | nil => exact fun _ => respects
  | cons c cs ih =>
    intro plain
    obtain ⟨here, later⟩ := List.forall_mem_cons.mp (List.all_eq_true.mp plain)
    refine ⟨fun d => ?_, ih (List.all_eq_true.mpr later)⟩
    rw [Bool.eq_iff_iff, decide_eq_true_iff, decide_eq_true_iff]
    exact alike.letter d c (of_decide_eq_true here)

theorem respects_words {f : Char → Char} (alike : Alike f) {list : List String}
    (plain : list.all fun word => word.toList.all (·.val < 128)) (respects : next.Respects f) :
    (words list next).Respects f := by
  induction list with
  | nil => exact respects
  | cons word rest ih =>
    obtain ⟨here, later⟩ := List.forall_mem_cons.mp (List.all_eq_true.mp plain)
    cases rest with
    | nil => exact respects_text alike here respects
    | cons word' rest =>
      exact respects_text alike here ⟨⟨alike.space, alike.space⟩, ih (List.all_eq_true.mpr later)⟩

end Words

end Pattern
end Texts.Regex
