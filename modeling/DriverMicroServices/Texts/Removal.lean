import DriverMicroServices.Texts.Lazy

/-! Parts of texts that patterns mark: a text without the matches of a pattern, and the stretch between the
first match of an opening and the next closing. -/
namespace Texts.Regex.Pattern

variable {pattern opener closer : Pattern} {text read rest : List Char} {before : Option Char}

/-! ## Removal -/

/-- The text from a place on without the matches. The number says how much of a match is still to come, and a
match takes a character at least. -/
def removeFrom (pattern : Pattern) : Nat → Option Char → List Char → List Char
  | _, _, [] => []
  | skip + 1, _, c :: cs => removeFrom pattern skip (some c) cs
  | 0, before, c :: cs =>
    match (pattern.ways ⟨before, c :: cs⟩).head? with
    | some way => removeFrom pattern (cs.length - way.1.rest.length) (some c) cs
    | none => c :: removeFrom pattern 0 (some c) cs

/-- `text.replace(pattern, "")` with the flag `g` -/
def remove (pattern : Pattern) (text : String) : String := String.ofList (pattern.removeFrom 0 none text.toList)

theorem removeFrom_absent (absent : Absent pattern text) (before : Option Char) :
    pattern.removeFrom 0 before text = text := by
  induction text generalizing before with
  | nil => rfl
  | cons c cs ih =>
    have here : pattern.ways ⟨before, c :: cs⟩ = [] := by
      by_contra some
      obtain ⟨way, member⟩ := List.exists_mem_of_ne_nil _ some
      obtain ⟨read, split, spelled, -⟩ := ways_sound member
      exact absent [] read _ split spelled
    have later : Absent pattern cs := absent_part absent (List.suffix_cons c cs).isInfix
    simp [removeFrom, here, ih later]

theorem remove_absent {text : String} (absent : Absent pattern text.toList) : pattern.remove text = text := by
  rw [remove, removeFrom_absent absent, String.ofList_toList]

/-! ## Between an opening and a closing -/

/-- A match begins with the text. -/
def startsAt (pattern : Pattern) (text : List Char) : Bool := !(pattern.ways ⟨none, text⟩).isEmpty

/-- What stands before the first place at which a match begins. -/
def beforeFirst (closer : Pattern) : List Char → List Char
  | [] => []
  | c :: cs => if closer.startsAt (c :: cs) then [] else c :: beforeFirst closer cs

/-- What stands behind the first match. -/
def behindFirst (opener : Pattern) (text : List Char) : Option (List Char) :=
  (opener.firstFrom none text).map fun way => way.1.rest

theorem startsAt_iff (plain : closer.anchorless) : closer.startsAt text ↔ closer.Starts text := by
  rw [startsAt, Bool.not_eq_true', ← Bool.not_eq_true, List.isEmpty_iff, ways_eq_nil_iff plain, not_not]

/-- A search finds what the first match captures. -/
theorem searchFrom_eq : pattern.searchFrom before text = (pattern.firstFrom before text).map Prod.snd := by
  induction text generalizing before with
  | nil => rw [searchFrom_nil, firstFrom_nil]
  | cons c cs ih => rw [searchFrom_cons, firstFrom_cons, ih, Option.map_or]

/-- The text splits at the first closing. -/
theorem beforeFirst_split (plain : closer.anchorless)
    (there : ∃ early late, text = early ++ late ∧ closer.Starts late) :
    ∃ late, text = beforeFirst closer text ++ late ∧ closer.Starts late ∧
      ∀ start stop, beforeFirst closer text = start ++ stop → stop ≠ [] → ¬ closer.Starts (stop ++ late) := by
  induction text with
  | nil =>
    obtain ⟨early, late, split, starts⟩ := there
    obtain ⟨rfl, rfl⟩ := List.append_eq_nil_iff.mp split.symm
    refine ⟨[], rfl, starts, fun start stop split nonempty => ?_⟩
    exact absurd (List.append_eq_nil_iff.mp split.symm).2 nonempty
  | cons c cs ih =>
    rw [beforeFirst]
    split
    · rename_i here
      refine ⟨c :: cs, rfl, (startsAt_iff plain).mp here, fun start stop split nonempty => ?_⟩
      exact absurd (List.append_eq_nil_iff.mp split.symm).2 nonempty
    · rename_i elsewhere
      rw [startsAt_iff plain] at elsewhere
      obtain ⟨early, late, split, starts⟩ := there
      cases early with
      | nil => exact absurd (split ▸ starts) elsewhere
      | cons d early =>
        obtain ⟨late', split', starts', none⟩ := ih ⟨early, late, (List.cons.inj split).2, starts⟩
        refine ⟨late', by rw [List.cons_append, ← split'], starts', fun start stop parts nonempty => ?_⟩
        cases start with
        | nil =>
          rw [List.nil_append] at parts
          rw [← parts, List.cons_append, ← split']
          exact elsewhere
        | cons e start => exact none start stop (List.cons.inj parts).2 nonempty

theorem beforeFirst_of (plain : closer.anchorless) {late : List Char} (starts : closer.Starts late)
    (nowhere : ∀ start stop, text = start ++ stop → stop ≠ [] → ¬ closer.Starts (stop ++ late)) :
    beforeFirst closer (text ++ late) = text := by
  induction text with
  | nil =>
    cases late with
    | nil => rfl
    | cons c cs => simp [beforeFirst, (startsAt_iff plain).mpr starts]
  | cons c cs ih =>
    have here := nowhere [] (c :: cs) rfl (List.cons_ne_nil _ _)
    rw [List.cons_append, ← startsAt_iff plain] at here
    rw [List.cons_append, beforeFirst, if_neg here,
      ih fun start stop split nonempty => nowhere (c :: start) stop (congrArg (c :: ·) split) nonempty]

theorem spells_exactly_append {next : Pattern} (cs : List Char) (spelled : next.Spells rest) :
    (exactly cs next).Spells (cs ++ rest) := by
  induction cs with
  | nil => exact spelled
  | cons c cs ih => exact ⟨[c], cs ++ rest, rfl, ⟨c, rfl, decide_eq_true rfl⟩, ih⟩

/-- No test of the pattern takes the character. -/
def avoids (x : Char) : Pattern → Bool
  | one test | many test | few test => !test x
  | seq first second | either first second => first.avoids x && second.avoids x
  | group inner => inner.avoids x
  | boundary | lineStart | finish => true

theorem not_mem_of_avoids {x : Char} (never : pattern.avoids x) (spelled : pattern.Spells read) : x ∉ read := by
  induction pattern generalizing read with
  | one test =>
    obtain ⟨c, rfl, passes⟩ := spelled
    rintro member
    obtain rfl := List.mem_singleton.mp member
    simp [avoids, passes] at never
  | many test | few test =>
    intro member
    simp [avoids, spelled x member] at never
  | seq first second ihFirst ihSecond =>
    obtain ⟨early, late, rfl, spelled, spelled'⟩ := spelled
    rw [avoids, Bool.and_eq_true] at never
    rw [List.mem_append]
    exact not_or.mpr ⟨ihFirst never.1 spelled, ihSecond never.2 spelled'⟩
  | either first second ihFirst ihSecond =>
    rw [avoids, Bool.and_eq_true] at never
    exact spelled.elim (ihFirst never.1) (ihSecond never.2)
  | group inner ih => exact ih never spelled
  | boundary | lineStart | finish =>
    obtain rfl : read = [] := spelled
    exact List.not_mem_nil

/-- A pattern that never reads a character reads nothing behind it. -/
theorem starts_before {x : Char} (never : closer.avoids x) (more : List Char) :
    closer.Starts (text ++ x :: more) ↔ closer.Starts text := by
  constructor
  · rintro ⟨read, rest, split, spelled⟩
    rcases List.append_eq_append_iff.mp split with ⟨between, rfl, rest'⟩ | ⟨between, rfl, -⟩
    · cases between with
      | nil => exact ⟨text, [], (List.append_nil _).symm, by rwa [List.append_nil] at spelled⟩
      | cons c between =>
        obtain ⟨rfl, -⟩ := List.cons.inj rest'
        exact absurd (List.mem_append_right _ List.mem_cons_self) (not_mem_of_avoids never spelled)
    · exact ⟨read, between, rfl, spelled⟩
  · rintro ⟨read, rest, rfl, spelled⟩
    exact ⟨read, rest ++ x :: more, by simp, spelled⟩

/-- What follows such a character does not count, where there is a closing before it. -/
theorem beforeFirst_before {x : Char} (plain : closer.anchorless) (never : closer.avoids x)
    (there : ∃ early late, text = early ++ late ∧ closer.Starts late) (more : List Char) :
    beforeFirst closer (text ++ x :: more) = beforeFirst closer text := by
  induction text with
  | nil =>
    obtain ⟨early, late, split, starts⟩ := there
    obtain ⟨rfl, rfl⟩ := List.append_eq_nil_iff.mp split.symm
    have begun : closer.Starts ([] ++ x :: more) := (starts_before never more).mpr starts
    have here : closer.startsAt (x :: more) := (startsAt_iff plain).mpr begun
    simp [beforeFirst, here]
  | cons c cs ih =>
    have same : closer.startsAt (c :: cs ++ x :: more) = closer.startsAt (c :: cs) := by
      rw [Bool.eq_iff_iff, startsAt_iff plain, startsAt_iff plain, starts_before never]
    rw [List.cons_append] at same ⊢
    rw [beforeFirst, beforeFirst, same]
    split
    · rfl
    · rename_i elsewhere
      rw [startsAt_iff plain] at elsewhere
      obtain ⟨early, late, split, starts⟩ := there
      cases early with
      | nil => exact absurd (split ▸ starts) elsewhere
      | cons d early => rw [ih ⟨early, late, (List.cons.inj split).2, starts⟩]

/-- The first match begins nowhere earlier. -/
theorem firstFrom_split {way : Place × List String} (plain : pattern.anchorless)
    (found : pattern.firstFrom before text = some way) :
    ∃ early read, text = early ++ (read ++ way.1.rest) ∧ pattern.Spells read ∧
      ∀ start stop, early = start ++ stop → stop ≠ [] → ¬ pattern.Starts (stop ++ (read ++ way.1.rest)) := by
  have here {place : Place} (head : (pattern.ways place).head? = some way) :
      ∃ read, place.rest = read ++ way.1.rest ∧ pattern.Spells read := by
    obtain ⟨read, split, spelled, -⟩ := ways_sound (List.mem_of_mem_head? head)
    exact ⟨read, split, spelled⟩
  have nothing (list : List Char) : ∀ start stop : List Char, [] = start ++ stop → stop ≠ [] →
      ¬ pattern.Starts (stop ++ list) :=
    fun start stop split nonempty => absurd (List.append_eq_nil_iff.mp split.symm).2 nonempty
  induction text generalizing before with
  | nil =>
    rw [firstFrom_nil] at found
    obtain ⟨read, split, spelled⟩ := here found
    exact ⟨[], read, split, spelled, nothing _⟩
  | cons c cs ih =>
    rw [firstFrom_cons] at found
    cases head : (pattern.ways ⟨before, c :: cs⟩).head? with
    | some other =>
      rw [head, Option.some_or] at found
      obtain ⟨read, split, spelled⟩ := here (head.trans found)
      exact ⟨[], read, split, spelled, nothing _⟩
    | none =>
      rw [head, Option.none_or] at found
      obtain ⟨early, read, split, spelled, nowhere⟩ := ih found
      refine ⟨c :: early, read, by rw [split, List.cons_append], spelled, fun start stop parts nonempty => ?_⟩
      cases start with
      | nil =>
        rw [List.nil_append] at parts
        rw [← parts, List.cons_append, ← split]
        exact (ways_eq_nil_iff plain).mp (List.head?_eq_none_iff.mp head)
      | cons d start => exact nowhere start stop (List.cons.inj parts).2 nonempty

theorem firstFrom_isSome (plain : pattern.anchorless) (early : List Char) {late : List Char}
    (starts : pattern.Starts late) (before : Option Char) :
    ∃ way, pattern.firstFrom before (early ++ late) = some way := by
  cases found : pattern.firstFrom before (early ++ late) with
  | some way => exact ⟨way, rfl⟩
  | none =>
    have unfound : pattern.searchFrom before (early ++ late) = none := by rw [searchFrom_eq, found, Option.map_none]
    obtain ⟨read, rest, rfl, spelled⟩ := starts
    exact absurd spelled (absent_of_search plain unfound early read rest rfl)

/-- A pattern without a group. -/
def groupless : Pattern → Bool
  | seq first second | either first second => first.groupless && second.groupless
  | group _ => false
  | _ => true

theorem captures_groupless (without : pattern.groupless) {texts : List String} (captured : pattern.Captures texts) :
    texts = [] := by
  induction pattern generalizing texts with
  | seq first second ihFirst ihSecond =>
    obtain ⟨early, late, rfl, captured, captured'⟩ := captured
    rw [groupless, Bool.and_eq_true] at without
    rw [ihFirst without.1 captured, ihSecond without.2 captured', List.append_nil]
  | either first second ihFirst ihSecond =>
    rw [groupless, Bool.and_eq_true] at without
    exact captured.elim (ihFirst without.1) (ihSecond without.2)
  | group inner => cases without
  | one test | many test | few test | boundary | lineStart | finish => exact captured

/-- Where the first match of the one pattern goes on with the other, there is the first match of both. -/
theorem firstFrom_seq {second : Pattern} {way next : Place × List String}
    (first : opener.firstFrom before text = some way) (further : (second.ways way.1).head? = some next) :
    (seq opener second).firstFrom before text = some (next.1, way.2 ++ next.2) := by
  have here {place : Place} (head : (opener.ways place).head? = some way) :
      ((seq opener second).ways place).head? = some (next.1, way.2 ++ next.2) := by
    obtain ⟨others, same⟩ := List.head?_eq_some_iff.mp head
    rw [ways, same, List.flatMap_cons, List.head?_append, List.head?_map, further]
    rfl
  induction text generalizing before with
  | nil =>
    rw [firstFrom_nil] at first
    exact firstFrom_here (here first)
  | cons c cs ih =>
    rw [firstFrom_cons] at first
    cases head : (opener.ways ⟨before, c :: cs⟩).head? with
    | some other =>
      rw [head, Option.some_or] at first
      exact firstFrom_here (here (head.trans first))
    | none =>
      rw [head, Option.none_or] at first
      have nowhere : (seq opener second).ways ⟨before, c :: cs⟩ = [] := by
        rw [ways, List.head?_eq_none_iff.mp head, List.flatMap_nil]
      rw [firstFrom_cons, nowhere, List.head?_nil, Option.none_or]
      exact ih first

/-- What stands between the first opening and the next closing is captured. -/
theorem search_between {text : String} (plain : closer.anchorless)
    (silent : opener.groupless) (found : opener.behindFirst text.toList = some rest)
    (there : ∃ early late, rest = early ++ late ∧ closer.Starts late) :
    ∃ captures, (seq opener (upTo closer)).search text =
      some (String.ofList (beforeFirst closer rest) :: captures) := by
  obtain ⟨way, first, rfl⟩ := Option.map_eq_some_iff.mp found
  obtain ⟨late, split, starts, nowhere⟩ := beforeFirst_split plain there
  have closed (before : Option Char) : (closer.ways ⟨before, late⟩).head? =
      some ((closer.ways ⟨before, late⟩).headD (⟨none, []⟩, [])) := by
    cases ahead : closer.ways ⟨before, late⟩ with
    | nil => exact absurd starts ((ways_eq_nil_iff plain).mp ahead)
    | cons next others => rfl
  obtain ⟨before, head⟩ := upTo_head plain way.1.before (beforeFirst closer way.1.rest) late nowhere closed
  rw [← split] at head
  have captured : way.2 = [] := by
    obtain ⟨place, ahead⟩ := firstFrom_head first
    obtain ⟨-, -, -, captures⟩ := ways_sound (List.mem_of_mem_head? ahead)
    exact captures_groupless silent captures
  refine ⟨((closer.ways ⟨before, late⟩).headD (⟨none, []⟩, [])).2, ?_⟩
  rw [search, searchFrom_eq, firstFrom_seq first head, captured]
  rfl

end Texts.Regex.Pattern
