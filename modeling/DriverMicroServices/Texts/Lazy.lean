import DriverMicroServices.Texts.Matches
import DriverMicroServices.Texts.Search

/-! Texts between an opening and the first closing after it: what a group that takes as little as
will do captures, and what the matches one after the other capture in a text that is written from
such enclosed parts. -/
namespace Texts.Regex.Pattern

variable {pattern closer : Pattern} {text read rest : List Char} {before : Option Char}

/-- The characters one after the other, each as it is. -/
def exactly : List Char → Pattern → Pattern
  | [], next => next
  | c :: cs, next => seq (one (· = c)) (exactly cs next)

/-- `([\s\S]*?)`, and what follows. -/
def upTo (closer : Pattern) : Pattern := seq (group (few fun _ => true)) closer

/-- A match begins with the text. -/
def Starts (pattern : Pattern) (text : List Char) : Prop :=
  ∃ read rest, text = read ++ rest ∧ pattern.Spells read

theorem ways_eq_nil_iff (plain : pattern.anchorless) :
    pattern.ways ⟨before, text⟩ = [] ↔ ¬ pattern.Starts text := by
  constructor
  · rintro none ⟨read, rest, rfl, spelled⟩
    obtain ⟨way, member, -⟩ := ways_complete plain spelled before rest
    rw [none] at member
    cases member
  · intro nowhere
    by_contra some
    obtain ⟨way, member⟩ := List.exists_mem_of_ne_nil _ some
    obtain ⟨read, split, spelled, -⟩ := ways_sound member
    exact nowhere ⟨read, _, split, spelled⟩

theorem absent_part {part : List Char} (absent : Absent pattern text) (inside : part <:+: text) :
    Absent pattern part := by
  rintro early read late rfl spelled
  obtain ⟨front, back, rfl⟩ := inside
  exact absent (front ++ early) read (late ++ back) (by simp) spelled

/-! ## One match -/

/-- Where the test stops at once, nothing is skipped. -/
theorem ways_stopped {test : Char → Bool} {c : Char} (stops : test c = false) (next : Pattern)
    (before : Option Char) (rest : List Char) :
    (seq (many test) next).ways ⟨before, c :: rest⟩ = next.ways ⟨before, c :: rest⟩ := by
  simp [ways, stretch, stops]

theorem ways_exactly (next : Pattern) (before : Option Char) (text rest : List Char) :
    ∃ before', (exactly text next).ways ⟨before, text ++ rest⟩ = next.ways ⟨before', rest⟩ := by
  induction text generalizing before with
  | nil => exact ⟨before, rfl⟩
  | cons c cs ih =>
    obtain ⟨before', same⟩ := ih (some c)
    refine ⟨before', ?_⟩
    rw [exactly, List.cons_append, ways_one (by simp), same]

theorem spells_exactly {next : Pattern} {cs : List Char} (spelled : (exactly cs next).Spells text) :
    ∃ rest, text = cs ++ rest ∧ next.Spells rest := by
  induction cs generalizing text with
  | nil => exact ⟨text, rfl, spelled⟩
  | cons c cs ih =>
    obtain ⟨start, further, rfl, ⟨other, rfl, same⟩, spelled⟩ := spelled
    obtain ⟨rest, rfl, found⟩ := ih spelled
    obtain rfl := of_decide_eq_true same
    exact ⟨rest, rfl, found⟩

/-- The first way of two patterns is a first way of the second. -/
theorem head_seq {first second : Pattern} {place : Place} {way : Place × List String}
    (head : ((seq first second).ways place).head? = some way) :
    ∃ early ∈ first.ways place, ∃ late, (second.ways early.1).head? = some late ∧
      way = (late.1, early.2 ++ late.2) := by
  rw [ways] at head
  generalize first.ways place = earlier at head ⊢
  induction earlier with
  | nil => cases head
  | cons early others ih =>
    rw [List.flatMap_cons, List.head?_append] at head
    cases later : (second.ways early.1).head? with
    | none =>
      rw [List.head?_map, later] at head
      obtain ⟨other, member, found⟩ := ih head
      exact ⟨other, List.mem_cons_of_mem _ member, found⟩
    | some late =>
      rw [List.head?_map, later] at head
      exact ⟨early, List.mem_cons_self, late, later, (Option.some.inj head).symm⟩

/-! ## As little as will do -/

theorem reverse_stretch_cons (before : Option Char) (c : Char) (cs : List Char) :
    (stretch (fun _ => true) before (c :: cs)).reverse =
      ⟨before, c :: cs⟩ :: (stretch (fun _ => true) (some c) cs).reverse := by
  simp [stretch]

theorem reverse_stretch_head (before : Option Char) (cs : List Char) :
    ∃ others, (stretch (fun _ => true) before cs).reverse = ⟨before, cs⟩ :: others := by
  cases cs with
  | nil => exact ⟨[], rfl⟩
  | cons c cs => exact ⟨_, reverse_stretch_cons before c cs⟩

/-- The places are tried one after the other. -/
theorem stretch_skip {α : Type} (ways : Place → List α) (before : Option Char) (read rest : List Char)
    (none : ∀ early late, read = early ++ late → late ≠ [] → ∀ before, ways ⟨before, late ++ rest⟩ = []) :
    ∃ before', (stretch (fun _ => true) before (read ++ rest)).reverse.flatMap ways =
      (stretch (fun _ => true) before' rest).reverse.flatMap ways := by
  induction read generalizing before with
  | nil => exact ⟨before, rfl⟩
  | cons c cs ih =>
    obtain ⟨before', same⟩ := ih (some c) fun early late split => none (c :: early) late (by simp [split])
    refine ⟨before', ?_⟩
    have here := none [] (c :: cs) rfl (by simp) before
    rw [List.cons_append] at here ⊢
    rw [reverse_stretch_cons, List.flatMap_cons, here, List.nil_append, same]

/-- The first place that there is a way on from. -/
theorem stretch_first {α : Type} {ways : Place → List α} {before : Option Char} {text : List Char} {found : α}
    (head : ((stretch (fun _ => true) before text).reverse.flatMap ways).head? = some found) :
    ∃ read rest before', text = read ++ rest ∧ (ways ⟨before', rest⟩).head? = some found ∧
      ∀ early late, read = early ++ late → late ≠ [] → ∃ before, ways ⟨before, late ++ rest⟩ = [] := by
  induction text generalizing before with
  | nil =>
    rw [stretch, List.reverse_singleton, List.flatMap_singleton] at head
    refine ⟨[], [], before, rfl, head, ?_⟩
    intro early late split nonempty
    exact absurd (List.append_eq_nil_iff.mp split.symm).2 nonempty
  | cons c cs ih =>
    rw [reverse_stretch_cons, List.flatMap_cons, List.head?_append] at head
    cases here : ways ⟨before, c :: cs⟩ with
    | nil =>
      rw [here] at head
      obtain ⟨read, rest, before', rfl, first, none⟩ := ih head
      refine ⟨c :: read, rest, before', rfl, first, ?_⟩
      intro early late split nonempty
      cases early with
      | nil =>
        rw [List.nil_append] at split
        exact ⟨before, by rw [← split]; exact here⟩
      | cons d early => exact none early late (List.cons.inj split).2 nonempty
    | cons way others =>
      rw [here] at head
      refine ⟨[], c :: cs, before, rfl, by rw [here]; exact head, ?_⟩
      intro early late split nonempty
      exact absurd (List.append_eq_nil_iff.mp split.symm).2 nonempty

theorem ways_upTo (closer : Pattern) (place : Place) :
    (upTo closer).ways place =
      (stretch (fun _ => true) place.before place.rest).reverse.flatMap fun stop =>
        (closer.ways stop).map fun next => (next.1, String.ofList (between place stop) :: next.2) := by
  simp only [upTo, ways, List.map_map, List.flatMap_map, Function.comp_def, List.singleton_append]

/-- What is enclosed is captured whole, where no closing begins in it. -/
theorem upTo_head {closing : Option Char → Place × List String} (plain : closer.anchorless)
    (before : Option Char) (read rest : List Char)
    (none : ∀ early late, read = early ++ late → late ≠ [] → ¬ closer.Starts (late ++ rest))
    (closed : ∀ before, (closer.ways ⟨before, rest⟩).head? = some (closing before)) :
    ∃ before', ((upTo closer).ways ⟨before, read ++ rest⟩).head? =
      some ((closing before').1, String.ofList read :: (closing before').2) := by
  obtain ⟨before', same⟩ := stretch_skip
    (fun stop => (closer.ways stop).map fun next =>
      (next.1, String.ofList (between ⟨before, read ++ rest⟩ stop) :: next.2)) before read rest
    (by
      intro early late split nonempty before'
      rw [List.map_eq_nil_iff, ways_eq_nil_iff plain]
      exact none early late split nonempty)
  obtain ⟨others, first⟩ := reverse_stretch_head before' rest
  have whole : between ⟨before, read ++ rest⟩ ⟨before', rest⟩ = read := between_of_append rfl
  refine ⟨before', ?_⟩
  rw [ways_upTo, same, first, List.flatMap_cons, List.head?_append, List.head?_map, closed, whole]
  rfl

/-- No closing begins in what is captured. -/
theorem upTo_first {place : Place} {way : Place × List String} (plain : closer.anchorless)
    (head : ((upTo closer).ways place).head? = some way) :
    ∃ read rest captures, place.rest = read ++ rest ∧ way.2 = String.ofList read :: captures ∧
      ∀ early late, read = early ++ late → late ≠ [] → ¬ closer.Starts (late ++ rest) := by
  rw [ways_upTo] at head
  obtain ⟨read, rest, before, split, first, none⟩ := stretch_first head
  rw [List.head?_map, Option.map_eq_some_iff] at first
  obtain ⟨closing, -, rfl⟩ := first
  refine ⟨read, rest, closing.2, split, by rw [between_of_append split], ?_⟩
  intro early late parts nonempty
  obtain ⟨before', silent⟩ := none early late parts nonempty
  rwa [List.map_eq_nil_iff, ways_eq_nil_iff plain] at silent

/-! ## One match after the other -/

theorem firstFrom_nil (pattern : Pattern) (before : Option Char) :
    pattern.firstFrom before [] = (pattern.ways ⟨before, []⟩).head? := by
  unfold firstFrom
  cases (pattern.ways ⟨before, []⟩).head? <;> rfl

theorem firstFrom_cons (pattern : Pattern) (before : Option Char) (c : Char) (cs : List Char) :
    pattern.firstFrom before (c :: cs) =
      (pattern.ways ⟨before, c :: cs⟩).head?.or (pattern.firstFrom (some c) cs) := by
  conv_lhs => unfold firstFrom
  cases (pattern.ways ⟨before, c :: cs⟩).head? <;> rfl

/-- A match that begins here is the first one. -/
theorem firstFrom_here {way : Place × List String} (head : (pattern.ways ⟨before, text⟩).head? = some way) :
    pattern.firstFrom before text = some way := by
  cases text with
  | nil => rw [firstFrom_nil, head]
  | cons c cs => rw [firstFrom_cons, head, Option.some_or]

/-- Where no match begins, the next one is looked for. -/
theorem firstFrom_skip (plain : pattern.anchorless) (before : Option Char) (gap rest : List Char)
    (none : ∀ early late, gap = early ++ late → late ≠ [] → ¬ pattern.Starts (late ++ rest)) :
    ∃ before', pattern.firstFrom before (gap ++ rest) = pattern.firstFrom before' rest := by
  induction gap generalizing before with
  | nil => exact ⟨before, rfl⟩
  | cons c cs ih =>
    obtain ⟨before', same⟩ := ih (some c) fun early late split => none (c :: early) late (by simp [split])
    have here : pattern.ways ⟨before, c :: cs ++ rest⟩ = [] :=
      (ways_eq_nil_iff plain).mpr (none [] (c :: cs) rfl (by simp))
    refine ⟨before', ?_⟩
    rw [List.cons_append] at here ⊢
    rw [firstFrom_cons, here, List.head?_nil, Option.none_or, same]

theorem firstFrom_absent (absent : Absent pattern text) (before : Option Char) :
    pattern.firstFrom before text = none := by
  have nowhere (before : Option Char) (early : List Char) {late : List Char} (split : text = early ++ late) :
      (pattern.ways ⟨before, late⟩).head? = none := by
    rw [List.head?_eq_none_iff]
    by_contra some
    obtain ⟨way, member⟩ := List.exists_mem_of_ne_nil _ some
    obtain ⟨read, parts, spelled, -⟩ := ways_sound member
    exact absent early read _ (by rw [split]; exact congrArg _ parts) spelled
  induction text generalizing before with
  | nil => rw [firstFrom_nil, nowhere before [] rfl]
  | cons c cs ih =>
    have later : Absent pattern cs := fun early read after split => absent (c :: early) read after (by simp [split])
    rw [firstFrom_cons, nowhere before [] rfl, Option.none_or]
    refine ih later (some c) fun before early _ split => nowhere before (c :: early) ?_
    rw [split, List.cons_append]

/-- The first match begins at some place. -/
theorem firstFrom_head {way : Place × List String} (found : pattern.firstFrom before text = some way) :
    ∃ place, (pattern.ways place).head? = some way := by
  induction text generalizing before with
  | nil => exact ⟨_, by rwa [firstFrom_nil] at found⟩
  | cons c cs ih =>
    rw [firstFrom_cons] at found
    cases here : (pattern.ways ⟨before, c :: cs⟩).head? with
    | none =>
      rw [here, Option.none_or] at found
      exact ih found
    | some other =>
      rw [here, Option.some_or] at found
      exact ⟨_, here.trans found⟩

/-- What holds of the captures of each first way holds of all matches. -/
theorem forall_allMatches (holds : List String → Prop)
    (each : ∀ place way, (pattern.ways place).head? = some way → holds way.2) (text : String) :
    ∀ captures ∈ pattern.allMatches text, holds captures := by
  have run (fuel : Nat) (place : Place) : ∀ captures ∈ pattern.matchesFrom fuel place, holds captures := by
    induction fuel generalizing place with
    | zero => simp [matchesFrom]
    | succ fuel ih =>
      rw [matchesFrom]
      cases found : pattern.firstFrom place.before place.rest with
      | none => simp
      | some way =>
        obtain ⟨here, head⟩ := firstFrom_head found
        intro captures member
        rcases List.mem_cons.mp member with rfl | later
        · exact each here way head
        · exact ih way.1 captures later
  exact run _ _

end Texts.Regex.Pattern
