import DriverMicroServices.Texts.Reads

/-! Patterns next to each other: one that reads all that another reads, and one that reads what some
pattern of a list reads. -/
namespace Texts.Regex.Pattern

variable {α : Type} {p q first second : Pattern} {list : List α} {each : α → Pattern}

/-! ## One pattern within another -/

/-- What `p` reads, `q` reads too. -/
def Within (p q : Pattern) : Prop := ∀ before read after, p.Reads before read after → q.Reads before read after

theorem Within.test {text : String} (within : Within p q) (found : p.test text) : q.test text := by
  obtain ⟨early, read, late, split, reads⟩ := test_iff.mp found
  exact test_iff.mpr ⟨early, read, late, split, within _ _ _ reads⟩

theorem Within.seq (inner : Within p q) (first : Pattern) : Within (seq first p) (seq first q) := by
  rintro before read after ⟨early, late, rfl, start, rest⟩
  exact ⟨early, late, rfl, start, inner _ _ _ rest⟩

theorem Within.followed (inner : Within p q) (cs : List Char) : Within (followed cs p) (followed cs q) := by
  induction cs with
  | nil => exact inner
  | cons c cs ih => exact ih.seq (letter c)

theorem Within.words (inner : Within p q) (list : List String) : Within (words list p) (words list q) := by
  induction list with
  | nil => exact inner
  | cons word rest ih =>
    cases rest with
    | nil => exact inner.followed word.toList
    | cons next rest => exact (ih.seq (plus isSpace)).followed word.toList

/-- An anchor reads nothing, so that the pattern behind it reads the text alone. -/
theorem within_boundary (p : Pattern) : Within (seq boundary p) p := by
  rintro before read after ⟨early, late, rfl, ⟨rfl, -⟩, rest⟩
  exact rest

/-! ## One of a list -/

/-- The pattern reads just what one of the patterns reads. -/
def Chooses (p : Pattern) (list : List α) (each : α → Pattern) : Prop :=
  ∀ before read after, p.Reads before read after ↔ ∃ a ∈ list, (each a).Reads before read after

theorem Chooses.test {text : String} (chooses : Chooses p list each) :
    p.test text ↔ ∃ a ∈ list, (each a).test text := by
  simp only [test_iff]
  constructor
  · rintro ⟨early, read, late, split, reads⟩
    obtain ⟨a, member, reads⟩ := (chooses _ _ _).mp reads
    exact ⟨a, member, early, read, late, split, reads⟩
  · rintro ⟨a, member, early, read, late, split, reads⟩
    exact ⟨early, read, late, split, (chooses _ _ _).mpr ⟨a, member, reads⟩⟩

theorem Chooses.seq (chooses : Chooses p list each) (first : Pattern) :
    Chooses (seq first p) list fun a => seq first (each a) := by
  intro before read after
  constructor
  · rintro ⟨early, late, rfl, start, rest⟩
    obtain ⟨a, member, rest⟩ := (chooses _ _ _).mp rest
    exact ⟨a, member, early, late, rfl, start, rest⟩
  · rintro ⟨a, member, early, late, rfl, start, rest⟩
    exact ⟨early, late, rfl, start, (chooses _ _ _).mpr ⟨a, member, rest⟩⟩

theorem Chooses.text (chooses : Chooses p list each) (literal : String) :
    Chooses (text literal p) list fun a => text literal (each a) := by
  unfold Pattern.text
  induction literal.toList with
  | nil => exact chooses
  | cons c cs ih => exact ih.seq (letter c)

/-! ## Words -/

/-- `A|B|C` -/
def anyOf : List String → Pattern
  | [] => one fun _ => false
  | [word] => Pattern.text word empty
  | word :: rest => either (Pattern.text word empty) (anyOf rest)

/-- A text, and what follows it. -/
theorem reads_text_then {literal : String} {before after : Option Char} {read : List Char} :
    (Pattern.seq (Pattern.text literal empty) p).Reads before read after ↔
      (Pattern.text literal p).Reads before read after := by
  unfold Pattern.text
  induction literal.toList generalizing before read with
  | nil =>
    constructor
    · rintro ⟨early, late, rfl, nothing, rest⟩
      obtain rfl : early = [] := List.eq_nil_iff_forall_not_mem.mpr fun c member =>
        Bool.false_ne_true (nothing c member)
      exact rest
    · exact fun rest => ⟨[], read, rfl, List.forall_mem_nil _, rest⟩
  | cons c cs ih =>
    constructor
    · rintro ⟨_, late, rfl, ⟨early, middle, rfl, ⟨d, rfl, same⟩, further⟩, rest⟩
      refine ⟨[d], middle ++ late, List.append_assoc .., ⟨d, rfl, same⟩, ih.mp ⟨middle, late, rfl, further, ?_⟩⟩
      rwa [last_append] at rest
    · rintro ⟨_, late, rfl, ⟨d, rfl, same⟩, rest⟩
      obtain ⟨middle, late, rfl, further, rest⟩ := ih.mpr rest
      refine ⟨d :: middle, late, rfl, ⟨[d], middle, rfl, ⟨d, rfl, same⟩, further⟩, ?_⟩
      rwa [last_cons]

theorem chooses_anyOf (words : List String) (next : Pattern) :
    Chooses (seq (group (anyOf words)) next) words fun word => Pattern.text word next := by
  intro before read after
  induction words with
  | nil =>
    constructor
    · rintro ⟨early, late, rfl, ⟨c, rfl, impossible⟩, rest⟩
      cases impossible
    · rintro ⟨word, impossible, reads⟩
      cases impossible
  | cons word rest ih =>
    simp only [List.mem_cons, exists_eq_or_imp]
    rw [← ih, ← reads_text_then]
    cases rest with
    | nil =>
      constructor
      · exact .inl
      · rintro (reads | ⟨early, late, rfl, ⟨c, rfl, impossible⟩, rest⟩)
        · exact reads
        · cases impossible
    | cons other rest =>
      constructor
      · rintro ⟨early, late, rfl, here | later, further⟩
        · exact .inl ⟨early, late, rfl, here, further⟩
        · exact .inr ⟨early, late, rfl, later, further⟩
      · rintro (⟨early, late, rfl, here, further⟩ | ⟨early, late, rfl, later, further⟩)
        · exact ⟨early, late, rfl, .inl here, further⟩
        · exact ⟨early, late, rfl, .inr later, further⟩

end Texts.Regex.Pattern
