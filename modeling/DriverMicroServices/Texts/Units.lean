import Mathlib.Data.List.Nodup
import Mathlib.Data.List.Sublists

/-! Texts by their UTF-16 code units: their length, their order, and what a sort of them does.
Before a mark that is smaller than all characters of two stamps, the stamps decide. -/
namespace Texts.Units

def ofChar (c : Char) : List Nat :=
  if c.toNat < 0x10000 then [c.toNat]
  else [0xd800 + (c.toNat - 0x10000) / 0x400, 0xdc00 + (c.toNat - 0x10000) % 0x400]

def units (text : String) : List Nat := text.toList.flatMap ofChar

/-- `text.length` -/
def length (text : String) : Nat := (units text).length

/-- `a < b` of two texts. -/
def sortsBefore (a b : String) : Bool := decide (units a < units b)

/-- `texts.sort()` -/
def sort (texts : List String) : List String := texts.mergeSort fun a b => !sortsBefore b a

variable {a b : String} {texts : List String}

theorem units_append (a b : String) : units (a ++ b) = units a ++ units b := by
  simp [units]

theorem sortsBefore_asymm (before : sortsBefore a b = true) : sortsBefore b a = false := by
  simp only [sortsBefore, decide_eq_true_eq, decide_eq_false_iff_not] at *
  exact List.lt_asymm before

theorem sort_sorted (texts : List String) :
    (sort texts).Pairwise fun a b => sortsBefore b a = false := by
  have sorted : (texts.mergeSort fun a b => !sortsBefore b a).Pairwise fun a b => !sortsBefore b a :=
    List.pairwise_mergeSort
    (by
      intro a b c first second
      simp only [sortsBefore, Bool.not_eq_true', decide_eq_false_iff_not, List.not_lt] at *
      exact List.le_trans first second)
    (by
      intro a b
      simp only [sortsBefore, Bool.or_eq_true, Bool.not_eq_true', decide_eq_false_iff_not, List.not_lt]
      exact List.le_total _ _)
    texts
  unfold sort
  simpa using sorted

@[simp] theorem mem_sort : a ∈ sort texts ↔ a ∈ texts := List.mem_mergeSort

/-- Two members of a list stand in it one way round or the other. -/
theorem sublist_or_sublist {list : List String} (here : a ∈ list) (there : b ∈ list) (apart : a ≠ b) :
    [a, b].Sublist list ∨ [b, a].Sublist list := by
  induction list with
  | nil => cases here
  | cons first rest ih =>
    rcases List.mem_cons.mp here with same | early
    · subst same
      have later := (List.mem_cons.mp there).resolve_left apart.symm
      exact .inl (List.Sublist.cons_cons _ (List.singleton_sublist.mpr later))
    · rcases List.mem_cons.mp there with same | late
      · subst same
        exact .inr (List.Sublist.cons_cons _ (List.singleton_sublist.mpr early))
      · rcases ih early late with kept | kept
        · exact .inl (kept.cons first)
        · exact .inr (kept.cons first)

/-- A text that sorts before another one comes before it. -/
theorem sublist_sort (here : a ∈ texts) (there : b ∈ texts) (before : sortsBefore a b = true) :
    [a, b].Sublist (sort texts) := by
  have apart : a ≠ b := by
    rintro rfl
    simpa [before] using sortsBefore_asymm before
  rcases sublist_or_sublist (mem_sort.mpr here) (mem_sort.mpr there) apart with kept | kept
  · exact kept
  · have ordered := (sort_sorted texts).sublist kept
    simp [before] at ordered

/-- It never comes after it. -/
theorem not_sublist_sort (texts : List String) (before : sortsBefore a b = true) :
    ¬ [b, a].Sublist (sort texts) := by
  intro kept
  have ordered := (sort_sorted texts).sublist kept
  simp [before] at ordered

/-! ## Stamps before a mark -/

theorem marked_lt_iff {mark : Nat} {first second : List Nat} (x y : List Nat)
    (large : ∀ n ∈ first, mark < n) (large' : ∀ n ∈ second, mark < n) :
    first ++ mark :: x < second ++ mark :: y ↔ first < second ∨ first = second ∧ x < y := by
  induction first generalizing second with
  | nil =>
    cases second with
    | nil => simp
    | cons n ns =>
      have more := large' n (by simp)
      simp [List.cons_lt_cons_iff, more]
  | cons n ns ih =>
    have more := large n (by simp)
    cases second with
    | nil =>
      have apart : n ≠ mark := by omega
      have less : ¬ n < mark := by omega
      simp [List.cons_lt_cons_iff, apart, less]
    | cons m ms =>
      have later : ns ++ mark :: x < ms ++ mark :: y ↔ ns < ms ∨ ns = ms ∧ x < y :=
        ih (fun k member => large k (by simp [member]))
        (fun k member => large' k (by simp [member]))
      simp only [List.cons_append, List.cons_lt_cons_iff, later, List.cons.injEq]
      constructor
      · rintro (less | ⟨same, less | ⟨same', less⟩⟩)
        · exact .inl (.inl less)
        · exact .inl (.inr ⟨same, less⟩)
        · exact .inr ⟨⟨same, same'⟩, less⟩
      · rintro ((less | ⟨same, less⟩) | ⟨⟨same, same'⟩, less⟩)
        · exact .inl less
        · exact .inr ⟨same, .inl less⟩
        · exact .inr ⟨same, .inr ⟨same', less⟩⟩

theorem append_lt_iff (start x y : List Nat) : start ++ x < start ++ y ↔ x < y := by
  induction start with
  | nil => rfl
  | cons n ns ih => simp [ih]

/-- Under one start, what stands before the mark decides; what stands after it only for one stamp. -/
theorem sortsBefore_stamped {start mark : String} {markUnit : Nat} {first second : String} (x y : String)
    (single : units mark = [markUnit]) (large : ∀ n ∈ units first, markUnit < n)
    (large' : ∀ n ∈ units second, markUnit < n) :
    sortsBefore (start ++ (first ++ (mark ++ x))) (start ++ (second ++ (mark ++ y))) = true ↔
      sortsBefore first second = true ∨ units first = units second ∧ sortsBefore x y = true := by
  simp only [sortsBefore, decide_eq_true_eq, units_append, append_lt_iff, single, List.singleton_append]
  exact marked_lt_iff _ _ large large'

end Texts.Units
