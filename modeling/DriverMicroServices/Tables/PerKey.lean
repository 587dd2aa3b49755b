import Mathlib.Data.Option.Basic
import Mathlib.Logic.Function.Basic
import Mathlib.Tactic.Choose

/-! Partial changes of single keys. A list of them succeeds on a table just when it succeeds
under each key by itself, so that the changes of different keys may come in any order. -/
namespace Tables.PerKey

variable {K V : Type} [DecidableEq K] {t t' : K → V} {k : K}

/-- What is done to the value under one key; it may fail. -/
structure Change (K V : Type) where
  key : K
  step : V → Option V

def Change.apply (change : Change K V) (t : K → V) : Option (K → V) :=
  (change.step (t change.key)).map (Function.update t change.key)

def applyAll : List (Change K V) → (K → V) → Option (K → V)
  | [], t => some t
  | change :: rest, t => (change.apply t).bind (applyAll rest)

/-- What the changes do to the value under a key. -/
def along (k : K) : List (Change K V) → V → Option V
  | [], v => some v
  | change :: rest, v => (if change.key = k then change.step v else some v).bind (along k rest)

theorem along_nil : along k ([] : List (Change K V)) = some := rfl

/-- A single change of the key. -/
theorem along_self (step : V → Option V) : along k [⟨k, step⟩] = step := by
  funext v
  simp only [along, if_true]
  cases step v <;> rfl

theorem along_cons_self (step : V → Option V) (rest : List (Change K V)) (v : V) :
    along k (⟨k, step⟩ :: rest) v = (step v).bind (along k rest) := by
  simp [along]

theorem along_cons_ne {change : Change K V} (other : change.key ≠ k) (rest : List (Change K V)) (v : V) :
    along k (change :: rest) v = along k rest v := by
  simp [along, other]

/-- A single change of another key. -/
theorem along_other {other : K} (apart : other ≠ k) (step : V → Option V) : along k [⟨other, step⟩] = some := by
  funext v
  rw [along_cons_ne apart, along_nil]

theorem along_second {other : K} (apart : other ≠ k) (step step' : V → Option V) :
    along k [⟨other, step⟩, ⟨k, step'⟩] = step' := by
  funext v
  rw [along_cons_ne apart, along_self]

theorem along_first {other : K} (apart : other ≠ k) (step step' : V → Option V) :
    along k [⟨k, step⟩, ⟨other, step'⟩] = step := by
  funext v
  rw [along_cons_self, along_other apart, Option.bind_fun_some]

theorem along_append (first second : List (Change K V)) (v : V) :
    along k (first ++ second) v = (along k first v).bind (along k second) := by
  induction first generalizing v with
  | nil => rfl
  | cons change rest ih =>
    simp only [List.cons_append, along, Option.bind_assoc]
    congr 1
    funext middle
    exact ih middle

theorem along_untouched {changes : List (Change K V)} (others : ∀ change ∈ changes, change.key ≠ k) (v : V) :
    along k changes v = some v := by
  induction changes with
  | nil => rfl
  | cons change rest ih =>
    obtain ⟨here, later⟩ := List.forall_mem_cons.mp others
    rw [along_cons_ne here, ih later]

theorem applyAll_single (change : Change K V) (t : K → V) : applyAll [change] t = change.apply t :=
  Option.bind_fun_some ..

theorem applyAll_append (first second : List (Change K V)) (t : K → V) :
    applyAll (first ++ second) t = (applyAll first t).bind (applyAll second) := by
  induction first generalizing t with
  | nil => rfl
  | cons change rest ih =>
    simp only [List.cons_append, applyAll, Option.bind_assoc]
    congr 1
    funext middle
    exact ih middle

theorem apply_iff {change : Change K V} :
    change.apply t = some t' ↔ ∀ k, (if change.key = k then change.step (t k) else some (t k)) = some (t' k) := by
  unfold Change.apply
  constructor
  · intro applied k
    obtain ⟨v, stepped, rfl⟩ := Option.map_eq_some_iff.mp applied
    split
    · rename_i same
      subst same
      rw [stepped, Function.update_self]
    · rename_i other
      rw [Function.update_of_ne (Ne.symm other)]
  · intro each
    have here := each change.key
    rw [if_pos rfl] at here
    refine Option.map_eq_some_iff.mpr ⟨_, here, funext fun k => ?_⟩
    by_cases same : k = change.key
    · subst same
      rw [Function.update_self]
    · have there := each k
      rw [if_neg (Ne.symm same)] at there
      rw [Function.update_of_ne same]
      exact Option.some.inj there

/-- A run of changes succeeds just when it succeeds under each key. -/
theorem applyAll_iff {changes : List (Change K V)} :
    applyAll changes t = some t' ↔ ∀ k, along k changes (t k) = some (t' k) := by
  induction changes generalizing t with
  | nil =>
    simp only [applyAll, along, Option.some.injEq]
    exact funext_iff
  | cons change rest ih =>
    simp only [applyAll, along, Option.bind_eq_some_iff, ih, apply_iff]
    constructor
    · rintro ⟨middle, first, second⟩ k
      exact ⟨middle k, first k, second k⟩
    · intro each
      choose middle first second using each
      exact ⟨middle, first, second⟩

end Tables.PerKey
