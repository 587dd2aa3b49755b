import DriverMicroServices.Tables
import Mathlib.Data.List.MinMax

/-! The first row of a query by the greatest value of a column. -/
namespace Tables.Table

variable {V κ : Type} [LinearOrder κ] {t : Table V} {id : Nat} {v : V} {order : List Nat}
  {test : Nat → V → Bool} {key : V → κ}

/-- `ORDER BY key DESC LIMIT 1`. Of rows with the same key, the scan decides. -/
def newest (t : Table V) (order : List Nat) (test : Nat → V → Bool) (key : V → κ) :
    Option (Nat × V) :=
  (t.select order test).argmax fun found => key found.2

/-- What the query finds satisfies the condition, and no other row has a greater key. -/
theorem of_newest (scans : order.Perm t.ids) (found : t.newest order test key = some (id, v)) :
    t.row id = some v ∧ test id v = true ∧
      ∀ id' v', t.row id' = some v' → test id' v' = true → key v' ≤ key v := by
  obtain ⟨held, holds⟩ := (mem_select scans).mp (List.argmax_mem found)
  refine ⟨held, holds, fun id' v' held' holds' => ?_⟩
  have member : (id', v') ∈ t.select order test := (mem_select scans).mpr ⟨held', holds'⟩
  exact List.le_of_mem_argmax (f := fun entry : Nat × V => key entry.2) member found

theorem newest_eq_none (scans : order.Perm t.ids) :
    t.newest order test key = none ↔ ∀ id v, t.row id = some v → test id v = false := by
  rw [newest, List.argmax_eq_none, List.eq_nil_iff_forall_not_mem]
  constructor
  · intro empty id v held
    by_contra holds
    exact empty (id, v) ((mem_select scans).mpr ⟨held, Bool.eq_true_of_not_eq_false holds⟩)
  · rintro excluded ⟨id, v⟩ member
    obtain ⟨held, holds⟩ := (mem_select scans).mp member
    rw [excluded id v held] at holds
    cases holds

/-- A row that is ahead of all others is found, whatever the scan. -/
theorem newest_of_first (scans : order.Perm t.ids) (held : t.row id = some v)
    (holds : test id v = true)
    (first : ∀ id' v', t.row id' = some v' → test id' v' = true → id' ≠ id → key v' < key v) :
    t.newest order test key = some (id, v) := by
  cases found : t.newest order test key with
  | none =>
    have excluded := (newest_eq_none scans).mp found id v held
    rw [excluded] at holds
    cases holds
  | some other =>
    obtain ⟨id', v'⟩ := other
    obtain ⟨held', holds', greatest⟩ := of_newest scans found
    by_cases same : id' = id
    · subst same
      rw [held] at held'
      cases held'
      rfl
    · exact absurd (first id' v' held' holds' same) (not_lt.mpr (greatest id v held holds))

/-- Among rows sorted by the greatest value, the first that satisfies a condition is the
greatest that does. -/
theorem find_sorted {α : Type} (rows : List α) (chosen : α → Bool) (key : α → κ) :
    (rows.mergeSort fun a b => key b ≤ key a).find? chosen = (rows.filter chosen).argmax key := by
  have trans : ∀ a b c, decide (key b ≤ key a) → decide (key c ≤ key b) → decide (key c ≤ key a) := by
    simp only [decide_eq_true_eq]
    exact fun a b c ab bc => bc.trans ab
  have total : ∀ a b, (decide (key b ≤ key a) || decide (key a ≤ key b)) = true := by
    simp only [Bool.or_eq_true, decide_eq_true_eq]
    exact fun a b => le_total _ _
  induction rows with
  | nil => simp
  | cons row rest ih =>
    obtain ⟨before, after, sorted, others, ahead⟩ := List.mergeSort_cons trans total row rest
    have ordered := List.pairwise_mergeSort trans total (row :: rest)
    rw [sorted] at ordered ⊢
    rw [others, List.find?_append] at ih
    rw [List.find?_append, List.find?_cons]
    cases here : chosen row with
    | false =>
      rw [List.filter_cons_of_neg (by simp [here])]
      exact ih
    | true =>
      rw [List.filter_cons_of_pos here, List.argmax_cons, ← ih]
      cases early : before.find? chosen with
      | some first =>
        have greater := ahead first (List.mem_of_find?_eq_some early)
        simp only [Bool.not_eq_true', decide_eq_false_iff_not, not_le] at greater
        simp [greater]
      | none =>
        cases late : after.find? chosen with
        | none => rfl
        | some later =>
          have behind := (List.pairwise_cons.mp (List.pairwise_append.mp ordered).2.1).1 later
            (List.mem_of_find?_eq_some late)
          simp only [decide_eq_true_eq] at behind
          simp [not_lt.mpr behind]

theorem select_filter {chosen : Nat × V → Bool} :
    (t.select order test).filter chosen =
      t.select order fun id v => test id v && chosen (id, v) := by
  induction order with
  | nil => rfl
  | cons first rest ih =>
    simp only [select, List.filterMap_cons] at ih ⊢
    cases t.row first with
    | none => exact ih
    | some v =>
      by_cases holds : test first v
      · cases here : chosen (first, v) with
        | false => simp [holds, here, ih]
        | true => simp [holds, here, ih]
      · simp [holds, ih]

end Tables.Table
