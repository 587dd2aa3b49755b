import Mathlib.Data.List.Permutation

/-! Each two elements of a list, the earlier one first, and when a relation between them finds the same ones
in any order of the list. -/
namespace Tables.Pairs

variable {α : Type}

/-- Each two elements, in their order. -/
def pairs : List α → List (α × α)
  | [] => []
  | first :: rest => rest.map (first, ·) ++ pairs rest

theorem mem_pairs_iff_sublist {list : List α} {a b : α} : (a, b) ∈ pairs list ↔ [a, b].Sublist list := by
  induction list with
  | nil => simp [pairs]
  | cons first rest ih =>
    rw [pairs, List.mem_append, ih, List.sublist_cons_iff]
    simp only [List.mem_map, Prod.mk.injEq, List.cons.injEq]
    constructor
    · rintro (⟨other, member, rfl, rfl⟩ | later)
      · exact .inr ⟨[other], ⟨rfl, rfl⟩, List.singleton_sublist.mpr member⟩
      · exact .inl later
    · rintro (later | ⟨others, ⟨rfl, rfl⟩, member⟩)
      · exact .inr later
      · exact .inl ⟨b, List.singleton_sublist.mp member, rfl, rfl⟩

theorem mem_pairs_iff_getElem? {list : List α} {a b : α} :
    (a, b) ∈ pairs list ↔ ∃ i j : Nat, i < j ∧ list[i]? = some a ∧ list[j]? = some b := by
  induction list with
  | nil => simp [pairs]
  | cons first rest ih =>
    rw [pairs, List.mem_append, ih]
    constructor
    · rintro (here | ⟨i, j, before, one, other⟩)
      · obtain ⟨other, member, same⟩ := List.mem_map.mp here
        cases same
        obtain ⟨j, found⟩ := List.mem_iff_getElem?.mp member
        exact ⟨0, j + 1, by omega, rfl, found⟩
      · exact ⟨i + 1, j + 1, by omega, one, other⟩
    · rintro ⟨i, j, before, one, other⟩
      obtain ⟨j, rfl⟩ : ∃ k, j = k + 1 := ⟨j - 1, by omega⟩
      cases i with
      | zero =>
        cases one
        exact .inl (List.mem_map.mpr ⟨b, List.mem_of_getElem? other, rfl⟩)
      | succ i => exact .inr ⟨i, j, by omega, one, other⟩

/-- Two numbered elements, with the smaller number first. -/
theorem mem_pairs_zipIdx {list : List α} {a b : α} {i j : Nat} :
    ((a, i), (b, j)) ∈ pairs list.zipIdx ↔ i < j ∧ list[i]? = some a ∧ list[j]? = some b := by
  have numbered {k : Nat} {c : α} {n : Nat} : list.zipIdx[k]? = some (c, n) ↔ k = n ∧ list[n]? = some c := by
    rw [List.getElem?_zipIdx, Option.map_eq_some_iff]
    constructor
    · rintro ⟨c, found, same⟩
      cases same
      rw [Nat.zero_add]
      exact ⟨rfl, found⟩
    · rintro ⟨rfl, found⟩
      exact ⟨c, found, by rw [Nat.zero_add]⟩
  rw [mem_pairs_iff_getElem?]
  simp only [numbered]
  constructor
  · rintro ⟨_, _, before, ⟨rfl, one⟩, rfl, other⟩
    exact ⟨before, one, other⟩
  · rintro ⟨before, one, other⟩
    exact ⟨i, j, before, ⟨rfl, one⟩, rfl, other⟩

section Orders

variable {R : α → α → Prop} {list other : List α} {a b : α}

/-- Two elements are a pair in one of the orders just if the list has both. -/
theorem pair_iff_subperm : (a, b) ∈ pairs list ∨ (b, a) ∈ pairs list ↔ [a, b].Subperm list := by
  rw [mem_pairs_iff_sublist, mem_pairs_iff_sublist]
  constructor
  · rintro (sublist | sublist)
    · exact sublist.subperm
    · exact (List.Perm.swap b a []).subperm.trans sublist.subperm
  · rintro ⟨two, perm, sublist⟩
    rcases List.perm_pair.mp perm with rfl | rfl
    · exact .inl sublist
    · exact .inr sublist

theorem pair_of_ne (one : a ∈ list) (other : b ∈ list) (apart : a ≠ b) :
    (a, b) ∈ pairs list ∨ (b, a) ∈ pairs list := by
  rw [pair_iff_subperm]
  apply List.subperm_of_subset
  · simp [apart]
  · simp [one, other]

theorem mem_of_pair (pair : (a, b) ∈ pairs list) : a ∈ list ∧ b ∈ list := by
  have subset := (mem_pairs_iff_sublist.mp pair).subset
  exact ⟨subset (by simp), subset (by simp)⟩

/-- The relation finds these two, in the one or in the other order. -/
def Meets (R : α → α → Prop) (list : List α) (a b : α) : Prop :=
  (a, b) ∈ pairs list ∧ R a b ∨ (b, a) ∈ pairs list ∧ R b a

theorem meets_of_symmetric (symmetric : R a b ↔ R b a) : Meets R list a b ↔ [a, b].Subperm list ∧ R a b := by
  rw [Meets, ← symmetric, ← or_and_right, pair_iff_subperm]

/-- Every list has an order in which one element never stands before another one. -/
theorem exists_order [DecidableEq α] (list : List α) (a b : α) (apart : a ≠ b) :
    ∃ other : List α, other.Perm list ∧ (a, b) ∉ pairs other := by
  refine ⟨list.filter (· = b) ++ list.filter (fun c => !decide (c = b)), List.filter_append_perm _ _, ?_⟩
  rw [mem_pairs_iff_sublist, List.sublist_append_iff]
  rintro ⟨early, late, split, first, second⟩
  cases early with
  | nil =>
    rw [List.nil_append] at split
    subst split
    have member : b ∈ list.filter (fun c => !decide (c = b)) := second.subset (by simp)
    simp at member
  | cons c rest =>
    have same : a = c := (List.cons.inj split).1
    have member : c ∈ list.filter (· = b) := first.subset List.mem_cons_self
    have equal : c = b := by simpa using (List.mem_filter.mp member).2
    exact apart (same.trans equal)

/-- A relation finds the same pairs in every order of a list just when it is symmetric on the list. -/
theorem stable_iff [DecidableEq α] (R : α → α → Prop) (list : List α) :
    (∀ other : List α, other.Perm list → ∀ a b, Meets R other a b ↔ Meets R list a b) ↔
      ∀ a ∈ list, ∀ b ∈ list, R a b → R b a := by
  constructor
  · intro stable a one b two related
    by_cases apart : a = b
    · subst apart
      exact related
    by_contra unrelated
    -- found with `a` in front, and not with `b` in front
    have found {order : List α} : Meets R order a b ↔ (a, b) ∈ pairs order := by
      constructor
      · rintro (here | back)
        · exact here.1
        · exact absurd back.2 unrelated
      · exact fun here => .inl ⟨here, related⟩
    obtain ⟨order, perm, absent⟩ := exists_order list a b apart
    obtain ⟨order', perm', absent'⟩ := exists_order list b a (Ne.symm apart)
    have present : (a, b) ∈ pairs order' :=
      (pair_of_ne (perm'.mem_iff.mpr one) (perm'.mem_iff.mpr two) apart).resolve_right absent'
    have here := (stable order' perm' a b).mp (found.mpr present)
    exact absent (found.mp ((stable order perm a b).mpr here))
  · intro symmetric other perm a b
    by_cases both : [a, b].Subperm list
    · have one : a ∈ list := both.subset (by simp)
      have two : b ∈ list := both.subset (by simp)
      have same : R a b ↔ R b a := ⟨symmetric a one b two, symmetric b two a one⟩
      rw [meets_of_symmetric same, meets_of_symmetric same, perm.subperm_left]
    · have none {order : List α} (perm : order.Perm list) : ¬ Meets R order a b := by
        intro meets
        apply both
        rw [← perm.subperm_left, ← pair_iff_subperm]
        exact meets.imp And.left And.left
      exact iff_of_false (none perm) (none (List.Perm.refl list))

end Orders

end Tables.Pairs
