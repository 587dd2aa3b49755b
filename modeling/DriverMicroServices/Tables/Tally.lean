import Mathlib.Algebra.BigOperators.Group.List.Basic

/-! Items counted into a fixed list of entries: an item goes to the entry of its key, and one
whose key has no entry is left out. A measure that each item adds to adds up to the items
that have an entry. -/
namespace Tables

variable {Entry Item Key M : Type*} [DecidableEq Key]

def tally (key : Entry → Key) (keyOf : Item → Key) (count : Entry → Item → Entry)
    (entries : List Entry) (item : Item) : List Entry :=
  entries.map fun entry => if key entry = keyOf item then count entry item else entry

section

variable {key : Entry → Key} {keyOf : Item → Key} {count : Entry → Item → Entry}

@[simp] theorem map_key_tally (kept : ∀ entry item, key (count entry item) = key entry)
    (entries : List Entry) (item : Item) :
    (tally key keyOf count entries item).map key = entries.map key := by
  unfold tally
  rw [List.map_map]
  apply List.map_congr_left
  intro entry _
  simp only [Function.comp_apply]
  split
  · exact kept entry item
  · rfl

theorem map_key_foldl_tally (kept : ∀ entry item, key (count entry item) = key entry)
    (entries : List Entry) (items : List Item) :
    (items.foldl (tally key keyOf count) entries).map key = entries.map key := by
  induction items generalizing entries with
  | nil => rfl
  | cons item rest ih => rw [List.foldl_cons, ih, map_key_tally kept]

variable [AddCommMonoid M] {measure : Entry → M} {share : Item → M}

theorem sum_tally (adds : ∀ entry item, measure (count entry item) = measure entry + share item)
    (entries : List Entry) (item : Item) (nodup : (entries.map key).Nodup) :
    ((tally key keyOf count entries item).map measure).sum =
      (entries.map measure).sum + if keyOf item ∈ entries.map key then share item else 0 := by
  induction entries with
  | nil => simp [tally]
  | cons entry rest ih =>
    obtain ⟨fresh, tail⟩ := List.nodup_cons.mp nodup
    have step := ih tail
    by_cases here : key entry = keyOf item
    · rw [here] at fresh
      rw [if_neg fresh, add_zero] at step
      have listed : keyOf item ∈ (entry :: rest).map key := by simp [here]
      rw [if_pos listed]
      simp only [tally, List.map_cons, List.sum_cons, here, if_true, adds] at step ⊢
      rw [step]
      exact add_right_comm _ _ _
    · have same : keyOf item ∈ (entry :: rest).map key ↔ keyOf item ∈ rest.map key := by
        rw [List.map_cons, List.mem_cons, or_iff_right (Ne.symm here)]
      simp only [same]
      simp only [tally, List.map_cons, List.sum_cons, here, if_false] at step ⊢
      rw [step, add_assoc]

/-- The measures add up to the shares of the items that have an entry. -/
theorem sum_foldl_tally (kept : ∀ entry item, key (count entry item) = key entry)
    (adds : ∀ entry item, measure (count entry item) = measure entry + share item)
    (entries : List Entry) (items : List Item) (nodup : (entries.map key).Nodup) :
    ((items.foldl (tally key keyOf count) entries).map measure).sum =
      (entries.map measure).sum +
        ((items.filter fun item => keyOf item ∈ entries.map key).map share).sum := by
  induction items generalizing entries with
  | nil => simp
  | cons item rest ih =>
    have keys : (tally key keyOf count entries item).map key = entries.map key :=
      map_key_tally kept entries item
    have step := ih (tally key keyOf count entries item) (by rwa [keys])
    rw [List.foldl_cons, step, keys, sum_tally adds entries item nodup]
    by_cases listed : keyOf item ∈ entries.map key
    · rw [List.filter_cons_of_pos (by simpa using listed), if_pos listed, List.map_cons,
        List.sum_cons, add_assoc]
    · rw [List.filter_cons_of_neg (by simpa using listed), if_neg listed, add_zero]

end

end Tables
