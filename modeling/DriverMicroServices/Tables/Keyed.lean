import Mathlib.Data.List.Nodup

/-! Entries under keys, in the order in which a scan meets them: a map that iterates in the
order of insertion, or the rows of a table with their ids. -/
namespace Tables.Keyed

variable {κ α : Type} [DecidableEq κ] {entries : List (κ × α)} {k k' : κ} {v v' : α}

/-- The first entry of a key. -/
def get (entries : List (κ × α)) (k : κ) : Option α := (entries.find? (·.1 = k)).map Prod.snd

/-- An entry that is there is replaced in its place, a new one comes last. -/
def put (entries : List (κ × α)) (k : κ) (v : α) : List (κ × α) :=
  if (get entries k).isSome then
    entries.map fun entry => if entry.1 = k then (k, v) else entry
  else entries ++ [(k, v)]

@[simp] theorem get_nil : get ([] : List (κ × α)) k = none := rfl

@[simp] theorem get_put_self : get (put entries k v) k = some v := by
  unfold put
  split
  · rename_i there
    induction entries with
    | nil => cases there
    | cons first rest ih =>
      by_cases here : first.1 = k
      · simp [get, here]
      · have later := ih (by simpa [get, here] using there)
        simpa [get, here] using later
  · rename_i absent
    have fresh : entries.find? (·.1 = k) = none := by
      simpa only [get, Option.isSome_map, Option.not_isSome_iff_eq_none] using absent
    simp [get, List.find?_append, fresh]

theorem get_put_ne (other : k' ≠ k) : get (put entries k v) k' = get entries k' := by
  unfold put
  split
  · clear * - other
    induction entries with
    | nil => rfl
    | cons first rest ih =>
      by_cases here : first.1 = k
      · have apart : first.1 ≠ k' := fun same => other (same.symm.trans here)
        simpa [get, here, other.symm, apart] using ih
      · by_cases mine : first.1 = k'
        · simp [get, mine, other]
        · simpa [get, here, mine] using ih
  · simp [get, List.find?_append, other.symm]

/-- What is left under a key was there before other keys were dropped. -/
theorem get_filter (keep : κ → Bool) (held : get (entries.filter fun entry => keep entry.1) k = some v) :
    get entries k = some v := by
  obtain ⟨found, first, rfl⟩ := Option.map_eq_some_iff.mp held
  simp only [List.find?_filter, Bool.decide_and, Bool.decide_eq_true] at first
  have mine := List.find?_some first
  simp only [Bool.and_eq_true, decide_eq_true_eq] at mine
  have same : (fun entry : κ × α => keep entry.1 && decide (entry.1 = k)) =
      fun entry => decide (entry.1 = k) := by
    funext entry
    by_cases here : entry.1 = k
    · simp [here, ← mine.2, mine.1]
    · simp [here]
  rw [same] at first
  simp [get, first]

def remove (entries : List (κ × α)) (k : κ) : List (κ × α) := entries.filter fun entry => entry.1 ≠ k

theorem mem_remove {entry : κ × α} : entry ∈ remove entries k ↔ entry ∈ entries ∧ entry.1 ≠ k := by
  simp [remove]

theorem get_remove_self : get (remove entries k) k = none := by
  simp [get, remove]

theorem get_remove_ne (other : k' ≠ k) : get (remove entries k) k' = get entries k' := by
  rw [get, get, remove, List.find?_filter]
  congr 2
  funext entry
  by_cases mine : entry.1 = k'
  · simp [mine, other]
  · simp [mine]

theorem mem_put {entry : κ × α} (member : entry ∈ put entries k v) :
    entry = (k, v) ∨ entry ∈ entries ∧ entry.1 ≠ k := by
  unfold put at member
  split at member
  · obtain ⟨before, there, rfl⟩ := List.mem_map.mp member
    by_cases here : before.1 = k
    · exact .inl (if_pos here)
    · rw [if_neg here]
      exact .inr ⟨there, here⟩
  · rename_i absent
    rcases List.mem_append.mp member with there | new
    · have none : entries.find? (·.1 = k) = none := by
        simpa only [get, Option.isSome_map, Option.not_isSome_iff_eq_none] using absent
      have apart := List.find?_eq_none.mp none entry there
      exact .inr ⟨there, by simpa using apart⟩
    · exact .inl (List.mem_singleton.mp new)

theorem mem_of_get (held : get entries k = some v) : (k, v) ∈ entries := by
  obtain ⟨found, first, rfl⟩ := Option.map_eq_some_iff.mp held
  have mine := List.find?_some first
  have same : found.1 = k := by simpa using mine
  rw [← same]
  exact List.mem_of_find?_eq_some first

/-! ## One entry a key -/

def Distinct (entries : List (κ × α)) : Prop := (entries.map (·.1)).Nodup

theorem mem_iff_get (distinct : Distinct entries) : (k, v) ∈ entries ↔ get entries k = some v := by
  unfold Distinct at distinct
  induction entries with
  | nil => simp [get]
  | cons first rest ih =>
    rw [List.map_cons, List.nodup_cons] at distinct
    have later := ih distinct.2
    obtain ⟨key, value⟩ := first
    by_cases here : key = k
    · subst here
      have absent : (key, v) ∉ rest := fun there => distinct.1 (List.mem_map.mpr ⟨_, there, rfl⟩)
      simp [get, absent, eq_comm]
    · have apart : k ≠ key := fun same => here same.symm
      simpa [get, here, apart] using later

theorem keys_put (entries : List (κ × α)) (k : κ) (v : α) :
    (put entries k v).map (·.1) =
      if k ∈ entries.map (·.1) then entries.map (·.1) else entries.map (·.1) ++ [k] := by
  have held : (get entries k).isSome ↔ k ∈ entries.map (·.1) := by
    simp [get, List.find?_isSome]
  unfold put
  by_cases there : k ∈ entries.map (·.1)
  · rw [if_pos (held.mpr there), if_pos there, List.map_map]
    refine List.map_congr_left fun entry _ => ?_
    by_cases here : entry.1 = k <;> simp [here]
  · rw [if_neg (mt held.mp there), if_neg there]
    simp

theorem Distinct.put (distinct : Distinct entries) (k : κ) (v : α) : Distinct (put entries k v) := by
  unfold Distinct
  rw [keys_put]
  split
  · exact distinct
  · rename_i absent
    exact distinct.append (List.nodup_singleton k) (by simpa using absent)

theorem Distinct.remove (distinct : Distinct entries) (k : κ) : Distinct (remove entries k) :=
  distinct.sublist (List.Sublist.map _ List.filter_sublist)

/-! ## Entries put one after the other -/

/-- The map that the entries leave, put one after the other. -/
def putAll (entries : List (κ × α)) : List (κ × α) :=
  entries.foldl (fun held entry => put held entry.1 entry.2) []

/-- The entries that no later one replaces. -/
def lasting : List (κ × α) → List (κ × α)
  | [] => []
  | entry :: rest => if entry.1 ∈ rest.map (·.1) then lasting rest else entry :: lasting rest

theorem put_perm (distinct : Distinct entries) (k : κ) (v : α) :
    (put entries k v).Perm (remove entries k ++ [(k, v)]) := by
  unfold put
  split
  · rename_i there
    induction entries with
    | nil => cases there
    | cons first rest ih =>
      have apart := List.nodup_cons.mp distinct
      by_cases here : first.1 = k
      · have others : ∀ entry ∈ rest, entry.1 ≠ k := by
          intro entry member same
          exact apart.1 (List.mem_map.mpr ⟨entry, member, same.trans here.symm⟩)
        have kept : remove rest k = rest := List.filter_eq_self.mpr fun entry member => by
          simpa using others entry member
        have still : rest.map (fun entry => if entry.1 = k then (k, v) else entry) = rest := by
          conv_rhs => rw [← List.map_id rest]
          exact List.map_congr_left fun entry member => if_neg (others entry member)
        have gone : remove (first :: rest) k = rest := by
          rw [remove, List.filter_cons_of_neg (by simpa using here)]
          exact kept
        rw [List.map_cons, if_pos here, still, gone]
        exact (List.perm_append_singleton (k, v) rest).symm
      · have later : (get rest k).isSome := by simpa [get, here] using there
        have gone : remove (first :: rest) k = first :: remove rest k :=
          List.filter_cons_of_pos (by simpa using here)
        rw [List.map_cons, if_neg here, gone]
        exact (ih apart.2 later).cons first
  · rename_i absent
    have gone : remove entries k = entries := by
      refine List.filter_eq_self.mpr fun entry member => ?_
      have fresh : entries.find? (·.1 = k) = none := by
        simpa only [get, Option.isSome_map, Option.not_isSome_iff_eq_none] using absent
      simpa using List.find?_eq_none.mp fresh entry member
    rw [gone]

theorem Distinct.putAll (entries : List (κ × α)) : Distinct (putAll entries) := by
  have kept (held : List (κ × α)) (distinct : Distinct held) :
      Distinct (entries.foldl (fun held entry => Keyed.put held entry.1 entry.2) held) := by
    induction entries generalizing held with
    | nil => exact distinct
    | cons entry rest ih => exact ih _ (distinct.put entry.1 entry.2)
  exact kept [] List.nodup_nil

private theorem foldl_put_perm (entries : List (κ × α)) {held : List (κ × α)} (distinct : Distinct held) :
    (entries.foldl (fun held entry => put held entry.1 entry.2) held).Perm
      (held.filter (fun entry => entry.1 ∉ entries.map (·.1)) ++ lasting entries) := by
  induction entries generalizing held with
  | nil => simp [lasting]
  | cons entry rest ih =>
    refine (ih (distinct.put entry.1 entry.2)).trans ?_
    have replaced := (put_perm distinct entry.1 entry.2).filter fun entry => entry.1 ∉ rest.map (·.1)
    have left : (remove held entry.1).filter (fun other => other.1 ∉ rest.map (·.1)) =
        held.filter fun other => other.1 ∉ (entry :: rest).map (·.1) := by
      rw [remove, List.filter_filter]
      refine List.filter_congr fun other _ => ?_
      rw [List.map_cons, ← Bool.decide_and, decide_eq_decide, List.mem_cons, not_or, and_comm]
    rw [List.filter_append, left] at replaced
    refine (replaced.append_right _).trans ?_
    rw [List.append_assoc]
    refine List.Perm.append_left _ ?_
    by_cases again : entry.1 ∈ rest.map (·.1)
    · rw [lasting, if_pos again, List.filter_cons_of_neg (by simpa using again)]
      exact List.Perm.refl _
    · rw [lasting, if_neg again, List.filter_cons_of_pos (by simpa using again)]
      exact List.Perm.refl _

/-- What is left are the entries that no later one replaces. -/
theorem putAll_perm (entries : List (κ × α)) : (putAll entries).Perm (lasting entries) :=
  foldl_put_perm entries List.nodup_nil

theorem lasting_subset : lasting entries ⊆ entries := by
  induction entries with
  | nil => exact List.Subset.refl _
  | cons entry rest ih =>
    unfold lasting
    split
    · exact List.subset_cons_of_subset entry ih
    · exact List.cons_subset_cons entry ih

theorem lasting_eq_nil : lasting entries = [] ↔ entries = [] := by
  induction entries with
  | nil => simp [lasting]
  | cons entry rest ih =>
    refine iff_of_false (fun gone => ?_) (by simp)
    unfold lasting at gone
    split at gone
    · rename_i again
      rw [ih.mp gone] at again
      cases again
    · cases gone

theorem putAll_eq_nil (entries : List (κ × α)) : putAll entries = [] ↔ entries = [] := by
  have same := putAll_perm entries
  constructor
  · intro gone
    rw [gone] at same
    exact lasting_eq_nil.mp same.symm.eq_nil
  · rintro rfl
    rfl

/-- With one entry a key nothing is replaced. -/
theorem putAll_of_distinct (distinct : Distinct entries) : putAll entries = entries := by
  have behind (later held : List (κ × α)) (distinct : Distinct (held ++ later)) :
      later.foldl (fun held entry => put held entry.1 entry.2) held = held ++ later := by
    induction later generalizing held with
    | nil => exact (List.append_nil held).symm
    | cons entry rest ih =>
      have fresh : get held entry.1 = none := by
        rw [get, Option.map_eq_none_iff, List.find?_eq_none]
        intro other member same
        unfold Distinct at distinct
        rw [List.map_append, List.nodup_append] at distinct
        exact distinct.2.2 other.1 (List.mem_map.mpr ⟨other, member, rfl⟩) entry.1 (by simp) (by simpa using same)
      have added : put held entry.1 entry.2 = held ++ [entry] := by
        rw [put, fresh]
        rfl
      have shape : held ++ entry :: rest = (held ++ [entry]) ++ rest := by simp
      rw [List.foldl_cons, added, shape]
      exact ih (held ++ [entry]) (shape ▸ distinct)
  exact behind entries [] distinct

end Tables.Keyed
