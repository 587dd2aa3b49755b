import DriverMicroServices.Tables.Keyed
import Mathlib.Data.List.Induction

/-! Entries that are put one after the other from a list of values. -/
namespace Tables.Keyed

variable {κ α β : Type} [DecidableEq κ] {entries : List (κ × α)} {k : κ} {v : α} {key : α → κ} {values : List α}

/-- One entry for each key of the values; a later value replaces an earlier one. -/
def index (key : α → κ) (values : List α) : List (κ × α) :=
  values.foldl (fun entries value => put entries (key value) value) []

theorem index_concat (key : α → κ) (values : List α) (v : α) :
    index key (values ++ [v]) = put (index key values) (key v) v := by
  simp [index]

theorem index_distinct (key : α → κ) (values : List α) : Distinct (index key values) := by
  induction values using List.reverseRecOn with
  | nil => exact List.nodup_nil
  | append_singleton earlier v ih =>
    rw [index_concat]
    exact ih.put _ _

theorem get_index_append (v : α) : get (index key (values ++ [v])) k =
    if key v = k then some v else get (index key values) k := by
  rw [index_concat]
  split
  · rename_i same
    rw [← same, get_put_self]
  · rename_i other
    exact get_put_ne (Ne.symm other)

/-- What stands under a key is one of the values with that key. -/
theorem of_get_index (held : get (index key values) k = some v) : v ∈ values ∧ key v = k := by
  induction values using List.reverseRecOn with
  | nil => cases held
  | append_singleton earlier last ih =>
    rw [get_index_append] at held
    split at held
    · rename_i same
      cases held
      exact ⟨by simp, same⟩
    · obtain ⟨member, same⟩ := ih held
      exact ⟨by simp [member], same⟩

theorem get_index_map (key : β → κ) (f : α → β) (values : List α) (k : κ) :
    get (index key (values.map f)) k = (get (index (fun value => key (f value)) values) k).map f := by
  induction values using List.reverseRecOn with
  | nil => rfl
  | append_singleton earlier last ih =>
    rw [List.map_append, List.map_singleton, get_index_append, get_index_append, ih]
    split <;> rfl

end Tables.Keyed
