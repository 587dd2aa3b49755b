import DriverMicroServices.Tables.Keyed
import Mathlib.Data.Finset.Card

/-! A table counted by a test of its values, and the set of keys that the count is meant to
be the size of. Where the table covers the set, the two sizes agree only if the keys do. -/
namespace Tables.Keyed

variable {κ α : Type} [DecidableEq κ] {entries : List (κ × α)} {k : κ} {test : α → Bool} {keys : Finset κ}

/-- The keys whose value satisfies the test. -/
def keysWhere (test : α → Bool) (entries : List (κ × α)) : Finset κ :=
  ((entries.filter fun entry => test entry.2).map Prod.fst).toFinset

theorem mem_keysWhere (distinct : Distinct entries) :
    k ∈ keysWhere test entries ↔ ∃ v, get entries k = some v ∧ test v = true := by
  simp [keysWhere, mem_iff_get distinct]

theorem card_keysWhere (distinct : Distinct entries) :
    (keysWhere test entries).card = entries.countP fun entry => test entry.2 := by
  have nodup : ((entries.filter fun entry => test entry.2).map Prod.fst).Nodup :=
    distinct.sublist (List.Sublist.map _ List.filter_sublist)
  rw [keysWhere, List.toFinset_card_of_nodup nodup, List.length_map, List.countP_eq_length_filter]

/-- A count that covers a set has its size only where it is the set. -/
theorem countP_eq_card_iff (distinct : Distinct entries) (covers : keys ⊆ keysWhere test entries) :
    (entries.countP fun entry => test entry.2) = keys.card ↔ keysWhere test entries = keys := by
  rw [← card_keysWhere distinct]
  constructor
  · intro same
    exact (Finset.eq_of_subset_of_card_le covers same.le).symm
  · intro same
    rw [same]

end Tables.Keyed
