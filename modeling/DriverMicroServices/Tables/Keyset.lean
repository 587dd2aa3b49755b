import Mathlib.Order.Bounds.Basic
import Mathlib.Data.List.Basic

/-! Pages of a table that are read by their key: each page begins after a key and takes the next
rows in the order of the keys. -/
namespace Tables

variable {κ : Type} [LinearOrder κ]

/-- The keys of a table, in their order. -/
structure Keyset (κ : Type) [LinearOrder κ] where
  keys : List κ
  ascending : keys.Pairwise (· < ·)

namespace Keyset

/-- `WHERE key > cursor ORDER BY key` -/
def after (t : Keyset κ) (cursor : κ) : List κ := t.keys.filter (cursor < ·)

/-- The same with `LIMIT size`. -/
def page (t : Keyset κ) (cursor : κ) (size : Nat) : List κ := (t.after cursor).take size

variable {t : Keyset κ} {cursor key other : κ} {size : Nat}

theorem mem_after : key ∈ t.after cursor ↔ key ∈ t.keys ∧ cursor < key := by
  simp [after]

theorem after_ascending : (t.after cursor).Pairwise (· < ·) := t.ascending.filter _

theorem page_subset (member : key ∈ t.page cursor size) : key ∈ t.after cursor :=
  List.mem_of_mem_take member

theorem page_nodup : (t.page cursor size).Nodup :=
  (after_ascending.sublist (List.take_sublist size _)).imp ne_of_lt

/-- Where a key comes after the cursor, there is a greatest one. -/
theorem exists_greatest (there : key ∈ t.after cursor) :
    ∃ last, IsGreatest {key | key ∈ t.keys ∧ cursor < key} last := by
  have sorted := @after_ascending _ _ t cursor
  have nonempty := List.ne_nil_of_mem there
  rw [← List.dropLast_append_getLast nonempty, List.pairwise_append] at sorted
  have last := List.getLast_mem nonempty
  refine ⟨_, mem_after.mp last, fun other among => ?_⟩
  have member := mem_after.mpr among
  rw [← List.dropLast_append_getLast nonempty] at member
  rcases List.mem_append.mp member with earlier | same
  · exact (sorted.2.2 other earlier _ List.mem_cons_self).le
  · exact (List.mem_singleton.mp same).le

end Keyset

end Tables
