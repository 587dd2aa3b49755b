import Mathlib.Logic.Function.Basic
import Mathlib.Data.List.Basic

/-! A store of rows addressed by typed keys. The list of keys is the order in
which a scan returns the rows; it always names exactly the rows present, so a
query over the list can neither miss a row nor invent one. -/
namespace Transactions

variable {K : Type} {Row : K → Type}

/-- The committed rows, with the keys in scan order. -/
structure Store {K : Type} (Row : K → Type) where
  row : (k : K) → Option (Row k)
  keys : List K
  mem_keys : ∀ k, k ∈ keys ↔ (row k).isSome

/-- One row as a transaction has written it. -/
abbrev Write {K : Type} (Row : K → Type) := (k : K) × Row k

namespace Store

/-- A store with no rows. -/
def empty : Store Row where
  row := fun _ => none
  keys := []
  mem_keys := by simp

@[simp] theorem empty_row (k : K) : (empty : Store Row).row k = none := rfl

variable [DecidableEq K]

/-- Insert or replace one row. A new key is scanned last. -/
def set (s : Store Row) (k : K) (v : Row k) : Store Row where
  row := Function.update s.row k (some v)
  keys := if k ∈ s.keys then s.keys else s.keys ++ [k]
  mem_keys := by
    intro k'
    by_cases same : k' = k
    · subst same
      by_cases held : k' ∈ s.keys <;> simp [held]
    · by_cases held : k ∈ s.keys <;> simp [held, same, s.mem_keys]

@[simp] theorem set_row_self (s : Store Row) (k : K) (v : Row k) :
    (s.set k v).row k = some v := by
  simp [set]

theorem set_row_ne (s : Store Row) (v : Row k) (different : k' ≠ k) :
    (s.set k v).row k' = s.row k' := by
  simp [set, different]

/-- Rows of different keys may be stored in either order. -/
theorem set_comm_row (s : Store Row) (v : Row k) (v' : Row k') (different : k ≠ k') :
    ((s.set k v).set k' v').row = ((s.set k' v').set k v).row := by
  simp only [set]
  exact Function.update_comm different _ _ _

/-- Rows are never removed. -/
theorem set_isSome (s : Store Row) (v : Row k') (held : (s.row k).isSome) :
    ((s.set k' v).row k).isSome := by
  by_cases same : k = k'
  · subst same
    simp
  · rwa [set_row_ne _ _ same]

/-- Rewriting one row when it satisfies the statement's own test: the effect of
a single-row `INSERT` or `UPDATE` outside any transaction. -/
def autosave (s : Store Row) (k : K) (f : Option (Row k) → Option (Row k)) : Store Row :=
  match f (s.row k) with
  | some v => s.set k v
  | none => s

theorem autosave_row_ne (s : Store Row) (f : Option (Row k) → Option (Row k))
    (different : k' ≠ k) : (s.autosave k f).row k' = s.row k' := by
  unfold autosave
  split
  · exact set_row_ne s _ different
  · rfl

theorem autosave_row_self (s : Store Row) (f : Option (Row k) → Option (Row k)) :
    (s.autosave k f).row k = (f (s.row k)).or (s.row k) := by
  unfold autosave
  split <;> rename_i result <;> simp [result]

theorem autosave_isSome (s : Store Row) (f : Option (Row k') → Option (Row k'))
    (held : (s.row k).isSome) : ((s.autosave k' f).row k).isSome := by
  unfold autosave
  split
  · exact set_isSome s _ held
  · exact held

/-- The store after a list of writes, applied in order. -/
def apply (s : Store Row) (writes : List (Write Row)) : Store Row :=
  writes.foldl (fun s write => s.set write.1 write.2) s

@[simp] theorem apply_nil (s : Store Row) : s.apply [] = s := rfl

@[simp] theorem apply_cons (s : Store Row) (write : Write Row) (rest : List (Write Row)) :
    s.apply (write :: rest) = (s.set write.1 write.2).apply rest := rfl

@[simp] theorem apply_append (s : Store Row) (first second : List (Write Row)) :
    s.apply (first ++ second) = (s.apply first).apply second :=
  List.foldl_append ..

/-- Rows that a list of writes does not name keep their contents. -/
theorem apply_row_untouched (s : Store Row) (writes : List (Write Row))
    (untouched : ∀ write ∈ writes, write.1 ≠ k) : (s.apply writes).row k = s.row k := by
  induction writes generalizing s with
  | nil => rfl
  | cons write rest ih =>
    have head : k ≠ write.1 := (untouched write (by simp)).symm
    rw [apply_cons, ih _ fun later member => untouched later (by simp [member]), set_row_ne _ _ head]

theorem apply_isSome (s : Store Row) (writes : List (Write Row)) (held : (s.row k).isSome) :
    ((s.apply writes).row k).isSome := by
  induction writes generalizing s with
  | nil => exact held
  | cons write rest ih => exact ih _ (set_isSome s _ held)

/-- What a transaction sees of a row depends on that row and its own writes. -/
theorem apply_row_congr (first second : Store Row) (writes : List (Write Row))
    (same : first.row k = second.row k) : (first.apply writes).row k = (second.apply writes).row k := by
  induction writes generalizing first second with
  | nil => exact same
  | cons write rest ih =>
    refine ih _ _ ?_
    by_cases named : k = write.1
    · subst named
      simp
    · rw [set_row_ne _ _ named, set_row_ne _ _ named, same]

/-- The rows a query selects, in scan order. -/
def scan (s : Store Row) (select : (k : K) → Row k → Option β) : List β :=
  s.keys.filterMap fun k => (s.row k).bind (select k)

omit [DecidableEq K] in
/-- A scan misses no row and invents none. -/
theorem mem_scan {s : Store Row} {select : (k : K) → Row k → Option β} :
    b ∈ s.scan select ↔ ∃ k v, s.row k = some v ∧ select k v = some b := by
  constructor
  · intro member
    obtain ⟨k, _, found⟩ := List.mem_filterMap.mp member
    obtain ⟨v, held, selected⟩ := Option.bind_eq_some_iff.mp found
    exact ⟨k, v, held, selected⟩
  · rintro ⟨k, v, held, selected⟩
    have listed : k ∈ s.keys := (s.mem_keys k).mpr (by simp [held])
    exact List.mem_filterMap.mpr ⟨k, listed, by simp [held, selected]⟩

/-- Rewriting a row that the query does not look at changes nothing. -/
theorem scan_set_other (s : Store Row) (v : Row k) {select : (k : K) → Row k → Option β}
    (held : (s.row k).isSome) (blind : ∀ v, select k v = none) :
    (s.set k v).scan select = s.scan select := by
  have keys : (s.set k v).keys = s.keys := if_pos ((s.mem_keys k).mpr held)
  unfold scan
  rw [keys]
  refine List.filterMap_congr fun k' _ => ?_
  by_cases same : k' = k
  · subst same
    obtain ⟨v', found⟩ := Option.isSome_iff_exists.mp held
    simp [found, blind]
  · rw [set_row_ne _ _ same]

end Store

end Transactions
