import Mathlib.Data.List.Perm.Basic
import Mathlib.Data.List.Nodup
import Mathlib.Logic.Function.Basic

/-! A table with a serial primary key: ids are handed out in order and never
again, so a deleted row does not come back under its id. The database scans the
rows in an order of its own choice. -/
namespace Tables

variable {V : Type}

structure Table (V : Type) where
  row : Nat → Option V
  /-- The next id. -/
  serial : Nat
  row_serial : ∀ id, (row id).isSome → id < serial

namespace Table

variable {t : Table V} {id : Nat} {v : V} {test : Nat → V → Bool} {f : V → V} {gone : List Nat}

/-- The table of these rows, with the ids from 0 on. -/
def ofList (rows : List V) : Table V where
  row := fun id => rows[id]?
  serial := rows.length
  row_serial := fun id held => by simpa using held

/-- `INSERT`. -/
def insert (t : Table V) (v : V) : Table V where
  row := Function.update t.row t.serial (some v)
  serial := t.serial + 1
  row_serial := by
    intro id held
    by_cases fresh : id = t.serial
    · omega
    · rw [Function.update_of_ne fresh] at held
      exact Nat.lt_succ_of_lt (t.row_serial id held)

/-- `UPDATE` of the rows that satisfy the condition. -/
def update (t : Table V) (test : Nat → V → Bool) (f : V → V) : Table V where
  row := fun id => (t.row id).map fun v => if test id v then f v else v
  serial := t.serial
  row_serial := fun id held => t.row_serial id (by simpa using held)

/-- `DELETE` of the rows with these ids. -/
def delete (t : Table V) (ids : List Nat) : Table V where
  row := fun id => if id ∈ ids then none else t.row id
  serial := t.serial
  row_serial := by
    intro id held
    split at held
    · cases held
    · exact t.row_serial id held

def ids (t : Table V) : List Nat := (List.range t.serial).filter fun id => (t.row id).isSome

/-- Some row satisfies the condition. -/
def any (t : Table V) (test : V → Bool) : Bool := t.ids.any fun id => (t.row id).any test

/-- The rows that satisfy the condition, as a scan in this order finds them. -/
def select (t : Table V) (order : List Nat) (test : Nat → V → Bool) : List (Nat × V) :=
  order.filterMap fun id => (t.row id).bind fun v => if test id v then some (id, v) else none

@[simp] theorem update_row :
    (t.update test f).row id = (t.row id).map fun v => if test id v then f v else v := rfl

@[simp] theorem delete_row : (t.delete gone).row id = if id ∈ gone then none else t.row id := rfl

/-- Where an updated row comes from. -/
theorem of_update (held : (t.update test f).row id = some v') :
    ∃ v, t.row id = some v ∧ v' = if test id v then f v else v := by
  obtain ⟨v, before, updated⟩ := Option.map_eq_some_iff.mp held
  exact ⟨v, before, updated.symm⟩

theorem of_delete (held : (t.delete gone).row id = some v) : id ∉ gone ∧ t.row id = some v := by
  rw [delete_row] at held
  split at held
  · cases held
  · exact ⟨‹_›, held⟩

theorem row_none (fresh : t.serial ≤ id) : t.row id = none := by
  cases held : t.row id with
  | none => rfl
  | some v =>
    have below := t.row_serial id (by simp [held])
    omega

theorem row_below (held : t.row id = some v) : id < t.serial :=
  t.row_serial id (by simp [held])

theorem insert_row : (t.insert v).row id = if id = t.serial then some v else t.row id :=
  Function.update_apply ..

theorem insert_row_of_some (held : t.row id = some v') : (t.insert v).row id = some v' := by
  have below := row_below held
  rw [insert_row, if_neg (by omega), held]

theorem mem_ids : id ∈ t.ids ↔ (t.row id).isSome := by
  simp only [ids, List.mem_filter, List.mem_range, and_iff_right_iff_imp]
  exact t.row_serial id

theorem any_iff {test : V → Bool} : t.any test = true ↔ ∃ id v, t.row id = some v ∧ test v = true := by
  simp only [any, List.any_eq_true, mem_ids]
  constructor
  · rintro ⟨id, _, found⟩
    cases held : t.row id with
    | none => simp [held] at found
    | some v => exact ⟨id, v, held, by simpa [held] using found⟩
  · rintro ⟨id, v, held, holds⟩
    exact ⟨id, by simp [held], by simp [held, holds]⟩

theorem ids_nodup : t.ids.Nodup := List.nodup_range.filter _

section Select

variable {order : List Nat} {test : Nat → V → Bool}

/-- A scan misses no row and invents none. -/
theorem mem_select (scans : order.Perm t.ids) :
    (id, v) ∈ t.select order test ↔ t.row id = some v ∧ test id v = true := by
  simp only [select, List.mem_filterMap, Option.bind_eq_some_iff]
  constructor
  · rintro ⟨id', listed, v', held, chosen⟩
    split at chosen
    · rename_i holds
      cases chosen
      exact ⟨held, holds⟩
    · cases chosen
  · rintro ⟨held, holds⟩
    refine ⟨id, scans.mem_iff.mpr (mem_ids.mpr (by simp [held])), v, held, ?_⟩
    rw [if_pos holds]

/-- A scan finds no row twice. -/
theorem select_nodup (scans : order.Perm t.ids) : ((t.select order test).map Prod.fst).Nodup := by
  have distinct : order.Nodup := scans.nodup_iff.mpr ids_nodup
  refine distinct.sublist ?_
  clear scans distinct
  unfold select
  induction order with
  | nil => simp
  | cons id rest ih =>
    rw [List.filterMap_cons]
    split
    · exact ih.trans (List.sublist_cons_self id rest)
    · rename_i entry found
      obtain ⟨v, held, chosen⟩ := Option.bind_eq_some_iff.mp found
      split at chosen
      · cases chosen
        exact ih.cons_cons id
      · cases chosen

end Select

end Table

end Tables
