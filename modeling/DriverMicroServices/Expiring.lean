import Mathlib.Data.List.AList

/-! Keys with a time to live, as a store keeps them that drops a key at the moment
when its time is over. A key that is set again gets a new time. -/
namespace Expiring

variable {κ : Type} [DecidableEq κ]

/-- The keys, each with the time of its end. -/
abbrev Keys (κ : Type) := AList fun _ : κ => Int

namespace Keys

variable {keys : Keys κ} {k k' : κ} {now ttl : Int}

/-- `SET k 1 EX ttl`. -/
def set (keys : Keys κ) (now : Int) (k : κ) (ttl : Int) : Keys κ := keys.insert k (now + ttl)

/-- `DEL k`. -/
def del (keys : Keys κ) (k : κ) : Keys κ := keys.erase k

/-- How long the key still lasts, if it is there. -/
def left? (keys : Keys κ) (now : Int) (k : κ) : Option Int :=
  (keys.lookup k).bind fun ends => if now < ends then some (ends - now) else none

/-- `EXISTS k`. -/
def present (keys : Keys κ) (now : Int) (k : κ) : Bool := (keys.left? now k).isSome

/-- The keys that are there. -/
def names (keys : Keys κ) (now : Int) : List κ := keys.keys.filter (keys.present now)

@[simp] theorem lookup_set_self : (keys.set now k ttl).lookup k = some (now + ttl) :=
  AList.lookup_insert ..

@[simp] theorem lookup_set_ne (other : k' ≠ k) :
    (keys.set now k ttl).lookup k' = keys.lookup k' :=
  AList.lookup_insert_ne other

@[simp] theorem lookup_del_self : (keys.del k).lookup k = none := AList.lookup_erase ..

@[simp] theorem lookup_del_ne (other : k' ≠ k) : (keys.del k).lookup k' = keys.lookup k' :=
  AList.lookup_erase_ne other

theorem present_iff : keys.present now k = true ↔ ∃ ends, keys.lookup k = some ends ∧ now < ends := by
  unfold present left?
  cases keys.lookup k with
  | none => simp
  | some ends =>
    by_cases lasts : now < ends
    · simp [lasts]
    · simp [lasts]

theorem present_del_self : (keys.del k).present now k = false := by
  rw [Bool.eq_false_iff, ne_eq, present_iff, lookup_del_self]
  simp

/-- A key that is set and deleted alike lasts alike. -/
theorem present_congr {keys' : Keys κ} (same : keys'.lookup k = keys.lookup k) :
    keys'.present now k = keys.present now k := by
  unfold present left?
  rw [same]

/-- A key is gone as soon as its time is over, and stays so. -/
theorem absent_after {later : Int} (ordered : now ≤ later) (absent : keys.present now k = false) :
    keys.present later k = false := by
  rw [Bool.eq_false_iff, ne_eq, present_iff] at absent ⊢
  rintro ⟨ends, held, lasts⟩
  exact absent ⟨ends, held, by omega⟩

end Keys

end Expiring
