import Mathlib.Logic.Nontrivial.Defs

/-! Advisory locks. A lock belongs to the session that took it, which may take it again, and is
free when that session has given it up as often. -/
namespace Locks

variable {κ : Type} [DecidableEq κ]

inductive Advisory (κ : Type) where
  | free
  /-- The session has taken it once and `again` more times. -/
  | taken (session : κ) (again : Nat)
deriving DecidableEq

namespace Advisory

/-- `pg_try_advisory_lock` -/
def tryLock (session : κ) : Advisory κ → Advisory κ × Bool
  | free => (taken session 0, true)
  | taken holder again =>
    if holder = session then (taken session (again + 1), true) else (taken holder again, false)

/-- `pg_advisory_unlock` -/
def unlock (session : κ) : Advisory κ → Advisory κ × Bool
  | free => (free, false)
  | taken holder again =>
    if holder = session then
      match again with
      | 0 => (free, true)
      | less + 1 => (taken session less, true)
    else (taken holder again, false)

variable {lock : Advisory κ} {session other : κ} {again : Nat}

@[simp] theorem tryLock_free : tryLock session free = (taken session 0, true) := rfl

@[simp] theorem tryLock_again : tryLock session (taken session again) = (taken session (again + 1), true) := by
  simp [tryLock]

theorem tryLock_other (apart : other ≠ session) :
    tryLock session (taken other again) = (taken other again, false) := by
  simp [tryLock, apart]

@[simp] theorem unlock_free : unlock session (free : Advisory κ) = (free, false) := rfl

@[simp] theorem unlock_once : unlock session (taken session 0) = (free, true) := by
  simp [unlock]

/-- A session that does not have the lock leaves it as it is. -/
theorem unlock_other (apart : other ≠ session) :
    unlock session (taken other again) = (taken other again, false) := by
  simp [unlock, apart]

/-- Every session may take the lock just when it is free. -/
theorem forall_tryLock [Nontrivial κ] : (∀ session, (tryLock session lock).2 = true) ↔ lock = free := by
  constructor
  · intro all
    cases lock with
    | free => rfl
    | taken holder again =>
      obtain ⟨other, apart⟩ := exists_ne holder
      have refused := all other
      rw [tryLock_other apart.symm] at refused
      cases refused
  · rintro rfl session
    rfl

end Advisory

end Locks
