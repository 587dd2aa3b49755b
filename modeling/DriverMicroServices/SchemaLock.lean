import DriverMicroServices.Locks.Advisory
import DriverMicroServices.Transitions
import Mathlib.Data.List.Basic

/-! The lock of the schema operations. Each query may use another connection of the pool of its
process, and the connection goes back to the pool when the call is over. -/
namespace DriverMicroServices.SchemaLock
open Transitions Locks

structure Connection where
  process : Nat
  index : Nat
deriving DecidableEq

instance : Nontrivial Connection := ⟨⟨0, 0⟩, ⟨0, 1⟩, by decide⟩

/-- A call of `acquireLock`. -/
structure Caller where
  process : Nat
  call : Nat
deriving DecidableEq

structure LockState where
  lock : Advisory Connection := .free
  /-- The callers that got `true` and have not called `releaseLock`. -/
  holding : List Caller := []
  /-- The connections of calls of `isLockHeld` that have unlocked and not locked again. -/
  rechecks : List Connection := []
deriving DecidableEq

inductive LockAction where
  | acquireLock (caller : Caller) (index : Nat)
  | releaseLock (caller : Caller) (index : Nat)
  /-- The first query of `isLockHeld`. -/
  | isLockHeld (connection : Connection)
  /-- Its second query, on the same connection, which waits until the lock can be taken. -/
  | reacquire (connection : Connection)

/-- The connection that a query of the caller uses. -/
def Caller.connection (caller : Caller) (index : Nat) : Connection := ⟨caller.process, index⟩

def acquireLock (s : LockState) (caller : Caller) (index : Nat) : LockState × Bool :=
  let (lock, acquired) := s.lock.tryLock (caller.connection index)
  ({ s with lock, holding := if acquired then s.holding ++ [caller] else s.holding }, acquired)

def releaseLock (s : LockState) (caller : Caller) (index : Nat) : LockState :=
  { s with lock := (s.lock.unlock (caller.connection index)).1, holding := s.holding.erase caller }

def isLockHeld (s : LockState) (connection : Connection) : LockState × Bool :=
  let (lock, wasHeld) := s.lock.unlock connection
  ({ s with lock, rechecks := if wasHeld then connection :: s.rechecks else s.rechecks }, wasHeld)

/-- A connection that is in use is not in the pool. -/
def lockStep (s : LockState) : LockAction → Option LockState
  | .acquireLock caller index =>
    if caller ∈ s.holding ∨ caller.connection index ∈ s.rechecks then none
    else some (acquireLock s caller index).1
  | .releaseLock caller index =>
    if caller.connection index ∈ s.rechecks then none else some (releaseLock s caller index)
  | .isLockHeld connection =>
    if connection ∈ s.rechecks then none else some (isLockHeld s connection).1
  | .reacquire connection =>
    if connection ∈ s.rechecks ∧ (s.lock.tryLock connection).2 then
      some { s with lock := (s.lock.tryLock connection).1, rechecks := s.rechecks.erase connection }
    else none

/-- At most one caller has the lock. When none has it, any caller gets it, on any connection. -/
def Exclusive (s : LockState) : Prop :=
  s.holding.length ≤ 1 ∧ (s.holding = [] → ∀ connection, (s.lock.tryLock connection).2 = true)

/-- What an action must find to keep the lock exclusive. -/
def Proper (s : LockState) : LockAction → Prop
  | .acquireLock caller index =>
    match s.lock with
    | .free => s.holding = []
    | .taken connection _ => connection ≠ caller.connection index
  | .releaseLock caller index =>
    match s.lock with
    | .free => True
    | .taken connection _ => s.holding.erase caller = [] → connection = caller.connection index
  | .isLockHeld _ => True
  | .reacquire _ => s.holding ≠ []

section Steps

variable {s s' : LockState} {action : LockAction}

/-- While the lock is exclusive, it is taken once, for a caller that has it, and not on a connection
in the middle of `isLockHeld`. -/
structure LockInv (s : LockState) : Prop where
  most : s.holding.length ≤ 1
  once : ∀ connection again, s.lock = .taken connection again →
    again = 0 ∧ s.holding ≠ [] ∧ connection ∉ s.rechecks
  rechecks : s.rechecks.Nodup

private theorem LockInv.free_of_none (held : LockInv s) (none : s.holding = []) : s.lock = .free := by
  cases lock : s.lock with
  | free => rfl
  | taken connection again => exact absurd none (held.once connection again lock).2.1

theorem LockInv.exclusive (held : LockInv s) : Exclusive s :=
  ⟨held.most, fun none => Advisory.forall_tryLock.mpr (held.free_of_none none)⟩

/-- A call of `isLockHeld` waits only while the lock is taken, and never for itself. -/
theorem LockInv.free_of_tryLock {connection : Connection} (held : LockInv s) (member : connection ∈ s.rechecks)
    (got : (s.lock.tryLock connection).2 = true) : s.lock = .free := by
  cases lock : s.lock with
  | free => rfl
  | taken holder again =>
    obtain ⟨-, -, apart⟩ := held.once holder again lock
    have other : holder ≠ connection := fun same => apart (same ▸ member)
    rw [lock, Advisory.tryLock_other other] at got
    cases got

/-- Where another connection has the lock, `acquireLock` answers `false` and changes nothing. -/
theorem acquireLock_other {caller : Caller} {index again : Nat} {connection : Connection}
    (lock : s.lock = .taken connection again) (other : connection ≠ caller.connection index) :
    acquireLock s caller index = (s, false) := by
  obtain ⟨held, holding, rechecks⟩ := s
  cases lock
  simp [acquireLock, Advisory.tryLock_other other]

theorem isLockHeld_not {connection : Connection} (not : s.lock.unlock connection = (s.lock, false)) :
    isLockHeld s connection = (s, false) := by
  unfold isLockHeld
  rw [not]
  rfl

theorem step_proper (held : LockInv s) (proper : Proper s action) (stepped : lockStep s action = some s') :
    LockInv s' := by
  cases action with
  | acquireLock caller index =>
    simp only [lockStep] at stepped
    split at stepped
    · cases stepped
    rename_i fresh
    rw [not_or] at fresh
    cases stepped
    cases lock : s.lock with
    | free =>
      simp only [Proper, lock] at proper
      refine ⟨?_, ?_, held.rechecks⟩
      · simp [acquireLock, lock, proper]
      · intro connection again now
        simp only [acquireLock, lock, Advisory.tryLock_free, Advisory.taken.injEq] at now
        obtain ⟨rfl, rfl⟩ := now
        exact ⟨rfl, by simp [acquireLock, lock], fresh.2⟩
    | taken connection again =>
      simp only [Proper, lock] at proper
      rwa [acquireLock_other lock proper]
  | releaseLock caller index =>
    simp only [lockStep] at stepped
    split at stepped
    · cases stepped
    cases stepped
    refine ⟨Nat.le_trans List.erase_sublist.length_le held.most, ?_, held.rechecks⟩
    intro connection again now
    cases lock : s.lock with
    | free =>
      simp [releaseLock, lock] at now
    | taken holder more =>
      obtain ⟨rfl, some, apart⟩ := held.once holder more lock
      by_cases mine : holder = caller.connection index
      · simp [releaseLock, lock, mine] at now
      · simp only [releaseLock, lock, Advisory.unlock_other mine, Advisory.taken.injEq] at now
        obtain ⟨rfl, rfl⟩ := now
        simp only [Proper, lock] at proper
        exact ⟨rfl, fun none => mine (proper none), apart⟩
  | isLockHeld connection =>
    simp only [lockStep] at stepped
    split at stepped
    · cases stepped
    rename_i fresh
    cases stepped
    cases lock : s.lock with
    | free =>
      rwa [isLockHeld_not (by rw [lock, Advisory.unlock_free])]
    | taken holder again =>
      obtain ⟨rfl, some, apart⟩ := held.once holder again lock
      by_cases mine : holder = connection
      · subst mine
        refine ⟨held.most, ?_, ?_⟩
        · intro connection again now
          simp [isLockHeld, lock] at now
        · simpa [isLockHeld, lock] using ⟨fresh, held.rechecks⟩
      · rwa [isLockHeld_not (by rw [lock, Advisory.unlock_other mine])]
  | reacquire connection =>
    simp only [lockStep] at stepped
    split at stepped
    · rename_i waits
      cases stepped
      have free := held.free_of_tryLock waits.1 waits.2
      refine ⟨held.most, ?_, held.rechecks.erase connection⟩
      intro holder again now
      simp only [free, Advisory.tryLock_free, Advisory.taken.injEq] at now
      obtain ⟨rfl, rfl⟩ := now
      exact ⟨rfl, proper, held.rechecks.not_mem_erase⟩
    · cases stepped

/-- An action that does not find what it needs breaks the exclusion at once. -/
theorem exclusive_proper (held : LockInv s) (stepped : lockStep s action = some s') (after : Exclusive s') :
    Proper s action := by
  obtain ⟨most, available⟩ := after
  cases action with
  | isLockHeld connection => trivial
  | acquireLock caller index =>
    simp only [lockStep] at stepped
    split at stepped
    · cases stepped
    cases stepped
    cases lock : s.lock with
    | free =>
      simp only [Proper, lock]
      simpa [acquireLock, lock] using most
    | taken connection again =>
      simp only [Proper, lock]
      rintro rfl
      obtain ⟨-, some, -⟩ := held.once _ again lock
      have two : s.holding.length + 1 ≤ 1 := by simpa [acquireLock, lock] using most
      exact some (List.length_eq_zero_iff.mp (by omega))
  | releaseLock caller index =>
    simp only [lockStep] at stepped
    split at stepped
    · cases stepped
    cases stepped
    cases lock : s.lock with
    | free =>
      simp only [Proper, lock]
    | taken connection again =>
      simp only [Proper, lock]
      intro none
      by_contra other
      have free := Advisory.forall_tryLock.mp (available none)
      simp [releaseLock, lock, Advisory.unlock_other other] at free
  | reacquire connection =>
    simp only [lockStep] at stepped
    split at stepped
    · rename_i waits
      cases stepped
      intro none
      have free := Advisory.forall_tryLock.mp (available none)
      simp [held.free_of_tryLock waits.1 waits.2] at free
    · cases stepped

end Steps

/-- The lock is exclusive after every action if and only if every action finds what it needs. -/
theorem exclusive_iff (actions : List LockAction) :
    (∀ taken ∈ trace lockStep {} actions, Exclusive taken.after) ↔
      ∀ taken ∈ trace lockStep {} actions, Proper taken.before taken.action := by
  have start : LockInv {} := ⟨Nat.zero_le 1, by rintro connection again ⟨⟩, List.nodup_nil⟩
  refine trace_exact (fun held stepped => ?_) (fun held proper stepped => step_proper held proper stepped) start
  exact ⟨exclusive_proper held stepped, fun proper => (step_proper held proper stepped).exclusive⟩

/-- Two callers of one process get the lock on the same connection. A caller that releases it on
another connection leaves it taken, so that no other process gets it. -/
theorem lock_not_exclusive :
    (∃ s, run lockStep {} [.acquireLock ⟨1, 0⟩ 0, .acquireLock ⟨1, 1⟩ 0] = some s ∧ s.holding.length = 2) ∧
      ∃ s, run lockStep {} [.acquireLock ⟨1, 0⟩ 0, .releaseLock ⟨1, 0⟩ 1] = some s ∧ s.holding = [] ∧
        (acquireLock s ⟨2, 0⟩ 0).2 = false :=
  ⟨⟨_, rfl, rfl⟩, _, rfl, rfl, rfl⟩

end DriverMicroServices.SchemaLock
