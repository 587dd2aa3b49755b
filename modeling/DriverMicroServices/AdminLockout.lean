import DriverMicroServices.Entities
import DriverMicroServices.Transitions

/-! The lock of an admin account. A login reads the row, compares the password, which takes a
while, and saves what it has made of its copy of the row, so that logins at one time count
against the same number of failed attempts. -/
namespace DriverMicroServices
open Transitions

/-- The columns of a row of `admin_users` that a login reads and writes. -/
structure AdminAccount where
  isActive : Bool := true
  failedLoginAttempts : Nat := 0
  lockedUntil : Option Time := none
  lastLoginAt : Option Time := none
  deriving DecidableEq

/-- The copy that a login has loaded; a property that is `undefined` is not saved. -/
structure LoadedAdmin where
  isActive : Bool
  failedLoginAttempts : Nat
  lockedUntil : Column Time
  lastLoginAt : Option Time
  deriving DecidableEq

namespace AdminAccount

variable (row : AdminAccount)

def load : LoadedAdmin where
  isActive := row.isActive
  failedLoginAttempts := row.failedLoginAttempts
  lockedUntil := .ofRow row.lockedUntil
  lastLoginAt := row.lastLoginAt

/-- `adminRepository.save`, which writes what differs from the row as it is now. -/
def save (admin : LoadedAdmin) : AdminAccount where
  isActive := admin.isActive
  failedLoginAttempts := admin.failedLoginAttempts
  lockedUntil := admin.lockedUntil.saveOver row.lockedUntil
  lastLoginAt := admin.lastLoginAt

/-- The account is locked at that time. -/
def Locked (t : Time) : Prop := ∃ lockedUntil ∈ row.lockedUntil, t < lockedUntil

instance (t : Time) : Decidable (row.Locked t) := Option.decidableExistsMem _

end AdminAccount

namespace LoadedAdmin

variable (admin : LoadedAdmin)

def isLocked (now : Time) : Bool := admin.lockedUntil.value?.any (now < ·)

def maxAttempts : Nat := 5
def lockDurationMs : Time := 15 * 60 * 1000

def recordFailedLogin (now : Time) : LoadedAdmin :=
  let failedLoginAttempts := admin.failedLoginAttempts + 1
  if maxAttempts ≤ failedLoginAttempts then
    { admin with failedLoginAttempts, lockedUntil := .value (now + lockDurationMs) }
  else { admin with failedLoginAttempts }

def resetFailedLoginAttempts : LoadedAdmin := { admin with failedLoginAttempts := 0, lockedUntil := .undefined }

variable {admin : LoadedAdmin} {now : Time}

@[simp] theorem recordFailedLogin_attempts :
    (admin.recordFailedLogin now).failedLoginAttempts = admin.failedLoginAttempts + 1 := by
  unfold recordFailedLogin
  dsimp only
  split <;> rfl

private theorem recordFailedLogin_below (below : admin.failedLoginAttempts + 1 < 5) :
    (admin.recordFailedLogin now).lockedUntil = admin.lockedUntil := by
  simp [recordFailedLogin, maxAttempts, show ¬ 5 ≤ admin.failedLoginAttempts + 1 by omega]

private theorem recordFailedLogin_reached (reached : 5 ≤ admin.failedLoginAttempts + 1) :
    (admin.recordFailedLogin now).lockedUntil = .value (now + lockDurationMs) := by
  simp [recordFailedLogin, maxAttempts, reached]

end LoadedAdmin

/-- How far a call of `validateAdmin` has come. -/
inductive LoginStage where
  | comparing
  /-- The password was wrong, or right, and the copy has still to be saved. -/
  | failing
  | succeeding
  | over
  deriving DecidableEq

structure LoginCall where
  admin : LoadedAdmin
  stage : LoginStage
  deriving DecidableEq

/-- The call has compared its password and not saved its copy. -/
def LoginCall.awaits (call : LoginCall) : Bool := call.stage = .failing || call.stage = .succeeding

/-- The account and its logins. -/
structure LockoutState where
  now : Time := 0
  row : AdminAccount := {}
  calls : List LoginCall := []
  /-- Wrong passwords that were compared since the last unlock, and since the last login. -/
  wrong : Nat := 0
  wrongSinceLogin : Nat := 0

inductive LoginAction where
  /-- A call reads the row, and goes on unless the account is disabled or locked. -/
  | findOne
  | compare (n : Nat) (isPasswordValid : Bool)
  | save (n : Nat)
  deriving DecidableEq

namespace LockoutState

variable (s : LockoutState)

/-- Time passes, and perhaps a lock with it, which unlocks the account. -/
def advance (t : Time) : LockoutState :=
  { s with now := t, wrong := if s.row.Locked s.now ∧ ¬ s.row.Locked t then 0 else s.wrong }

def findOne : LockoutState :=
  let admin := s.row.load
  if !admin.isActive || admin.isLocked s.now then s
  else { s with calls := s.calls ++ [{ admin, stage := .comparing }] }

def compare (n : Nat) (call : LoginCall) (isPasswordValid : Bool) : LockoutState :=
  if isPasswordValid then
    let admin := { call.admin.resetFailedLoginAttempts with lastLoginAt := some s.now }
    { s with calls := s.calls.set n { admin, stage := .succeeding } }
  else
    let admin := call.admin.recordFailedLogin s.now
    { s with
      calls := s.calls.set n { admin, stage := .failing }
      wrong := s.wrong + 1, wrongSinceLogin := s.wrongSinceLogin + 1 }

/-- The save ends the call. That of a right password is the successful login. -/
def save (n : Nat) (call : LoginCall) : LockoutState :=
  let s := { s with row := s.row.save call.admin, calls := s.calls.set n { call with stage := .over } }
  if call.stage = .succeeding then { s with wrong := 0, wrongSinceLogin := 0 } else s

/-- One step of one call, at a time that is not before that of the last step. -/
def step (s : LockoutState) : Time × LoginAction → Option LockoutState
  | (t, action) =>
    if s.now ≤ t then
      let s := s.advance t
      match action with
      | .findOne => some s.findOne
      | .compare n isPasswordValid => do
        let call ← s.calls[n]?
        if call.stage = .comparing then some (s.compare n call isPasswordValid) else none
      | .save n => do
        let call ← s.calls[n]?
        if call.awaits then some (s.save n call) else none
    else none

/-- Between two unlocks at most five wrong passwords are compared, and no login is rejected as
locked without five of them since the last successful login. -/
structure Bounded (taken : Taken LockoutState (Time × LoginAction)) : Prop where
  guesses : taken.after.wrong ≤ 5
  locked : ∀ t, taken.action = (t, .findOne) → taken.before.row.isActive → taken.before.row.Locked t →
    5 ≤ taken.before.wrongSinceLogin

/-- What a step must find. A comparison: no other call that has compared and not saved, an account
that is not locked, and for a wrong password the number of failed attempts that the call has read.
A save: that the lock which it writes has not passed. -/
def Fresh (s : LockoutState) : Time × LoginAction → Prop
  | (t, .compare n isPasswordValid) =>
    (∀ call ∈ s.calls, call.awaits = false) ∧ ¬ s.row.Locked t ∧
      (isPasswordValid = false → ∀ call ∈ s.calls[n]?,
        call.admin.failedLoginAttempts = s.row.failedLoginAttempts)
  | (t, .save n) =>
    ∀ call ∈ s.calls[n]?, call.stage = .failing → LoadedAdmin.maxAttempts ≤ call.admin.failedLoginAttempts →
      ∀ lockedUntil ∈ call.admin.lockedUntil.value?, t < lockedUntil
  | _ => True

instance (s : LockoutState) : ∀ action, Decidable (s.Fresh action)
  | (t, .compare n isPasswordValid) =>
    inferInstanceAs (Decidable ((∀ call ∈ s.calls, call.awaits = false) ∧ ¬ s.row.Locked t ∧
      (isPasswordValid = false → ∀ call ∈ s.calls[n]?,
        call.admin.failedLoginAttempts = s.row.failedLoginAttempts)))
  | (t, .save n) =>
    inferInstanceAs (Decidable (∀ call ∈ s.calls[n]?, call.stage = .failing →
      LoadedAdmin.maxAttempts ≤ call.admin.failedLoginAttempts →
        ∀ lockedUntil ∈ call.admin.lockedUntil.value?, t < lockedUntil))
  | (_, .findOne) => isTrue trivial

/-! ## The invariant -/

/-- The counts, when all calls that have compared are saved. -/
structure Counted (s : LockoutState) : Prop where
  few : s.row.failedLoginAttempts < 5 → s.wrong = s.row.failedLoginAttempts ∧
    s.wrongSinceLogin = s.row.failedLoginAttempts ∧ ¬ s.row.Locked s.now
  many : 5 ≤ s.row.failedLoginAttempts → s.wrong ≤ 5 ∧ 5 ≤ s.wrongSinceLogin ∧
    (¬ s.row.Locked s.now → s.wrong = 0)

/-- A wrong password that is counted in the copy alone. -/
structure Failing (s : LockoutState) (admin : LoadedAdmin) : Prop where
  few : admin.failedLoginAttempts < 5 → s.wrong = admin.failedLoginAttempts ∧
    s.wrongSinceLogin = admin.failedLoginAttempts ∧ ∀ lockedUntil ∈ admin.lockedUntil.value?, lockedUntil ≤ s.now
  many : 5 ≤ admin.failedLoginAttempts → s.wrong ≤ 5 ∧ 5 ≤ s.wrongSinceLogin ∧
    ∃ lockedUntil, admin.lockedUntil = .value lockedUntil

structure Succeeding (s : LockoutState) (admin : LoadedAdmin) : Prop where
  bounded : s.wrong ≤ 5
  reset : admin.failedLoginAttempts = 0
  unsaved : admin.lockedUntil = .undefined

/-- One call has compared and not saved. -/
structure Awaiting (s : LockoutState) (n : Nat) (call : LoginCall) : Prop where
  found : s.calls[n]? = some call
  alone : ∀ m other, s.calls[m]? = some other → m ≠ n → other.awaits = false
  unlocked : ¬ s.row.Locked s.now
  copy : call.stage = .failing ∧ Failing s call.admin ∨ call.stage = .succeeding ∧ Succeeding s call.admin

structure Sound (s : LockoutState) : Prop where
  comparing : ∀ call ∈ s.calls, call.stage = .comparing →
    ∀ lockedUntil ∈ call.admin.lockedUntil.value?, lockedUntil ≤ s.now
  counts : (∀ call ∈ s.calls, call.awaits = false) ∧ Counted s ∨ ∃ n call, Awaiting s n call

section Steps

variable {s s' : LockoutState} {t : Time} {n : Nat} {call : LoginCall} {row : AdminAccount}
  {admin : LoadedAdmin}

theorem locked_earlier (ordered : s.now ≤ t) (locked : row.Locked t) : row.Locked s.now := by
  obtain ⟨lockedUntil, held, later⟩ := locked
  exact ⟨lockedUntil, held, Int.lt_of_le_of_lt ordered later⟩

/-- A lock after a save was there before, or is written by it. -/
theorem locked_save (locked : (row.save admin).Locked t) :
    row.Locked t ∨ ∃ lockedUntil ∈ admin.lockedUntil.value?, t < lockedUntil := by
  obtain ⟨lockedUntil, held, later⟩ := locked
  simp only [AdminAccount.save] at held
  cases copy : admin.lockedUntil with
  | undefined =>
    rw [copy] at held
    exact .inl ⟨lockedUntil, held, later⟩
  | null =>
    rw [copy] at held
    cases held
  | value until_ =>
    rw [copy] at held
    cases held
    exact .inr ⟨_, rfl, later⟩

private theorem isLocked_load : row.load.isLocked t = true ↔ row.Locked t := by
  simp [LoadedAdmin.isLocked, AdminAccount.load, AdminAccount.Locked, Option.any_eq_true]

theorem Sound.wrong_le (sound : s.Sound) : s.wrong ≤ 5 := by
  rcases sound.counts with ⟨-, counted⟩ | ⟨n, call, awaiting⟩
  · by_cases few : s.row.failedLoginAttempts < 5
    · have count := (counted.few few).1
      omega
    · exact (counted.many (by omega)).1
  · rcases awaiting.copy with ⟨-, failing⟩ | ⟨-, succeeding⟩
    · by_cases few : call.admin.failedLoginAttempts < 5
      · have count := (failing.few few).1
        omega
      · exact (failing.many (by omega)).1
    · exact succeeding.bounded

/-- A locked account has seen five wrong passwords since the last login. -/
theorem Sound.locked (sound : s.Sound) (locked : s.row.Locked s.now) : 5 ≤ s.wrongSinceLogin := by
  rcases sound.counts with ⟨-, counted⟩ | ⟨n, call, awaiting⟩
  · by_cases few : s.row.failedLoginAttempts < 5
    · exact absurd locked (counted.few few).2.2
    · exact (counted.many (by omega)).2.1
  · exact absurd locked awaiting.unlocked

theorem Sound.advance (sound : s.Sound) (ordered : s.now ≤ t) : (s.advance t).Sound := by
  refine ⟨fun call member comparing until_ held => ?_, ?_⟩
  · exact Int.le_trans (sound.comparing call member comparing until_ held) ordered
  · rcases sound.counts with ⟨idle, counted⟩ | ⟨n, call, awaiting⟩
    · refine .inl ⟨idle, fun few => ?_, fun many => ?_⟩
      · obtain ⟨count, sinceLogin, unlocked⟩ := counted.few few
        exact ⟨by simp [LockoutState.advance, unlocked, count], sinceLogin,
          fun locked => unlocked (locked_earlier ordered locked)⟩
      · obtain ⟨bounded, sinceLogin, passed⟩ := counted.many many
        refine ⟨?_, sinceLogin, fun unlocked => ?_⟩
        · simp only [LockoutState.advance]
          split <;> omega
        · by_cases before : s.row.Locked s.now
          · have after : ¬ s.row.Locked t := unlocked
            simp [LockoutState.advance, before, after]
          · simp [LockoutState.advance, before, passed before]
    · have same : (s.advance t).wrong = s.wrong := by simp [LockoutState.advance, awaiting.unlocked]
      refine .inr ⟨n, call, awaiting.found, awaiting.alone,
        fun locked => awaiting.unlocked (locked_earlier ordered locked), ?_⟩
      refine awaiting.copy.imp (fun ⟨stage, failing⟩ => ⟨stage, ?_⟩) fun ⟨stage, succeeding⟩ => ⟨stage, ?_⟩
      · refine ⟨fun few => ?_, fun many => same ▸ failing.many many⟩
        obtain ⟨count, sinceLogin, passed⟩ := failing.few few
        exact ⟨same.trans count, sinceLogin, fun until_ held => Int.le_trans (passed until_ held) ordered⟩
      · exact ⟨same ▸ succeeding.bounded, succeeding.reset, succeeding.unsaved⟩

theorem Sound.findOne (sound : s.Sound) : s.findOne.Sound := by
  unfold LockoutState.findOne
  dsimp only
  split
  · exact sound
  · rename_i goesOn
    have unlocked : ¬ s.row.Locked s.now := by
      rw [← isLocked_load]
      simp only [Bool.or_eq_true, not_or] at goesOn
      exact goesOn.2
    refine ⟨fun call member comparing until_ held => ?_, ?_⟩
    · rcases List.mem_append.mp member with member | member
      · exact sound.comparing call member comparing until_ held
      · obtain rfl := List.mem_singleton.mp member
        rw [show (s.row.load).lockedUntil = .ofRow s.row.lockedUntil from rfl, Column.ofRow_value?] at held
        exact Int.not_lt.mp fun later => unlocked ⟨until_, held, later⟩
    · rcases sound.counts with ⟨idle, counted⟩ | ⟨n, call, awaiting⟩
      · refine .inl ⟨fun call member => ?_, counted.few, counted.many⟩
        rcases List.mem_append.mp member with member | member
        · exact idle call member
        · rw [List.mem_singleton.mp member]
          rfl
      · have bound := (List.getElem?_eq_some_iff.mp awaiting.found).1
        refine .inr ⟨n, call, (List.getElem?_append_left bound).trans awaiting.found, fun m other there apart => ?_,
          awaiting.unlocked, awaiting.copy.imp
            (fun ⟨stage, failing⟩ => ⟨stage, failing.few, failing.many⟩)
            fun ⟨stage, succeeding⟩ => ⟨stage, succeeding.bounded, succeeding.reset, succeeding.unsaved⟩⟩
        by_cases old : m < s.calls.length
        · exact awaiting.alone m other ((List.getElem?_append_left old).symm.trans there) apart
        · rw [List.getElem?_append_right (by omega), List.getElem?_singleton] at there
          split at there
          · cases there
            rfl
          · cases there

/-- The calls after one of them has gone on. -/
theorem set_comparing {after : LoginCall} (comparing : ∀ call ∈ s.calls, call.stage = .comparing →
      ∀ lockedUntil ∈ call.admin.lockedUntil.value?, lockedUntil ≤ s.now)
    (gone : after.stage ≠ .comparing) : ∀ call ∈ s.calls.set n after, call.stage = .comparing →
      ∀ lockedUntil ∈ call.admin.lockedUntil.value?, lockedUntil ≤ s.now := by
  intro call member stage
  rcases List.mem_or_eq_of_mem_set member with old | rfl
  · exact comparing call old stage
  · exact absurd stage gone

/-- Of calls that were all idle, the one that has compared awaits its save. -/
theorem set_alone {after : LoginCall} (idle : ∀ call ∈ s.calls, call.awaits = false) :
    ∀ m other, (s.calls.set n after)[m]? = some other → m ≠ n → other.awaits = false := by
  intro m other there apart
  rw [List.getElem?_set_ne apart.symm] at there
  exact idle other (List.mem_of_getElem? there)

theorem Sound.compare (sound : s.Sound) (found : s.calls[n]? = some call) (stage : call.stage = .comparing)
    {isPasswordValid : Bool} (idle : ∀ call ∈ s.calls, call.awaits = false) (unlocked : ¬ s.row.Locked s.now)
    (read : isPasswordValid = false → call.admin.failedLoginAttempts = s.row.failedLoginAttempts) :
    (s.compare n call isPasswordValid).Sound := by
  have bound := (List.getElem?_eq_some_iff.mp found).1
  have counted : Counted s := by
    rcases sound.counts with ⟨-, counted⟩ | ⟨m, other, awaiting⟩
    · exact counted
    · have waits := idle other (List.mem_of_getElem? awaiting.found)
      rcases awaiting.copy with ⟨stage, -⟩ | ⟨stage, -⟩ <;> simp [LoginCall.awaits, stage] at waits
  unfold LockoutState.compare
  cases isPasswordValid with
  | true =>
    refine ⟨set_comparing sound.comparing (by simp), .inr ⟨n, _, List.getElem?_set_self bound, set_alone idle,
      unlocked, .inr ⟨rfl, ?_, rfl, rfl⟩⟩⟩
    exact sound.wrong_le
  | false =>
    have same := read rfl
    simp only [Bool.false_eq_true, if_false]
    refine ⟨set_comparing sound.comparing (by simp), .inr ⟨n, _, List.getElem?_set_self bound, set_alone idle,
      unlocked, .inl ⟨rfl, fun below => ?_, fun reached => ?_⟩⟩⟩
    · rw [LoadedAdmin.recordFailedLogin_attempts] at below ⊢
      obtain ⟨wrong, sinceLogin, -⟩ := counted.few (by omega)
      refine ⟨(by omega : s.wrong + 1 = _), (by omega : s.wrongSinceLogin + 1 = _), fun until_ held => ?_⟩
      rw [LoadedAdmin.recordFailedLogin_below below] at held
      exact sound.comparing call (List.mem_of_getElem? found) stage until_ held
    · rw [LoadedAdmin.recordFailedLogin_attempts] at reached
      have counts : s.wrong + 1 ≤ 5 ∧ 5 ≤ s.wrongSinceLogin + 1 := by
        by_cases few : s.row.failedLoginAttempts < 5
        · obtain ⟨wrong, sinceLogin, -⟩ := counted.few few
          omega
        · obtain ⟨-, sinceLogin, passed⟩ := counted.many (by omega)
          have none := passed unlocked
          omega
      exact ⟨counts.1, counts.2, _, LoadedAdmin.recordFailedLogin_reached reached⟩

/-- A save leaves no call that awaits one, and the counts right. -/
theorem Sound.save (sound : s.Sound) (found : s.calls[n]? = some call) (awaits : call.awaits = true)
    (lasts : call.stage = .failing → 5 ≤ call.admin.failedLoginAttempts →
      ∀ lockedUntil ∈ call.admin.lockedUntil.value?, s.now < lockedUntil) : (s.save n call).Sound := by
  have bound := (List.getElem?_eq_some_iff.mp found).1
  obtain ⟨m, other, awaiting⟩ : ∃ m other, Awaiting s m other := by
    rcases sound.counts with ⟨idle, -⟩ | awaiting
    · rw [idle call (List.mem_of_getElem? found)] at awaits
      cases awaits
    · exact awaiting
  obtain rfl : n = m := by
    by_contra apart
    rw [awaiting.alone n call found apart] at awaits
    cases awaits
  obtain rfl : call = other := Option.some.inj (found.symm.trans awaiting.found)
  have idle : ∀ after ∈ s.calls.set n { call with stage := .over }, after.awaits = false := by
    intro after member
    obtain ⟨m, place⟩ := List.mem_iff_getElem?.mp member
    by_cases same : m = n
    · subst same
      rw [List.getElem?_set_self bound] at place
      cases place
      rfl
    · rw [List.getElem?_set_ne (Ne.symm same)] at place
      exact awaiting.alone m after place same
  have comparing := @set_comparing s n { call with stage := .over } sound.comparing (by simp)
  unfold LockoutState.save
  rcases awaiting.copy with ⟨stage, failing⟩ | ⟨stage, succeeding⟩
  · simp only [stage, reduceCtorEq, if_false]
    refine ⟨comparing, .inl ⟨idle, fun few => ?_, fun many => ?_⟩⟩
    · obtain ⟨wrong, sinceLogin, passed⟩ := failing.few few
      refine ⟨wrong, sinceLogin, fun locked => ?_⟩
      rcases locked_save locked with locked | ⟨until_, held, later⟩
      · exact awaiting.unlocked locked
      · exact absurd (passed until_ held) (Int.not_le.mpr later)
    · obtain ⟨wrong, sinceLogin, until_, copy⟩ := failing.many many
      refine ⟨wrong, sinceLogin, fun unlocked => absurd ?_ unlocked⟩
      exact ⟨until_, by simp [AdminAccount.save, copy], lasts stage many until_ (by simp [copy, Column.value?])⟩
  · simp only [stage, if_true]
    refine ⟨comparing, .inl ⟨idle, fun _ => ?_, fun many => ?_⟩⟩
    · have none : (s.row.save call.admin).failedLoginAttempts = 0 := succeeding.reset
      refine ⟨none.symm, none.symm, fun locked => ?_⟩
      rcases locked_save locked with locked | ⟨until_, held, -⟩
      · exact awaiting.unlocked locked
      · rw [succeeding.unsaved] at held
        cases held
    · have none : (s.row.save call.admin).failedLoginAttempts = 0 := succeeding.reset
      exact absurd many (by simp [none])

theorem Sound.step {action : Time × LoginAction} (sound : s.Sound) (fresh : s.Fresh action)
    (stepped : s.step action = some s') : s'.Sound := by
  obtain ⟨t, action⟩ := action
  simp only [LockoutState.step] at stepped
  split at stepped
  · rename_i ordered
    have later := sound.advance ordered
    cases action with
    | findOne =>
      cases stepped
      exact later.findOne
    | compare n isPasswordValid =>
      obtain ⟨call, found, stepped⟩ := Option.bind_eq_some_iff.mp stepped
      split at stepped
      · rename_i stage
        cases stepped
        obtain ⟨idle, unlocked, read⟩ := fresh
        exact later.compare found stage idle unlocked fun wrong => read wrong call found
      · cases stepped
    | save n =>
      obtain ⟨call, found, stepped⟩ := Option.bind_eq_some_iff.mp stepped
      split at stepped
      · rename_i awaits
        cases stepped
        exact later.save found awaits (fresh call found)
      · cases stepped
  · cases stepped

end Steps

end LockoutState

open LockoutState

/-- The bound of the lock: it holds at every step of a run of a new account whose comparisons
and saves find what their calls have read. -/
theorem lockout_bound {actions : List (Time × LoginAction)} (isActive : Bool)
    (fresh : Admits LockoutState.step Fresh { row := { isActive } } actions) :
    ∀ taken ∈ trace LockoutState.step { row := { isActive } } actions, Bounded taken := by
  have start : Sound { row := { isActive } } := by
    refine ⟨by simp, .inl ⟨by simp, fun _ => ⟨rfl, rfl, ?_⟩, by simp⟩⟩
    rintro ⟨until_, held, -⟩
    cases held
  intro taken member
  obtain ⟨sound, admitted, stepped⟩ := trace_inv (fun sound fresh stepped => Sound.step sound fresh stepped) start
    fresh taken member
  refine ⟨(sound.step admitted stepped).wrong_le, fun t action _ locked => ?_⟩
  rw [action] at stepped
  simp only [LockoutState.step] at stepped
  split at stepped
  · rename_i ordered
    have later := (sound.advance ordered).locked (show (taken.before.advance t).row.Locked t from locked)
    exact later
  · cases stepped

/-- One login after the other: a call that reads, compares and saves. -/
def loginAlone (n : Nat) (t : Time) (isPasswordValid : Bool) : List (Time × LoginAction) :=
  [(t, .findOne), (t + 100, .compare n isPasswordValid), (t + 110, .save n)]

/-- Five wrong passwords, a login that the lock rejects, and the right password a quarter of an
hour later. -/
def guessing : List (Time × LoginAction) :=
  (List.range 5).flatMap (fun n => loginAlone n (n * 1000) false) ++ [(5000, .findOne)] ++ loginAlone 5 1000000 true

theorem guessing_bounded :
    (run LockoutState.step {} guessing).isSome ∧ ∀ taken ∈ trace LockoutState.step {} guessing, Bounded taken := by
  have fresh : Admits LockoutState.step Fresh { row := { isActive := true } } guessing := by decide
  exact ⟨by decide, lockout_bound true fresh⟩

/-- Six logins at one time. -/
def parallel : List (Time × LoginAction) :=
  List.replicate 6 (0, .findOne) ++ (List.range 6).map fun n => (100, .compare n false)

/-- After four wrong passwords a right one and a wrong one overlap, and then the owner comes back. -/
def overlapping : List (Time × LoginAction) :=
  (List.range 4).flatMap (fun n => loginAlone n (n * 1000) false) ++
    [(4000, .findOne), (4000, .findOne), (4100, .compare 4 false), (4100, .compare 5 true), (4110, .save 4),
      (4120, .save 5), (5000, .findOne)]

/-- Six wrong passwords are compared before any of them counts; and the save of a successful login
leaves the lock of the wrong password that overlapped with it. -/
theorem lockout_passed :
    (∃ taken ∈ trace LockoutState.step {} parallel, ¬ Bounded taken) ∧
      ∃ taken ∈ trace LockoutState.step {} overlapping, ¬ Bounded taken := by
  constructor
  · obtain ⟨taken, member, many⟩ : ∃ taken ∈ trace LockoutState.step {} parallel, ¬ taken.after.wrong ≤ 5 := by
      decide
    exact ⟨taken, member, fun bounded => many bounded.guesses⟩
  · obtain ⟨taken, member, action, active, locked, none⟩ :
        ∃ taken ∈ trace LockoutState.step {} overlapping, taken.action = (5000, .findOne) ∧
          taken.before.row.isActive = true ∧ taken.before.row.Locked 5000 ∧ ¬ 5 ≤ taken.before.wrongSinceLogin := by
      decide
    exact ⟨taken, member, fun bounded => none (bounded.locked 5000 action active locked)⟩

end DriverMicroServices
