import DriverMicroServices.Transactions.Program

/-! Many calls over one store, one program step at a time. A lock belongs to at
most one call, because ownership is a function of the key; it is kept until the
call commits, rolls back or is aborted. Reads without a lock see the rows
committed at that moment (`READ COMMITTED`). -/
namespace Transactions

variable {K L : Type} {Row : K → Type} {ε α : Type}

/-- What a step does that is not private to its call. -/
inductive Effect (K : Type) where
  | autosave (k : K)
  | commit
  | log (line : String)
  deriving DecidableEq

/-- The effect of the next step of a program, if it has one. -/
def Program.effect? : Program Row ε α → Option (Effect K)
  | .autosave k _ _ => some (.autosave k)
  | .commit _ => some .commit
  | .log line _ => some (.log line)
  | _ => none

/-- One call in progress: which call it is, the rest of its program and the
writes it has not committed. -/
structure Thread (L : Type) {K : Type} (Row : K → Type) (ε α : Type) where
  label : L
  program : Program Row ε α
  buf : List (Write Row) := []

/-- The committed rows, the owner of each row lock, and every call so far. -/
structure System (L : Type) {K : Type} (Row : K → Type) (ε α : Type) where
  store : Store Row
  owner : K → Option Nat := fun _ => none
  threads : Nat → Option (Thread L Row ε α) := fun _ => none

/-- The scheduler's choices. `abort` is a deadlock victim or a lost connection. -/
inductive Action (L : Type) where
  | start (t : Nat) (label : L)
  | step (t : Nat)
  | abort (t : Nat)

def Action.thread : Action L → Nat
  | .start t _ | .step t | .abort t => t

namespace System

def put (s : System L Row ε α) (t : Nat) (thread : Thread L Row ε α) : System L Row ε α :=
  { s with threads := Function.update s.threads t (some thread) }

/-- Give back every lock of one call. -/
def unlock (s : System L Row ε α) (t : Nat) : System L Row ε α :=
  { s with owner := fun k => if s.owner k = some t then none else s.owner k }

@[simp] theorem unlock_store (s : System L Row ε α) : (s.unlock t).store = s.store := rfl

@[simp] theorem put_store (s : System L Row ε α) (thread : Thread L Row ε α) :
    (s.put t thread).store = s.store := rfl

@[simp] theorem put_owner (s : System L Row ε α) (thread : Thread L Row ε α) :
    (s.put t thread).owner = s.owner := rfl

@[simp] theorem put_threads (s : System L Row ε α) (thread : Thread L Row ε α) :
    (s.put t thread).threads = Function.update s.threads t (some thread) := rfl

/-- Releasing one call's locks takes none from another call. -/
theorem unlock_owner_iff (s : System L Row ε α) (different : t' ≠ t) :
    (s.unlock t).owner k = some t' ↔ s.owner k = some t' := by
  simp only [unlock]
  split
  · rename_i own
    simp [own, Ne.symm different]
  · rfl

variable [DecidableEq K]

/-- The next step of one call; there is none when it has ended or must wait. -/
def advance (s : System L Row ε α) (t : Nat) (thread : Thread L Row ε α) :
    Option (System L Row ε α) :=
  match thread.program with
  | .ret _ => none
  | .observe next => some (s.put t { thread with program := next s.store })
  | .lock k next =>
    if s.owner k = none ∨ s.owner k = some t then
      some ({ s with owner := Function.update s.owner k (some t) }.put t
        { thread with program := next ((s.store.apply thread.buf).row k) })
    else none
  | .write k v next =>
    if s.owner k = some t then
      some (s.put t { thread with program := next, buf := thread.buf ++ [⟨k, v⟩] })
    else none
  | .autosave k f next =>
    if s.owner k = none then
      some ({ s with store := s.store.autosave k f }.put t
        { thread with program := next (s.store.row k) })
    else none
  | .commit next =>
    some (({ s with store := s.store.apply thread.buf }.unlock t).put t
      { thread with program := next, buf := [] })
  | .rollback next => some ((s.unlock t).put t { thread with program := next, buf := [] })
  | .log _ next => some (s.put t { thread with program := next })

/-- What the next step of a call does: the rows and locks after it, and the call itself. -/
inductive Advances (s : System L Row ε α) (t : Nat) :
    Thread L Row ε α → System L Row ε α → Thread L Row ε α → Prop where
  | observe {next : Store Row → Program Row ε α} :
    Advances s t ⟨label, .observe next, buf⟩ s ⟨label, next s.store, buf⟩
  | lock {next : Option (Row k) → Program Row ε α} (free : s.owner k = none ∨ s.owner k = some t) :
    Advances s t ⟨label, .lock k next, buf⟩ { s with owner := Function.update s.owner k (some t) }
      ⟨label, next ((s.store.apply buf).row k), buf⟩
  | write (held : s.owner k = some t) :
    Advances s t ⟨label, .write k v next, buf⟩ s ⟨label, next, buf ++ [⟨k, v⟩]⟩
  | autosave {next : Option (Row k) → Program Row ε α} (free : s.owner k = none) :
    Advances s t ⟨label, .autosave k f next, buf⟩ { s with store := s.store.autosave k f }
      ⟨label, next (s.store.row k), buf⟩
  | commit : Advances s t ⟨label, .commit next, buf⟩ ({ s with store := s.store.apply buf }.unlock t) ⟨label, next, []⟩
  | rollback : Advances s t ⟨label, .rollback next, buf⟩ (s.unlock t) ⟨label, next, []⟩
  | log : Advances s t ⟨label, .log line next, buf⟩ s ⟨label, next, buf⟩

theorem advances {s s' : System L Row ε α} {thread : Thread L Row ε α} (ran : s.advance t thread = some s') :
    ∃ base thread', s.Advances t thread base thread' ∧ s' = base.put t thread' := by
  obtain ⟨label, program, buf⟩ := thread
  cases program with
  | ret result => cases ran
  | observe next =>
    cases ran
    exact ⟨_, _, .observe, rfl⟩
  | commit next =>
    cases ran
    exact ⟨_, _, .commit, rfl⟩
  | rollback next =>
    cases ran
    exact ⟨_, _, .rollback, rfl⟩
  | log line next =>
    cases ran
    exact ⟨_, _, .log, rfl⟩
  | lock k next =>
    obtain ⟨free, done⟩ := Option.ite_none_right_eq_some.mp ran
    cases done
    exact ⟨_, _, .lock free, rfl⟩
  | write k v next =>
    obtain ⟨held, done⟩ := Option.ite_none_right_eq_some.mp ran
    cases done
    exact ⟨_, _, .write held, rfl⟩
  | autosave k f next =>
    obtain ⟨free, done⟩ := Option.ite_none_right_eq_some.mp ran
    cases done
    exact ⟨_, _, .autosave free, rfl⟩

theorem Advances.threads {s base : System L Row ε α} {thread thread' : Thread L Row ε α}
    (took : s.Advances t thread base thread') : base.threads = s.threads := by
  cases took <;> rfl

/-- The step, where the call after it is known. -/
theorem advances_found {s s' : System L Row ε α} {thread thread' : Thread L Row ε α}
    (ran : s.advance t thread = some s') (found : s'.threads t = some thread') :
    ∃ base, s.Advances t thread base thread' ∧ s' = base.put t thread' := by
  obtain ⟨base, after, took, rfl⟩ := advances ran
  rw [put_threads, Function.update_self, Option.some.injEq] at found
  exact ⟨base, found ▸ took, found ▸ rfl⟩

/-- One scheduling choice. `code` is the program of each call. -/
def act (code : L → Program Row ε α) (s : System L Row ε α) :
    Action L → Option (System L Row ε α)
  | .start t label =>
    match s.threads t with
    | none => some (s.put t { label, program := code label })
    | some _ => none
  | .step t => (s.threads t).bind (s.advance t)
  | .abort t =>
    (s.threads t).map fun _ => { s.unlock t with threads := Function.update s.threads t none }

/-- A run; there is none when some choice is not possible. -/
def run (code : L → Program Row ε α) (s : System L Row ε α) :
    List (Action L) → Option (System L Row ε α)
  | [] => some s
  | action :: rest => (s.act code action).bind fun next => next.run code rest

/-- The call that makes the next step of an action, and that step's effect. -/
def effect? (s : System L Row ε α) : Action L → Option (L × Effect K)
  | .step t => (s.threads t).bind fun thread =>
      thread.program.effect?.map fun effect => (thread.label, effect)
  | _ => none

/-- A call that is over, with its result. -/
def answer? (s : System L Row ε α) (t : Nat) : Option (L × Except ε α) :=
  (s.threads t).bind fun thread =>
    match thread.program with
    | .ret result => some (thread.label, result)
    | _ => none

/-- Every effect of the run finds the store in a state the condition admits. -/
def Admits (code : L → Program Row ε α) (cond : L → Effect K → Store Row → Prop)
    (s : System L Row ε α) : List (Action L) → Prop
  | [] => True
  | action :: rest =>
    (∀ made ∈ s.effect? action, cond made.1 made.2 s.store) ∧
      ∀ next ∈ s.act code action, next.Admits code cond rest

instance decidableAdmits {code : L → Program Row ε α} {cond : L → Effect K → Store Row → Prop}
    [∀ label effect store, Decidable (cond label effect store)] :
    ∀ (s : System L Row ε α) (actions : List (Action L)), Decidable (s.Admits code cond actions)
  | _, [] => isTrue trivial
  | _, _ :: rest =>
    @instDecidableAnd _ _ (Option.decidableForallMem _)
      (@Option.decidableForallMem _ _ (fun next => decidableAdmits next rest) _)

theorem admits_always {code : L → Program Row ε α} {cond : L → Effect K → Store Row → Prop}
    (always : ∀ label effect store, cond label effect store) (s : System L Row ε α)
    (actions : List (Action L)) : s.Admits code cond actions := by
  induction actions generalizing s with
  | nil => trivial
  | cons action rest ih => exact ⟨fun made _ => always made.1 made.2 _, fun next _ => ih next⟩

/-- Every step of the run relates the rows before it to the rows after it. -/
def EveryStep (code : L → Program Row ε α) (allowed : Store Row → Store Row → Prop)
    (s : System L Row ε α) : List (Action L) → Prop
  | [] => True
  | action :: rest => ∀ next ∈ s.act code action,
      allowed s.store next.store ∧ next.EveryStep code allowed rest

variable {code : L → Program Row ε α}

theorem advance_threads {s s' : System L Row ε α} {thread : Thread L Row ε α}
    (ran : s.advance t thread = some s') (other : t' ≠ t) : s'.threads t' = s.threads t' := by
  obtain ⟨base, thread', took, rfl⟩ := advances ran
  rw [put_threads, Function.update_of_ne other, took.threads]

/-- A call stays what it is. -/
theorem advance_label {s s' : System L Row ε α} {thread : Thread L Row ε α}
    (ran : s.advance t thread = some s') (found : s'.threads t = some thread') :
    thread'.label = thread.label := by
  obtain ⟨base, took, rfl⟩ := advances_found ran found
  cases took <;> rfl

/-- A step of one call takes no lock from another, and changes no row under it. -/
theorem advance_locks {s s' : System L Row ε α} {thread : Thread L Row ε α}
    (owned : ∀ write ∈ thread.buf, s.owner write.1 = some t)
    (ran : s.advance t thread = some s') (different : t' ≠ t) (held : s.owner k = some t') :
    s'.owner k = some t' ∧ s'.store.row k = s.store.row k := by
  obtain ⟨base, thread', took, rfl⟩ := advances ran
  cases took with
  | observe | write | log => exact ⟨held, rfl⟩
  | rollback => exact ⟨(unlock_owner_iff s different).mpr held, rfl⟩
  | commit =>
    refine ⟨(unlock_owner_iff _ different).mpr held, Store.apply_row_untouched _ _ ?_⟩
    rintro write member rfl
    rw [owned write member] at held
    exact different (Option.some.inj held).symm
  | @lock k' _ _ _ free =>
    have other : k ≠ k' := by
      rintro rfl
      rcases free with free | free <;> simp [free] at held
      exact different held.symm
    exact ⟨by simpa [other] using held, rfl⟩
  | autosave free =>
    refine ⟨held, Store.autosave_row_ne _ _ ?_⟩
    rintro rfl
    simp [free] at held

/-- A call does not go away by its own step. -/
theorem advance_present {s s' : System L Row ε α} {thread : Thread L Row ε α}
    (ran : s.advance t thread = some s') : ∃ thread', s'.threads t = some thread' := by
  obtain ⟨base, thread', -, rfl⟩ := advances ran
  exact ⟨thread', Function.update_self ..⟩

/-- A call writes under its locks only. -/
theorem advance_owned {s s' : System L Row ε α} {thread thread' : Thread L Row ε α}
    (owned : ∀ write ∈ thread.buf, s.owner write.1 = some t)
    (ran : s.advance t thread = some s') (found : s'.threads t = some thread') :
    ∀ write ∈ thread'.buf, s'.owner write.1 = some t := by
  obtain ⟨base, took, rfl⟩ := advances_found ran found
  cases took with
  | observe | autosave | log => exact owned
  | rollback | commit => simp
  | write held =>
    intro write member
    rcases List.mem_append.mp member with member | member
    · exact owned write member
    · rw [List.mem_singleton.mp member]
      exact held
  | @lock k =>
    intro write member
    by_cases locked : write.1 = k
    · simp [locked]
    · simpa [locked] using owned write member

theorem advance_isSome {s s' : System L Row ε α} {thread : Thread L Row ε α}
    (ran : s.advance t thread = some s') (held : (s.store.row k).isSome) :
    (s'.store.row k).isSome := by
  obtain ⟨base, thread', took, rfl⟩ := advances ran
  cases took with
  | observe | rollback | log | lock | write => exact held
  | commit => exact Store.apply_isSome _ _ held
  | autosave => exact Store.autosave_isSome _ _ held

/-- What the calls of other threads do leaves a call where it is, and removes no
row. -/
theorem act_others {s s' : System L Row ε α} (ran : s.act code action = some s')
    (other : action.thread ≠ t) : s'.threads t = s.threads t ∧
      ∀ k, (s.store.row k).isSome → (s'.store.row k).isSome := by
  cases action with
  | start t' label =>
    simp only [act] at ran
    split at ran <;> cases ran
    exact ⟨Function.update_of_ne (Ne.symm other) .., fun _ held => held⟩
  | step t' =>
    obtain ⟨thread, _, ran⟩ := Option.bind_eq_some_iff.mp ran
    exact ⟨advance_threads ran (Ne.symm other), fun _ held => advance_isSome ran held⟩
  | abort t' =>
    obtain ⟨thread, _, rfl⟩ := Option.map_eq_some_iff.mp ran
    exact ⟨Function.update_of_ne (Ne.symm other) .., fun _ held => held⟩

theorem run_others {s s' : System L Row ε α} (ran : s.run code actions = some s')
    (others : ∀ action ∈ actions, action.thread ≠ t) : s'.threads t = s.threads t ∧
      ∀ k, (s.store.row k).isSome → (s'.store.row k).isSome := by
  induction actions generalizing s with
  | nil =>
    cases ran
    exact ⟨rfl, fun _ held => held⟩
  | cons action rest ih =>
    obtain ⟨next, stepped, ran⟩ := Option.bind_eq_some_iff.mp ran
    obtain ⟨thread, rows⟩ := act_others stepped (others action (by simp))
    obtain ⟨thread', rows'⟩ := ih ran fun later member => others later (by simp [member])
    exact ⟨thread'.trans thread, fun k held => rows' k (rows k held)⟩

/-- A run stopped after any of its actions is a run. -/
theorem run_append (s : System L Row ε α)
    (first second : List (Action L)) :
    s.run code (first ++ second) = (s.run code first).bind fun middle => middle.run code second := by
  induction first generalizing s with
  | nil => rfl
  | cons action rest ih =>
    simp only [List.cons_append, run, Option.bind_assoc]
    congr 1
    funext next
    exact ih next

variable {allowed : Store Row → Store Row → Prop}

theorem every_step_append {s middle : System L Row ε α} {first second : List (Action L)}
    (every : s.EveryStep code allowed (first ++ second)) (ran : s.run code first = some middle) :
    middle.EveryStep code allowed second := by
  induction first generalizing s with
  | nil =>
    cases ran
    exact every
  | cons action rest ih =>
    obtain ⟨next, stepped, ran⟩ := Option.bind_eq_some_iff.mp ran
    exact ih (every next stepped).2 ran

/-- What every step keeps, a whole run keeps. -/
theorem every_step_run {s s' : System L Row ε α} {actions : List (Action L)}
    (property : Store Row → Prop)
    (kept : ∀ before after, allowed before after → property before → property after)
    (every : s.EveryStep code allowed actions) (ran : s.run code actions = some s')
    (start : property s.store) : property s'.store := by
  induction actions generalizing s with
  | nil =>
    cases ran
    exact start
  | cons action rest ih =>
    obtain ⟨next, stepped, ran⟩ := Option.bind_eq_some_iff.mp ran
    obtain ⟨step, every⟩ := every next stepped
    exact ih every ran (kept _ _ step start)

/-- A run that loses what an allowed step would keep has a step that is not
allowed. -/
theorem every_step_broken {s : System L Row ε α} {first second : List (Action L)}
    (property : Store Row → Bool)
    (kept : ∀ before after, allowed before after → property before = true → property after = true)
    (held : (s.run code first).map (fun s => property s.store) = some true)
    (lost : (s.run code (first ++ second)).map (fun s => property s.store) = some false) :
    ¬ s.EveryStep code allowed (first ++ second) := by
  intro every
  obtain ⟨middle, toMiddle, before⟩ := Option.map_eq_some_iff.mp held
  obtain ⟨last, toLast, after⟩ := Option.map_eq_some_iff.mp lost
  rw [run_append, toMiddle] at toLast
  have still := every_step_run (fun store => property store = true) kept
    (every_step_append every toMiddle) toLast before
  rw [after] at still
  cases still

end System

end Transactions
