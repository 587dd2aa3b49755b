import DriverMicroServices.Transactions.Store

/-! Programs over a row store, one constructor for each thing a call can do to
the database: read without a lock, lock a row, write a locked row, run a
single-row statement on its own connection, commit, roll back, log. A program
says nothing about scheduling; `exec` runs it with no other call in progress,
and `Transactions.Interleaving` runs many at once. -/
namespace Transactions

/-- A call in progress: what it does next, given what the database answers. -/
inductive Program {K : Type} (Row : K → Type) (ε α : Type) where
  /-- The call is over; writes it has not committed are lost. -/
  | ret (result : Except ε α)
  /-- Read the committed rows without a lock. -/
  | observe (next : Store Row → Program Row ε α)
  /-- `SELECT ... FOR UPDATE` of one row: wait for its lock, then read it. -/
  | lock (k : K) (next : Option (Row k) → Program Row ε α)
  /-- Write a row locked before; other calls see it after the commit. -/
  | write (k : K) (v : Row k) (next : Program Row ε α)
  /-- A single-row statement on a connection of its own, committed at once. It
  waits for the row's lock; the continuation gets the row it found. -/
  | autosave (k : K) (f : Option (Row k) → Option (Row k))
      (next : Option (Row k) → Program Row ε α)
  | commit (next : Program Row ε α)
  | rollback (next : Program Row ε α)
  /-- Write a log line. -/
  | log (line : String) (next : Program Row ε α)

namespace Program

variable {K : Type} {Row : K → Type} {ε ε' α β : Type}

/-- Continue after the call is over, whether it returned or threw. -/
def onRet (program : Program Row ε α) (f : Except ε α → Program Row ε' β) : Program Row ε' β :=
  match program with
  | .ret result => f result
  | .observe next => .observe fun seen => (next seen).onRet f
  | .lock k next => .lock k fun row => (next row).onRet f
  | .write k v next => .write k v (next.onRet f)
  | .autosave k g next => .autosave k g fun row => (next row).onRet f
  | .commit next => .commit (next.onRet f)
  | .rollback next => .rollback (next.onRet f)
  | .log line next => .log line (next.onRet f)

/-- Continue after a normal return; an exception passes through. -/
def bind (program : Program Row ε α) (f : α → Program Row ε β) : Program Row ε β :=
  program.onRet fun
    | .ok value => f value
    | .error error => .ret (.error error)

instance : Monad (Program Row ε) where
  pure value := .ret (.ok value)
  bind := bind

instance : MonadExceptOf ε (Program Row ε) where
  throw error := .ret (.error error)
  tryCatch program handler := program.onRet fun
    | .ok value => .ret (.ok value)
    | .error error => handler error

@[simp] theorem pure_eq (value : α) : (pure value : Program Row ε α) = .ret (.ok value) := rfl

@[simp] theorem throw_eq (error : ε) : (throw error : Program Row ε α) = .ret (.error error) := rfl

@[simp] theorem bind_eq (program : Program Row ε α) (f : α → Program Row ε β) :
    (program >>= f) = program.bind f := rfl

theorem bind_ret (program : Program Row ε α) :
    program.bind (fun value => .ret (.ok value)) = program := by
  unfold bind
  induction program with
  | ret result => cases result <;> rfl
  | observe next ih => exact congrArg _ (funext ih)
  | lock k next ih => exact congrArg _ (funext ih)
  | write k v next ih => exact congrArg _ ih
  | autosave k f next ih => exact congrArg _ (funext ih)
  | commit next ih => exact congrArg _ ih
  | rollback next ih => exact congrArg _ ih
  | log line next ih => exact congrArg _ ih

theorem bind_assoc {γ : Type} (program : Program Row ε α) (f : α → Program Row ε β)
    (g : β → Program Row ε γ) :
    (program.bind f).bind g = program.bind fun value => (f value).bind g := by
  unfold bind
  induction program with
  | ret result => cases result <;> rfl
  | observe next ih => exact congrArg _ (funext ih)
  | lock k next ih => exact congrArg _ (funext ih)
  | write k v next ih => exact congrArg _ ih
  | autosave k f next ih => exact congrArg _ (funext ih)
  | commit next ih => exact congrArg _ ih
  | rollback next ih => exact congrArg _ ih
  | log line next ih => exact congrArg _ ih

/-- Run the body, then commit what it wrote, or roll it back when it throws. -/
def transaction (body : Program Row ε α) : Program Row ε α :=
  body.onRet fun
    | .ok value => .commit (.ret (.ok value))
    | .error error => .rollback (.ret (.error error))

/-- Run the body for each element in turn. -/
def forEach (items : List β) (body : β → Program Row ε Unit) : Program Row ε Unit :=
  match items with
  | [] => .ret (.ok ())
  | item :: rest => (body item).bind fun _ => forEach rest body

/-- The database seen by one call that runs alone. -/
structure Session {K : Type} (Row : K → Type) where
  store : Store Row
  held : List K := []
  buf : List (Write Row) := []

variable [DecidableEq K]

/-- One row as the call sees it, its own uncommitted writes included. -/
def Session.view (session : Session Row) (k : K) : Option (Row k) :=
  (session.store.apply session.buf).row k

/-- Run a call with no other call in progress. There is no result when the call
writes a row it has not locked, or waits for a lock it holds itself. -/
def exec (program : Program Row ε α) (session : Session Row) :
    Option (Except ε α × Session Row) :=
  match program with
  | .ret result => some (result, session)
  | .observe next => (next session.store).exec session
  | .lock k next => (next (session.view k)).exec { session with held := k :: session.held }
  | .write k v next =>
    if k ∈ session.held then next.exec { session with buf := session.buf ++ [⟨k, v⟩] } else none
  | .autosave k f next =>
    if k ∈ session.held then none
    else (next (session.store.row k)).exec { session with store := session.store.autosave k f }
  | .commit next => next.exec { store := session.store.apply session.buf }
  | .rollback next => next.exec { store := session.store }
  | .log _ next => next.exec session

/-- Run a call alone on a store: its result and the store it leaves. -/
def call (program : Program Row ε α) (store : Store Row) : Option (Except ε α × Store Row) :=
  (program.exec { store }).map fun done => (done.1, done.2.store)

theorem exec_onRet (program : Program Row ε α) (f : Except ε α → Program Row ε' β)
    (session : Session Row) :
    (program.onRet f).exec session =
      (program.exec session).bind fun done => (f done.1).exec done.2 := by
  induction program generalizing session with
  | ret result => rfl
  | observe next ih => exact ih _ _
  | lock k next ih => exact ih _ _
  | write k v next ih =>
    simp only [onRet, exec]
    split
    · exact ih _
    · rfl
  | autosave k g next ih =>
    simp only [onRet, exec]
    split
    · rfl
    · exact ih _ _
  | commit next ih => exact ih _
  | rollback next ih => exact ih _
  | log line next ih => exact ih _

/-- A transaction whose body throws leaves the committed rows as its own
single-row statements left them; nothing it wrote under a lock survives. -/
theorem exec_transaction (body : Program Row ε α) (session : Session Row) :
    body.transaction.exec session = (body.exec session).map fun done =>
      match done.1 with
      | .ok value => (.ok value, { store := done.2.store.apply done.2.buf })
      | .error error => (.error error, { store := done.2.store }) := by
  rw [transaction, exec_onRet]
  cases body.exec session with
  | none => rfl
  | some done =>
    obtain ⟨result, left⟩ := done
    cases result <;> rfl

end Program

end Transactions
