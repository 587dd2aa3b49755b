import DriverMicroServices.Transactions.Contract

/-! Invariants of single rows. A program that writes valid rows whenever it reads
valid rows keeps every row valid, at any interleaving with other such programs;
so a property of one row is proved by going once through each program. -/
namespace Transactions

variable {K L : Type} {Row : K → Type} {ε ε' α β : Type} {valid : (k : K) → Row k → Prop}

/-- Every row is valid. -/
def Store.All (valid : (k : K) → Row k → Prop) (s : Store Row) : Prop :=
  ∀ k row, s.row k = some row → valid k row

namespace Program

/-- As long as it reads valid rows, the program writes valid rows. -/
def Writes (valid : (k : K) → Row k → Prop) : Program Row ε α → Prop
  | .ret _ => True
  | .observe next => ∀ seen : Store Row, seen.All valid → (next seen).Writes valid
  | .lock k next => ∀ row : Option (Row k), (∀ v ∈ row, valid k v) → (next row).Writes valid
  | .write k v next => valid k v ∧ next.Writes valid
  | .autosave k f next => ∀ row : Option (Row k), (∀ v ∈ row, valid k v) →
      (∀ v ∈ f row, valid k v) ∧ (next row).Writes valid
  | .commit next => next.Writes valid
  | .rollback next => next.Writes valid
  | .log _ next => next.Writes valid

theorem writes_onRet {program : Program Row ε α} {f : Except ε α → Program Row ε' β}
    (first : program.Writes valid) (rest : ∀ result, (f result).Writes valid) :
    (program.onRet f).Writes valid := by
  induction program with
  | ret result => exact rest result
  | observe next ih => exact fun seen all => ih seen (first seen all)
  | lock k next ih => exact fun row held => ih row (first row held)
  | write k v next ih => exact ⟨first.1, ih first.2⟩
  | autosave k g next ih => exact fun row held => ⟨(first row held).1, ih row (first row held).2⟩
  | commit next ih => exact ih first
  | rollback next ih => exact ih first
  | log line next ih => exact ih first

theorem writes_bind {program : Program Row ε α} {f : α → Program Row ε β}
    (first : program.Writes valid) (rest : ∀ value, (f value).Writes valid) :
    (program.bind f).Writes valid := by
  refine writes_onRet first fun result => ?_
  cases result with
  | ok value => exact rest value
  | error error => trivial

theorem writes_transaction {body : Program Row ε α} (holds : body.Writes valid) :
    body.transaction.Writes valid := by
  refine writes_onRet holds fun result => ?_
  cases result <;> trivial

end Program

variable [DecidableEq K]

theorem Store.set_all {s : Store Row} {v : Row k} (all : s.All valid) (fits : valid k v) :
    (s.set k v).All valid := by
  intro k' row held
  by_cases same : k' = k
  · subst same
    rw [Store.set_row_self, Option.some.injEq] at held
    exact held ▸ fits
  · rw [Store.set_row_ne _ _ same] at held
    exact all k' row held

theorem Store.apply_all {s : Store Row} {writes : List (Write Row)} (all : s.All valid)
    (fit : ∀ write ∈ writes, valid write.1 write.2) : (s.apply writes).All valid := by
  induction writes generalizing s with
  | nil => exact all
  | cons write rest ih =>
    exact ih (Store.set_all all (fit write (by simp))) fun later member => fit later (by simp [member])

namespace System

/-- Every row is valid, and every call in progress keeps it so. -/
structure Valid (valid : (k : K) → Row k → Prop) (s : System L Row ε α) : Prop where
  rows : s.store.All valid
  programs : ∀ t thread, s.threads t = some thread → thread.program.Writes valid
  bufs : ∀ t thread, s.threads t = some thread → ∀ write ∈ thread.buf, valid write.1 write.2

omit [DecidableEq K] in
theorem valid_initial {store : Store Row} (all : store.All valid) :
    Valid valid ({ store } : System L Row ε α) :=
  ⟨all, fun _ _ absent => by simp at absent, fun _ _ absent => by simp at absent⟩

omit [DecidableEq K] in
/-- A step that stores valid rows and leaves its call in order. -/
private theorem valid_put {s : System L Row ε α} {label : L} {program : Program Row ε α}
    {buf : List (Write Row)} (base : System L Row ε α) (kept : s.Valid valid)
    (threads : base.threads = s.threads) (rows : base.store.All valid)
    (writes : program.Writes valid) (fit : ∀ write ∈ buf, valid write.1 write.2) :
    (base.put t { label, program, buf }).Valid valid := by
  refine ⟨rows, fun t' thread' found => ?_, fun t' thread' found => ?_⟩
  all_goals
    rw [put_threads, threads] at found
    by_cases same : t' = t
    · subst same
      rw [Function.update_self, Option.some.injEq] at found
      subst found
      assumption
    · rw [Function.update_of_ne same] at found
      first
        | exact kept.programs t' thread' found
        | exact kept.bufs t' thread' found

theorem valid_advance {s s' : System L Row ε α} {thread : Thread L Row ε α} (kept : s.Valid valid)
    (found : s.threads t = some thread) (ran : s.advance t thread = some s') : s'.Valid valid := by
  have writes := kept.programs t _ found
  have fit := kept.bufs t _ found
  have seen := Store.apply_all kept.rows fit
  obtain ⟨base, thread', took, rfl⟩ := advances ran
  cases took with
  | observe => exact valid_put s kept rfl kept.rows (writes s.store kept.rows) fit
  | log => exact valid_put s kept rfl kept.rows writes fit
  | lock =>
    refine valid_put _ kept ?_ ?_ (writes _ fun v held => seen _ v held) fit
    · rfl
    · exact kept.rows
  | write =>
    refine valid_put s kept rfl kept.rows writes.2 fun write member => ?_
    rcases List.mem_append.mp member with member | member
    · exact fit write member
    · rw [List.mem_singleton.mp member]
      exact writes.1
  | @autosave k _ f =>
    obtain ⟨stored, rest⟩ := writes (s.store.row k) fun v held => kept.rows k v held
    refine valid_put { s with store := s.store.autosave k f } kept rfl ?_ rest fit
    dsimp only
    unfold Store.autosave
    split
    · exact Store.set_all kept.rows (stored _ ‹_›)
    · exact kept.rows
  | @commit _ next buf =>
    have rest : next.Writes valid := writes
    refine valid_put ({ s with store := s.store.apply buf }.unlock t) kept rfl seen rest ?_
    simp
  | @rollback _ next =>
    have rest : next.Writes valid := writes
    refine valid_put (s.unlock t) kept rfl kept.rows rest ?_
    simp

variable {code : L → Program Row ε α}

/-- One scheduling choice: a call that begins must write valid rows. -/
theorem valid_act {s s' : System L Row ε α} (kept : s.Valid valid)
    (writes : ∀ t label, action = .start t label → (code label).Writes valid)
    (ran : s.act code action = some s') : s'.Valid valid := by
  cases action with
  | start t label =>
    simp only [act] at ran
    split at ran <;> cases ran
    refine valid_put s kept rfl kept.rows (writes t label rfl) ?_
    simp
  | step t =>
    obtain ⟨thread, found, ran⟩ := Option.bind_eq_some_iff.mp ran
    exact valid_advance kept found ran
  | abort t =>
    obtain ⟨thread, _, rfl⟩ := Option.map_eq_some_iff.mp ran
    have survivor : ∀ t' thread', Function.update s.threads t none t' = some thread' →
        s.threads t' = some thread' := by
      intro t' thread' found
      by_cases same : t' = t
      · subst same
        simp at found
      · rwa [Function.update_of_ne same] at found
    exact ⟨kept.rows, fun t' thread' found => kept.programs t' thread' (survivor t' thread' found),
      fun t' thread' found => kept.bufs t' thread' (survivor t' thread' found)⟩

/-- Every run of calls that write valid rows keeps all rows valid. -/
theorem valid_run {s s' : System L Row ε α} (kept : s.Valid valid)
    (writes : ∀ t label, .start t label ∈ actions → (code label).Writes valid)
    (ran : s.run code actions = some s') : s'.Valid valid := by
  induction actions generalizing s with
  | nil =>
    cases ran
    exact kept
  | cons action rest ih =>
    obtain ⟨next, stepped, ran⟩ := Option.bind_eq_some_iff.mp ran
    refine ih (valid_act kept (fun t label same => writes t label (by simp [← same])) stepped) ?_ ran
    exact fun t label member => writes t label (by simp [member])

end System

end Transactions
