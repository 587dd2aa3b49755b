import DriverMicroServices.Transactions.Footprint

/-! What a call writes and how it ends, whatever the database answers at each
step. Only unlocked reads are limited to stores of a given kind, so that a call
may write back a row that it has read. -/
namespace Transactions.Program

variable {K : Type} {Row : K → Type} {ε ε' α β : Type} {observed : Store Row → Prop}
  {wrote : (k : K) → Option (Row k) → Row k → Prop} {allowed : K → Prop}

/-- Every row that the call writes over an old one, or over none, is one of `wrote`,
and its result is one of `ends`. -/
def Outputs (observed : Store Row → Prop) (wrote : (k : K) → Option (Row k) → Row k → Prop)
    (ends : Except ε α → Prop) : Program Row ε α → Prop
  | .ret result => ends result
  | .observe next => ∀ seen, observed seen → (next seen).Outputs observed wrote ends
  | .lock _ next => ∀ row, (next row).Outputs observed wrote ends
  | .write k v next => (∀ old, wrote k old v) ∧ next.Outputs observed wrote ends
  | .autosave k f next =>
    (∀ old, ∀ v ∈ f old, wrote k old v) ∧ ∀ row, (next row).Outputs observed wrote ends
  | .commit next | .rollback next | .log _ next => next.Outputs observed wrote ends

theorem outputs_onRet (first : Except ε α → Prop) {ends : Except ε' β → Prop}
    {program : Program Row ε α} {f : Except ε α → Program Row ε' β}
    (outputs : program.Outputs observed wrote first)
    (rest : ∀ result, first result → (f result).Outputs observed wrote ends) :
    (program.onRet f).Outputs observed wrote ends := by
  induction program with
  | ret result => exact rest result outputs
  | observe next ih => exact fun seen admitted => ih seen (outputs seen admitted)
  | lock k next ih => exact fun row => ih row (outputs row)
  | write k v next ih => exact ⟨outputs.1, ih outputs.2⟩
  | autosave k g next ih => exact ⟨outputs.1, fun row => ih row (outputs.2 row)⟩
  | commit next ih => exact ih outputs
  | rollback next ih => exact ih outputs
  | log line next ih => exact ih outputs

/-- In sequence, where nothing is asked of the value in between. -/
theorem outputs_bind {ends : Except ε β → Prop} {program : Program Row ε α}
    {f : α → Program Row ε β} (outputs : program.Outputs observed wrote fun _ => True)
    (throws : ∀ error, ends (.error error)) (rest : ∀ value, (f value).Outputs observed wrote ends) :
    (program.bind f).Outputs observed wrote ends := by
  refine outputs_onRet _ outputs fun result _ => ?_
  cases result with
  | ok value => exact rest value
  | error error => exact throws error

theorem outputs_transaction {ends : Except ε α → Prop} {body : Program Row ε α}
    (outputs : body.Outputs observed wrote ends) :
    body.transaction.Outputs observed wrote ends := by
  refine outputs_onRet _ outputs fun result ended => ?_
  cases result <;> exact ended

/-- A call that touches only rows of which nothing is asked. -/
theorem outputs_of_touches {program : Program Row ε α} (touches : program.Touches allowed)
    (free : ∀ k old v, allowed k → wrote k old v) :
    program.Outputs observed wrote fun _ => True := by
  induction program with
  | ret result => trivial
  | observe next ih => exact fun seen _ => ih seen (touches seen)
  | lock k next ih => exact fun row => ih row (touches row)
  | write k v next ih => exact ⟨fun old => free k old v touches.1, ih touches.2⟩
  | autosave k g next ih =>
    exact ⟨fun old v _ => free k old v touches.1, fun row => ih row (touches.2 row)⟩
  | commit next ih => exact ih touches
  | rollback next ih => exact ih touches
  | log line next ih => exact ih touches

variable [DecidableEq K] {inv : Store Row → Prop}

theorem outputs_apply (store : Store Row) (buf : List (Write Row)) (held : inv store)
    (keeps : ∀ s k v, inv s → wrote k (s.row k) v → inv (s.set k v))
    (written : ∀ write ∈ buf, ∀ old, wrote write.1 old write.2) : inv (store.apply buf) := by
  induction buf generalizing store with
  | nil => exact held
  | cons write rest ih =>
    refine ih _ (keeps store write.1 write.2 held (written write (by simp) _)) ?_
    exact fun later member => written later (by simp [member])

/-- In a run alone, an invariant that the writes keep is kept. -/
theorem exec_outputs (inv : Store Row → Prop) {ends : Except ε α → Prop} {program : Program Row ε α}
    (outputs : program.Outputs observed wrote ends) (sees : ∀ s, inv s → observed s)
    (keeps : ∀ s k v, inv s → wrote k (s.row k) v → inv (s.set k v)) (held : inv session.store)
    (written : ∀ write ∈ session.buf, ∀ old, wrote write.1 old write.2)
    (ran : program.exec session = some (result, left)) : ends result ∧ inv left.store := by
  induction program generalizing session with
  | ret answer =>
    cases ran
    exact ⟨outputs, held⟩
  | observe next ih => exact ih _ (outputs _ (sees _ held)) held written ran
  | lock k next ih =>
    have ran : (next (session.view k)).exec { session with held := k :: session.held } = _ := ran
    refine ih _ (outputs _) ?_ ?_ ran
    · exact held
    · exact written
  | write k v next ih =>
    simp only [exec] at ran
    split at ran
    · refine ih outputs.2 ?_ (fun write member => ?_) ran
      · exact held
      · rcases List.mem_append.mp member with member | member
        · exact written write member
        · rw [List.mem_singleton.mp member]
          exact outputs.1
    · cases ran
  | autosave k f next ih =>
    simp only [exec] at ran
    split at ran
    · cases ran
    · refine ih _ (outputs.2 _) ?_ ?_ ran
      · show inv (session.store.autosave k f)
        unfold Store.autosave
        split
        · rename_i v stored
          exact keeps _ k v held (outputs.1 _ v stored)
        · exact held
      · exact written
  | commit next ih =>
    exact ih outputs (outputs_apply _ _ held keeps written) (by simp) ran
  | rollback next ih =>
    refine ih outputs ?_ ?_ ran
    · exact held
    · simp
  | log line next ih => exact ih outputs held written ran

omit [DecidableEq K] in
theorem outputs_trivial (program : Program Row ε α) :
    program.Outputs (fun _ => True) (fun _ _ _ => True) fun _ => True := by
  induction program with
  | ret result => trivial
  | observe next ih => exact fun seen _ => ih seen
  | lock k next ih => exact ih
  | write k v next ih => exact ⟨fun _ => trivial, ih⟩
  | autosave k g next ih => exact ⟨fun _ _ _ => trivial, ih⟩
  | commit next ih => exact ih
  | rollback next ih => exact ih
  | log line next ih => exact ih

/-- A call removes no row. -/
theorem exec_isSome {program : Program Row ε α} (ran : program.exec session = some (result, left))
    (held : (session.store.row k).isSome) : (left.store.row k).isSome :=
  (exec_outputs (fun s => (s.row k).isSome) (outputs_trivial program) (fun _ _ => trivial)
    (fun s _ v held _ => Store.set_isSome s v held) held (fun _ _ _ => trivial) ran).2

end Transactions.Program
