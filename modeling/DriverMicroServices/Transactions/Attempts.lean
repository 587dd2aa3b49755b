/-! A transaction whose statements are all attempted, whatever becomes of them. The first failure aborts it:
the statements after it are refused, and the commit leaves the state as it was before. -/
namespace Transactions

variable {σ ε S : Type}

/-- A transaction that is going on. -/
structure Attempts (σ ε S : Type) where
  state : S
  aborted : Bool := false
  done : List σ := []
  errors : List (σ × ε) := []

section Attempts

variable (execute : S → σ → Except ε S) (refusal : ε)

def attempt (t : Attempts σ ε S) (statement : σ) : Attempts σ ε S :=
  if t.aborted then { t with errors := t.errors ++ [(statement, refusal)] }
  else
    match execute t.state statement with
    | .ok state => { t with state, done := t.done ++ [statement] }
    | .error error => { t with aborted := true, errors := t.errors ++ [(statement, error)] }

def attemptAll (statements : List σ) (t : Attempts σ ε S) : Attempts σ ε S :=
  statements.foldl (attempt execute refusal) t

/-- What the commit leaves of the state before and the one reached. -/
def Attempts.commit (t : Attempts σ ε S) (before : S) : S := if t.aborted then before else t.state

end Attempts

variable {execute : S → σ → Except ε S} {refusal : ε} {statements : List σ} {t : Attempts σ ε S} {after : S}

/-- The transaction is aborted just when there is an error. -/
def Attempts.Sound (t : Attempts σ ε S) : Prop := t.aborted = true ↔ t.errors ≠ []

theorem sound_start (state : S) : ({ state } : Attempts σ ε S).Sound := by
  simp [Attempts.Sound]

theorem attempt_sound (held : t.Sound) (statement : σ) : (attempt execute refusal t statement).Sound := by
  unfold Attempts.Sound attempt at *
  split
  · rename_i aborted
    simp [aborted]
  · split
    · exact held
    · simp

theorem attemptAll_sound (execute : S → σ → Except ε S) (refusal : ε) (statements : List σ) (held : t.Sound) :
    (attemptAll execute refusal statements t).Sound := by
  unfold attemptAll
  induction statements generalizing t with
  | nil => exact held
  | cons statement rest ih => exact ih (attempt_sound held statement)

section Errors

variable (execute : S → σ → Except ε S) (refusal : ε)

theorem attempt_errors (t : Attempts σ ε S) (statement : σ) :
    ∃ more, (attempt execute refusal t statement).errors = t.errors ++ more := by
  unfold attempt
  split
  · exact ⟨_, rfl⟩
  · split
    · exact ⟨[], (List.append_nil _).symm⟩
    · exact ⟨_, rfl⟩

theorem attemptAll_errors (statements : List σ) (t : Attempts σ ε S) :
    ∃ more, (attemptAll execute refusal statements t).errors = t.errors ++ more := by
  unfold attemptAll
  induction statements generalizing t with
  | nil => exact ⟨[], (List.append_nil _).symm⟩
  | cons statement rest ih =>
    obtain ⟨first, here⟩ := attempt_errors execute refusal t statement
    obtain ⟨more, later⟩ := ih (attempt execute refusal t statement)
    exact ⟨first ++ more, by rw [List.foldl_cons, later, here, List.append_assoc]⟩

end Errors

/-- A transaction without an error has done all statements, one on the state of the other. -/
theorem attemptAll_clean (going : t.aborted = false)
    (clean : (attemptAll execute refusal statements t).errors = []) :
    statements.foldlM execute t.state = .ok (attemptAll execute refusal statements t).state ∧
      (attemptAll execute refusal statements t).done = t.done ++ statements := by
  induction statements generalizing t with
  | nil => exact ⟨rfl, (List.append_nil _).symm⟩
  | cons statement rest ih =>
    have unfolded : attemptAll execute refusal (statement :: rest) t =
        attemptAll execute refusal rest (attempt execute refusal t statement) := rfl
    rw [unfolded] at clean ⊢
    cases executed : execute t.state statement with
    | error error =>
      have here : (attempt execute refusal t statement).errors = t.errors ++ [(statement, error)] := by
        simp [attempt, going, executed]
      obtain ⟨more, all⟩ := attemptAll_errors execute refusal rest (attempt execute refusal t statement)
      rw [clean, here] at all
      simp at all
    | ok state =>
      have here : attempt execute refusal t statement = { t with state, done := t.done ++ [statement] } := by
        simp [attempt, going, executed]
      rw [here] at clean ⊢
      obtain ⟨folded, done⟩ := ih (t := { t with state, done := t.done ++ [statement] }) going clean
      refine ⟨?_, ?_⟩
      · rw [List.foldlM_cons, executed]
        exact folded
      · rw [done, List.append_assoc]
        rfl

/-- Statements that can all be executed are done without an error. -/
theorem attemptAll_of_ok (going : t.aborted = false) (ok : statements.foldlM execute t.state = .ok after) :
    attemptAll execute refusal statements t = { t with state := after, done := t.done ++ statements } := by
  induction statements generalizing t with
  | nil =>
    cases ok
    simp [attemptAll]
  | cons statement rest ih =>
    rw [List.foldlM_cons] at ok
    cases executed : execute t.state statement with
    | error error =>
      rw [executed] at ok
      cases ok
    | ok state =>
      rw [executed] at ok
      have here : attempt execute refusal t statement = { t with state, done := t.done ++ [statement] } := by
        simp [attempt, going, executed]
      have later := ih (t := { t with state, done := t.done ++ [statement] }) going ok
      show attemptAll execute refusal rest (attempt execute refusal t statement) = _
      rw [here, later, List.append_assoc]
      rfl

end Transactions
