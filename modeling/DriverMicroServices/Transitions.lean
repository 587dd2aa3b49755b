import Mathlib.Data.List.Basic

/-! Machines given by a partial step function, and the rules for their runs: an
invariant that every admitted step keeps, and what may then be said of each step
that a run took. -/
namespace Transitions

variable {S A : Type}

/-- One step that a machine took. -/
structure Taken (S A : Type) where
  before : S
  action : A
  after : S

section Runs

variable (step : S → A → Option S)

/-- A run; there is none when some action is not possible. -/
def run (s : S) : List A → Option S
  | [] => some s
  | action :: rest => (step s action).bind fun next => run next rest

/-- The steps of a run, as far as it is possible. -/
def trace (s : S) : List A → List (Taken S A)
  | [] => []
  | action :: rest =>
    match step s action with
    | some next => ⟨s, action, next⟩ :: trace next rest
    | none => []

/-- Every action of the run finds a state that the condition admits. -/
def Admits (cond : S → A → Prop) (s : S) : List A → Prop
  | [] => True
  | action :: rest => cond s action ∧ ∀ next ∈ step s action, Admits cond next rest

instance decidableAdmits {cond : S → A → Prop} [∀ s action, Decidable (cond s action)] :
    ∀ (s : S) (actions : List A), Decidable (Admits step cond s actions)
  | _, [] => isTrue trivial
  | _, _ :: rest =>
    @instDecidableAnd _ _ _
      (@Option.decidableForallMem _ _ (fun next => decidableAdmits next rest) _)

end Runs

variable {step : S → A → Option S} {cond : S → A → Prop} {inv : S → Prop} {s s' : S}
  {actions : List A}

/-- What holds of every action may be made part of the condition. -/
theorem admits_and {scope : A → Prop} (admitted : Admits step cond s actions)
    (within : ∀ action ∈ actions, scope action) :
    Admits step (fun s action => cond s action ∧ scope action) s actions := by
  induction actions generalizing s with
  | nil => trivial
  | cons action rest ih =>
    refine ⟨⟨admitted.1, within action (by simp)⟩, fun next stepped => ?_⟩
    exact ih (admitted.2 next stepped) fun later member => within later (by simp [member])

/-- The invariant rule: what every admitted step keeps, a run keeps. -/
theorem run_inv (keeps : ∀ {s action s'}, inv s → cond s action → step s action = some s' → inv s')
    (start : inv s) (admitted : Admits step cond s actions) (ran : run step s actions = some s') :
    inv s' := by
  induction actions generalizing s with
  | nil =>
    cases ran
    exact start
  | cons action rest ih =>
    obtain ⟨next, stepped, ran⟩ := Option.bind_eq_some_iff.mp ran
    exact ih (keeps start admitted.1 stepped) (admitted.2 next stepped) ran

/-- The step rule: every step of a run starts in a state of the invariant. -/
theorem trace_inv (keeps : ∀ {s action s'}, inv s → cond s action → step s action = some s' → inv s')
    (start : inv s) (admitted : Admits step cond s actions) (taken : Taken S A)
    (member : taken ∈ trace step s actions) :
    inv taken.before ∧ cond taken.before taken.action ∧
      step taken.before taken.action = some taken.after := by
  induction actions generalizing s with
  | nil => cases member
  | cons action rest ih =>
    unfold trace at member
    split at member
    · rename_i next stepped
      rcases List.mem_cons.mp member with rfl | member
      · exact ⟨start, admitted.1, stepped⟩
      · exact ih (keeps start admitted.1 stepped) (admitted.2 next stepped) member
    · cases member

/-- Where nothing is asked of the actions, every run is admitted. -/
theorem admits_true : Admits step (fun _ _ => True) s actions := by
  induction actions generalizing s with
  | nil => trivial
  | cons action rest ih => exact ⟨trivial, fun _ _ => ih⟩

/-- The steps after a run are those from its end. -/
theorem trace_append {later : List A} (ran : run step s actions = some s') :
    trace step s (actions ++ later) = trace step s actions ++ trace step s' later := by
  induction actions generalizing s with
  | nil =>
    cases ran
    rfl
  | cons action rest ih =>
    obtain ⟨next, stepped, ran⟩ := Option.bind_eq_some_iff.mp ran
    simp only [List.cons_append, trace, stepped, ih ran]

/-- The exactness rule: where each step is good just when its condition holds, a run
is good just when it is admitted. -/
theorem trace_good_iff {good : Taken S A → Prop}
    (exact_here : ∀ {s action s'}, inv s → step s action = some s' →
      (good ⟨s, action, s'⟩ ↔ cond s action))
    (keeps : ∀ {s action s'}, inv s → cond s action → step s action = some s' → inv s')
    (start : inv s) (ran : run step s actions = some s') :
    (∀ taken ∈ trace step s actions, good taken) ↔ Admits step cond s actions := by
  induction actions generalizing s with
  | nil => simp [trace, Admits]
  | cons action rest ih =>
    obtain ⟨next, stepped, later⟩ := Option.bind_eq_some_iff.mp ran
    have here := exact_here start stepped
    simp only [trace, Admits, stepped, List.forall_mem_cons, Option.mem_def, Option.some.injEq,
      forall_eq', here]
    exact and_congr_right fun held => ih (keeps start held stepped) later

/-- The same for the steps that a list of actions can take. -/
theorem trace_exact {good : Taken S A → Prop}
    (exact_here : ∀ {s action s'}, inv s → step s action = some s' →
      (good ⟨s, action, s'⟩ ↔ cond s action))
    (keeps : ∀ {s action s'}, inv s → cond s action → step s action = some s' → inv s')
    (start : inv s) :
    (∀ taken ∈ trace step s actions, good taken) ↔
      ∀ taken ∈ trace step s actions, cond taken.before taken.action := by
  induction actions generalizing s with
  | nil => simp [trace]
  | cons action rest ih =>
    unfold trace
    split
    · rename_i next stepped
      simp only [List.forall_mem_cons, exact_here start stepped]
      exact and_congr_right fun held => ih (keeps start held stepped)
    · simp

/-- The dichotomy rule: a step that meets its condition keeps the invariant, a step
that does not breaks it for good. -/
theorem run_exact {broken : S → Prop}
    (keeps : ∀ {s action s'}, inv s → cond s action → step s action = some s' → inv s')
    (breaks : ∀ {s action s'}, inv s → ¬ cond s action → step s action = some s' → broken s')
    (stays : ∀ {s action s'}, broken s → step s action = some s' → broken s')
    (start : inv s) (ran : run step s actions = some s') :
    Admits step cond s actions ∧ inv s' ∨ ¬ Admits step cond s actions ∧ broken s' := by
  induction actions generalizing s with
  | nil =>
    cases ran
    exact .inl ⟨trivial, start⟩
  | cons action rest ih =>
    obtain ⟨next, stepped, later⟩ := Option.bind_eq_some_iff.mp ran
    by_cases here : cond s action
    · rcases ih (keeps start here stepped) later with ⟨admitted, held⟩ | ⟨other, lost⟩
      · refine .inl ⟨⟨here, fun following found => ?_⟩, held⟩
        rw [Option.mem_def.mp found] at stepped
        rwa [Option.some.inj stepped]
      · exact .inr ⟨fun admitted => other (admitted.2 next stepped), lost⟩
    · have lost := run_inv (fun held _ stepped => stays held stepped) (breaks start here stepped)
        admits_true later
      exact .inr ⟨fun admitted => here admitted.1, lost⟩

section Cuts

variable {earlier later : List (Taken S A)} {taken : Taken S A}

/-- What follows a step of a run is the run from there. -/
theorem trace_cut (admitted : Admits step cond s actions)
    (shape : trace step s actions = earlier ++ taken :: later) :
    step taken.before taken.action = some taken.after ∧ cond taken.before taken.action ∧
      ∃ rest, later = trace step taken.after rest ∧ Admits step cond taken.after rest := by
  induction actions generalizing s earlier with
  | nil =>
    have empty := congrArg List.length shape
    simp [trace] at empty
  | cons action rest ih =>
    unfold trace at shape
    split at shape
    · rename_i next stepped
      cases earlier with
      | nil =>
        obtain ⟨rfl, rfl⟩ := List.cons.inj shape
        exact ⟨stepped, admitted.1, rest, rfl, admitted.2 next stepped⟩
      | cons first earlier => exact ih (admitted.2 next stepped) (List.cons.inj shape).2
    · have empty := congrArg List.length shape
      simp at empty

/-- From each of its steps on, a run is a run. -/
theorem trace_rest (admitted : Admits step cond s actions) (ran : run step s actions = some s')
    (member : taken ∈ trace step s actions) :
    ∃ rest, run step taken.before rest = some s' ∧ Admits step cond taken.before rest := by
  induction actions generalizing s with
  | nil => cases member
  | cons action rest ih =>
    obtain ⟨next, stepped, later⟩ := Option.bind_eq_some_iff.mp ran
    simp only [trace, stepped] at member
    rcases List.mem_cons.mp member with rfl | member
    · exact ⟨action :: rest, ran, admitted⟩
    · exact ih (admitted.2 next stepped) later member

/-- The until rule: what every step keeps that does not break it holds up to the
first step that does. -/
theorem trace_until {breaks : Taken S A → Prop}
    (keeps : ∀ {s action s'}, inv s → cond s action → step s action = some s' →
      ¬ breaks ⟨s, action, s'⟩ → inv s')
    (start : inv s) (admitted : Admits step cond s actions)
    (shape : trace step s actions = earlier ++ taken :: later)
    (intact : ∀ before ∈ earlier, ¬ breaks before) : inv taken.before := by
  induction actions generalizing s earlier with
  | nil =>
    have empty := congrArg List.length shape
    simp [trace] at empty
  | cons action rest ih =>
    unfold trace at shape
    split at shape
    · rename_i next stepped
      cases earlier with
      | nil =>
        obtain ⟨rfl, -⟩ := List.cons.inj shape
        exact start
      | cons first earlier =>
        obtain ⟨rfl, following⟩ := List.cons.inj shape
        have kept := keeps start admitted.1 stepped (intact _ (by simp))
        exact ih kept (admitted.2 next stepped) following fun before member =>
          intact before (by simp [member])
    · have empty := congrArg List.length shape
      simp at empty

end Cuts

/-- Where a machine keeps its parties in a list: what the change of one party does to
a count over all of them. -/
theorem countP_set {party : Type} {parties : List party} {n : Nat} {before : party}
    (after : party) (test : party → Bool) (found : parties[n]? = some before) :
    (parties.set n after).countP test + (if test before then 1 else 0) =
      parties.countP test + if test after then 1 else 0 := by
  obtain ⟨bound, here⟩ := List.getElem?_eq_some_iff.mp found
  have counted := List.boole_getElem_le_countP (p := test) (l := parties) bound
  rw [List.countP_set bound]
  rw [here] at counted ⊢
  omega

/-- The counting rule: an invariant that counts along with the steps of a run. -/
theorem run_count {count : Nat → S → Prop} {counts : Taken S A → Bool} {n : Nat}
    (keeps : ∀ {n s action s'}, count n s → cond s action → step s action = some s' →
      count (n + if counts ⟨s, action, s'⟩ then 1 else 0) s')
    (start : count n s) (admitted : Admits step cond s actions)
    (ran : run step s actions = some s') : count (n + (trace step s actions).countP counts) s' := by
  induction actions generalizing s n with
  | nil =>
    cases ran
    exact start
  | cons action rest ih =>
    obtain ⟨next, stepped, ran⟩ := Option.bind_eq_some_iff.mp ran
    have later := ih (keeps start admitted.1 stepped) (admitted.2 next stepped) ran
    simp only [trace, stepped, List.countP_cons]
    rwa [Nat.add_assoc, Nat.add_comm _ ((trace step next rest).countP counts)] at later

/-- What a step makes true, and no later step undoes, no later step makes true
again: such a step is taken at most once. -/
theorem trace_once (made : S → Bool) (makes : Taken S A → Bool)
    (keeps : ∀ {s action s'}, inv s → cond s action → step s action = some s' → inv s')
    (stays : ∀ {s action s'}, inv s → cond s action → step s action = some s' → made s = true →
      made s' = true)
    (fresh : ∀ taken, makes taken = true → made taken.before = false ∧ made taken.after = true)
    (start : inv s) (admitted : Admits step cond s actions) :
    (trace step s actions).countP makes ≤ if made s then 0 else 1 := by
  induction actions generalizing s with
  | nil => simp [trace]
  | cons action rest ih =>
    unfold trace
    split
    · rename_i next stepped
      have later := ih (keeps start admitted.1 stepped) (admitted.2 next stepped)
      have still := stays start admitted.1 stepped
      have here := fresh ⟨s, action, next⟩
      rw [List.countP_cons]
      cases making : makes ⟨s, action, next⟩ with
      | true =>
        obtain ⟨before, after⟩ := here making
        simp only [before, after, Bool.false_eq_true, if_true, if_false] at later ⊢
        omega
      | false =>
        cases held : made s with
        | true =>
          simp only [still held, if_true] at later
          simpa using later
        | false =>
          have bound : (if made next = true then 0 else 1) ≤ 1 := by split <;> omega
          simpa using Nat.le_trans later bound
    · simp

end Transitions
