import DriverMicroServices.Transactions.Contract

/-! Runs judged by who makes each step. What a call may do can depend on what its
unlocked reads find, which the effects do not show; a move is an effect or such a read,
and a condition on moves may be asked of each call by its label. -/
namespace Transactions

variable {K L L' : Type} {Row : K → Type} {ε α β : Type}

/-- A step that depends on the committed rows, or changes them. -/
inductive Move (K : Type) where
  | observe
  | effect (effect : Effect K)
  deriving DecidableEq

def Program.move? : Program Row ε α → Option (Move K)
  | .observe _ => some .observe
  | program => program.effect?.map .effect

namespace Program

/-- Where its reads find rows that `sees` admits, every single-row statement of the
program keeps the promise. -/
def Recalls [DecidableEq K] (sees : Store Row → Prop) (promise : K → Store Row → Store Row → Prop) :
    Program Row ε α → Prop
  | .ret _ => True
  | .observe next => ∀ now, sees now → (next now).Recalls sees promise
  | .lock _ next => ∀ row, (next row).Recalls sees promise
  | .autosave k f next => (∀ now, promise k now (now.autosave k f)) ∧
      ∀ row, (next row).Recalls sees promise
  | .write _ _ next | .commit next | .rollback next | .log _ next => next.Recalls sees promise

variable [DecidableEq K] {sees : Store Row → Prop} {promise : K → Store Row → Store Row → Prop}

/-- Nothing needs to be recalled for an empty promise. -/
theorem recalls_trivially (keeps : ∀ k before after, promise k before after)
    (program : Program Row ε α) : program.Recalls sees promise := by
  induction program with
  | ret result => trivial
  | observe next ih => exact fun now _ => ih now
  | lock k next ih => exact ih
  | autosave k f next ih => exact ⟨fun now => keeps k now _, ih⟩
  | write k v next ih | commit next ih | rollback next ih | log line next ih => exact ih

theorem recalls_bind {program : Program Row ε α} {f : α → Program Row ε β}
    (first : program.Recalls sees promise) (rest : ∀ value, (f value).Recalls sees promise) :
    (program.bind f).Recalls sees promise := by
  unfold bind
  induction program with
  | ret result =>
    cases result with
    | ok value => exact rest value
    | error error => trivial
  | observe next ih => exact fun now seen => ih now (first now seen)
  | lock k next ih => exact fun row => ih row (first row)
  | autosave k f next ih => exact ⟨first.1, fun row => ih row (first.2 row)⟩
  | write k v next ih | commit next ih | rollback next ih | log line next ih => exact ih first

variable {d : Discipline L Row} {d' : Discipline L' Row} {label : L} {label' : L'}

/-- A contract may be read under another label, for which the same is promised. -/
theorem wp_relabel {post : Post Row ε α} (inv : ∀ store, d'.inv store → d.inv store)
    (rely : ∀ before after, d'.rely before after ↔ d.rely before after)
    (cond : ∀ effect store, d'.cond label' effect store → d.cond label effect store)
    (guar : ∀ effect before after, d.guar label effect before after → d'.guar label' effect before after)
    (program : Program Row ε α) (holds : program.wp d label post past st buf) :
    program.wp d' label' post past st buf := by
  induction program generalizing past st buf with
  | ret result => exact holds
  | observe next ih =>
    intro now kept before after
    exact ih now (holds now (inv _ kept) ((rely _ _).mp before) ((rely _ _).mp after))
  | lock k next ih =>
    intro now kept before after same
    exact ih _ (holds now (inv _ kept) ((rely _ _).mp before) ((rely _ _).mp after) same)
  | write k v next ih => exact ih holds
  | autosave k f next ih =>
    intro now kept before admitted
    obtain ⟨promised, rest⟩ := holds now (inv _ kept) ((rely _ _).mp before) (cond _ _ admitted)
    exact ⟨guar _ _ _ promised, fun after => ih _ (rest ((rely _ _).mp after))⟩
  | commit next ih =>
    intro kept before admitted
    obtain ⟨promised, rest⟩ := holds (inv _ kept) ((rely _ _).mp before) (cond _ _ admitted)
    exact ⟨guar _ _ _ promised, fun later after => ih (rest later ((rely _ _).mp after))⟩
  | rollback next ih => exact fun later after => ih (holds later ((rely _ _).mp after))
  | log line next ih =>
    intro now kept before after admitted
    exact ih (holds now (inv _ kept) ((rely _ _).mp before) ((rely _ _).mp after) (cond _ _ admitted))

end Program

namespace System

/-- The call that makes the step of an action. -/
def mover? (s : System L Row ε α) : Action L → Option L
  | .step t => (s.threads t).map Thread.label
  | _ => none

/-- That call and its move. -/
def move? (s : System L Row ε α) : Action L → Option (L × Move K)
  | .step t => (s.threads t).bind fun thread =>
      thread.program.move?.map fun move => (thread.label, move)
  | _ => none

theorem move_of_effect {s : System L Row ε α} (made : s.effect? action = some (label, effect)) :
    s.move? action = some (label, .effect effect) := by
  cases action with
  | step t =>
    obtain ⟨⟨_, program, _⟩, found, made⟩ := Option.bind_eq_some_iff.mp made
    simp only [move?, found, Option.bind_some]
    cases program <;> simp_all [Program.effect?, Program.move?]
  | _ => cases made

theorem mover_of_effect {s : System L Row ε α} (made : s.effect? action = some (label, effect)) :
    s.mover? action = some label := by
  cases action with
  | step t =>
    obtain ⟨thread, found, made⟩ := Option.bind_eq_some_iff.mp made
    obtain ⟨_, _, made⟩ := Option.map_eq_some_iff.mp made
    simp only [mover?, found, Option.map_some]
    exact congrArg some (congrArg Prod.fst made)
  | _ => cases made

variable [DecidableEq K]

/-- Every move of the run finds the store in a state the condition admits. -/
def AdmitsMoves (code : L → Program Row ε α) (cond : L → Move K → Store Row → Prop)
    (s : System L Row ε α) : List (Action L) → Prop
  | [] => True
  | action :: rest =>
    (∀ made ∈ s.move? action, cond made.1 made.2 s.store) ∧
      ∀ next ∈ s.act code action, next.AdmitsMoves code cond rest

instance decidableAdmitsMoves {code : L → Program Row ε α} {cond : L → Move K → Store Row → Prop}
    [∀ label move store, Decidable (cond label move store)] :
    ∀ (s : System L Row ε α) (actions : List (Action L)), Decidable (s.AdmitsMoves code cond actions)
  | _, [] => isTrue trivial
  | _, _ :: rest =>
    @instDecidableAnd _ _ (Option.decidableForallMem _)
      (@Option.decidableForallMem _ _ (fun next => decidableAdmitsMoves next rest) _)

/-- Every step of the run relates the rows before it to the rows after it, as it
must for the call that makes it. -/
def EveryStepOf (code : L → Program Row ε α) (allowed : L → Store Row → Store Row → Prop)
    (s : System L Row ε α) : List (Action L) → Prop
  | [] => True
  | action :: rest => ∀ next ∈ s.act code action,
      (∀ label ∈ s.mover? action, allowed label s.store next.store) ∧
        next.EveryStepOf code allowed rest

variable {code : L → Program Row ε α} {allowed : L → Store Row → Store Row → Prop}
  {sees : L → Store Row → Prop} {promise : L → K → Store Row → Store Row → Prop}

/-- Each call in progress still keeps its promise. -/
def Recalling (sees : L → Store Row → Prop) (promise : L → K → Store Row → Store Row → Prop)
    (s : System L Row ε α) : Prop :=
  ∀ t thread, s.threads t = some thread →
    thread.program.Recalls (sees thread.label) (promise thread.label)

theorem recalling_initial (store : Store Row) :
    ({ store } : System L Row ε α).Recalling sees promise :=
  fun _ _ absent => by simp at absent

private theorem recalling_put {s s' : System L Row ε α} {thread : Thread L Row ε α}
    (recalling : s.Recalling sees promise)
    (threads : s'.threads = Function.update s.threads t (some thread))
    (own : thread.program.Recalls (sees thread.label) (promise thread.label)) :
    s'.Recalling sees promise := by
  intro t' thread' found
  rw [threads] at found
  by_cases same : t' = t
  · subst same
    rw [Function.update_self, Option.some.injEq] at found
    exact found ▸ own
  · rw [Function.update_of_ne same] at found
    exact recalling t' thread' found

/-- One step of one call: it keeps recalling, and a single-row statement keeps its
promise. -/
private theorem recalling_advance {s s' : System L Row ε α} {thread : Thread L Row ε α}
    (recalling : s.Recalling sees promise) (found : s.threads t = some thread)
    (seen : thread.program.move? = some .observe → sees thread.label s.store)
    (ran : s.advance t thread = some s') :
    s'.Recalling sees promise ∧
      ∀ k, thread.program.effect? = some (.autosave k) → promise thread.label k s.store s'.store := by
  have own := recalling t thread found
  obtain ⟨base, thread', took, rfl⟩ := advances ran
  cases took with
  | observe => exact ⟨recalling_put recalling rfl (own s.store (seen rfl)), fun k made => by cases made⟩
  | lock => exact ⟨recalling_put recalling rfl (own _), fun k made => by cases made⟩
  | rollback | commit | log | write =>
    exact ⟨recalling_put recalling rfl own, fun k made => by cases made⟩
  | autosave =>
    refine ⟨recalling_put recalling rfl (own.2 _), fun k' made => ?_⟩
    cases made
    exact own.1 s.store

/-- One scheduling choice. -/
theorem recalling_act {s s' : System L Row ε α} (recalling : s.Recalling sees promise)
    (recalls : ∀ label, (code label).Recalls (sees label) (promise label))
    (seen : ∀ label, s.move? action = some (label, .observe) → sees label s.store)
    (ran : s.act code action = some s') :
    s'.Recalling sees promise ∧ ∀ label k, s.effect? action = some (label, .autosave k) →
      promise label k s.store s'.store := by
  cases action with
  | start t label =>
    simp only [act] at ran
    split at ran <;> cases ran
    exact ⟨recalling_put recalling rfl (recalls label), fun _ _ made => by cases made⟩
  | step t =>
    obtain ⟨thread, found, ran⟩ := Option.bind_eq_some_iff.mp ran
    simp only [move?, effect?, found, Option.bind_some, Option.map_eq_some_iff, Prod.mk.injEq]
      at seen ⊢
    obtain ⟨still, kept⟩ := recalling_advance recalling found
      (fun observes => seen _ ⟨_, observes, rfl, rfl⟩) ran
    refine ⟨still, ?_⟩
    rintro _ k ⟨_, made, rfl, rfl⟩
    exact kept k made
  | abort t =>
    obtain ⟨thread, _, rfl⟩ := Option.map_eq_some_iff.mp ran
    refine ⟨fun t' thread' found => ?_, fun _ _ made => by cases made⟩
    dsimp only at found
    by_cases same : t' = t
    · simp [same] at found
    · rw [Function.update_of_ne same] at found
      exact recalling t' thread' found

/-- The step rule: what every promised effect allows the call that makes it, each step
of each run allows. -/
theorem every_step_of {d : Discipline L Row} {result : L → Except ε α → Store Row → Prop}
    {cond : L → Move K → Store Row → Prop} {s : System L Row ε α}
    (sound : s.Sound d result) (recalling : s.Recalling sees promise)
    (meets : ∀ label, (code label).Meets d label (result label))
    (recalls : ∀ label, (code label).Recalls (sees label) (promise label))
    (reads : ∀ label store, cond label .observe store → sees label store)
    (effects : ∀ label effect store, cond label (.effect effect) store → d.cond label effect store)
    (still : ∀ label store, allowed label store store)
    (moves : ∀ label effect before after, d.inv before → cond label (.effect effect) before →
      d.guar label effect before after →
      (∀ k, effect = .autosave k → promise label k before after) → allowed label before after)
    (admitted : s.AdmitsMoves code cond actions) : s.EveryStepOf code allowed actions := by
  induction actions generalizing s with
  | nil => trivial
  | cons action rest ih =>
    intro next stepped
    have made (label effect) (shown : s.effect? action = some (label, effect)) :
        cond label (.effect effect) s.store := admitted.1 (label, .effect effect) (move_of_effect shown)
    obtain ⟨sound', _, changed⟩ :=
      sound_act sound meets (fun label effect shown => effects _ _ _ (made label effect shown)) stepped
    obtain ⟨recalling', kept⟩ := recalling_act recalling recalls
      (fun label observed => reads _ _ (admitted.1 (label, .observe) observed)) stepped
    refine ⟨fun label moved => ?_, ih sound' recalling' (admitted.2 next stepped)⟩
    rcases changed with same | ⟨label', effect, shown, promised⟩
    · rw [same]
      exact still _ _
    · have who : label' = label := Option.some.inj ((mover_of_effect shown).symm.trans moved)
      subst who
      refine moves _ effect _ _ sound.inv (made _ _ shown) promised ?_
      rintro k rfl
      exact kept _ k shown

theorem every_step_of_append {s middle : System L Row ε α} {first second : List (Action L)}
    (every : s.EveryStepOf code allowed (first ++ second)) (ran : s.run code first = some middle) :
    middle.EveryStepOf code allowed second := by
  induction first generalizing s with
  | nil =>
    cases ran
    exact every
  | cons action rest ih =>
    obtain ⟨next, stepped, ran⟩ := Option.bind_eq_some_iff.mp ran
    exact ih (every next stepped).2 ran

/-- A run has a step that is not allowed when one of the calls in question makes a step
that loses what they may not take away. -/
theorem every_step_of_broken {s : System L Row ε α} (who : L → Bool) (property : Store Row → Bool)
    (kept : ∀ label before after, who label = true → allowed label before after →
      property before = true → property after = true)
    (held : (s.run code first).map (fun s => ((s.mover? action).any who, property s.store)) =
      some (true, true))
    (lost : (s.run code (first ++ [action])).map (fun s => property s.store) = some false) :
    ¬ s.EveryStepOf code allowed (first ++ [action]) := by
  intro every
  obtain ⟨middle, toMiddle, before⟩ := Option.map_eq_some_iff.mp held
  obtain ⟨last, toLast, after⟩ := Option.map_eq_some_iff.mp lost
  rw [run_append, toMiddle, Option.bind_some] at toLast
  obtain ⟨last', stepped, ended⟩ := Option.bind_eq_some_iff.mp toLast
  have ended : last' = last := Option.some.inj ended
  subst ended
  obtain ⟨label, moved, asked⟩ := (Option.any_eq_true _ _).mp (Prod.mk.inj before).1
  have allows := ((every_step_of_append every toMiddle) last' stepped).1 label moved
  have still := kept label _ _ asked allows (Prod.mk.inj before).2
  rw [after] at still
  cases still

end System

end Transactions
