import DriverMicroServices.DispatchConfigs
import DriverMicroServices.IdempotentFallback
import DriverMicroServices.Transactions.Outputs

/-! The kill switch of the scoring dispatch, `scoringEnabled` in the rollout
settings. `isScoringEnabled` reads it, and no dispatch asks: a delivery is
dispatched by its score just when its bucket is below the percentage. -/
namespace DriverMicroServices
open Transactions Program

variable {deliveryId decisionId : Uuid} {amb : DispatchAmbient} {fallback : Fallback ρ}

/-- New decisions are legacy ones, and so is each version of the decision itself. -/
def WritesLegacy (decisionId : Uuid) : (k : Key) → Option (Row k) → Row k → Prop
  | .dispatchDecision id, old, decision =>
    old = none ∨ id = decisionId → decision.dispatchMethod = .legacy
  | _, _, _ => True

/-- The decision, if it is there, is a legacy one. -/
def SeesLegacy (decisionId : Uuid) (db : Db) : Prop :=
  ∀ decision, db.decision decisionId = some decision → decision.dispatchMethod = .legacy

/-- An answer of the fallback. -/
def AnswersLegacy (result : Except Exception (DispatchResult ρ)) : Prop :=
  ∀ answer, result = .ok answer → answer.method = "LEGACY"

/-- A dispatch is a legacy one: it records a legacy decision and no other, its answer
is that of the fallback, and the scores have no part in it. -/
structure LegacyOnly (amb : DispatchAmbient) (deliveryId : Uuid) (fallback : Fallback ρ) : Prop where
  outputs : (executeSafeDispatch amb deliveryId fallback.run).Outputs
    (SeesLegacy amb.decisionId) (WritesLegacy amb.decisionId) AnswersLegacy
  records : ∀ store answer left,
    (executeSafeDispatch amb deliveryId fallback.run).exec { store } = some (.ok answer, left) →
      ∃ decision, Db.decision left.store amb.decisionId = some decision ∧
        decision.dispatchMethod = .legacy
  unscored : ∀ eligibleDrivers,
    executeSafeDispatch { amb with eligibleDrivers } deliveryId fallback.run =
      executeSafeDispatch amb deliveryId fallback.run

/-! ## The pieces of a dispatch -/

section Pieces

variable {observed : Db → Prop} {wrote : (k : Key) → Option (Row k) → Row k → Prop}

theorem attempt_outputs {ends : Except Exception α → Prop} {step : Call α} (fault : Fault)
    (outputs : step.Outputs observed wrote ends) (throws : ∀ error, ends (.error error)) :
    (attempt fault step).Outputs observed wrote ends := by
  cases fault with
  | none => exact outputs
  | before message => exact throws _
  | after message => exact outputs_onRet _ outputs fun result _ => by cases result <;> exact throws _

theorem insert_outputs {k : Key} {row : Row k} (here : ∀ old, wrote k old row) :
    (DriverMicroServices.insert k row).Outputs observed wrote fun _ => True := by
  intro found
  cases found with
  | some row => trivial
  | none => exact ⟨here, trivial⟩

private theorem lockDecisions_outputs (ids : List Uuid) :
    (lockDecisions deliveryId ids).Outputs observed wrote fun _ => True := by
  induction ids with
  | nil => trivial
  | cons id rest ih => exact fun row => outputs_onRet _ ih fun result _ => by cases result <;> trivial

private theorem updateDispatchDecision_outputs (id : Uuid) {updates : DecisionUpdates}
    (legacy : ∀ method, updates.dispatchMethod = some method → method = .legacy) :
    (updateDispatchDecision id updates).Outputs (SeesLegacy decisionId) (WritesLegacy decisionId)
      fun _ => True := by
  intro seen sees
  cases held : Db.decision seen id with
  | none => simp [onRet, held, Outputs]
  | some decision =>
    simp only [onRet, held, Outputs, implies_true, and_true]
    intro old row member same
    obtain ⟨before, found, rfl⟩ := Option.map_eq_some_iff.mp (Option.mem_def.mp member)
    rcases same with absent | rfl
    · rw [absent] at found
      cases found
    · cases given : updates.dispatchMethod with
      | none =>
        simp only [DispatchDecision.assign, given, Option.getD_none]
        exact sees decision held
      | some method => simp [DispatchDecision.assign, given, legacy method given]

/-- An update of a decision whose answer is not looked at. -/
theorem update_outputs (fault : Fault) (id : Uuid) {updates : DecisionUpdates}
    (legacy : ∀ method, updates.dispatchMethod = some method → method = .legacy) :
    (discard (attempt fault (updateDispatchDecision id updates))).Outputs (SeesLegacy decisionId)
      (WritesLegacy decisionId) fun _ => True :=
  outputs_bind (attempt_outputs _ (updateDispatchDecision_outputs id legacy) fun _ => trivial)
    (fun _ => trivial) fun _ => trivial

private theorem claimFallback_outputs (amb : FallbackAmbient) (deliveryId : Uuid) :
    (claimFallback amb deliveryId).Outputs observed (WritesLegacy decisionId) fun _ => True := by
  refine outputs_transaction (outputs_bind (fun _ _ => trivial) (fun _ => trivial) fun ids => ?_)
  refine outputs_bind (lockDecisions_outputs ids) (fun _ => trivial) fun locked => ?_
  dsimp only
  split
  · trivial
  · split
    · trivial
    · exact outputs_bind (insert_outputs fun _ _ => rfl) (fun _ => trivial) fun _ => trivial

private theorem fallback_outputs (fallback : Fallback ρ) (amb : FallbackAmbient) :
    (fallback.run amb).Outputs observed (WritesLegacy decisionId) fun _ => True := by
  refine outputs_of_touches (fallback.touches amb) fun k old v elsewhere => ?_
  cases k with
  | dispatchDecision id => exact absurd rfl (elsewhere id)
  | _ => trivial

theorem executeIdempotentFallback_outputs (amb : FallbackAmbient) (deliveryId : Uuid)
    (reason : String) (fallback : Fallback ρ) :
    (executeIdempotentFallback amb deliveryId reason fallback.run).Outputs (SeesLegacy decisionId)
      (WritesLegacy decisionId) AnswersLegacy := by
  refine outputs_bind (attempt_outputs _ (claimFallback_outputs amb deliveryId) fun _ => trivial)
    (fun _ _ failed => by cases failed) fun claim => ?_
  cases claim with
  | alreadyExecuted =>
    rintro _ ⟨⟩
    rfl
  | inProgress =>
    rintro _ ⟨⟩
    rfl
  | claimed claimId =>
    refine outputs_onRet AnswersLegacy ?_ fun result legacy => ?_
    · refine outputs_bind (fallback_outputs fallback amb) (fun _ _ failed => by cases failed)
        fun result => ?_
      refine outputs_bind (update_outputs _ claimId (by simp)) (fun _ _ failed => by cases failed)
        fun _ => ?_
      rintro _ ⟨⟩
      rfl
    · cases result with
      | ok answer => exact legacy
      | error error =>
        exact outputs_bind (update_outputs _ claimId (by simp)) (fun _ _ failed => by cases failed)
          fun _ _ failed => by cases failed

end Pieces

/-- A dispatch of the control cohort is a legacy one. -/
theorem control_outputs
    (control : assignToCohort amb.rolloutPercentage (codeUnits deliveryId) = .control) :
    (executeSafeDispatch amb deliveryId fallback.run).Outputs (SeesLegacy amb.decisionId)
      (WritesLegacy amb.decisionId) AnswersLegacy := by
  unfold executeSafeDispatch
  rw [control]
  refine outputs_bind (attempt_outputs _ ?_ fun _ => trivial) (fun _ _ failed => by cases failed)
    fun _ => ?_
  · exact outputs_transaction (insert_outputs fun _ _ => rfl)
  · refine outputs_onRet AnswersLegacy ?_ fun result legacy => ?_
    · unfold dispatchCohort
      rw [if_neg (by decide)]
      refine outputs_onRet _ (executeIdempotentFallback_outputs ..) fun result legacy => ?_
      cases result with
      | error error => exact legacy
      | ok answer =>
        refine outputs_bind (update_outputs _ _ ?_) (fun _ _ failed => by cases failed) fun _ => ?_
        · rintro _ ⟨⟩
          rfl
        · exact legacy
    · cases result with
      | ok answer => exact legacy
      | error error =>
        dsimp only
        split
        · exact legacy
        · refine outputs_bind (update_outputs _ _ (by simp)) (fun _ _ failed => by cases failed)
            fun _ => ?_
          exact executeIdempotentFallback_outputs ..

/-- The decision that a dispatch records. -/
def newDecision (deliveryId : Uuid) (cohort : DispatchCohort) : DispatchDecision where
  deliveryId := deliveryId
  cohort := cohort
  dispatchMethod := if cohort = .scoring then .scoringBased else .legacy
  dispatchStatus := .pending

/-- What recording a decision leaves in a store that it has to itself. -/
theorem createDecision_exec {cohort : DispatchCohort} {store : Db} {left : Session Row}
    (ran : (attempt fault (createDecision amb deliveryId cohort)).exec { store } =
      some (.ok (), left)) :
    store.decision amb.decisionId = none ∧
      Db.decision left.store amb.decisionId = some (newDecision deliveryId cohort) := by
  cases fault with
  | before message => cases ran
  | after message =>
    obtain ⟨⟨result, session⟩, -, ended⟩ := Option.bind_eq_some_iff.mp ((exec_onRet ..).symm.trans ran)
    cases result <;> cases ended
  | none =>
    rw [attempt, createDecision, exec_transaction] at ran
    simp only [DriverMicroServices.insert, exec, Session.view, Store.apply_nil] at ran
    cases held : store.row (.dispatchDecision amb.decisionId) with
    | some row =>
      simp only [held, exec] at ran
      cases ran
    | none =>
      simp only [held, exec, List.mem_cons_self, if_true] at ran
      cases ran
      exact ⟨held, Store.set_row_self ..⟩

private theorem control_records
    (control : assignToCohort amb.rolloutPercentage (codeUnits deliveryId) = .control) {store : Db}
    {answer : DispatchResult ρ} {left : Session Row}
    (ran : (executeSafeDispatch amb deliveryId fallback.run).exec { store } =
      some (.ok answer, left)) :
    ∃ decision, Db.decision left.store amb.decisionId = some decision ∧
      decision.dispatchMethod = .legacy := by
  obtain ⟨⟨first, session⟩, created, rest⟩ :=
    Option.bind_eq_some_iff.mp ((exec_onRet ..).symm.trans ran)
  cases first with
  | error error => cases rest
  | ok _ =>
    obtain ⟨absent, recorded⟩ := createDecision_exec created
    have present := exec_isSome rest (k := .dispatchDecision amb.decisionId)
      (by rw [show session.store.row _ = _ from recorded]; rfl)
    obtain ⟨decision, held⟩ := Option.isSome_iff_exists.mp present
    refine ⟨decision, held, ?_⟩
    have sees : SeesLegacy amb.decisionId store := by
      intro decision found
      rw [absent] at found
      cases found
    have kept := exec_outputs (SeesLegacy amb.decisionId) (control_outputs control)
      (fun _ seen => seen) ?_ sees (by simp) ran
    · exact kept.2 decision held
    · intro s k row seen wrote decision found
      cases k with
      | dispatchDecision id =>
        by_cases same : id = amb.decisionId
        · subst same
          rw [Db.decision, Store.set_row_self] at found
          cases found
          exact wrote (.inr rfl)
        · rw [Db.decision, Store.set_row_ne _ _ (by simpa using Ne.symm same)] at found
          exact seen decision found
      | _ =>
        rw [Db.decision, Store.set_row_ne _ _ (by simp)] at found
        exact seen decision found

private theorem control_legacy (amb : DispatchAmbient) (deliveryId : Uuid) (fallback : Fallback ρ)
    (control : assignToCohort amb.rolloutPercentage (codeUnits deliveryId) = .control) :
    LegacyOnly amb deliveryId fallback where
  outputs := control_outputs control
  records := fun store answer left ran => control_records control ran
  unscored := by
    intro eligibleDrivers
    unfold executeSafeDispatch
    simp only [control]
    rfl

/-- A dispatch of the scoring cohort that can store anything records another decision. -/
theorem scoring_not_legacy (reached : amb.decisionFault = .none)
    (scoring : assignToCohort amb.rolloutPercentage (codeUnits deliveryId) = .scoring) :
    ¬ LegacyOnly amb deliveryId fallback := by
  intro legacy
  have outputs := legacy.outputs
  unfold executeSafeDispatch at outputs
  simp only [scoring, reached, attempt] at outputs
  have method := (outputs none).1 none (.inl rfl)
  cases method

/-- What a dispatch reads of the settings. -/
def ConfigHistory.rolloutSettings (s : ConfigHistory) (scan : List Nat) : RolloutSettings :=
  (DispatchConfigService.getConfig s.configs scan .rolloutSettings).toRolloutSettings

/-- The kill switch: whatever calls have set the rollout settings, while they say that
scoring is not enabled the dispatches of a delivery are legacy ones just when its
bucket is at or above the percentage. -/
theorem kill_switch (deliveryId : Uuid) (fallback : Fallback ρ) (configs : Configs)
    (actions : List (ConfigCall × List Nat)) (s : ConfigHistory) (scan : List Nat) :
    Transitions.run ConfigHistory.step { configs } actions = some s → scan.Perm s.configs.ids →
      (s.rolloutSettings scan).scoringEnabled = some false →
      ((∀ amb : DispatchAmbient,
          amb.rolloutPercentage = getRolloutPercentage (.ok (some (s.rolloutSettings scan))) →
            LegacyOnly amb deliveryId fallback) ↔
        getRolloutPercentage (.ok (some (s.rolloutSettings scan))) ≤
          (hashString (codeUnits deliveryId) % 100 : Nat)) := by
  intro _ _ _
  constructor
  · intro legacy
    by_contra below
    have scoring := (scoring_iff (getRolloutPercentage (.ok (some (s.rolloutSettings scan))))
      (codeUnits deliveryId)).mpr (not_le.mp below)
    refine scoring_not_legacy ?_ scoring (legacy { controlled 0 with rolloutPercentage := _ } rfl)
    rfl
  · intro above amb percentage
    refine control_legacy amb deliveryId fallback (control_of_not_scoring _ _ ?_)
    rw [ne_eq, scoring_iff, percentage, not_lt]
    exact above

/-- The switch is thrown, and a percentage is set that leaves the delivery out. -/
def tenPercent : List (ConfigCall × List Nat) :=
  [(.updateRolloutSettings { scoringEnabled := some false, rolloutPercentage := some 10 }, [])]

theorem kill_switch_ten :
    (Transitions.run ConfigHistory.step {} tenPercent).isSome ∧
      ∀ s, Transitions.run ConfigHistory.step {} tenPercent = some s → ∀ amb : DispatchAmbient,
        amb.rolloutPercentage = getRolloutPercentage (.ok (some (s.rolloutSettings [0]))) →
          LegacyOnly amb "D1" (legacyFallback "D1") := by
  refine ⟨by decide, fun s ran => ?_⟩
  have settled : (Transitions.run ConfigHistory.step {} tenPercent).map (fun s =>
      (s.configs.ids, s.rolloutSettings [0])) =
      some ([0], { scoringEnabled := some false, rolloutPercentage := some 10
                   abTestGroups := some (50, 50) }) := by
    decide +kernel
  rw [ran, Option.map_some, Option.some.injEq, Prod.mk.injEq] at settled
  obtain ⟨ids, settings⟩ := settled
  have exact_when := kill_switch "D1" (legacyFallback "D1") (Tables.Table.ofList []) tenPercent s [0] ran
  refine (exact_when ?_ ?_).mpr ?_
  · rw [ids]
  · rw [settings]
  · rw [settings]
    have bucket : hashString (codeUnits "D1") % 100 = 57 := by decide +kernel
    rw [bucket]
    exact Nat.cast_le.mpr (by decide : 10 ≤ 57)

/-- The switch is thrown while the percentage still says everyone. -/
def fullRollout : List (ConfigCall × List Nat) :=
  [(.updateRolloutSettings { scoringEnabled := some true, rolloutPercentage := some 100 }, []),
   (.updateRolloutSettings { scoringEnabled := some false }, [0])]

theorem kill_switch_ignored :
    ((Transitions.run ConfigHistory.step {} fullRollout).map fun s =>
      ((s.rolloutSettings [0, 1]).scoringEnabled,
        ((executeSafeDispatch
          { controlled 0 with
            rolloutPercentage := getRolloutPercentage (.ok (some (s.rolloutSettings [0, 1])))
            eligibleDrivers := [⟨"x", 80⟩] }
          "D1" (legacyFallback "D1").run).exec { store := Sample.shop }).map fun ended =>
            (ended.1.toOption.map (·.method),
              (Db.decision ended.2.store "decision0").map (·.dispatchMethod)))) =
      some (some false, some (some "SCORING_BASED", some .scoringBased)) := by
  decide +kernel

end DriverMicroServices
