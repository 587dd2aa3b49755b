import DriverMicroServices.MigrationRuns

/-! What the record of a migration says of it: the hash of its simulation, the error it was failed
with, and whether it may be executed. Each of the three is written and read in different places. -/
namespace DriverMicroServices.SchemaEngine
open Tables.Keyed MigrationStateMachine MigrationStateRuntime ExecutionPlanner Watched

/-- The records tell what has happened to the migrations. -/
structure Trustworthy (w : Watched) : Prop where
  simulated : ∀ id record, get w.records id = some record →
    (get record.metadata "simulationHash").isSome → .SIMULATED ∈ w.passed id
  failed : ∀ id record, get w.records id = some record →
    record.state = .FAILED ∨ record.state = .ROLLED_BACK → record.error = w.failedWith id

/-- What passes the guard may be executed. -/
def GuardsExecution (records : MigrationRecords) (call : Call) : Prop :=
  ∀ id, call = .guardExecution id → MigrationStateGuard.guardExecution id records = .ok () →
    ∀ now checksum error, ∃ record, (updateState now id .EXECUTING checksum error records).1 = .ok record

/-- The calls that keep the records true, by the records before them. -/
def Careful (records : MigrationRecords) : Call → Prop
  | .updateState id .ROLLED_BACK _ error =>
    ∀ record, get records id = some record → record.state = .FAILED → error = record.error
  | .rollbackState id _ => ∀ record, get records id = some record → record.state ≠ .EXECUTING
  | .simulateExecution plan id =>
    ∀ order, Passes plan order → ∀ record, get records id = some record → record.state ≠ .PLANNED
  | .guardExecution id => ∀ record, get records id = some record → record.state ≠ .APPROVED
  | _ => True

variable {w : Watched} {id : String} {now : Int} {record : MigrationStateRecord}

/-- The states behind the simulation are those after two more. -/
theorem simulated_iff (state : MigrationState) :
    MigrationState.SIMULATED ∈ lifecycle state ↔ state ≠ .PLANNED ∧ state ≠ .VALIDATED := by
  cases state <;> simp [lifecycle]

private theorem guarded_iff (records : MigrationRecords) (id : String) :
    GuardsExecution records (.guardExecution id) ↔ Careful records (.guardExecution id) := by
  constructor
  · intro guards record found approved
    have passes : MigrationStateGuard.guardExecution id records = .ok () := by
      simp [MigrationStateGuard.guardExecution, MigrationStateGuard.guardState, found, approved, canExecute]
    obtain ⟨after, executed⟩ := guards id rfl passes 0 none none
    rcases updateState_cases 0 id .EXECUTING none none records with
      ⟨same, found', allowed, -⟩ | ⟨-, message, result⟩
    · rw [found] at found'
      cases found'
      simp [approved, transitions] at allowed
    · rw [result] at executed
      cases executed
  · rintro careful _ ⟨⟩ passes
    unfold MigrationStateGuard.guardExecution MigrationStateGuard.guardState at passes
    cases found : get records id with
    | none =>
      rw [found] at passes
      cases passes
    | some record =>
      have other := careful record found
      simp [found, canExecute, other] at passes

private theorem trustworthy_create (trusted : Trustworthy w) (planHash : Option String) :
    Trustworthy (w.create now id planHash) where
  simulated := by
    intro other later held hash
    rcases get_put_cases held with ⟨rfl, rfl⟩ | ⟨apart, held⟩
    · simp at hash
    · simpa [Watched.create, observe, apart] using trusted.simulated other later held hash
  failed := by
    intro other later held state
    rcases get_put_cases held with ⟨rfl, rfl⟩ | ⟨apart, held⟩
    · simp at state
    · simpa [Watched.create, observe, apart] using trusted.failed other later held state

/-- Another state, with what it does to the error of a record that has failed. -/
theorem trustworthy_take (trusted : Trustworthy w) {newState : MigrationState} {checksum error : Option String}
    (found : get w.records id = some record) (allowed : newState ∈ transitions record.state) :
    Trustworthy (w.take now id newState checksum error record) ↔
      (newState = .ROLLED_BACK → error = record.error) := by
  have known : newState = .ROLLED_BACK → record.state = .FAILED := by
    rintro rfl
    revert allowed
    cases record.state <;> simp [transitions]
  constructor
  · rintro after rfl
    have kept := after.failed id _ get_put_self (.inr rfl)
    have before := trusted.failed id record found (.inl (known rfl))
    simpa [moved, take, observe, before] using kept
  · intro same
    constructor
    · intro other later held hash
      rcases get_put_cases held with ⟨rfl, rfl⟩ | ⟨apart, held⟩
      · have passed := trusted.simulated _ record found hash
        simp [take, observe, passed]
      · simpa [take, observe, apart] using trusted.simulated other later held hash
    · intro other later held state
      rcases get_put_cases held with ⟨rfl, rfl⟩ | ⟨apart, held⟩
      · rcases state with failed | back
        · have failed : newState = .FAILED := failed
          simp [take, observe, moved, failed]
        · have back : newState = .ROLLED_BACK := back
          have before := trusted.failed _ record found (.inl (known back))
          simp [take, observe, moved, back, same back, before]
      · have before := trusted.failed other later held state
        by_cases fails : newState = .FAILED
        · simpa [take, observe, fails, apart] using before
        · simpa [take, observe, fails] using before

private theorem get_hash (value : String) (record : MigrationStateRecord) :
    (get (hashed value record).metadata "simulationHash").isSome := by
  simp [hashed]

/-- The hash of a simulation on a record that has not taken the state, or already has. -/
theorem trustworthy_mark (good : Good w) (trusted : Trustworthy w) (value : String)
    (found : get w.records id = some record) (other : record.state ≠ .VALIDATED) :
    Trustworthy (w.mark value id record) ↔ record.state ≠ .PLANNED := by
  have passed : MigrationState.SIMULATED ∈ w.passed id ↔ record.state ≠ .PLANNED := by
    rw [good.passed id record found, simulated_iff]
    simp [other]
  rw [← passed]
  constructor
  · exact fun after => after.simulated id _ (get_mark w value record) (get_hash value record)
  · intro simulated
    constructor
    · intro name later held hash
      rcases get_put_cases held with ⟨rfl, rfl⟩ | ⟨-, held⟩
      · exact simulated
      · exact trusted.simulated name later held hash
    · intro name later held state
      rcases get_put_cases held with ⟨rfl, rfl⟩ | ⟨-, held⟩
      · exact trusted.failed _ record found state
      · exact trusted.failed name later held state

private theorem trustworthy_simulate (trusted : Trustworthy w) (value : String) (found : get w.records id = some record) :
    Trustworthy ((w.mark value id record).take now id .SIMULATED none none (hashed value record)) where
  simulated := by
    intro other later held hash
    rcases get_put_cases held with ⟨rfl, rfl⟩ | ⟨apart, held⟩
    · simp [take, observe]
    · rcases get_put_cases held with ⟨same, -⟩ | ⟨-, held⟩
      · exact absurd same apart
      · simpa [take, observe, mark, apart] using trusted.simulated other later held hash
  failed := by
    intro other later held state
    rcases get_put_cases held with ⟨rfl, rfl⟩ | ⟨apart, held⟩
    · simp [moved] at state
    · rcases get_put_cases held with ⟨same, -⟩ | ⟨-, held⟩
      · exact absurd same apart
      · simpa [take, observe, mark] using trusted.failed other later held state

private theorem trustworthy_clean (good : Good w) (trusted : Trustworthy w) (cutoff : Option Int) :
    Trustworthy (w.clean cutoff) where
  simulated := fun id record found => trusted.simulated id record ((get_clean good.distinct).mp found).1
  failed := fun id record found => trusted.failed id record ((get_clean good.distinct).mp found).1

/-- A rollback forgets the error that it has just written. -/
theorem not_trustworthy_rollback (trusted : Trustworthy w) (error : String)
    (found : get w.records id = some record) (executing : record.state = .EXECUTING) :
    ¬ Trustworthy ((w.take now id .FAILED none (some error) record).take now id .ROLLED_BACK none none
      (moved now .FAILED none (some error) record)) := by
  have failed : Trustworthy (w.take now id .FAILED none (some error) record) :=
    (trustworthy_take trusted found (by simp [executing, transitions])).mpr nofun
  rw [trustworthy_take failed get_put_self (.head _)]
  exact fun same => by simpa [moved] using same rfl

theorem careful_update (records : MigrationRecords) (id : String) (newState : MigrationState)
    (checksum error : Option String) :
    Careful records (.updateState id newState checksum error) ↔
      (newState = .ROLLED_BACK →
        ∀ record, get records id = some record → record.state = .FAILED → error = record.error) := by
  cases newState <;> simp [Careful]

theorem guards_other {records : MigrationRecords} {call : Call} (other : ∀ id, call ≠ .guardExecution id) :
    GuardsExecution records call := fun id same => absurd same (other id)

/-- A call keeps the records true just where it is careful. -/
theorem step_trustworthy (hash : SimulationHash) (good : Good w) (trusted : Trustworthy w) (call : Int × Call) :
    Trustworthy (step hash w call) ∧ GuardsExecution w.records call.2 ↔ Careful w.records call.2 := by
  have does := step_does hash w call
  revert does
  generalize step hash w call = w'
  obtain ⟨-, call⟩ := call
  intro does
  cases does with
  | create now id planHash =>
    simpa [Careful, GuardsExecution] using trustworthy_create trusted planHash
  | take now id newState checksum error record found allowed =>
    have known : newState = .ROLLED_BACK → record.state = .FAILED := by
      rintro rfl
      revert allowed
      cases record.state <;> simp [transitions]
    rw [trustworthy_take trusted found allowed, careful_update]
    simp only [found, Option.some.injEq, forall_eq', GuardsExecution, reduceCtorEq, false_implies,
      implies_true, and_true]
    exact forall_congr' fun back => by simp [known back]
  | rollback now id error record found executing =>
    refine ⟨fun after => absurd after.1 (not_trustworthy_rollback trusted error found executing), ?_⟩
    exact fun careful => absurd executing (careful record found)
  | simulate now plan id value record order passes found validated =>
    refine ⟨fun _ _ _ other held => ?_, fun _ => ⟨trustworthy_simulate trusted value found, guards_other (by simp)⟩⟩
    rw [found] at held
    cases held
    simp [validated]
  | mark plan id value record order passes found other =>
    rw [trustworthy_mark good trusted value found other]
    constructor
    · rintro ⟨planned, -⟩ _ _ same held
      rw [found] at held
      cases held
      exact planned
    · exact fun careful => ⟨careful order passes record found, guards_other (by simp)⟩
  | clean cutoff => simpa [Careful, GuardsExecution] using trustworthy_clean good trusted cutoff
  | nothing _ creates refused idle unread =>
    rw [and_iff_right trusted]
    cases call with
    | guardExecution id => exact guarded_iff w.records id
    | updateState id newState checksum error =>
      refine iff_of_true (guards_other (by simp)) ((careful_update ..).mpr ?_)
      rintro rfl record found failed
      exact absurd (by simp [failed, transitions]) (refused id .ROLLED_BACK checksum error rfl record found)
    | rollbackState id error => exact iff_of_true (guards_other (by simp)) (idle id error rfl)
    | simulateExecution plan id =>
      refine iff_of_true (guards_other (by simp)) fun order passes record found => ?_
      rw [unread plan id rfl order passes] at found
      cases found
    | createMigration id planHash => exact absurd rfl (creates id planHash)
    | cleanup | getState | guardSimulation | guardApproval | validatePlanConsistency =>
      exact iff_of_true (guards_other (by simp)) trivial

/-- The records are true after each call of a run, and each migration that passes the guard may be
executed, just where every call of the run is careful. -/
theorem evidence_iff_careful (hash : SimulationHash) (calls : List (Int × Call)) :
    (∀ before call after, calls = before ++ call :: after →
      Trustworthy (run hash (before ++ [call])) ∧ GuardsExecution (run hash before).records call.2) ↔
    ∀ before call after, calls = before ++ call :: after → Careful (run hash before).records call.2 := by
  have initial : Trustworthy (run hash []) := ⟨by simp [run], by simp [run]⟩
  have next (before : List (Int × Call)) (call : Int × Call) (trusted : Trustworthy (run hash before)) :
      Trustworthy (run hash (before ++ [call])) ∧ GuardsExecution (run hash before).records call.2 ↔
        Careful (run hash before).records call.2 := by
    have stepped : run hash (before ++ [call]) = step hash (run hash before) call := by
      simp [run, List.foldl_append]
    rw [stepped]
    exact step_trustworthy hash (good_run hash before) trusted call
  constructor
  · intro holds before call after split
    refine (next before call ?_).mp (holds before call after split)
    rcases List.eq_nil_or_concat before with rfl | ⟨earlier, last, rfl⟩
    · exact initial
    · rw [List.concat_eq_append]
      exact (holds earlier last (call :: after) (by simp [split])).1
  · intro careful before call after split
    refine (next before call ?_).mpr (careful before call after split)
    induction before using List.reverseRecOn generalizing call after with
    | nil => exact initial
    | append_singleton earlier last ih =>
      have split' : calls = earlier ++ last :: call :: after := by simp [split]
      exact ((next earlier last (ih last _ split')).mpr (careful earlier last _ split')).1

/-- A migration that takes states one after the other. -/
def onItsWay (states : List MigrationState) : List (Int × Call) :=
  (0, .createMigration "m" none) :: states.map fun state => (0, .updateState "m" state none none)

/-- A plan without operations passes the simulation. -/
def emptyPlan : MigrationExecutionPlan := buildFromPhases [] []

/-- A planned migration has the hash of a simulation, one that was rolled back has lost its error,
and an approved one passes the guard and may not be executed. -/
theorem records_mislead :
    ((get (run (fun _ _ => "5feceb66") (onItsWay [] ++ [(0, .simulateExecution emptyPlan "m")])).records "m").map
      fun record => (record.state, record.metadata)) = some (.PLANNED, [("simulationHash", "5feceb66")]) ∧
    ((get (run (fun _ _ => "") (onItsWay [.VALIDATED, .SIMULATED, .APPROVED, .REPLAYED, .EXECUTING] ++
      [(0, .rollbackState "m" "deadlock detected")])).records "m").map
      fun record => (record.state, record.error)) = some (.ROLLED_BACK, none) ∧
    MigrationStateGuard.guardExecution "m"
      (run (fun _ _ => "") (onItsWay [.VALIDATED, .SIMULATED, .APPROVED])).records = .ok () ∧
    (updateState 0 "m" .EXECUTING none none
      (run (fun _ _ => "") (onItsWay [.VALIDATED, .SIMULATED, .APPROVED])).records).1.toOption = none := by
  refine ⟨by rfl, by decide, by decide, by decide⟩

end DriverMicroServices.SchemaEngine
