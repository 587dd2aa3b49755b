import DriverMicroServices.MigrationReadiness

/-! What the mark of a schema difference says about the linked job. The row of the job may be written
again by those who hold a copy from before, and then the mark stays. -/
namespace DriverMicroServices.Backfill
open Transitions Tables Tables.Keyed

/-- The job is completed with all of its rows and without an error. -/
def Finished (row : BackfillJob) : Prop :=
  row.status = .COMPLETED ∧ row.totalRows ≤ row.processedRows ∧ hasError row = false

instance : DecidablePred Finished := fun _ => inferInstanceAs (Decidable (_ ∧ _))

/-- The column that a check validates for this job has no NULL. -/
def Filled (targetType : Option String) (row : BackfillJob) (data : Data) : Prop :=
  ∀ details ∈ (getBackfillJobDetails targetType row).toOption,
    ∀ column ∈ data details.tableName details.columnName, none ∉ column.values

instance (targetType : Option String) (row : BackfillJob) (data : Data) : Decidable (Filled targetType row data) :=
  inferInstanceAs (Decidable (∀ details ∈ (getBackfillJobDetails targetType row).toOption,
    ∀ column ∈ data details.tableName details.columnName, none ∉ column.values))

def ReadyMeansBackfilled (targetType : Option String) (taken : Taken ReadinessState ReadinessAction) : Prop :=
  ∀ status ∈ taken.after.answer, status.isReady = true →
    Finished taken.after.job.row ∧ Filled targetType taken.after.job.row taken.after.data

instance (targetType : Option String) : DecidablePred (ReadyMeansBackfilled targetType) :=
  fun taken => inferInstanceAs (Decidable (∀ status ∈ taken.after.answer, _))

/-- `checkReadiness` answers from the mark. -/
def Marked (difference : SchemaDifference) : Prop :=
  difference.status ≠ .MIGRATED ∧ difference.readiness = .READY_FOR_MIGRATION ∧ difference.validationStatus = .PASSED

/-- A check that has found nothing wrong so far. -/
def CheckStage.clean : CheckStage → Bool
  | .validating errors => errors.isEmpty
  | .counting errors _ _ _ columnErrors => errors.isEmpty && columnErrors.isEmpty
  | .storing => true

/-- The difference is marked, or a check is going on that may mark it. -/
def Relied (s : ReadinessState) : Prop := Marked s.difference ∨ ∃ entry ∈ s.checks, entry.2.clean = true

instance : DecidablePred Marked := fun _ => inferInstanceAs (Decidable (_ ∧ _ ∧ _))

instance : DecidablePred Relied := fun s => inferInstanceAs (Decidable (Marked s.difference ∨ _))

/-- The copy that an action saves over the row of the job. -/
def JobState.copy (table : Keyset Int) (s : JobState) : JobAction → Option BackfillJob
  | .saveRetry admin => get s.retries admin
  | .saveCancel admin => get s.cancels admin
  | .claimJob _ => if s.row.status = .PENDING then some (claimJob s.row) else none
  | .call worker event => do
    let stage ← get s.calls worker
    (← stage.step table event).row
  | .getPendingJobs _ | .crash _ | .retryJob _ | .cancelJob _ => none

/-- While the difference is marked or may be, only finished copies are saved over the job, and a batch
leaves no NULL. -/
def Undisturbed (table : Keyset Int) (writes : BatchWrites) (targetType : Option String) (s : ReadinessState) :
    ReadinessAction → Prop
  | .job action => Relied s →
      (∀ copy ∈ s.job.copy table action, Finished copy) ∧
        (action.commits = true → Filled targetType s.job.row (committed writes s.job s.data action))
  | _ => True

instance (table : Keyset Int) (writes : BatchWrites) (targetType : Option String) :
    ∀ s action, Decidable (Undisturbed table writes targetType s action)
  | s, .job action => inferInstanceAs (Decidable (Relied s →
      (∀ copy ∈ s.job.copy table action, Finished copy) ∧
        (action.commits = true → Filled targetType s.job.row (committed writes s.job s.data action))))
  | _, .checkReadiness _ | _, .query _ | _, .queryFailed _ _ | _, .storeReadiness _ | _, .storeFailed _
  | _, .markAsMigrated => isTrue trivial

section Invariant

variable {table : Keyset Int} {writes : BatchWrites} {targetType : Option String} {settings : String × Nat}
  {row row' : BackfillJob} {data data' : Data}

/-- After a step the row is the copy that the step saves, or what it was. -/
theorem row_saved {s s' : JobState} {action : JobAction} (stepped : jobStep table s action = some s') :
    s'.row = s.row ∧ s.copy table action = none ∨ ∃ copy ∈ s.copy table action, s'.row = s.row.saved copy := by
  cases action with
  | getPendingJobs worker | retryJob admin | cancelJob admin =>
    simp only [jobStep] at stepped
    split at stepped
    all_goals cases stepped
    all_goals exact .inl ⟨rfl, rfl⟩
  | crash worker =>
    cases stepped
    exact .inl ⟨rfl, rfl⟩
  | claimJob worker =>
    obtain ⟨job, -, stepped⟩ := Option.bind_eq_some_iff.mp stepped
    split at stepped
    · cases stepped
    split at stepped
    · rename_i pending
      cases stepped
      exact .inr ⟨claimJob s.row, if_pos pending, (BackfillJob.saved_of_cursor rfl).symm⟩
    · rename_i other
      cases stepped
      exact .inl ⟨rfl, if_neg other⟩
  | call worker event =>
    obtain ⟨stage, there, stepped⟩ := Option.bind_eq_some_iff.mp stepped
    obtain ⟨effect, took, stepped⟩ := Option.bind_eq_some_iff.mp stepped
    cases stepped
    have copy : s.copy table (.call worker event) = effect.row := by simp [JobState.copy, there, took]
    rw [copy]
    unfold Effect.write
    cases wrote : effect.row with
    | none => exact .inl ⟨rfl, rfl⟩
    | some row => exact .inr ⟨row, rfl, rfl⟩
  | saveRetry admin | saveCancel admin =>
    obtain ⟨job, copy, stepped⟩ := Option.bind_eq_some_iff.mp stepped
    cases stepped
    exact .inr ⟨job, copy, rfl⟩

theorem details_of_statement (same : row'.sqlStatement = row.sqlStatement) :
    getBackfillJobDetails targetType row' = getBackfillJobDetails targetType row := by
  unfold getBackfillJobDetails
  rw [same]

/-- The query for NULLs has found none. -/
def NoNull (data : Data) (details : JobDetails) : Prop :=
  ∀ column ∈ data details.tableName details.columnName, none ∉ column.values

theorem filled_of_ok {details : JobDetails} (found : getBackfillJobDetails targetType row = .ok details)
    (none : NoNull data details) : Filled targetType row data := by
  intro other there
  rw [found] at there
  cases there
  exact none

private theorem filled_at {details : JobDetails} (filled : Filled targetType row data)
    (found : getBackfillJobDetails targetType row = .ok details) : NoNull data details := by
  refine filled details ?_
  rw [found]
  rfl

private theorem noNull_of_count {details : JobDetails}
    (counted : ColumnQuery.run details.columnName (data details.tableName details.columnName) .nullCount = .ok 0) :
    NoNull data details := by
  intro column there null
  rw [there] at counted
  simp only [ColumnQuery.run, Except.ok.injEq, List.countP_eq_zero] at counted
  exact counted none null (by simp)

/-- What a clean check has found out about the job. -/
def CheckStage.Established (targetType : Option String) (row : BackfillJob) (data : Data) : CheckStage → Prop
  | .validating _ => True
  | .counting _ details query later _ =>
    getBackfillJobDetails targetType row = .ok details ∧ (.nullCount ∈ query :: later ∨ NoNull data details)
  | .storing => Filled targetType row data

/-- Another row with the statement, over data that are the same or without a NULL in the column. -/
theorem established_later (stage : CheckStage) (same : row'.sqlStatement = row.sqlStatement)
    (kept : data' = data ∨ Filled targetType row data') (held : stage.Established targetType row data) :
    stage.Established targetType row' data' := by
  cases stage with
  | validating errors => trivial
  | counting errors details query later columnErrors =>
    obtain ⟨found, counted⟩ := held
    refine ⟨(details_of_statement same).trans found, ?_⟩
    rcases kept with rfl | filled
    · exact counted
    · exact .inr (filled_at filled found)
  | storing =>
    show Filled targetType row' data'
    unfold Filled
    rw [details_of_statement same]
    rcases kept with rfl | filled
    · exact held
    · exact filled

/-- A check that has found something wrong does not come to the mark. -/
theorem validated_storing {id : Option String} {errors : List String} {next : CheckStage}
    (ended : validated id errors = .inl next) : errors = [] ∧ next = .storing := by
  cases errors with
  | nil => exact ⟨rfl, (Sum.inl.inj ended).symm⟩
  | cons => cases ended

/-- A query of a clean check after which the check is clean has found out what it has to. -/
theorem established_query {stage next : CheckStage} {id : Option String}
    (queried : stage.query targetType id row data = some (.inl next)) (clean : next.clean = true) :
    stage.clean = true ∧ (stage.Established targetType row data → next.Established targetType row data) := by
  cases stage with
  | storing => cases queried
  | validating errors =>
    simp only [CheckStage.query] at queried
    split at queried
    · rename_i details found
      unfold columnQueries at queried
      split at queried
      · rename_i query later listed
        cases queried
        simp only [CheckStage.clean, List.isEmpty_nil, Bool.and_true] at clean
        refine ⟨clean, fun _ => ⟨found, .inl ?_⟩⟩
        split at listed
        all_goals
          rw [← listed]
          exact List.mem_cons_self
      · rename_i listed
        split at listed
        all_goals cases listed
    · cases queried
  | counting errors details query later columnErrors =>
    simp only [CheckStage.query] at queried
    cases counted : query.run details.columnName (data details.tableName details.columnName) with
    | error message =>
      rw [counted] at queried
      have ended := validated_storing (Option.some.inj queried)
      exact absurd ended.1 (by simp)
    | ok count =>
      rw [counted] at queried
      simp only at queried
      by_cases some_count : 0 < count
      · -- what is found is not clean
        rw [if_pos some_count] at queried
        cases later with
        | nil =>
          have ended := validated_storing (Option.some.inj queried)
          exact absurd ended.1 (by simp)
        | cons following rest =>
          cases queried
          simp [CheckStage.clean] at clean
      · rw [if_neg some_count] at queried
        have none : query = .nullCount → NoNull data details := by
          rintro rfl
          have zero : count = 0 := by omega
          exact noNull_of_count (zero ▸ counted)
        cases later with
        | nil =>
          obtain ⟨empty, rfl⟩ := validated_storing (Option.some.inj queried)
          obtain ⟨rfl, rfl⟩ := List.append_eq_nil_iff.mp empty
          refine ⟨rfl, ?_⟩
          rintro ⟨found, ahead | counted⟩
          · exact filled_of_ok found (none (List.mem_singleton.mp ahead).symm)
          · exact filled_of_ok found counted
        | cons following rest =>
          cases queried
          refine ⟨clean, ?_⟩
          rintro ⟨found, ahead | counted⟩
          · rcases List.mem_cons.mp ahead with here | later
            · exact ⟨found, .inr (none here.symm)⟩
            · exact ⟨found, .inl later⟩
          · exact ⟨found, .inr counted⟩

theorem validated_unready {id : Option String} {errors : List String} {status : MigrationReadinessStatus}
    (ended : validated id errors = .inr status) : status.isReady = false := by
  cases errors with
  | nil => cases ended
  | cons error rest =>
    cases ended
    rfl

/-- A check that answers after a query does not answer that the difference is ready. -/
theorem query_unready {stage : CheckStage} {id : Option String} {status : MigrationReadinessStatus}
    (queried : stage.query targetType id row data = some (.inr status)) : status.isReady = false := by
  cases stage with
  | storing => cases queried
  | validating errors =>
    simp only [CheckStage.query] at queried
    split at queried
    · split at queried
      · cases queried
      · exact validated_unready (Option.some.inj queried)
    · exact validated_unready (Option.some.inj queried)
  | counting errors details query later columnErrors =>
    simp only [CheckStage.query] at queried
    split at queried
    · exact validated_unready (Option.some.inj queried)
    · cases later with
      | nil => exact validated_unready (Option.some.inj queried)
      | cons => cases queried

private theorem fail_unready {stage : CheckStage} {id : Option String} {message : String}
    {result : CheckStage ⊕ MigrationReadinessStatus} (failed : stage.fail id message = some result) :
    ∃ status, result = .inr status ∧ status.isReady = false := by
  cases stage with
  | storing => cases failed
  | validating errors =>
    cases failed
    exact ⟨_, rfl, rfl⟩
  | counting errors details query later columnErrors =>
    cases errors with
    | nil =>
      cases failed
      exact ⟨_, rfl, rfl⟩
    | cons error rest =>
      cases failed
      exact ⟨_, rfl, rfl⟩

private theorem completionErrors_eq_nil (none : completionErrors row = []) :
    row.totalRows ≤ row.processedRows ∧ hasError row = false := by
  obtain ⟨full, clean⟩ := List.append_eq_nil_iff.mp none
  constructor
  · by_contra short
    rw [if_pos (by omega)] at full
    cases full
  · by_contra error
    rw [Bool.not_eq_false] at error
    rw [if_pos error] at clean
    cases clean

/-- The first read answers that the difference is ready only from the mark. -/
theorem marked_of_ready {difference : SchemaDifference} {status : MigrationReadinessStatus}
    (answered : checkReadiness difference row = .inl status) (ready : status.isReady = true) : Marked difference := by
  unfold checkReadiness at answered
  split at answered
  · cases answered
    cases ready
  rename_i waiting
  split at answered
  · rename_i mark
    exact ⟨waiting, mark⟩
  split at answered
  · cases answered
    cases ready
  · split at answered
    all_goals cases answered
    all_goals cases ready

private theorem completed_of_validating {difference : SchemaDifference} {errors : List String}
    (begun : checkReadiness difference row = .inr errors) :
    row.status = .COMPLETED ∧ errors = completionErrors row := by
  unfold checkReadiness at begun
  split at begun
  · cases begun
  split at begun
  · cases begun
  split at begun
  · cases begun
  · split at begun
    all_goals cases begun
    rename_i complete
    exact ⟨complete, rfl⟩

/-- While the difference is marked or may be, the job is finished; the mark and the clean checks are
right about the column. -/
structure Kept (settings : String × Nat) (targetType : Option String) (s : ReadinessState) : Prop where
  settled : Settled settings s.job
  finished : Relied s → Finished s.job.row
  filled : Marked s.difference → Filled targetType s.job.row s.data
  checks : ∀ entry ∈ s.checks, entry.2.clean = true → entry.2.Established targetType s.job.row s.data

variable {s s' : ReadinessState} {action : ReadinessAction}

/-- Nothing but checks has ended. -/
theorem Kept.fewer (held : Kept settings targetType s) (caller : Nat) (answer : Option MigrationReadinessStatus) :
    Kept settings targetType { s with checks := remove s.checks caller, answer := answer } where
  settled := held.settled
  finished relied := held.finished <| by
    rcases relied with marked | ⟨entry, member, clean⟩
    · exact .inl marked
    · exact .inr ⟨entry, (mem_remove.mp member).1, clean⟩
  filled := held.filled
  checks entry member := held.checks entry (mem_remove.mp member).1

/-- A check goes on; where it is clean, the job is finished and the check is right. -/
theorem Kept.goes_on (held : Kept settings targetType s) {caller : Nat} {stage : CheckStage}
    (finished : stage.clean = true → Finished s.job.row)
    (right : stage.clean = true → stage.Established targetType s.job.row s.data) :
    Kept settings targetType (s.proceed caller (.inl stage)) where
  settled := held.settled
  finished := by
    rintro (marked | ⟨entry, member, clean⟩)
    · exact held.finished (.inl marked)
    · rcases mem_put member with rfl | ⟨earlier, -⟩
      · exact finished clean
      · exact held.finished (.inr ⟨entry, earlier, clean⟩)
  filled := held.filled
  checks entry member clean := by
    rcases mem_put member with rfl | ⟨earlier, -⟩
    · exact right clean
    · exact held.checks entry earlier clean

private theorem kept_job {jobAction : JobAction} (held : Kept settings targetType s)
    (admitted : Undisturbed table writes targetType s (.job jobAction))
    (stepped : readinessStep table writes targetType s (.job jobAction) = some s') : Kept settings targetType s' := by
  obtain ⟨job, took, stepped⟩ := Option.bind_eq_some_iff.mp stepped
  cases stepped
  have settled := step_settled held.settled took
  have same : job.row.sqlStatement = s.job.row.sqlStatement :=
    congrArg Prod.fst (settled.row.trans held.settled.row.symm)
  have data : Relied s → committed writes s.job s.data jobAction = s.data ∨
      Filled targetType s.job.row (committed writes s.job s.data jobAction) := by
    intro relied
    cases commits : jobAction.commits with
    | false =>
      left
      unfold committed
      split
      · cases commits
      · rfl
    | true => exact .inr ((admitted relied).2 commits)
  refine ⟨settled, fun relied => ?_, fun marked => ?_, fun entry member clean => ?_⟩
  · show Finished job.row
    rcases row_saved took with ⟨same, -⟩ | ⟨copy, saved, written⟩
    · exact same ▸ held.finished relied
    · exact written ▸ (admitted relied).1 copy saved
  · exact established_later .storing same (data (.inl marked)) (held.filled marked)
  · exact established_later entry.2 same (data (.inr ⟨entry, member, clean⟩)) (held.checks entry member clean)

/-- One step keeps the mark and the checks right, and answers that the difference is ready only when
the job is backfilled. -/
theorem step_kept (held : Kept settings targetType s) (admitted : Undisturbed table writes targetType s action)
    (stepped : readinessStep table writes targetType s action = some s') :
    Kept settings targetType s' ∧ ReadyMeansBackfilled targetType ⟨s, action, s'⟩ := by
  cases action with
  | job jobAction =>
    refine ⟨kept_job held admitted stepped, ?_⟩
    obtain ⟨job, -, stepped⟩ := Option.bind_eq_some_iff.mp stepped
    cases stepped
    rintro status ⟨⟩
  | checkReadiness caller =>
    simp only [readinessStep] at stepped
    split at stepped
    · cases stepped
    split at stepped
    · rename_i status answered
      cases stepped
      refine ⟨⟨held.settled, held.finished, held.filled, held.checks⟩, ?_⟩
      rintro status ⟨⟩ ready
      have marked := marked_of_ready answered ready
      exact ⟨held.finished (.inl marked), held.filled marked⟩
    · rename_i errors begun
      cases stepped
      obtain ⟨complete, rfl⟩ := completed_of_validating begun
      refine ⟨held.goes_on (fun clean => ?_) fun _ => trivial, by rintro status ⟨⟩⟩
      exact ⟨complete, completionErrors_eq_nil (List.isEmpty_iff.mp clean)⟩
  | query caller =>
    obtain ⟨stage, there, stepped⟩ := Option.bind_eq_some_iff.mp stepped
    obtain ⟨result, queried, stepped⟩ := Option.bind_eq_some_iff.mp stepped
    cases stepped
    have before := mem_of_get there
    cases result with
    | inl next =>
      refine ⟨held.goes_on (fun clean => ?_) fun clean => ?_, by rintro status ⟨⟩⟩
      · exact held.finished (.inr ⟨_, before, (established_query queried clean).1⟩)
      · obtain ⟨clean_before, finds⟩ := established_query queried clean
        exact finds (held.checks _ before clean_before)
    | inr status =>
      refine ⟨held.fewer caller _, ?_⟩
      rintro status ⟨⟩ ready
      rw [query_unready queried] at ready
      cases ready
  | queryFailed caller message =>
    obtain ⟨stage, -, stepped⟩ := Option.bind_eq_some_iff.mp stepped
    obtain ⟨result, failed, stepped⟩ := Option.bind_eq_some_iff.mp stepped
    cases stepped
    obtain ⟨status, rfl, unready⟩ := fail_unready failed
    refine ⟨held.fewer caller _, ?_⟩
    rintro status ⟨⟩ ready
    rw [unready] at ready
    cases ready
  | storeReadiness caller =>
    simp only [readinessStep] at stepped
    split at stepped
    · rename_i there
      cases stepped
      have before := mem_of_get there
      have finished := held.finished (.inr ⟨_, before, rfl⟩)
      have filled : Filled targetType s.job.row s.data := held.checks _ before rfl
      refine ⟨⟨held.settled, fun _ => finished, fun _ => filled, fun entry member => ?_⟩, ?_⟩
      · exact held.checks entry (mem_remove.mp member).1
      · rintro status ⟨⟩ -
        exact ⟨finished, filled⟩
    · cases stepped
  | storeFailed caller =>
    simp only [readinessStep] at stepped
    split at stepped
    · cases stepped
      exact ⟨held.fewer caller _, by rintro status ⟨⟩⟩
    · cases stepped
  | markAsMigrated =>
    cases stepped
    refine ⟨⟨held.settled, ?_, ?_, held.checks⟩, by rintro status ⟨⟩⟩
    · rintro (⟨migrated, -⟩ | checking)
      · exact absurd rfl migrated
      · exact held.finished (.inr checking)
    · rintro ⟨migrated, -⟩
      exact absurd rfl migrated

private theorem kept_created (job : BackfillJob) (difference : SchemaDifference) :
    Kept job.settings targetType (.created job difference data) where
  settled := created_settled _
  finished := by
    rintro (⟨-, ⟨⟩, -⟩ | ⟨entry, ⟨⟩, -⟩)
  filled := by
    rintro ⟨-, ⟨⟩, -⟩
  checks := by rintro entry ⟨⟩

end Invariant

/-- In a run where only finished copies are saved over the job while the difference is marked or may be,
and no batch then leaves a NULL, each answer that the difference is ready finds the job backfilled. -/
theorem ready_means_backfilled {table : Keyset Int} {writes : BatchWrites} {targetType : Option String}
    {job : BackfillJob} {difference : SchemaDifference} {data : Data} {actions : List ReadinessAction}
    (admitted : Admits (readinessStep table writes targetType) (Undisturbed table writes targetType)
      (.created job difference data) actions) :
    ∀ taken ∈ trace (readinessStep table writes targetType) (.created job difference data) actions,
      ReadyMeansBackfilled targetType taken := by
  intro taken member
  obtain ⟨held, here, stepped⟩ := trace_inv (fun held admitted stepped => (step_kept held admitted stepped).1)
    (kept_created job difference) admitted taken member
  exact (step_kept held here stepped).2

/-- The statement of a job for a table without an estimate. -/
def referencesJob : BackfillJob :=
  { usersJob 0 with sqlStatement := "UPDATE users SET reference = gen_random_uuid() WHERE reference IS NULL" }

def usersReference : SchemaDifference := { backfillJobId := none, backfillJob := some "job" }

/-- One user, whose reference is the text of an id. -/
def oneReference : Data := fun tableName columnName =>
  if tableName = "users" ∧ columnName = "reference" then
    some { type := .text, values := [some "3f2b8c1e-9d4a-4c6b-8e21-5a7f0c9d1b34"] }
  else none

/-- The database refuses each batch of the job. -/
def unwritten : BatchWrites := fun _ _ data => data

/-- A worker completes the job, a check marks the difference, and the next one answers from the mark. -/
def backfillAndCheck : List ReadinessAction :=
  [.job (.getPendingJobs 0), .job (.claimJob 0), .job (.call 0 .saved), .job (.call 0 .saved), .checkReadiness 0,
    .query 0, .query 0, .query 0, .query 0, .storeReadiness 0, .checkReadiness 1]

theorem ready_means_backfilled_users :
    (run (readinessStep twoRows unwritten none) (.created referencesJob usersReference oneReference)
        backfillAndCheck).map (fun s => s.answer.map (·.isReady)) = some (some true) ∧
      ∀ taken ∈ trace (readinessStep twoRows unwritten none) (.created referencesJob usersReference oneReference)
          backfillAndCheck,
        ReadyMeansBackfilled none taken := by
  have admitted : Admits (readinessStep twoRows unwritten none) (Undisturbed twoRows unwritten none)
      (.created referencesJob usersReference oneReference) backfillAndCheck := by decide +kernel
  exact ⟨by decide +kernel, ready_means_backfilled admitted⟩

/-- The job is cancelled while it is processed, and the cancellation is saved after a check has marked
the difference. The job is retried, and the next check answers that the difference is ready. -/
def cancelledBehindCheck : List ReadinessAction :=
  [.job (.getPendingJobs 0), .job (.claimJob 0), .job (.call 0 .saved), .job (.cancelJob 0), .job (.call 0 .saved),
    .checkReadiness 0, .query 0, .query 0, .query 0, .query 0, .storeReadiness 0, .job (.saveCancel 0),
    .job (.retryJob 0), .job (.saveRetry 0), .checkReadiness 1]

theorem reset_job_is_ready :
    (run (readinessStep twoRows unwritten none) (.created referencesJob usersReference oneReference)
        cancelledBehindCheck).map (fun s => (s.answer.map (·.isReady), s.job.row.status)) =
      some (some true, .PENDING) ∧
      ¬ ∀ taken ∈ trace (readinessStep twoRows unwritten none) (.created referencesJob usersReference oneReference)
          cancelledBehindCheck,
        ReadyMeansBackfilled none taken := by
  constructor
  · decide +kernel
  · decide +kernel

end DriverMicroServices.Backfill
