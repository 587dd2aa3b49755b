import DriverMicroServices.OutboxSteps

/-! How often the handler of an event is called before the event is FAILED. Only
the outcome of an attempt moves the retry count, so an attempt is counted right
when it calls the handler and comes to an outcome. -/
namespace DriverMicroServices
open Tables Transitions OutboxSystem

/-- A step that calls the registered handler for the row. -/
def callsHandler (id : Nat) (taken : Taken OutboxSystem OutboxAction) : Bool :=
  match taken.action with
  | .start n now =>
    taken.before.jobs[n]?.any fun job =>
      job.id == id && job.rawRow.eventType != "" &&
        (beginHandle (taken.before.circuit job) now job.rawRow).2 = .handling
  | _ => false

/-- The lock of the row is not released as stale, and the circuit breaker does not
reject it. -/
def CountsAttempts (id : Nat) (s : OutboxSystem) : OutboxAction → Prop
  | .releaseStaleLocks now => (s.outbox.row id).any (fun row => row.stale now) = false
  | .start n now =>
    s.jobs[n]?.all (fun job => job.id != id ||
      ((s.circuit job).beforeCall circuitBreakerConfig (circuitName job.rawRow) now).2.isNone) = true
  | _ => True

instance (id : Nat) : ∀ s action, Decidable (CountsAttempts id s action)
  | _, .releaseStaleLocks _ | _, .start .. => inferInstanceAs (Decidable (_ = _))
  | _, .publish .. | _, .selectBatch .. | _, .commitBatch .. | _, .abortBatch ..
  | _, .settle .. | _, .markCompleted .. | _, .markCompletedFails .. | _, .handleFailure ..
  | _, .handleFailureFails .. | _, .crash .. | _, .archiveCompletedEvents ..
  | _, .archiveOldEvents .. | _, .archiveEventsImmediately .. | _, .saveBatch ..
  | _, .deleteArchived .. | _, .archiverFails .. => isTrue trivial

/-- The jobs at the row. -/
def jobsAt (id : Nat) (jobs : List Job) : List Job := jobs.filter (·.id = id)

/-- What a job tells of the calls so far: its row's retry count, and one more once
the handler is called. -/
def Job.Counts (job : Job) (calls : Nat) : Prop :=
  match job.progress with
  | .waiting => calls = job.rawRow.retryCount
  | .handling | .handled => calls = job.rawRow.retryCount + 1
  | .failed errorMessage =>
    calls ≤ job.rawRow.retryCount + 1 ∧
      (isStructuralError job.rawRow errorMessage = false → calls = job.rawRow.retryCount + 1)

/-- Where the row is after this many calls of its handler. -/
inductive Attempts (id : Nat) (calls : Nat) (s : OutboxSystem) : Prop where
  | waits (idle : jobsAt id s.jobs = []) (here : s.outbox.row id = some row)
      (pending : row.status = .pending) (left : row.retryCount < maxRetries)
      (counts : row.retryCount = calls)
  | tried (alone : jobsAt id s.jobs = [job])
      (busy : ∀ row, s.outbox.row id = some row → row.status = .processing)
      (left : job.rawRow.retryCount < maxRetries) (counts : job.Counts calls)
  | ended (idle : jobsAt id s.jobs = [])
      (settled : ∀ row, s.outbox.row id = some row → row.status ≠ .pending)
      (bound : calls ≤ maxRetries)

/-- The row and what is known of its handler's calls. -/
structure Tracked (id : Nat) (calls : Nat) (s : OutboxSystem) : Prop where
  held : Held s
  known : id < s.outbox.serial
  attempts : Attempts id calls s

section Attempts

variable {s s' : OutboxSystem} {action : OutboxAction} {actions : List OutboxAction}
  {id n calls : Nat} {row : OutboxRow} {claim : Claim} {job job' : Job}

/-- A job at another row is not among those at this one. -/
theorem jobsAt_other (found : s.jobs[n]? = some job) (other : job.id ≠ id) :
    jobsAt id (s.jobs.eraseIdx n) = jobsAt id s.jobs ∧
      ∀ job', job'.id = job.id → jobsAt id (s.jobs.set n job') = jobsAt id s.jobs := by
  obtain ⟨first, last, whole, rest, replaced⟩ := getElem?_split found
  constructor
  · rw [rest, whole]
    simp [jobsAt, other]
  · intro job' same
    rw [replaced, whole]
    simp [jobsAt, same, other]

/-- The one job at the row. -/
theorem jobsAt_own (found : s.jobs[n]? = some job) (own : job.id = id)
    (alone : jobsAt id s.jobs = [only]) :
    only = job ∧ jobsAt id (s.jobs.eraseIdx n) = [] ∧
      ∀ job', job'.id = id → jobsAt id (s.jobs.set n job') = [job'] := by
  obtain ⟨first, last, whole, rest, replaced⟩ := getElem?_split found
  have split : jobsAt id first ++ job :: jobsAt id last = [only] := by
    rw [← alone, whole]
    simp [jobsAt, own]
  have none : jobsAt id first = [] := by
    cases none : jobsAt id first with
    | nil => rfl
    | cons other others => simp [none] at split
  rw [none, List.nil_append] at split
  obtain ⟨rfl, none'⟩ := List.cons.inj split
  have parts : ∀ jobs, jobsAt id (first ++ jobs ++ last) = jobsAt id jobs := by
    intro jobs
    simp only [jobsAt, List.filter_append] at none none' ⊢
    simp [none, none']
  refine ⟨rfl, ?_, fun job' same => ?_⟩
  · rw [rest]
    simpa [jobsAt] using parts []
  · rw [replaced]
    simpa [jobsAt, same] using parts [job']

theorem Job.Counts.bound (counts : job.Counts calls) : calls ≤ job.rawRow.retryCount + 1 := by
  unfold Job.Counts at counts
  split at counts <;> omega

/-- Nothing happened to the row or the jobs at it. -/
theorem Attempts.kept (attempts : Attempts id calls s)
    (jobs : jobsAt id s'.jobs = jobsAt id s.jobs)
    (same : s'.outbox.row id = s.outbox.row id) : Attempts id calls s' := by
  cases attempts with
  | waits idle here pending left counts =>
    exact .waits (jobs.trans idle) (same.trans here) pending left counts
  | tried alone busy left counts =>
    exact .tried (jobs.trans alone) (fun row here => busy row (same.symm.trans here)) left counts
  | ended idle settled bound =>
    exact .ended (jobs.trans idle) (fun row here => settled row (same.symm.trans here)) bound

/-- Where there is a job at the row, it is the only one. -/
theorem Attempts.own (attempts : Attempts id calls s) (member : job ∈ s.jobs) (own : job.id = id) :
    jobsAt id s.jobs = [job] ∧
      (∀ row, s.outbox.row id = some row → row.status = .processing) ∧
      job.rawRow.retryCount < maxRetries ∧ job.Counts calls := by
  have inside : job ∈ jobsAt id s.jobs := List.mem_filter.mpr ⟨member, by simpa using own⟩
  cases attempts with
  | waits idle | ended idle =>
    rw [idle] at inside
    cases inside
  | tried alone busy left counts =>
    rw [alone, List.mem_singleton] at inside
    subst inside
    exact ⟨alone, busy, left, counts⟩

/-- A job goes on with the calls it then tells of. -/
theorem attempts_proceed (attempts : Attempts id calls s) (found : s.jobs[n]? = some job)
    (goes : job.id = id → job.Counts calls → job.rawRow.retryCount < maxRetries →
      ({ job with progress := next.2 } : Job).Counts (calls + extra))
    (none : job.id ≠ id → extra = 0) : Attempts id (calls + extra) (s.proceed n job next) := by
  by_cases own : job.id = id
  · obtain ⟨alone, busy, left, counts⟩ := attempts.own (List.mem_of_getElem? found) own
    obtain ⟨-, -, replaced⟩ := jobsAt_own found own alone
    exact .tried (replaced { job with progress := next.2 } own) busy left (goes own counts left)
  · rw [none own]
    exact attempts.kept ((jobsAt_other found own).2 { job with progress := next.2 } rfl) rfl

/-- A job goes without an outcome. -/
theorem attempts_dropped (attempts : Attempts id calls s) (found : s.jobs[n]? = some job) :
    Attempts id calls { s with jobs := s.jobs.eraseIdx n } := by
  by_cases own : job.id = id
  · obtain ⟨alone, busy, left, counts⟩ := attempts.own (List.mem_of_getElem? found) own
    obtain ⟨-, gone, -⟩ := jobsAt_own found own alone
    refine .ended gone (fun row here => ?_) (Nat.le_trans counts.bound left)
    rw [busy row here]
    decide
  · exact attempts.kept (jobsAt_other found own).1 rfl

private theorem attempts_crash (attempts : Attempts id calls s) (workerId : String) :
    Attempts id calls { s with
      claims := s.claims.filter (·.workerId ≠ workerId)
      jobs := s.jobs.filter (·.workerId ≠ workerId) } := by
  have jobs : jobsAt id (s.jobs.filter (·.workerId ≠ workerId)) =
      (jobsAt id s.jobs).filter (·.workerId ≠ workerId) := by
    simp only [jobsAt, List.filter_filter, Bool.and_comm]
  cases attempts with
  | waits idle here pending left counts =>
    exact .waits (by rw [jobs, idle]; rfl) here pending left counts
  | ended idle settled bound => exact .ended (by rw [jobs, idle]; rfl) settled bound
  | @tried job alone busy left counts =>
    by_cases dead : job.workerId = workerId
    · refine .ended (by rw [jobs, alone]; simp [dead]) (fun row here => ?_) (Nat.le_trans counts.bound left)
      rw [busy row here]
      decide
    · exact .tried (by rw [jobs, alone]; simp [dead]) busy left counts

/-- The row may leave the table. -/
theorem attempts_gone (attempts : Attempts id calls s) (jobs : s'.jobs = s.jobs)
    (gone : s'.outbox.row id = none) : Attempts id calls s' := by
  cases attempts with
  | waits idle here pending left counts =>
    exact .ended (jobs ▸ idle) (by simp [gone]) (by omega)
  | tried alone busy left counts => exact .tried (jobs ▸ alone) (by simp [gone]) left counts
  | ended idle settled bound => exact .ended (jobs ▸ idle) (by simp [gone]) bound

/-- A job ends with an outcome that leaves its row settled, or PENDING with one
more retry, if all its calls are counted. -/
theorem attempts_conclude (attempts : Attempts id calls s) (found : s.jobs[n]? = some job)
    (outcome : job.id = id → job.Counts calls → ∀ row, (f row).status ≠ .pending ∨
      (f row).status = .pending ∧ (f row).retryCount = calls ∧ calls < maxRetries) :
    Attempts id calls (s.conclude n job f) := by
  by_cases own : job.id = id
  · obtain ⟨alone, busy, left, counts⟩ := attempts.own (List.mem_of_getElem? found) own
    obtain ⟨-, gone, -⟩ := jobsAt_own found own alone
    have bound : calls ≤ maxRetries := Nat.le_trans counts.bound left
    have row : (s.conclude n job f).outbox.row id = (s.outbox.row id).map f := by
      simp [conclude, own]
    cases here : s.outbox.row id with
    | none => exact .ended gone (by simp [row, here]) bound
    | some before =>
      rw [here, Option.map_some] at row
      rcases outcome own counts before with settled | ⟨pending, retried, more⟩
      · refine .ended gone (fun row' here' => ?_) bound
        rw [row, Option.some.injEq] at here'
        exact here' ▸ settled
      · exact .waits gone row pending (retried ▸ more) retried
  · refine attempts.kept (jobsAt_other found own).1 ?_
    have other : ¬ id = job.id := fun same => own same.symm
    simp [conclude, other]

/-- The jobs that a claim makes at one of its rows. -/
theorem jobsAt_claim (apart : (claim.rows.map Prod.fst).Nodup) (member : (id, row) ∈ claim.rows) :
    jobsAt id (jobsOf claim) = [{ workerId := claim.workerId, id, rawRow := row }] := by
  obtain ⟨first, last, whole⟩ := List.append_of_mem member
  rw [whole, List.map_append, List.map_cons, List.nodup_middle, List.nodup_cons] at apart
  have none : ∀ rows : List (Nat × OutboxRow), id ∉ rows.map Prod.fst →
      (rows.map fun entry => ({ workerId := claim.workerId, id := entry.1, rawRow := entry.2 } : Job)).filter
        (·.id = id) = [] := by
    intro rows absent
    refine List.filter_eq_nil_iff.mpr fun job inside => ?_
    obtain ⟨entry, listed, rfl⟩ := List.mem_map.mp inside
    have other : entry.1 ≠ id := by
      rintro rfl
      exact absent (List.mem_map_of_mem listed)
    simpa using other
  have absent := apart.1
  rw [List.mem_append, not_or] at absent
  simp only [jobsAt, jobsOf, whole, List.map_append, List.map_cons, List.filter_append,
    none first absent.1]
  simp [none last absent.2]

private theorem attempts_commit (attempts : Attempts id calls s) (held : Held s)
    (found : s.claims[n]? = some claim) :
    Attempts id calls { s with
      outbox := s.outbox.update (fun id _ => decide (id ∈ claim.rows.map Prod.fst))
        (OutboxRow.lock claim.workerId claim.now)
      claims := s.claims.eraseIdx n
      jobs := s.jobs ++ jobsOf claim } := by
  have jobs : jobsAt id (s.jobs ++ jobsOf claim) = jobsAt id s.jobs ++ jobsAt id (jobsOf claim) :=
    List.filter_append ..
  by_cases claimed : id ∈ claim.rows.map Prod.fst
  · obtain ⟨entry, member, rfl⟩ := List.mem_map.mp claimed
    have here := held.kept claim (List.mem_of_getElem? found) _ member
    obtain ⟨row, here', pending⟩ := held.mem ⟨claim, List.mem_of_getElem? found, claimed⟩
    cases here.symm.trans here'
    cases attempts with
    | @waits row idle there pending left counts =>
      cases here.symm.trans there
      have alone : jobsAt entry.1 (s.jobs ++ jobsOf claim) =
          [{ workerId := claim.workerId, id := entry.1, rawRow := entry.2 }] := by
        rw [jobs, idle, jobsAt_claim (held.committed found).1 member]
        rfl
      refine .tried alone (fun row after => ?_) left counts.symm
      obtain ⟨before, -, rfl⟩ := Table.of_update after
      rw [if_pos (decide_eq_true claimed)]
      rfl
    | tried alone busy =>
      rw [busy entry.2 here] at pending
      cases pending
    | ended idle settled => exact absurd pending (settled entry.2 here)
  · refine attempts.kept ?_ ?_
    · have none : jobsAt id (jobsOf claim) = [] := by
        refine List.filter_eq_nil_iff.mpr fun job inside => ?_
        obtain ⟨entry, listed, rfl⟩ := List.mem_map.mp inside
        have other : entry.1 ≠ id := by
          rintro rfl
          exact claimed (List.mem_map_of_mem listed)
        simpa using other
      rw [jobs, none, List.append_nil]
    · simp [claimed]

/-- An event without a registered handler has a structural error. -/
theorem unregistered_structural (rawRow : OutboxRow) :
    isStructuralError rawRow s!"No handler registered for event type: {rawRow.eventType}" = true := by
  have named : includes s!"No handler registered for event type: {rawRow.eventType}"
      "No handler registered for" = true := by
    refine decide_eq_true ⟨[], " event type: ".toList ++ rawRow.eventType.toList, ?_⟩
    simp [toString, String.toList_append]
  simp [isStructuralError, named]

/-- What the circuit breaker admits reaches the handler, if one is registered. -/
theorem beginHandle_admitted {start : CircuitBreakerState} {rawRow : OutboxRow}
    (admitted : (start.beforeCall circuitBreakerConfig (circuitName rawRow) now).2 = none) :
    (beginHandle start now rawRow).2 = .handling ∨
      ∃ errorMessage, (beginHandle start now rawRow).2 = .failed errorMessage ∧
        isStructuralError rawRow errorMessage = true := by
  unfold beginHandle
  split
  · rename_i rejected
    rw [rejected] at admitted
    cases admitted
  · split
    · exact .inl rfl
    · exact .inr ⟨_, rfl, unregistered_structural rawRow⟩

/-- The outcome of a failure: FAILED, or PENDING with all calls counted. -/
theorem handleFailure_counts (progress : job.progress = .failed errorMessage)
    (counts : job.Counts calls) (now : Time) (row : OutboxRow) :
    (OutboxRow.handleFailure job.rawRow errorMessage now row).status ≠ .pending ∨
      (OutboxRow.handleFailure job.rawRow errorMessage now row).status = .pending ∧
      (OutboxRow.handleFailure job.rawRow errorMessage now row).retryCount = calls ∧
      calls < maxRetries := by
  simp only [Job.Counts, progress] at counts
  by_cases last : maxRetries ≤ failureCount job.rawRow errorMessage
  · simp [OutboxRow.handleFailure, last]
  · have plain : isStructuralError job.rawRow errorMessage = false := by
      by_contra structural
      rw [Bool.not_eq_false] at structural
      exact last (by simp [failureCount, structural])
    have counted := counts.2 plain
    have retried : failureCount job.rawRow errorMessage = calls := by
      simp [failureCount, plain, counted]
    rw [retried] at last
    refine .inr ⟨?_, ?_, Nat.lt_of_not_le last⟩
    · simp [OutboxRow.handleFailure, retried, last]
    · simp [OutboxRow.handleFailure, retried, last]

theorem tracked_step (tracked : Tracked id calls s) (counted : CountsAttempts id s action)
    (stepped : step s action = some s') :
    Tracked id (calls + if callsHandler id ⟨s, action, s'⟩ then 1 else 0) s' := by
  obtain ⟨held, known, attempts⟩ := tracked
  have held' := held_step held stepped
  have quiet : (∀ n now, action ≠ .start n now) →
      callsHandler id ⟨s, action, s'⟩ = false := by
    intro other
    unfold callsHandler
    split
    · rename_i same
      exact absurd same (other _ _)
    · rfl
  cases step_effect stepped with
  | nothing other => simpa [quiet other] using ⟨held, known, attempts⟩
  | stored =>
    rw [quiet (by simp)]
    refine ⟨held', Nat.lt_succ_of_lt known, attempts.kept rfl ?_⟩
    rw [Table.insert_row, if_neg (Nat.ne_of_lt known)]
  | released =>
    rw [quiet (by simp)]
    refine ⟨held', known, attempts.kept rfl ?_⟩
    cases here : s.outbox.row id with
    | none => simp [here]
    | some row =>
      simp only [CountsAttempts, here, Option.any_some] at counted
      simp [here, counted]
  | committed found =>
    rw [quiet (by simp)]
    exact ⟨held', known, attempts_commit attempts held found⟩
  | @started n job now found waiting named =>
    have called : ∀ after, callsHandler id ⟨s, .start n now, after⟩ =
        (job.id == id && (beginHandle (s.circuit job) now job.rawRow).2 = .handling) := by
      simp [callsHandler, found, bne_iff_ne.mpr named]
    rw [called]
    refine ⟨held', known, attempts_proceed attempts found (fun own counts _ => ?_) fun other => ?_⟩
    · have admitted : ((s.circuit job).beforeCall circuitBreakerConfig (circuitName job.rawRow) now).2 =
          none := by simpa [CountsAttempts, found, own] using counted
      simp only [Job.Counts, waiting] at counts
      rcases beginHandle_admitted admitted with called | ⟨errorMessage, failed, structural⟩
      · simp [Job.Counts, called, own, counts]
      · simp [Job.Counts, failed, structural, counts]
    · simp [other]
  | @settled n job now error found handling =>
    rw [quiet (by simp)]
    refine ⟨held', known, attempts_proceed attempts found (fun _ counts _ => ?_) fun _ => rfl⟩
    simp only [Job.Counts, handling] at counts
    cases error with
    | none => simp [Job.Counts, endHandle, counts]
    | some errorMessage => simp [Job.Counts, endHandle, counts]
  | unmarked found handled =>
    rw [quiet (by simp)]
    refine ⟨held', known, attempts_proceed attempts found (fun _ counts _ => ?_) fun _ => rfl⟩
    simp only [Job.Counts, handled] at counts
    simp [Job.Counts, counts]
  | dropped found ends =>
    have silent : ∀ after, callsHandler id ⟨s, action, after⟩ = false := by
      rcases ends with rfl | ⟨now, rfl, unnamed⟩
      · exact fun _ => rfl
      · simp [callsHandler, found, unnamed]
    rw [silent]
    exact ⟨held', known, attempts_dropped attempts found⟩
  | completed found =>
    rw [quiet (by simp)]
    exact ⟨held', known, attempts_conclude attempts found fun _ _ _ => .inl (by simp [OutboxRow.markCompleted])⟩
  | failed found progress =>
    rw [quiet (by simp)]
    exact ⟨held', known, attempts_conclude attempts found fun _ counts row =>
      handleFailure_counts progress counts _ row⟩
  | crashed =>
    rw [quiet (by simp)]
    exact ⟨held', known, attempts_crash attempts _⟩
  | @deleted n archiver found done free =>
    rw [quiet (by simp)]
    refine ⟨held', known, ?_⟩
    by_cases gone : id ∈ archiver.archivedIds
    · exact attempts_gone attempts rfl (by simp [endArchiver, gone])
    · exact attempts.kept rfl (by simp [endArchiver, gone])
  | _ =>
    rw [quiet (by simp)]
    exact ⟨held', known, attempts.kept rfl rfl⟩

/-- A step that makes the row FAILED. -/
def Fails (id : Nat) (taken : Taken OutboxSystem OutboxAction) : Prop :=
  (∃ row, taken.before.outbox.row id = some row ∧ row.status ≠ .failed) ∧
    ∃ row, taken.after.outbox.row id = some row ∧ row.status = .failed

/-- The outcome of an attempt that ended with a structural error. -/
def Structural (taken : Taken OutboxSystem OutboxAction) : Prop :=
  ∃ n now job errorMessage, taken.action = .handleFailure n now ∧
    taken.before.jobs[n]? = some job ∧ job.progress = .failed errorMessage ∧
    isStructuralError job.rawRow errorMessage = true

theorem Tracked.bound (tracked : Tracked id calls s) : calls ≤ maxRetries := by
  cases tracked.attempts with
  | waits _ _ _ left counts => omega
  | tried _ _ left counts => exact Nat.le_trans counts.bound left
  | ended _ _ bound => exact bound

/-- Only the outcome of a failure makes a row FAILED, and it is the last retry. -/
theorem fails_after (tracked : Tracked id calls s) (stepped : step s action = some s')
    (fails : Fails id ⟨s, action, s'⟩) : Structural ⟨s, action, s'⟩ ∨ calls = maxRetries := by
  obtain ⟨⟨row, before, open'⟩, row', after, fate⟩ := fails
  have unchanged : s'.outbox.row id = some row → False := by
    intro same
    cases same.symm.trans after
    exact open' fate
  cases step_effect stepped with
  | stored => exact (unchanged (Table.insert_row_of_some before)).elim
  | released | committed | completed =>
    obtain ⟨row, before', rfl⟩ := Table.of_update after
    cases before.symm.trans before'
    split at fate
    · cases fate
    · exact absurd fate open'
  | @failed n job now errorMessage found progress =>
    obtain ⟨row, before', rfl⟩ := Table.of_update after
    cases before.symm.trans before'
    split at fate
    · rename_i own
      obtain ⟨-, -, left, counts⟩ :=
        tracked.attempts.own (List.mem_of_getElem? found) (beq_iff_eq.mp own).symm
      simp only [Job.Counts, progress] at counts
      have last : maxRetries ≤ failureCount job.rawRow errorMessage := by
        by_contra retried
        simp [OutboxRow.handleFailure, retried] at fate
      by_cases structural : isStructuralError job.rawRow errorMessage = true
      · exact .inl ⟨n, now, job, errorMessage, rfl, found, progress, structural⟩
      · rw [Bool.not_eq_true] at structural
        have counted := counts.2 structural
        simp only [failureCount, structural, Bool.false_eq_true, if_false] at last
        exact .inr (by omega)
    · exact absurd fate open'
  | deleted =>
    cases (Table.of_delete after).2.symm.trans before
    exact absurd fate open'
  | _ => exact (unchanged before).elim

/-- A published event that no worker has touched. -/
theorem tracked_published (unclaimed : s.claims = []) (idle : ∀ job ∈ s.jobs, job.id ≠ id)
    (here : s.outbox.row id = some row) (pending : row.status = .pending)
    (fresh : row.retryCount = 0) : Tracked id 0 s where
  held := held_unclaimed unclaimed
  known := Table.row_below here
  attempts := .waits (List.filter_eq_nil_iff.mpr fun job member => by simpa using idle job member)
    here pending (by rw [fresh]; decide) fresh

/-- In a run that counts the attempts at the row, its handler is called at most
`MAX_RETRIES` times, and the row becomes FAILED only by a structural error or
after that many calls. -/
theorem retries_counted (unclaimed : s.claims = []) (idle : ∀ job ∈ s.jobs, job.id ≠ id)
    (here : s.outbox.row id = some row) (pending : row.status = .pending)
    (fresh : row.retryCount = 0) (admitted : Admits step (CountsAttempts id) s actions)
    (ran : run step s actions = some s') :
    (trace step s actions).countP (callsHandler id) ≤ maxRetries ∧
    ∀ action s'', step s' action = some s'' → Fails id ⟨s', action, s''⟩ →
      Structural ⟨s', action, s''⟩ ∨
        (trace step s actions).countP (callsHandler id) = maxRetries := by
  have tracked := run_count tracked_step (tracked_published unclaimed idle here pending fresh)
    admitted ran
  rw [Nat.zero_add] at tracked
  exact ⟨tracked.bound, fun action s'' stepped fails => fails_after tracked stepped fails⟩

end Attempts

section Samples
open OutboxSample

/-- The last step of a run on fixed inputs, to be computed: whether it makes the
row FAILED with no structural error, and the calls before it. -/
def lastStep (id : Nat) (s : OutboxSystem) (actions : List OutboxAction) (last : OutboxAction) :
    Option (Bool × Nat) := do
  let s' ← run step s actions
  let s'' ← step s' last
  let before ← s'.outbox.row id
  let after ← s''.outbox.row id
  let plain := s'.jobs.all fun job =>
    match job.progress with
    | .failed errorMessage => !isStructuralError job.rawRow errorMessage
    | _ => true
  return (before.status != .failed && after.status == .failed && plain,
    (trace step s actions).countP (callsHandler id))

theorem lastStep_fails {id : Nat} (computed : lastStep id s actions last = some (true, calls)) :
    ∃ s' s'', run step s actions = some s' ∧ step s' last = some s'' ∧
      Fails id ⟨s', last, s''⟩ ∧ ¬ Structural ⟨s', last, s''⟩ ∧
      (trace step s actions).countP (callsHandler id) = calls := by
  unfold lastStep at computed
  obtain ⟨s', ran, computed⟩ := Option.bind_eq_some_iff.mp computed
  obtain ⟨s'', stepped, computed⟩ := Option.bind_eq_some_iff.mp computed
  obtain ⟨before, here, computed⟩ := Option.bind_eq_some_iff.mp computed
  obtain ⟨after, here', computed⟩ := Option.bind_eq_some_iff.mp computed
  simp only [pure, Option.some.injEq, Prod.mk.injEq, Bool.and_eq_true, bne_iff_ne, beq_iff_eq,
    List.all_eq_true] at computed
  obtain ⟨⟨⟨open', fate⟩, plain⟩, calls⟩ := computed
  refine ⟨s', s'', ran, stepped, ⟨⟨before, here, open'⟩, after, here', fate⟩, ?_, calls⟩
  rintro ⟨n, now, job, errorMessage, -, found, progress, structural⟩
  have not := plain job (List.mem_of_getElem? found)
  simp [progress, structural] at not

/-- Ten failing attempts, each by another worker, up to the last outcome. -/
def tenAttempts : List OutboxAction :=
  ((List.range 10).flatMap fun k => failingAttempt s!"w{k}" 0 (k * 400000) [0]).dropLast

theorem retries_counted_shop :
    ∃ s' s'', run step one tenAttempts = some s' ∧
      step s' (.handleFailure 0 3600000) = some s'' ∧
      Fails 0 ⟨s', .handleFailure 0 3600000, s''⟩ ∧
      (trace step one tenAttempts).countP (callsHandler 0) = maxRetries := by
  obtain ⟨s', s'', ran, stepped, fails, plain, -⟩ := lastStep_fails
    (show lastStep 0 one tenAttempts (.handleFailure 0 3600000) = some (true, 10) by decide)
  have admitted : Admits step (CountsAttempts 0) one tenAttempts := by decide
  have here : one.outbox.row 0 = some (waiting "DELIVERY_ASSIGNED_V1:order:S1") := rfl
  have counted := (retries_counted rfl (by decide) here rfl rfl admitted ran).2 _ s'' stepped fails
  exact ⟨s', s'', ran, stepped, fails, counted.resolve_left plain⟩

/-- A handler that never returns, and the release of its lock every time. -/
def neverReturns : List OutboxAction :=
  (List.range 11).flatMap fun (k : Nat) =>
    .releaseStaleLocks (k * 130000) :: takeUp "w" k (k * 130000) [0]

/-- Six events of one type wait. -/
def six : OutboxSystem where
  outbox := .ofList ((List.range 6).map fun k => waiting s!"k{k}")

/-- Five other events fail and open the circuit of `w`; when it lets the event 0
through at last, that attempt fails and opens it again. -/
def degraded : List OutboxAction :=
  [.selectBatch "w" 0 50 [1, 2, 3, 4, 5, 0], .commitBatch 0] ++
  ((List.range 5).flatMap fun k => [.start k 0, .settle k 0 (some "timeout")]) ++
  [.start 5 0, .handleFailure 5 0] ++
  ([2, 6, 14, 30, 62, 126, 254].flatMap fun (seconds : Int) =>
    takeUp "w" 5 (seconds * 1000) [1, 2, 3, 4, 5, 0] ++ [.handleFailure 5 (seconds * 1000)]) ++
  failingAttempt "w" 5 510000 [1, 2, 3, 4, 5, 0] ++ takeUp "w" 5 810000 [1, 2, 3, 4, 5, 0]

/-- A handler that never returns is called eleven times and the event is not
FAILED; and an event is FAILED after ten attempts of which nine never reached its
handler. -/
theorem retries_miscounted :
    ((trace step one neverReturns).countP (callsHandler 0) = maxRetries + 1 ∧
      ∃ s' row, run step one neverReturns = some s' ∧ s'.outbox.row 0 = some row ∧
        row.status = .processing) ∧
    ∃ s' s'', run step six degraded = some s' ∧ step s' (.handleFailure 5 810000) = some s'' ∧
      Fails 0 ⟨s', .handleFailure 5 810000, s''⟩ ∧ ¬ Structural ⟨s', .handleFailure 5 810000, s''⟩ ∧
      (trace step six degraded).countP (callsHandler 0) = 1 := by
  refine ⟨⟨by decide +kernel, ?_⟩, lastStep_fails (by decide +kernel)⟩
  have computed : ((run step one neverReturns).bind (·.outbox.row 0)).map (·.status) =
      some .processing := by decide
  obtain ⟨row, found, busy⟩ := Option.map_eq_some_iff.mp computed
  obtain ⟨s', ran, here⟩ := Option.bind_eq_some_iff.mp found
  exact ⟨s', row, ran, here, busy⟩

end Samples

end DriverMicroServices
