import DriverMicroServices.BackfillBatches

/-! The life of one job: workers that claim it and process its batches, each with a copy of the row
from before its claim, and administrators who retry and cancel it. A `save` writes the whole copy. -/
namespace DriverMicroServices.Backfill
open Transitions Tables Tables.Keyed

/-- The row, the ids of the table in the order of their updates, and the copies in the hands of
workers and administrators. -/
structure JobState where
  row : BackfillJob
  updates : List Int := []
  /-- Read by `getPendingJobs`, not yet claimed. -/
  pending : List (Nat × BackfillJob) := []
  calls : List (Nat × Stage) := []
  /-- Changed by `retryJob` and not yet saved. -/
  retries : List (Nat × BackfillJob) := []
  cancels : List (Nat × BackfillJob) := []
deriving DecidableEq

inductive JobAction where
  | getPendingJobs (worker : Nat)
  | claimJob (worker : Nat)
  /-- The next statement of the call of a worker. -/
  | call (worker : Nat) (event : CallEvent)
  /-- The process of a worker ends, between two statements. -/
  | crash (worker : Nat)
  | retryJob (admin : Nat)
  | saveRetry (admin : Nat)
  | cancelJob (admin : Nat)
  | saveCancel (admin : Nat)

/-- What `retryJob` saves of the row that it has read. -/
def retriedJob (row : BackfillJob) : BackfillJob :=
  { row with
    status := .PENDING, errorMessage := none, retryCount := 0, lastProcessedId := some 0, processedRows := 0 }

def cancelledJob (row : BackfillJob) : BackfillJob :=
  { row with status := .FAILED, errorMessage := some "Cancelled by administrator" }

/-- A call after a statement; it may be over. -/
def resume (calls : List (Nat × Stage)) (worker : Nat) : Option Stage → List (Nat × Stage)
  | some stage => put calls worker stage
  | none => remove calls worker

def jobStep (table : Keyset Int) (s : JobState) : JobAction → Option JobState
  | .getPendingJobs worker =>
    if s.row.status = .PENDING then some { s with pending := put s.pending worker s.row } else none
  | .claimJob worker => do
    let job ← get s.pending worker
    if (get s.calls worker).isSome then none
    else if s.row.status = .PENDING then
      some { s with
        row := claimJob s.row, pending := remove s.pending worker, calls := put s.calls worker (.claimed job) }
    else some { s with pending := remove s.pending worker }
  | .call worker event => do
    let stage ← get s.calls worker
    let effect ← stage.step table event
    some { s with
      row := effect.write s.row, updates := s.updates ++ effect.updated
      calls := resume s.calls worker effect.next }
  | .crash worker => some { s with pending := remove s.pending worker, calls := remove s.calls worker }
  | .retryJob admin =>
    if (s.row.status = .FAILED ∨ s.row.status = .DEFERRED) ∧ s.row.canRetry then
      some { s with retries := put s.retries admin (retriedJob s.row) }
    else none
  | .saveRetry admin => do
    let job ← get s.retries admin
    some { s with row := s.row.saved job, retries := remove s.retries admin }
  | .cancelJob admin =>
    if s.row.status = .COMPLETED then none
    else some { s with cancels := put s.cancels admin (cancelledJob s.row) }
  | .saveCancel admin => do
    let job ← get s.cancels admin
    some { s with row := s.row.saved job, cancels := remove s.cancels admin }

/-- The job is created. -/
def JobState.created (job : BackfillJob) : JobState := { row := { job with status := .PENDING, retryCount := 0 } }

/-- The row and all copies are those of a job with these settings. -/
structure Settled (settings : String × Nat) (s : JobState) : Prop where
  row : s.row.settings = settings
  pending : ∀ entry ∈ s.pending, entry.2.settings = settings
  calls : ∀ entry ∈ s.calls, entry.2.job.settings = settings
  retries : ∀ entry ∈ s.retries, entry.2.settings = settings
  cancels : ∀ entry ∈ s.cancels, entry.2.settings = settings

section Settings

variable {table : Keyset Int} {settings : String × Nat} {s s' : JobState} {action : JobAction}

theorem retried_settings (active : JobRun) (message : String) :
    (retried active message).job.settings = active.job.settings := by
  unfold retried
  split
  · rfl
  · rfl

private theorem executedBatch_settings (active : JobRun) (returned : List Int) :
    (executedBatch active returned).job.settings = active.job.settings := by
  obtain ⟨next, -, -, ⟨stage, job⟩ | ⟨stage, job⟩⟩ := executedBatch_next active returned
  · rw [stage, Stage.job, job]
    rfl
  · rw [stage, Stage.job, job]

/-- A statement of a call leaves the settings of its copy as they are. -/
theorem step_settings {stage : Stage} {event : CallEvent} {effect : Effect}
    (stepped : stage.step table event = some effect) :
    (∀ next ∈ effect.next, next.job.settings = stage.job.settings) ∧
      ∀ row ∈ effect.row, row.settings = stage.job.settings := by
  cases Stage.took stepped with
  | started | progress => exact ⟨by rintro next ⟨⟩; rfl, by rintro row ⟨⟩; rfl⟩
  | timeout => exact ⟨by rintro next ⟨⟩; rfl, by rintro row ⟨⟩⟩
  | completed | closed => exact ⟨by rintro next ⟨⟩, by rintro row ⟨⟩; rfl⟩
  | batch => simpa [Stage.job] using executedBatch_settings _ _
  | batchFailed => simpa [Stage.job] using retried_settings _ _
  | progressFailed => simpa [Stage.job] using retried_settings _ _

theorem mem_resume {calls : List (Nat × Stage)} {worker : Nat} {next : Option Stage} {entry : Nat × Stage}
    (member : entry ∈ resume calls worker next) :
    (entry.1 = worker ∧ next = some entry.2) ∨ entry ∈ calls ∧ entry.1 ≠ worker := by
  cases next with
  | none => exact .inr (mem_remove.mp member)
  | some stage =>
    rcases mem_put member with rfl | earlier
    · exact .inl ⟨rfl, rfl⟩
    · exact .inr earlier

theorem step_settled (held : Settled settings s) (stepped : jobStep table s action = some s') :
    Settled settings s' := by
  cases action with
  | getPendingJobs worker =>
    obtain ⟨-, rest⟩ := Option.ite_none_right_eq_some.mp stepped
    cases rest
    refine { held with pending := fun entry member => ?_ }
    rcases mem_put member with rfl | ⟨earlier, -⟩
    · exact held.row
    · exact held.pending entry earlier
  | claimJob worker =>
    obtain ⟨job, copy, stepped⟩ := Option.bind_eq_some_iff.mp stepped
    have fewer : ∀ entry ∈ remove s.pending worker, entry.2.settings = settings :=
      fun entry member => held.pending entry (mem_remove.mp member).1
    split at stepped
    · cases stepped
    split at stepped
    · cases stepped
      refine { held with row := held.row, pending := fewer, calls := fun entry member => ?_ }
      rcases mem_put member with rfl | ⟨earlier, -⟩
      · exact held.pending _ (mem_of_get copy)
      · exact held.calls entry earlier
    · cases stepped
      exact { held with pending := fewer }
  | call worker event =>
    obtain ⟨stage, there, stepped⟩ := Option.bind_eq_some_iff.mp stepped
    obtain ⟨effect, took, stepped⟩ := Option.bind_eq_some_iff.mp stepped
    cases stepped
    have before := held.calls _ (mem_of_get there)
    obtain ⟨later, written⟩ := step_settings took
    refine { held with row := ?_, calls := fun entry member => ?_ }
    · exact @Effect.write_holds effect _ (·.settings = settings) held.row fun row wrote =>
        (written row wrote).trans before
    · rcases mem_resume member with ⟨-, next⟩ | ⟨earlier, -⟩
      · exact (later entry.2 next).trans before
      · exact held.calls entry earlier
  | crash worker =>
    cases stepped
    exact { held with
      pending := fun entry member => held.pending entry (mem_remove.mp member).1
      calls := fun entry member => held.calls entry (mem_remove.mp member).1 }
  | retryJob admin =>
    obtain ⟨-, rest⟩ := Option.ite_none_right_eq_some.mp stepped
    cases rest
    refine { held with retries := fun entry member => ?_ }
    rcases mem_put member with rfl | ⟨earlier, -⟩
    · exact held.row
    · exact held.retries entry earlier
  | saveRetry admin =>
    obtain ⟨job, copy, stepped⟩ := Option.bind_eq_some_iff.mp stepped
    cases stepped
    exact { held with
      row := held.retries _ (mem_of_get copy)
      retries := fun entry member => held.retries entry (mem_remove.mp member).1 }
  | cancelJob admin =>
    obtain ⟨-, rest⟩ := Option.ite_none_left_eq_some.mp stepped
    cases rest
    refine { held with cancels := fun entry member => ?_ }
    rcases mem_put member with rfl | ⟨earlier, -⟩
    · exact held.row
    · exact held.cancels entry earlier
  | saveCancel admin =>
    obtain ⟨job, copy, stepped⟩ := Option.bind_eq_some_iff.mp stepped
    cases stepped
    exact { held with
      row := held.cancels _ (mem_of_get copy)
      cancels := fun entry member => held.cancels entry (mem_remove.mp member).1 }

end Settings

/-! ## Each row at most once -/

/-- Where the next batch of a call begins, while it has one that may find a row. -/
def Stage.cursor : Stage → Option Int
  | .claimed job => if job.processedRows < job.totalRows then job.lastProcessedId else none
  | .looping active => if active.processedRows < active.job.totalRows then active.lastProcessedId else none
  | .saving active => active.lastProcessedId
  | .closing _ => none

/-- A claim takes a copy that has no batch to execute, or whose cursor is not before a row that is
updated while no other call has its batch still to execute. -/
def Resumable (s : JobState) : JobAction → Prop
  | .claimJob worker => s.row.status = .PENDING →
      ∀ job ∈ get s.pending worker, (Stage.claimed job).cursor = none ∨
        (∀ entry ∈ s.calls, entry.2.cursor = none) ∧ ∀ id ∈ s.updates, ∀ cursor ∈ job.lastProcessedId, id ≤ cursor
  | _ => True

instance : ∀ s action, Decidable (Resumable s action)
  | s, .claimJob worker => inferInstanceAs (Decidable (s.row.status = .PENDING →
      ∀ job ∈ get s.pending worker, (Stage.claimed job).cursor = none ∨
        (∀ entry ∈ s.calls, entry.2.cursor = none) ∧ ∀ id ∈ s.updates, ∀ cursor ∈ job.lastProcessedId, id ≤ cursor))
  | _, .getPendingJobs _ | _, .call _ _ | _, .crash _ | _, .retryJob _ | _, .saveRetry _ | _, .cancelJob _
  | _, .saveCancel _ => isTrue trivial

section Once

variable {table : Keyset Int} {s s' : JobState} {action : JobAction}

/-- Another try begins where the last one did. -/
theorem retried_cursor (active : JobRun) (message : String) :
    (retried active message).cursor = (Stage.looping active).cursor ∨ (retried active message).cursor = none := by
  unfold retried
  split
  · exact .inr rfl
  · exact .inl rfl

private theorem executedBatch_cursor (active : JobRun) (returned : List Int) :
    (executedBatch active returned).cursor = none := by
  obtain ⟨next, lost, -, saving | looping⟩ := executedBatch_next active returned
  · rw [saving.1]
    exact lost
  · rw [looping.1]
    simp [Stage.cursor, lost]

/-- After a save the loop is where it was, or over. -/
theorem goes_on (active : JobRun) : (Stage.looping active).cursor = (Stage.saving active).cursor ∨
    (Stage.looping active).cursor = none := by
  simp only [Stage.cursor]
  split
  · exact .inl rfl
  · exact .inr rfl

/-- A statement commits the batch at the cursor, after which there is no cursor, or else it updates
nothing, and leaves the cursor or ends the batches. -/
theorem step_updates {stage : Stage} {event : CallEvent} {effect : Effect}
    (stepped : stage.step table event = some effect) :
    (∃ size, effect.updated.Perm (pageAfter table stage.cursor size) ∧ ∀ next ∈ effect.next, next.cursor = none) ∨
      effect.updated = [] ∧ ∀ next ∈ effect.next, next.cursor = stage.cursor ∨ next.cursor = none := by
  cases Stage.took stepped with
  | started =>
    refine .inr ⟨rfl, ?_⟩
    rintro next ⟨⟩
    exact .inl rfl
  | completed | closed => exact .inr ⟨rfl, by simp⟩
  | @batch active size returned more page =>
    refine .inl ⟨size, ?_, by simpa using executedBatch_cursor active returned⟩
    simpa only [Stage.cursor, more, if_true] using page
  | batchFailed =>
    refine .inr ⟨rfl, ?_⟩
    rintro next ⟨⟩
    exact retried_cursor _ _
  | timeout => exact .inr ⟨rfl, by simp [Stage.cursor]⟩
  | @progress active =>
    refine .inr ⟨rfl, ?_⟩
    rintro next ⟨⟩
    exact goes_on active
  | @progressFailed active message =>
    refine .inr ⟨rfl, ?_⟩
    rintro next ⟨⟩
    rcases retried_cursor active message with same | ends
    · rw [same]
      exact goes_on active
    · exact .inr ends

/-- No row is updated twice, at the most one call has batches to execute, and its cursor is not
before a row that is updated. -/
structure OnceInv (s : JobState) : Prop where
  once : s.updates.Nodup
  alone : ∀ entry ∈ s.calls, ∀ other ∈ s.calls, entry.2.cursor.isSome → other.2.cursor.isSome → entry.1 = other.1
  ahead : ∀ entry ∈ s.calls, ∀ cursor ∈ entry.2.cursor, ∀ id ∈ s.updates, id ≤ cursor

/-- Fewer calls, on the same table. -/
theorem OnceInv.fewer (held : OnceInv s) (same : s'.updates = s.updates) (fewer : ∀ entry ∈ s'.calls, entry ∈ s.calls) :
    OnceInv s' := by
  refine ⟨same ▸ held.once, ?_, ?_⟩
  · intro entry member other there
    exact held.alone entry (fewer entry member) other (fewer other there)
  · rw [same]
    intro entry member
    exact held.ahead entry (fewer entry member)

/-- After a statement of the call that has batches to execute, no other call has any. -/
theorem resume_alone {worker : Nat} {stage : Stage} (held : OnceInv s) (there : (worker, stage) ∈ s.calls)
    (live : stage.cursor.isSome) (next : Option Stage) :
    ∀ entry ∈ resume s.calls worker next, entry.2.cursor.isSome → entry.1 = worker ∧ next = some entry.2 := by
  intro entry member living
  rcases mem_resume member with here | ⟨earlier, other⟩
  · exact here
  · exact absurd (held.alone entry earlier _ there living live) other

private theorem step_once (held : OnceInv s) (admitted : Resumable s action) (stepped : jobStep table s action = some s') :
    OnceInv s' := by
  cases action with
  | getPendingJobs worker | retryJob worker | cancelJob worker =>
    simp only [jobStep] at stepped
    split at stepped
    all_goals cases stepped
    all_goals exact held.fewer rfl fun _ member => member
  | saveRetry admin | saveCancel admin =>
    obtain ⟨job, -, stepped⟩ := Option.bind_eq_some_iff.mp stepped
    cases stepped
    exact held.fewer rfl fun _ member => member
  | crash worker =>
    cases stepped
    exact held.fewer rfl fun _ member => (mem_remove.mp member).1
  | claimJob worker =>
    obtain ⟨job, copy, stepped⟩ := Option.bind_eq_some_iff.mp stepped
    split at stepped
    · cases stepped
    split at stepped
    · rename_i pending
      cases stepped
      have came : ∀ entry ∈ put s.calls worker (.claimed job), entry.2.cursor.isSome →
          entry = (worker, .claimed job) ∧ (Stage.claimed job).cursor ≠ none ∨ entry ∈ s.calls := by
        intro entry member live
        rcases mem_put member with rfl | ⟨earlier, -⟩
        · exact .inl ⟨rfl, Option.isSome_iff_ne_none.mp live⟩
        · exact .inr earlier
      rcases admitted pending job copy with idle | ⟨none, ahead⟩
      · -- the call has nothing to execute
        have older : ∀ entry ∈ put s.calls worker (.claimed job), entry.2.cursor.isSome → entry ∈ s.calls := by
          intro entry member live
          rcases came entry member live with ⟨-, goes⟩ | earlier
          · exact absurd idle goes
          · exact earlier
        refine ⟨held.once, ?_, ?_⟩
        · intro entry member other there live living
          exact held.alone entry (older entry member live) other (older other there living) live living
        · intro entry member cursor at_cursor
          exact held.ahead entry (older entry member (Option.isSome_of_mem at_cursor)) cursor at_cursor
      · have only : ∀ entry ∈ put s.calls worker (.claimed job), entry.2.cursor.isSome →
            entry = (worker, .claimed job) := by
          intro entry member live
          rcases came entry member live with ⟨new, -⟩ | earlier
          · exact new
          · rw [none entry earlier] at live
            cases live
        refine ⟨held.once, ?_, ?_⟩
        · intro entry member other there live living
          rw [only entry member live, only other there living]
        · intro entry member cursor at_cursor id updated
          rw [only entry member (Option.isSome_of_mem at_cursor)] at at_cursor
          simp only [Stage.cursor] at at_cursor
          split at at_cursor
          · exact ahead id updated cursor at_cursor
          · cases at_cursor
    · cases stepped
      exact held.fewer rfl fun _ member => member
  | call worker event =>
    obtain ⟨stage, there, stepped⟩ := Option.bind_eq_some_iff.mp stepped
    obtain ⟨effect, took, stepped⟩ := Option.bind_eq_some_iff.mp stepped
    cases stepped
    have before := mem_of_get there
    rcases step_updates took with ⟨size, result, ends⟩ | ⟨nothing, stays⟩
    · have fresh : ∀ id ∈ effect.updated, id ∉ s.updates := by
        intro id now earlier
        obtain ⟨cursor, begins, page⟩ := mem_pageAfter (result.mem_iff.mp now)
        have above := (Keyset.mem_after.mp (Keyset.page_subset page)).2
        exact absurd (held.ahead _ before cursor begins id earlier) (not_le.mpr above)
      cases begins : stage.cursor with
      | none =>
        have nothing : effect.updated = [] := by simpa [begins, pageAfter] using result
        have older : ∀ entry ∈ resume s.calls worker effect.next, entry.2.cursor.isSome → entry ∈ s.calls := by
          intro entry member live
          rcases mem_resume member with ⟨-, next⟩ | ⟨earlier, -⟩
          · rw [ends entry.2 next] at live
            cases live
          · exact earlier
        simp only [nothing, List.append_nil]
        refine ⟨held.once, fun entry member other there live living => ?_, fun entry member later at_later => ?_⟩
        · exact held.alone entry (older entry member live) other (older other there living) live living
        · exact held.ahead entry (older entry member (Option.isSome_of_mem at_later)) later at_later
      | some cursor =>
        -- the call that had the cursor has none after its batch, and no other call has one
        have cleared : ∀ entry ∈ resume s.calls worker effect.next, entry.2.cursor = none := by
          intro entry member
          by_contra live
          rw [← Ne, ← Option.isSome_iff_ne_none] at live
          have here := (resume_alone held before (by rw [begins]; rfl) effect.next entry member live).2
          rw [ends entry.2 here] at live
          cases live
        refine ⟨?_, fun entry member other there live => ?_, fun entry member later at_later => ?_⟩
        · exact held.once.append (result.nodup_iff.mpr pageAfter_nodup) fun id earlier now => fresh id now earlier
        · rw [cleared entry member] at live
          cases live
        · rw [cleared entry member] at at_later
          cases at_later
    · simp only [nothing, List.append_nil]
      refine ⟨held.once, ?_, ?_⟩
      · have came : ∀ entry ∈ resume s.calls worker effect.next, entry.2.cursor.isSome →
            ∃ earlier ∈ s.calls, earlier.1 = entry.1 ∧ earlier.2.cursor.isSome := by
          intro entry member live
          rcases mem_resume member with ⟨here, next⟩ | ⟨earlier, -⟩
          · rcases stays entry.2 next with same | ends
            · exact ⟨_, before, here.symm, same ▸ live⟩
            · rw [ends] at live
              cases live
          · exact ⟨entry, earlier, rfl, live⟩
        intro entry member other there live living
        obtain ⟨first, in_calls, first_key, first_live⟩ := came entry member live
        obtain ⟨second, in_calls', second_key, second_live⟩ := came other there living
        rw [← first_key, ← second_key]
        exact held.alone first in_calls second in_calls' first_live second_live
      · intro entry member later at_later
        rcases mem_resume member with ⟨-, next⟩ | ⟨earlier, -⟩
        · rcases stays entry.2 next with same | ends
          · exact held.ahead _ before later (same ▸ at_later)
          · rw [ends] at at_later
            cases at_later
        · exact held.ahead entry earlier later at_later

end Once

/-- In a run whose claims find nothing to execute, or a cursor that covers what is updated and no other
call with a batch to execute, no row is updated twice. -/
theorem updated_once {table : Keyset Int} {job : BackfillJob} {actions : List JobAction} {s : JobState}
    (admitted : Admits (jobStep table) Resumable (.created job) actions)
    (ran : run (jobStep table) (.created job) actions = some s) : ∀ id, s.updates.count id ≤ 1 := by
  have start : OnceInv (.created job) := by
    refine ⟨List.nodup_nil, ?_, ?_⟩
    · rintro entry ⟨⟩
    · rintro entry ⟨⟩
  have held := run_inv (fun held admitted stepped => step_once held admitted stepped) start admitted ran
  exact List.nodup_iff_count_le_one.mp held.once

/-- A failure, a batch, a second one which finds nothing, and a claim of another worker which comes
too late. -/
def twoBatches : List JobAction :=
  [.getPendingJobs 0, .getPendingJobs 1, .claimJob 0, .claimJob 1, .call 0 .saved,
    .call 0 (.batchFailed "deadlock detected"), .call 0 (.batch 1 [1]), .call 0 (.batch 1 []), .call 0 .saved]

theorem updated_once_two_batches :
    ∃ s, run (jobStep twoRows) (.created (usersJob 4)) twoBatches = some s ∧ s.row.status = .COMPLETED ∧
      s.updates = [1] ∧ ∀ id, s.updates.count id ≤ 1 := by
  have admitted : Admits (jobStep twoRows) Resumable (.created (usersJob 4)) twoBatches := by decide
  exact ⟨_, rfl, rfl, rfl, updated_once admitted rfl⟩

/-- The worker ends after a batch. The job is cancelled, retried and claimed again, and the batch is
executed once more. -/
theorem retry_updates_again :
    ∃ s, run (jobStep twoRows) (.created (usersJob 2))
        [.getPendingJobs 0, .claimJob 0, .call 0 .saved, .call 0 (.batch 1 [1]), .crash 0, .cancelJob 0,
          .saveCancel 0, .retryJob 0, .saveRetry 0, .getPendingJobs 1, .claimJob 1, .call 1 .saved,
          .call 1 (.batch 1 [1])] = some s ∧ s.updates.count 1 = 2 :=
  ⟨_, rfl, rfl⟩

/-! ## Cancellations and retries -/

/-- The status that the copy of a call may have. -/
def Stage.Fine : Stage → Prop
  | .claimed _ => True
  | .looping active => active.job.status = .PROCESSING
  | .saving active => active.job.status = .PROCESSING
  | .closing job => job.status = .FAILED ∨ job.status = .COMPLETED

/-- A call that only has to save that the job has failed. -/
def Stage.failed : Stage → Bool
  | .closing job => job.status = .FAILED
  | _ => false

def JobAction.isSaveRetry : JobAction → Bool
  | .saveRetry _ => true
  | _ => false

def JobAction.isBatch : JobAction → Bool
  | .call _ (.batch _ _) => true
  | .call _ (.batchFailed _) => true
  | _ => false

/-- Until a retry is saved, the job is neither processed nor completed, and no batch is executed. -/
def StaysCancelled (table : Keyset Int) (s : JobState) : Prop :=
  ∀ actions s', run (jobStep table) s actions = some s' → (∀ action ∈ actions, action.isSaveRetry = false) →
    s'.row.status ≠ .PROCESSING ∧ s'.row.status ≠ .COMPLETED ∧ ∀ action ∈ actions, action.isBatch = false

/-- The row is moved from failed back to pending. -/
def Moved (taken : Taken JobState JobAction) : Bool :=
  taken.before.row.status = .FAILED && taken.after.row.status = .PENDING

/-- A step that saves a cancellation is one that holds. -/
def CancellationHolds (table : Keyset Int) (taken : Taken JobState JobAction) : Prop :=
  ∀ admin, taken.action = .saveCancel admin → StaysCancelled table taken.after

/-- A cancellation is saved when no call is before its last save, or that is the save of a failure. -/
def CancelledAtRest (s : JobState) : JobAction → Prop
  | .saveCancel _ => ∀ entry ∈ s.calls, entry.2.failed = true
  | _ => True

section Limits

variable {table : Keyset Int} {s s' : JobState} {action : JobAction} {stage : Stage} {event : CallEvent}
  {effect : Effect} {settings : String × Nat}

theorem retried_fine {active : JobRun} {message : String} (status : active.job.status = .PROCESSING) :
    (retried active message).Fine := by
  unfold retried
  split
  · exact .inl rfl
  · exact status

private theorem executedBatch_fine {active : JobRun} {returned : List Int} (status : active.job.status = .PROCESSING) :
    (executedBatch active returned).Fine := by
  obtain ⟨next, -, -, ⟨stage, job⟩ | ⟨stage, job⟩⟩ := executedBatch_next active returned
  all_goals
    rw [stage]
    show next.job.status = _
    rw [job]
    exact status

/-- A statement of a call keeps the copy as it may be, and does not write a pending row. -/
theorem step_fine (held : stage.Fine) (stepped : stage.step table event = some effect) :
    (∀ next ∈ effect.next, next.Fine) ∧ ∀ row ∈ effect.row, row.status ≠ .PENDING := by
  cases Stage.took stepped with
  | started => simp [Stage.Fine, BackfillJob.markAsStarted]
  | completed => simp [completed, BackfillJob.markAsCompleted]
  | batch => simpa using executedBatch_fine held
  | @batchFailed active =>
    have fine := @retried_fine { active with batchCount := active.batchCount + 1 }
    simpa using fine held
  | timeout => simp [Stage.Fine, BackfillJob.markAsFailed]
  | @progress active =>
    have status : active.job.status = .PROCESSING := held
    simp [Stage.Fine, status]
  | progressFailed => simpa using retried_fine held
  | closed =>
    rcases held with failed | complete
    · simp [failed]
    · simp [complete]

/-- A call that has only to save its failure does so, and executes no batch. -/
theorem step_failed (failed : stage.failed = true) (stepped : stage.step table event = some effect) :
    event = .saved ∧ effect.next = none ∧ ∀ row ∈ effect.row, row.status = .FAILED := by
  cases Stage.took stepped with
  | started | completed | batch | batchFailed | timeout | progress | progressFailed => cases failed
  | closed =>
    refine ⟨rfl, rfl, ?_⟩
    rintro row ⟨⟩
    exact of_decide_eq_true failed

/-- Besides, the copies to be saved are cancelled or, if the limit admits it, retried. -/
structure Limited (settings : String × Nat) (s : JobState) : Prop where
  settled : Settled settings s
  calls : ∀ entry ∈ s.calls, entry.2.Fine
  cancels : ∀ entry ∈ s.cancels, entry.2.status = .FAILED
  retries : ∀ entry ∈ s.retries, 0 < settings.2
  distinct : Distinct s.calls

private theorem resume_distinct {calls : List (Nat × Stage)} (distinct : Distinct calls) (worker : Nat)
    (next : Option Stage) : Distinct (resume calls worker next) := by
  cases next with
  | none => exact distinct.remove worker
  | some stage => exact distinct.put worker stage

theorem step_limited (held : Limited settings s) (stepped : jobStep table s action = some s') :
    Limited settings s' := by
  have settled := step_settled held.settled stepped
  cases action with
  | getPendingJobs worker =>
    obtain ⟨-, rest⟩ := Option.ite_none_right_eq_some.mp stepped
    cases rest
    exact { held with settled }
  | claimJob worker =>
    obtain ⟨job, -, stepped⟩ := Option.bind_eq_some_iff.mp stepped
    split at stepped
    · cases stepped
    split at stepped
    · cases stepped
      refine { held with settled, calls := fun entry member => ?_, distinct := held.distinct.put _ _ }
      rcases mem_put member with rfl | ⟨earlier, -⟩
      · trivial
      · exact held.calls entry earlier
    · cases stepped
      exact { held with settled }
  | call worker event =>
    obtain ⟨stage, there, stepped⟩ := Option.bind_eq_some_iff.mp stepped
    obtain ⟨effect, took, stepped⟩ := Option.bind_eq_some_iff.mp stepped
    cases stepped
    have later := (step_fine (held.calls _ (mem_of_get there)) took).1
    refine { held with settled, calls := fun entry member => ?_, distinct := resume_distinct held.distinct _ _ }
    rcases mem_resume member with ⟨-, next⟩ | ⟨earlier, -⟩
    · exact later entry.2 next
    · exact held.calls entry earlier
  | crash worker =>
    cases stepped
    exact { held with
      settled, calls := fun entry member => held.calls entry (mem_remove.mp member).1
      distinct := held.distinct.remove worker }
  | retryJob admin =>
    obtain ⟨admitted, rest⟩ := Option.ite_none_right_eq_some.mp stepped
    cases rest
    have limit : s.row.maxRetries = settings.2 := congrArg Prod.snd held.settled.row
    have below := admitted.2
    simp only [BackfillJob.canRetry, Bool.and_eq_true, decide_eq_true_eq, limit] at below
    exact { held with settled, retries := fun _ _ => by omega }
  | saveRetry admin =>
    obtain ⟨job, -, stepped⟩ := Option.bind_eq_some_iff.mp stepped
    cases stepped
    exact { held with settled, retries := fun entry member => held.retries entry (mem_remove.mp member).1 }
  | cancelJob admin =>
    obtain ⟨-, rest⟩ := Option.ite_none_left_eq_some.mp stepped
    cases rest
    refine { held with settled, cancels := fun entry member => ?_ }
    rcases mem_put member with rfl | ⟨earlier, -⟩
    · rfl
    · exact held.cancels entry earlier
  | saveCancel admin =>
    obtain ⟨job, -, stepped⟩ := Option.bind_eq_some_iff.mp stepped
    cases stepped
    exact { held with settled, cancels := fun entry member => held.cancels entry (mem_remove.mp member).1 }

/-- Only a retry that the limit admits writes a pending row. -/
theorem step_pending (held : Limited settings s) (stepped : jobStep table s action = some s')
    (moved : Moved ⟨s, action, s'⟩ = true) : 0 < settings.2 := by
  simp only [Moved, Bool.and_eq_true, decide_eq_true_eq] at moved
  obtain ⟨before, after⟩ := moved
  cases action with
  | saveRetry admin =>
    obtain ⟨job, copy, -⟩ := Option.bind_eq_some_iff.mp stepped
    exact held.retries _ (mem_of_get copy)
  | getPendingJobs worker | retryJob admin | cancelJob admin =>
    simp only [jobStep] at stepped
    split at stepped
    all_goals cases stepped
    all_goals simp [before] at after
  | crash worker =>
    cases stepped
    simp [before] at after
  | claimJob worker =>
    obtain ⟨job, copy, stepped⟩ := Option.bind_eq_some_iff.mp stepped
    split at stepped
    · cases stepped
    split at stepped
    · cases stepped
      cases after
    · cases stepped
      simp [before] at after
  | call worker event =>
    obtain ⟨stage, there, stepped⟩ := Option.bind_eq_some_iff.mp stepped
    obtain ⟨effect, took, stepped⟩ := Option.bind_eq_some_iff.mp stepped
    cases stepped
    obtain ⟨-, written⟩ := step_fine (held.calls _ (mem_of_get there)) took
    refine absurd after ?_
    exact @Effect.write_holds effect _ (·.status ≠ .PENDING) (by simp [before]) written
  | saveCancel admin =>
    obtain ⟨job, copy, stepped⟩ := Option.bind_eq_some_iff.mp stepped
    cases stepped
    have failed : job.status = .FAILED := held.cancels _ (mem_of_get copy)
    simp [BackfillJob.saved, failed] at after

/-- The job is cancelled, and nothing is in hand that would write another status. -/
structure Quiet (s : JobState) : Prop where
  row : s.row.status = .FAILED
  calls : ∀ entry ∈ s.calls, entry.2.failed = true
  cancels : ∀ entry ∈ s.cancels, entry.2.status = .FAILED

private theorem step_quiet (held : Quiet s) (other : action.isSaveRetry = false)
    (stepped : jobStep table s action = some s') : Quiet s' ∧ action.isBatch = false := by
  cases action with
  | saveRetry admin => cases other
  | getPendingJobs worker =>
    simp [jobStep, held.row] at stepped
  | claimJob worker =>
    obtain ⟨job, copy, stepped⟩ := Option.bind_eq_some_iff.mp stepped
    split at stepped
    · cases stepped
    rw [if_neg (by simp [held.row])] at stepped
    cases stepped
    exact ⟨⟨held.row, held.calls, held.cancels⟩, rfl⟩
  | call worker event =>
    obtain ⟨stage, there, stepped⟩ := Option.bind_eq_some_iff.mp stepped
    obtain ⟨effect, took, stepped⟩ := Option.bind_eq_some_iff.mp stepped
    cases stepped
    obtain ⟨rfl, over_now, written⟩ := step_failed (held.calls _ (mem_of_get there)) took
    refine ⟨⟨?_, ?_, held.cancels⟩, rfl⟩
    · exact @Effect.write_holds effect _ (·.status = .FAILED) held.row written
    · rw [over_now]
      exact fun entry member => held.calls entry (mem_remove.mp member).1
  | crash worker =>
    cases stepped
    exact ⟨⟨held.row, fun entry member => held.calls entry (mem_remove.mp member).1, held.cancels⟩, rfl⟩
  | retryJob admin =>
    simp only [jobStep] at stepped
    split at stepped
    · cases stepped
      exact ⟨⟨held.row, held.calls, held.cancels⟩, rfl⟩
    · cases stepped
  | cancelJob admin =>
    simp only [jobStep] at stepped
    split at stepped
    · cases stepped
    · cases stepped
      refine ⟨⟨held.row, held.calls, fun entry member => ?_⟩, rfl⟩
      rcases mem_put member with rfl | ⟨earlier, -⟩
      · rfl
      · exact held.cancels entry earlier
  | saveCancel admin =>
    obtain ⟨job, copy, stepped⟩ := Option.bind_eq_some_iff.mp stepped
    cases stepped
    exact ⟨⟨held.cancels _ (mem_of_get copy), held.calls,
      fun entry member => held.cancels entry (mem_remove.mp member).1⟩, rfl⟩

private theorem quiet_stays (held : Quiet s) : StaysCancelled table s := by
  intro actions
  induction actions generalizing s with
  | nil =>
    rintro s' ⟨⟩ -
    refine ⟨?_, ?_, by simp⟩
    · simp [held.row]
    · simp [held.row]
  | cons action rest ih =>
    intro s' ran others
    obtain ⟨next, stepped, later⟩ := Option.bind_eq_some_iff.mp ran
    obtain ⟨still, batch⟩ := step_quiet held (others action List.mem_cons_self) stepped
    obtain ⟨processing, complete, batches⟩ := ih still s' later fun action member =>
      others action (List.mem_cons_of_mem _ member)
    refine ⟨processing, complete, ?_⟩
    rw [List.forall_mem_cons]
    exact ⟨batch, batches⟩

/-- A call that is not over executes a batch or writes another status than that of a cancelled job. -/
theorem not_stays {worker : Nat} (limited : Limited settings s) (there : (worker, stage) ∈ s.calls)
    (going : stage.failed = false) : ¬ StaysCancelled table s := by
  intro stays
  have found : get s.calls worker = some stage := (mem_iff_get limited.distinct).mp there
  have follows : ∀ event effect, stage.step table event = some effect → (effect.write s.row).status ≠ .PROCESSING ∧
      (effect.write s.row).status ≠ .COMPLETED ∧ (JobAction.call worker event).isBatch = false := by
    intro event effect stepped
    have ran : run (jobStep table) s [.call worker event] = some { s with
        row := effect.write s.row, updates := s.updates ++ effect.updated
        calls := resume s.calls worker effect.next } := by
      simp [run, jobStep, found, stepped]
    obtain ⟨processing, complete, batch⟩ := stays _ _ ran (by simp [JobAction.isSaveRetry])
    exact ⟨processing, complete, batch _ List.mem_cons_self⟩
  have fine := limited.calls _ there
  cases stage with
  | claimed job => exact (follows .saved _ rfl).1 rfl
  | saving active => exact (follows .saved _ rfl).1 fine
  | closing job =>
    rcases fine with failed | complete
    · simp [Stage.failed, failed] at going
    · exact (follows .saved _ rfl).2.1 complete
  | looping active =>
    by_cases more : active.processedRows < active.job.totalRows
    · have batch := follows (.batch 1 (pageAfter table active.lastProcessedId 1)) _
        (if_pos ⟨more, Nat.one_pos, List.Perm.refl _⟩)
      cases batch.2.2
    · exact (follows .saved _ (if_neg more)).2.1 rfl

private theorem cancellation_iff (held : Limited settings s) (stepped : jobStep table s action = some s') :
    CancellationHolds table ⟨s, action, s'⟩ ↔ CancelledAtRest s action := by
  cases action with
  | saveCancel admin =>
    have after := step_limited held stepped
    obtain ⟨job, copy, stepped⟩ := Option.bind_eq_some_iff.mp stepped
    cases stepped
    constructor
    · intro holds entry member
      by_contra going
      exact not_stays after (show (entry.1, entry.2) ∈ s.calls from member) (Bool.eq_false_of_not_eq_true going)
        (holds admin rfl)
    · intro rest other _
      apply quiet_stays
      exact ⟨held.cancels _ (mem_of_get copy), rest,
        fun entry member => held.cancels entry (mem_remove.mp member).1⟩
  | getPendingJobs | claimJob | call | crash | retryJob | saveRetry | cancelJob =>
    exact ⟨fun _ => trivial, fun _ admin other => by cases other⟩

end Limits

section Retries

variable {table : Keyset Int} {s : JobState}

/-- A failed job is pending again after one cancellation and one retry, as often as wanted. -/
def cancelAndRetry : List JobAction := [.cancelJob 0, .saveCancel 0, .retryJob 0, .saveRetry 0]

theorem cycle {row : BackfillJob} (pending : row.status = .PENDING) (count : row.retryCount = 0)
    (limit : 0 < row.maxRetries) (later : List JobAction) :
    (trace (jobStep table) { row } (cancelAndRetry ++ later)).countP Moved =
      (trace (jobStep table) { row := retriedJob (cancelledJob row) } later).countP Moved + 1 := by
  have cancel : jobStep table { row } (.cancelJob 0) = some { row, cancels := [(0, cancelledJob row)] } := by
    simp [jobStep, pending, put]
  have cancelled : jobStep table { row, cancels := [(0, cancelledJob row)] } (.saveCancel 0) =
      some { row := cancelledJob row } := by
    have same : row.saved (cancelledJob row) = cancelledJob row := BackfillJob.saved_of_cursor rfl
    show some (JobState.mk (row.saved (cancelledJob row)) [] [] [] [] []) = _
    rw [same]
  have retry : jobStep table { row := cancelledJob row } (.retryJob 0) =
      some { row := cancelledJob row, retries := [(0, retriedJob (cancelledJob row))] } := by
    simp [jobStep, put, BackfillJob.canRetry, cancelledJob, count, limit]
  have retried : jobStep table { row := cancelledJob row, retries := [(0, retriedJob (cancelledJob row))] }
      (.saveRetry 0) = some { row := retriedJob (cancelledJob row) } := rfl
  simp only [cancelAndRetry, List.cons_append, List.nil_append, trace, cancel, cancelled, retry, retried,
    List.countP_cons]
  simp [Moved, pending, cancelledJob, retriedJob]

theorem cycles {row : BackfillJob} (pending : row.status = .PENDING) (count : row.retryCount = 0)
    (limit : 0 < row.maxRetries) (n : Nat) :
    (trace (jobStep table) { row } (List.replicate n cancelAndRetry).flatten).countP Moved = n := by
  induction n generalizing row with
  | zero => rfl
  | succ n ih =>
    rw [List.replicate_succ, List.flatten_cons, cycle pending count limit, @ih (retriedJob (cancelledJob row)) rfl rfl limit]

end Retries

theorem created_settled (job : BackfillJob) : Settled job.settings (.created job) where
  row := rfl
  pending := by rintro entry ⟨⟩
  calls := by rintro entry ⟨⟩
  cancels := by rintro entry ⟨⟩
  retries := by rintro entry ⟨⟩

theorem created_limited (job : BackfillJob) : Limited job.settings (.created job) where
  settled := created_settled job
  calls := by rintro entry ⟨⟩
  cancels := by rintro entry ⟨⟩
  retries := by rintro entry ⟨⟩
  distinct := List.nodup_nil

/-- The cancellations of a run hold if and only if each one is saved when no call has anything left
but the save of a failure. The limit of the retries holds in all runs if and only if it is 0. -/
theorem cancelled_and_limited (table : Keyset Int) (job : BackfillJob) :
    (∀ actions, (∀ taken ∈ trace (jobStep table) (.created job) actions, CancellationHolds table taken) ↔
      ∀ taken ∈ trace (jobStep table) (.created job) actions, CancelledAtRest taken.before taken.action) ∧
    ((∀ actions, (trace (jobStep table) (.created job) actions).countP Moved ≤ job.maxRetries) ↔
      job.maxRetries = 0) := by
  refine ⟨fun actions => ?_, fun limits => ?_, fun none actions => ?_⟩
  · exact trace_exact (fun held stepped => cancellation_iff held stepped)
      (fun held _ stepped => step_limited held stepped) (created_limited job)
  · by_contra positive
    have moves := @cycles table { job with status := .PENDING, retryCount := 0 } rfl rfl
      (Nat.pos_of_ne_zero positive) (job.maxRetries + 1)
    have bound := limits (List.replicate (job.maxRetries + 1) cancelAndRetry).flatten
    have counted : (trace (jobStep table) (.created job)
        (List.replicate (job.maxRetries + 1) cancelAndRetry).flatten).countP Moved = job.maxRetries + 1 := moves
    omega
  · rw [none, Nat.le_zero, List.countP_eq_zero]
    intro taken member moved
    obtain ⟨held, -, stepped⟩ := trace_inv (fun held _ stepped => step_limited held stepped)
      (created_limited job) admits_true taken member
    have positive : 0 < job.maxRetries := step_pending held stepped moved
    omega

/-- A worker goes on after a cancellation and completes the job. A job with one retry is retried
twice. -/
theorem cancelled_job_completes :
    (∃ s s', run (jobStep twoRows) (.created (usersJob 2))
          [.getPendingJobs 0, .claimJob 0, .call 0 .saved, .cancelJob 0, .saveCancel 0] = some s ∧
        s.row.status = .FAILED ∧
        run (jobStep twoRows) s [.call 0 (.batch 2 [1, 2]), .call 0 .saved] = some s' ∧
        s'.updates = [1, 2] ∧ s'.row.status = .COMPLETED) ∧
      (trace (jobStep twoRows) (.created { usersJob 2 with maxRetries := 1 })
        (cancelAndRetry ++ cancelAndRetry)).countP Moved = 2 :=
  ⟨⟨_, _, rfl, rfl, rfl, rfl, rfl⟩, rfl⟩

end DriverMicroServices.Backfill
