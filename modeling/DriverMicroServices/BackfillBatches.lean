import DriverMicroServices.BackfillWorkers
import DriverMicroServices.Tables.Keyset

/-! A call of `processJobInBatches`. Each batch counts two rows, the parts of the driver's answer, and
leaves the cursor undefined: the first batch is the last one that finds a row. -/
namespace DriverMicroServices.Backfill
open Transitions Tables

/-- `claimJob` writes this to a pending row. -/
def claimJob (row : BackfillJob) : BackfillJob :=
  { row with status := .PROCESSING, retryCount := 0, errorMessage := none }

/-- `WHERE id > $1 ORDER BY id LIMIT $2`. No id is greater than an undefined cursor. -/
def pageAfter (table : Keyset Int) (cursor : Option Int) (batchSize : Nat) : List Int :=
  cursor.elim [] (table.page · batchSize)

/-- Where a call stands between two of its statements. -/
inductive Stage where
  /-- The row is claimed, and the copy of the call is as it was read before. -/
  | claimed (job : BackfillJob)
  | looping (active : JobRun)
  /-- A fifth batch is committed, and its progress not yet saved. -/
  | saving (active : JobRun)
  /-- Before the last `save`. -/
  | closing (job : BackfillJob)
deriving DecidableEq

/-- What becomes of the next statement of a call. -/
inductive CallEvent where
  | saved
  | saveFailed (message : String)
  /-- The batch is committed. `returned` are its ids as `RETURNING` lists them. -/
  | batch (batchSize : Nat) (returned : List Int)
  | batchFailed (message : String)
  | timeout

/-- What a statement saves of the job and updates in the table, and where the call is then. -/
structure Effect where
  row : Option BackfillJob := none
  updated : List Int := []
  next : Option Stage := none

/-- The row after the statement. -/
def Effect.write (effect : Effect) (row : BackfillJob) : BackfillJob := effect.row.elim row row.saved

/-- What holds of the row and of what is saved over it. -/
theorem Effect.write_holds {effect : Effect} {row : BackfillJob} {holds : BackfillJob → Prop} (before : holds row)
    (written : ∀ copy ∈ effect.row, holds (row.saved copy)) : holds (effect.write row) := by
  unfold Effect.write
  cases wrote : effect.row with
  | none => exact before
  | some copy => exact written copy wrote

/-- What is saved after the loop. -/
def completed (active : JobRun) : BackfillJob :=
  (active.job.updateProgress active.processedRows active.lastProcessedId).markAsCompleted

/-- The `catch` of the loop. -/
def retried (active : JobRun) (message : String) : Stage :=
  if active.job.maxRetries < active.retryCount + 1 then .closing (active.job.markAsFailed message)
  else .looping { active with retryCount := active.retryCount + 1 }

/-- The loop with the result of `executeBatchWithAtomicCheckpoint`. -/
def executedBatch (active : JobRun) (returned : List Int) : Stage :=
  let result := batchResult active.lastProcessedId returned
  if result.processedRows = 0 then .closing (completed active)
  else
    let batchCount := active.batchCount + 1
    let processedRows := active.processedRows + result.processedRows
    let lastProcessedId := result.lastProcessedId
    if batchCount % 5 = 0 then
      .saving { active with
        job := active.job.updateProgress processedRows lastProcessedId, processedRows, lastProcessedId, batchCount }
    else .looping { active with processedRows, lastProcessedId, batchCount, retryCount := 0 }

/-- One statement of `processJobInBatches`. -/
def Stage.step (table : Keyset Int) : Stage → CallEvent → Option Effect
  | .claimed job, .saved =>
    let started := job.markAsStarted
    some { row := some started
           next := some (.looping {
             job := started, processedRows := started.processedRows, lastProcessedId := started.lastProcessedId }) }
  | .looping active, .saved =>
    if active.processedRows < active.job.totalRows then none else some { row := some (completed active) }
  | .looping active, .batch batchSize returned =>
    if active.processedRows < active.job.totalRows ∧ 0 < batchSize ∧
        returned.Perm (pageAfter table active.lastProcessedId batchSize) then
      some { updated := returned, next := some (executedBatch active returned) }
    else none
  | .looping active, .batchFailed message =>
    if active.processedRows < active.job.totalRows then
      some { next := some (retried { active with batchCount := active.batchCount + 1 } message) }
    else none
  | .looping active, .timeout =>
    if active.processedRows < active.job.totalRows then
      some { next := some (.closing (active.job.markAsFailed "Job timeout")) }
    else none
  | .saving active, .saved => some { row := some active.job, next := some (.looping { active with retryCount := 0 }) }
  | .saving active, .saveFailed message => some { next := some (retried active message) }
  | .closing job, .saved => some { row := some job }
  | _, _ => none

/-- The copy of a call. -/
def Stage.job : Stage → BackfillJob
  | .claimed job => job
  | .looping active => active.job
  | .saving active => active.job
  | .closing job => job

/-- What the statement of a call does, by where the call stands. -/
inductive Stage.Took (table : Keyset Int) : Stage → CallEvent → Effect → Prop
  | started {job : BackfillJob} : Took table (.claimed job) .saved
    { row := some job.markAsStarted
      next := some (.looping {
        job := job.markAsStarted, processedRows := job.processedRows, lastProcessedId := job.lastProcessedId }) }
  | completed {active : JobRun} (done : ¬ active.processedRows < active.job.totalRows) :
    Took table (.looping active) .saved { row := some (completed active) }
  | batch {active : JobRun} {size : Nat} {returned : List Int} (more : active.processedRows < active.job.totalRows)
    (page : returned.Perm (pageAfter table active.lastProcessedId size)) :
    Took table (.looping active) (.batch size returned) { updated := returned, next := some (executedBatch active returned) }
  | batchFailed {active : JobRun} {message : String} : Took table (.looping active) (.batchFailed message)
    { next := some (retried { active with batchCount := active.batchCount + 1 } message) }
  | timeout {active : JobRun} : Took table (.looping active) .timeout
    { next := some (.closing (active.job.markAsFailed "Job timeout")) }
  | progress {active : JobRun} : Took table (.saving active) .saved
    { row := some active.job, next := some (.looping { active with retryCount := 0 }) }
  | progressFailed {active : JobRun} {message : String} : Took table (.saving active) (.saveFailed message)
    { next := some (retried active message) }
  | closed {job : BackfillJob} : Took table (.closing job) .saved { row := some job }

theorem Stage.took {table : Keyset Int} {stage : Stage} {event : CallEvent} {effect : Effect}
    (stepped : stage.step table event = some effect) : stage.Took table event effect := by
  cases stage with
  | claimed job =>
    cases event with
    | saved =>
      cases stepped
      exact .started
    | saveFailed | batch | batchFailed | timeout => cases stepped
  | saving active =>
    cases event with
    | saved =>
      cases stepped
      exact .progress
    | saveFailed message =>
      cases stepped
      exact .progressFailed
    | batch | batchFailed | timeout => cases stepped
  | closing job =>
    cases event with
    | saved =>
      cases stepped
      exact .closed
    | saveFailed | batch | batchFailed | timeout => cases stepped
  | looping active =>
    cases event with
    | saveFailed => cases stepped
    | saved =>
      obtain ⟨done, rest⟩ := Option.ite_none_left_eq_some.mp stepped
      cases rest
      exact .completed done
    | batch size returned =>
      obtain ⟨⟨more, -, page⟩, rest⟩ := Option.ite_none_right_eq_some.mp stepped
      cases rest
      exact .batch more page
    | batchFailed message =>
      obtain ⟨-, rest⟩ := Option.ite_none_right_eq_some.mp stepped
      cases rest
      exact .batchFailed
    | timeout =>
      obtain ⟨-, rest⟩ := Option.ite_none_right_eq_some.mp stepped
      cases rest
      exact .timeout

/-- The row of a job, the ids of the table in the order of their updates, and a call that nothing
else disturbs. -/
structure CallState where
  row : BackfillJob
  updates : List Int := []
  call : Option Stage

def callStep (table : Keyset Int) (s : CallState) (event : CallEvent) : Option CallState := do
  let stage ← s.call
  let effect ← stage.step table event
  some { row := effect.write s.row, updates := s.updates ++ effect.updated, call := effect.next }

/-- The job is claimed. -/
def CallState.start (job : BackfillJob) : CallState := { row := claimJob job, call := some (.claimed job) }

/-- All rows after the first cursor are updated, and the stored cursor is the greatest of them. -/
def Covers (table : Keyset Int) (cursor : Int) (updates : List Int) (lastProcessedId : Option Int) : Prop :=
  (∀ id ∈ table.keys, cursor < id → id ∈ updates) ∧
    ∀ id, IsGreatest {id | id ∈ table.keys ∧ cursor < id} id → lastProcessedId = some id

/-- Whatever the batches, their failures and the orders of their results: a completed job has
covered the table. -/
def Complete (table : Keyset Int) (cursor : Int) (job : BackfillJob) : Prop :=
  ∀ events s, run (callStep table) (.start { job with lastProcessedId := some cursor }) events = some s →
    s.row.status = .COMPLETED → Covers table cursor s.updates s.row.lastProcessedId

/-! ## One batch -/

section Loop

variable {table : Keyset Int} {cursor : Int} {job : BackfillJob} {active : JobRun} {updates : List Int}

theorem mem_pageAfter {cursor : Option Int} {size : Nat} {id : Int} (member : id ∈ pageAfter table cursor size) :
    ∃ start ∈ cursor, id ∈ table.page start size := by
  cases cursor with
  | none => cases member
  | some start => exact ⟨start, rfl, member⟩

theorem pageAfter_nodup {cursor : Option Int} {size : Nat} : (pageAfter table cursor size).Nodup := by
  cases cursor with
  | none => exact List.nodup_nil
  | some start => exact Keyset.page_nodup

/-- A batch counts two rows and loses the cursor, before a save or without one. -/
theorem executedBatch_next (active : JobRun) (returned : List Int) :
    ∃ next, next.lastProcessedId = none ∧ next.processedRows = active.processedRows + 2 ∧
      (executedBatch active returned = .saving next ∧ next.job = active.job.updateProgress next.processedRows none ∨
        executedBatch active returned = .looping next ∧ next.job = active.job) := by
  by_cases fifth : (active.batchCount + 1) % 5 = 0
  · refine ⟨_, ?_, ?_, .inl ⟨if_pos fifth, ?_⟩⟩ <;> rfl
  · refine ⟨_, ?_, ?_, .inr ⟨if_neg fifth, ?_⟩⟩ <;> rfl

/-- The rows of one batch that begins at the cursor. -/
def FirstPage (table : Keyset Int) (cursor : Int) (updates : List Int) : Prop :=
  ∃ size, updates.Perm (table.page cursor size)

theorem firstPage_nil : FirstPage table cursor [] := ⟨0, by simp [Keyset.page]⟩

/-- The loop is at the first cursor and has updated nothing, or it has no cursor. -/
structure Looping (table : Keyset Int) (cursor : Int) (active : JobRun) (updates : List Int) : Prop where
  copy : ∀ id ∈ active.job.lastProcessedId, id = cursor
  place : active.lastProcessedId = some cursor ∧ updates = [] ∨ active.lastProcessedId = none
  first : FirstPage table cursor updates

/-- The counters of retries and batches do not matter. -/
theorem Looping.recounted (loop : Looping table cursor active updates) (retryCount batchCount : Nat) :
    Looping table cursor { active with retryCount := retryCount, batchCount := batchCount } updates :=
  ⟨loop.copy, loop.place, loop.first⟩

/-- What is true between two statements of a call. -/
def CallInv (table : Keyset Int) (cursor : Int) (updates : List Int) : Stage → Prop
  | .claimed job => job.lastProcessedId = some cursor ∧ updates = []
  | .looping active => Looping table cursor active updates
  | .saving active => Looping table cursor active updates
  | .closing job => (∀ id ∈ job.lastProcessedId, id = cursor) ∧ FirstPage table cursor updates

theorem retried_inv (loop : Looping table cursor active updates) (message : String) :
    CallInv table cursor updates (retried active message) := by
  unfold retried
  split
  · exact ⟨loop.copy, loop.first⟩
  · exact loop.recounted _ _

/-- Only a batch at the first cursor finds rows. -/
theorem executedBatch_inv {size : Nat} {returned : List Int} (loop : Looping table cursor active updates)
    (result : returned.Perm (pageAfter table active.lastProcessedId size)) :
    CallInv table cursor (updates ++ returned) (executedBatch active returned) := by
  have first : FirstPage table cursor (updates ++ returned) := by
    rcases loop.place with ⟨start, rfl⟩ | none
    · exact ⟨size, by simpa [start, pageAfter] using result⟩
    · have nothing : returned = [] := by simpa [none, pageAfter] using result
      rw [nothing, List.append_nil]
      exact loop.first
  obtain ⟨next, lost, -, saving | looping⟩ := executedBatch_next active returned
  · rw [saving.1]
    refine ⟨?_, .inr lost, first⟩
    rw [saving.2]
    rintro id ⟨⟩
  · rw [looping.1]
    exact ⟨looping.2 ▸ loop.copy, .inr lost, first⟩

private theorem completed_cursor (loop : Looping table cursor active updates) :
    ∀ id ∈ (completed active).lastProcessedId, id = cursor := by
  intro id saved
  rcases loop.place with ⟨start, -⟩ | none
  · exact Option.some.inj (saved.symm.trans start)
  · cases none.symm.trans saved

/-- A statement keeps the invariant, and saves the first cursor or none. -/
theorem step_inv {stage : Stage} {event : CallEvent} {effect : Effect} (held : CallInv table cursor updates stage)
    (stepped : stage.step table event = some effect) :
    (∀ next ∈ effect.next, CallInv table cursor (updates ++ effect.updated) next) ∧
      (∀ row ∈ effect.row, ∀ id ∈ row.lastProcessedId, id = cursor) ∧
        FirstPage table cursor (updates ++ effect.updated) := by
  cases Stage.took stepped with
  | @started copy =>
    obtain ⟨start, rfl⟩ := held
    have copied : ∀ id ∈ copy.lastProcessedId, id = cursor := fun id there => Option.some.inj (there.symm.trans start)
    have loop : CallInv table cursor [] (.looping {
        job := copy.markAsStarted, processedRows := copy.processedRows, lastProcessedId := copy.lastProcessedId }) :=
      ⟨copied, .inl ⟨start, rfl⟩, firstPage_nil⟩
    simpa using ⟨loop, copied, firstPage_nil⟩
  | @batch active _ returned _ page =>
    have later := executedBatch_inv held page
    have first : FirstPage table cursor (updates ++ returned) := by
      obtain ⟨next, -, -, saving | looping⟩ := executedBatch_next active returned
      · rw [saving.1] at later
        exact later.first
      · rw [looping.1] at later
        exact later.first
    simpa using ⟨later, first⟩
  | completed => simpa using ⟨completed_cursor held, Looping.first held⟩
  | batchFailed => simpa using ⟨retried_inv (Looping.recounted held _ _) _, Looping.first held⟩
  | timeout =>
    have ends : CallInv table cursor updates (.closing _) := ⟨Looping.copy held, Looping.first held⟩
    simpa using ⟨ends, Looping.first held⟩
  | @progress active =>
    have goes : CallInv table cursor updates (.looping { active with retryCount := 0 }) := Looping.recounted held 0 _
    simpa using ⟨goes, Looping.copy held, Looping.first held⟩
  | progressFailed => simpa using ⟨retried_inv held _, Looping.first held⟩
  | closed => simpa using And.intro held.1 held.2

end Loop

/-! ## Completed jobs -/

section Runs

variable {table : Keyset Int} {cursor : Int} {job : BackfillJob} {active : JobRun}

/-- The row has the first cursor, and nothing but a first batch is updated. -/
structure Tracks (table : Keyset Int) (cursor : Int) (s : CallState) : Prop where
  call : ∀ stage ∈ s.call, CallInv table cursor s.updates stage
  row : s.row.lastProcessedId = some cursor
  first : FirstPage table cursor s.updates

private theorem write_cursor {effect : Effect} {row : BackfillJob} (start : row.lastProcessedId = some cursor)
    (saved : ∀ copy ∈ effect.row, ∀ id ∈ copy.lastProcessedId, id = cursor) :
    (effect.write row).lastProcessedId = some cursor := by
  refine @Effect.write_holds effect _ (·.lastProcessedId = some cursor) start fun copy wrote => ?_
  show (copy.lastProcessedId.or row.lastProcessedId) = some cursor
  cases has : copy.lastProcessedId with
  | none => exact start
  | some id =>
    rw [saved copy wrote id has]
    rfl

private theorem step_tracks {s s' : CallState} {event : CallEvent} (held : Tracks table cursor s)
    (stepped : callStep table s event = some s') : Tracks table cursor s' := by
  obtain ⟨stage, calls, stepped⟩ := Option.bind_eq_some_iff.mp stepped
  obtain ⟨effect, took, done⟩ := Option.bind_eq_some_iff.mp stepped
  cases done
  obtain ⟨later, saved, first⟩ := step_inv (held.call stage calls) took
  exact ⟨later, write_cursor held.row saved, first⟩

/-- No run moves the stored cursor, and of the rows none but those of a first batch are updated. -/
theorem run_tracks {events : List CallEvent} {s : CallState}
    (ran : run (callStep table) (.start { job with lastProcessedId := some cursor }) events = some s) :
    Tracks table cursor s :=
  run_inv (fun held _ stepped => step_tracks held stepped)
    ⟨by rintro stage ⟨⟩; exact ⟨rfl, rfl⟩, rfl, firstPage_nil⟩ admits_true ran

/-- A batch that goes through, and its save. -/
theorem batch_goes_on (row : BackfillJob) (updates : List Int) (more : active.processedRows < active.job.totalRows) :
    ∃ events row' updates' next, (∀ later, run (callStep table) { row, updates, call := some (.looping active) }
        (events ++ later) =
          run (callStep table) { row := row', updates := updates', call := some (.looping next) } later) ∧
      next.processedRows = active.processedRows + 2 ∧ next.job.totalRows = active.job.totalRows := by
  have batch : callStep table { row, updates, call := some (.looping active) }
      (.batch 1 (pageAfter table active.lastProcessedId 1)) =
        some { row, updates := updates ++ pageAfter table active.lastProcessedId 1,
               call := some (executedBatch active (pageAfter table active.lastProcessedId 1)) } := by
    simp only [callStep, Stage.step, Option.bind_eq_bind, Option.bind_some]
    rw [if_pos ⟨more, Nat.one_pos, List.Perm.refl _⟩]
    rfl
  obtain ⟨next, -, counted, saving | looping⟩ :=
    executedBatch_next active (pageAfter table active.lastProcessedId 1)
  · refine ⟨[.batch 1 (pageAfter table active.lastProcessedId 1), .saved], row.saved next.job,
      updates ++ pageAfter table active.lastProcessedId 1, { next with retryCount := 0 }, fun later => ?_, counted, ?_⟩
    · rw [List.cons_append, run, batch, saving.1, Option.bind_some, List.cons_append, run]
      simp [callStep, Stage.step, Effect.write]
    · rw [saving.2]
      rfl
  · refine ⟨[.batch 1 (pageAfter table active.lastProcessedId 1)], row,
      updates ++ pageAfter table active.lastProcessedId 1, next, fun later => ?_, counted, by rw [looping.2]⟩
    rw [List.cons_append, run, batch, looping.1, Option.bind_some, List.nil_append]

/-- A loop whose batches all go through ends, for the count grows with each of them. -/
theorem loop_completes (row : BackfillJob) (updates : List Int) :
    ∃ events s, run (callStep table) { row, updates, call := some (.looping active) } events = some s ∧
      s.row.status = .COMPLETED := by
  induction left : active.job.totalRows - active.processedRows using Nat.strong_induction_on
    generalizing active row updates with
  | _ left ih =>
    by_cases more : active.processedRows < active.job.totalRows
    · obtain ⟨events, row', updates', next, batch, counted, total⟩ := @batch_goes_on table active row updates more
      obtain ⟨later, s, ran, complete⟩ := @ih _ (by omega) next row' updates' rfl
      exact ⟨events ++ later, s, (batch later).trans ran, complete⟩
    · refine ⟨[.saved], { row := row.saved (completed active), updates, call := none }, ?_, rfl⟩
      simp [run, callStep, Stage.step, more, Effect.write]

end Runs

/-- Every completed job has covered its table if and only if no row comes after the first cursor:
the stored cursor never moves, and there is always a run that completes the job. -/
theorem complete_iff (table : Keyset Int) (cursor : Int) (job : BackfillJob) :
    Complete table cursor job ↔ ∀ id ∈ table.keys, id ≤ cursor := by
  constructor
  · intro complete id member
    by_contra above
    obtain ⟨greatest, is⟩ := Keyset.exists_greatest (Keyset.mem_after.mpr ⟨member, not_le.mp above⟩)
    obtain ⟨begun, begins⟩ : ∃ begun : BackfillJob, begun = { job with lastProcessedId := some cursor } := ⟨_, rfl⟩
    obtain ⟨events, s, ran, done⟩ := @loop_completes table
      { job := begun.markAsStarted, processedRows := begun.processedRows, lastProcessedId := begun.lastProcessedId }
      ((claimJob begun).saved begun.markAsStarted) []
    have whole : run (callStep table) (.start { job with lastProcessedId := some cursor }) (.saved :: events) = some s :=
      begins ▸ ran
    have last := (complete _ s whole done).2 greatest is
    rw [(run_tracks whole).row] at last
    exact absurd (Option.some.inj last) is.1.2.ne
  · intro below events s _ _
    constructor
    · intro id member above
      exact absurd (below id member) (not_le.mpr above)
    · rintro id ⟨⟨member, above⟩, -⟩
      exact absurd (below id member) (not_le.mpr above)

def twoRows : Keyset Int := ⟨[1, 2], by decide⟩

def usersJob (totalRows : Nat) : BackfillJob :=
  { tableName := "users", migrationName := "m", sqlStatement := "\"active\" = true", totalRows
    phase := .DATA, operationCategory := .DATA }

/-- Of two rows and an estimate of two, one batch of one row completes the job. The stored cursor is
still at 0, and the second row is left out. -/
theorem second_row_left_out :
    (run (callStep twoRows) (.start (usersJob 2)) [.saved, .batch 1 [1], .saved]).map
        (fun s => (s.row.status, s.updates, s.row.lastProcessedId)) = some (.COMPLETED, [1], some 0) ∧
      ¬ Complete twoRows 0 (usersJob 2) := by
  refine ⟨by decide, fun complete => ?_⟩
  have covers := complete [.saved, .batch 1 [1], .saved] _ rfl rfl
  have second := covers.1 2 (by decide) (by decide)
  revert second
  decide

end DriverMicroServices.Backfill
