import DriverMicroServices.CircuitBreaker
import DriverMicroServices.Events
import DriverMicroServices.Handlers
import DriverMicroServices.Tables
import DriverMicroServices.Transitions
import Mathlib.Data.List.Flatten
import Mathlib.Data.List.Sort

/-! The `outbox` table with the workers that deliver its events and the services
that move old events to `outbox_archive`. Each action is one statement or
transaction of the database, or one step of a process between two of them; every
action brings its own clock. -/
namespace DriverMicroServices
open Tables

inductive OutboxPriority where
  | high | medium | low
  deriving DecidableEq, Repr

/-- A row of `outbox` with all its columns but its id. -/
structure OutboxRow extends OutboxEvent where
  idempotencyKey : String
  priority : OutboxPriority := .medium
  lastError : Option String := none
  nextRetryAt : Option Time := none
  processedAt : Option Time := none
  lockedAt : Option Time := none
  lockedBy : Option String := none
  deriving DecidableEq

/-- A row of `outbox_archive`, as it is written. -/
structure OutboxArchiveEvent where
  eventType : String
  payload : OutboxPayload
  status : OutboxStatus
  retryCount : Nat
  lastError : Option String
  nextRetryAt : Option Time
  createdAt : Time
  processedAt : Option Time
  lockedAt : Option Time
  lockedBy : Option String
  idempotencyKey : String
  archivedAt : Time
  deriving DecidableEq

/-! ## The statements of the worker -/

def maxRetries : Nat := 10

/-- `LOCK_TIMEOUT_SECONDS`, in milliseconds. -/
def lockTimeout : Int := 120 * 1000

namespace OutboxRow

/-- The condition of `releaseStaleLocks`; a null `locked_at` is not stale. -/
def stale (now : Time) (row : OutboxRow) : Bool :=
  row.status = .processing && row.lockedAt.any fun lockedAt => lockedAt < now - lockTimeout

def release (row : OutboxRow) : OutboxRow :=
  { row with status := .pending, lockedAt := none, lockedBy := none }

/-- The condition of the `SELECT` of `claimBatch`. -/
def claimable (now : Time) (row : OutboxRow) : Bool :=
  row.status = .pending && row.nextRetryAt.all (fun nextRetryAt => nextRetryAt ≤ now) &&
    row.lockedAt.isNone

/-- `CASE WHEN priority = 'HIGH' THEN 0 WHEN priority = 'MEDIUM' THEN 1 ELSE 2 END`. -/
def rank (row : OutboxRow) : Nat :=
  match row.priority with
  | .high => 0
  | .medium => 1
  | .low => 2

/-- `ORDER BY` of `claimBatch`. -/
def precedes (first second : OutboxRow) : Prop :=
  first.rank < second.rank ∨ first.rank = second.rank ∧ first.createdAt ≤ second.createdAt

instance : DecidableRel precedes := fun _ _ => inferInstanceAs (Decidable (_ ∨ _))

/-- The `UPDATE` of `claimBatch`. -/
def lock (workerId : String) (now : Time) (row : OutboxRow) : OutboxRow :=
  { row with status := .processing, lockedAt := some now, lockedBy := some workerId }

/-- A worker has settled the event. -/
def finished (row : OutboxRow) : Bool := row.status = .completed || row.status = .failed

def markCompleted (now : Time) (row : OutboxRow) : OutboxRow :=
  { row with
    status := .completed, processedAt := some now
    lastError := none, lockedAt := none, lockedBy := none }

end OutboxRow

/-- `isStructuralError`. -/
def isStructuralError (rawRow : OutboxRow) (errorMessage : String) : Bool :=
  includes errorMessage "Unknown outbox event type" || includes errorMessage "Missing eventType" ||
    includes errorMessage "No handler registered for" || rawRow.eventType == ""

/-- `calculateBackoff`, in seconds. -/
def calculateBackoff (retryCount : Nat) : Nat := min (2 ^ retryCount) 300

/-- The retry count that `handleFailure` writes: the one of the row as it was
claimed and one more, or the last one. -/
def failureCount (rawRow : OutboxRow) (errorMessage : String) : Nat :=
  if isStructuralError rawRow errorMessage then maxRetries else rawRow.retryCount + 1

/-- The `UPDATE` of `handleFailure`. -/
def OutboxRow.handleFailure (rawRow : OutboxRow) (errorMessage : String) (now : Time)
    (row : OutboxRow) : OutboxRow :=
  let retryCount := failureCount rawRow errorMessage
  let lastError := some (String.ofList (errorMessage.toList.take 500))
  if maxRetries ≤ retryCount then
    { row with status := .failed, retryCount, lastError, lockedAt := none, lockedBy := none }
  else
    { row with
      status := .pending, retryCount, lastError
      nextRetryAt := some (now + calculateBackoff retryCount * 1000)
      lockedAt := none, lockedBy := none }

/-- `toOutboxEvent`. The version is not among the selected columns. -/
def toOutboxEvent (id : Nat) (rawRow : OutboxRow) : Except String Event :=
  if rawRow.eventType = "" then
    .error s!"STRUCTURAL_CORRUPTION: Row {id} missing event_type in toOutboxEvent"
  else .ok { id, eventType := rawRow.eventType, payload := rawRow.payload }

/-! ## The processes -/

/-- Where a worker is with a row of its batch. -/
inductive JobProgress where
  | waiting
  /-- The handler has been called. -/
  | handling
  | handled
  | failed (errorMessage : String)
  deriving DecidableEq

/-- A row of a worker's batch that has not come to an outcome. -/
structure Job where
  workerId : String
  id : Nat
  rawRow : OutboxRow
  progress : JobProgress := .waiting
  deriving DecidableEq

/-- A transaction of `claimBatch` after its `SELECT`; it holds the row locks of
what it selected. -/
structure Claim where
  workerId : String
  /-- `now()`, the start of the transaction. -/
  now : Time
  rows : List (Nat × OutboxRow)
  deriving DecidableEq

/-- An archiving service after its query. -/
structure Archiver where
  eventsToArchive : List (Nat × OutboxRow)
  batchSize : Nat
  /-- The ids of the final `DELETE`. -/
  archivedIds : List Nat
  archivedCount : Nat := 0
  deriving DecidableEq

structure OutboxSystem where
  outbox : Table OutboxRow
  archive : List OutboxArchiveEvent := []
  claims : List Claim := []
  jobs : List Job := []
  archivers : List Archiver := []
  /-- The circuit of a name in the process of a worker. -/
  circuits : String × String → CircuitBreakerState := fun _ => {}

inductive OutboxAction where
  | publish (eventType : String) (payload : OutboxPayload) (now : Time)
  | releaseStaleLocks (now : Time)
  /-- The `SELECT` of `claimBatch`; the database scans in this order. -/
  | selectBatch (workerId : String) (now : Time) (limit : Nat) (order : List Nat)
  /-- The `UPDATE` and the commit of the open claim `n`. -/
  | commitBatch (n : Nat)
  /-- A statement of the open claim `n` fails, which rolls it back. -/
  | abortBatch (n : Nat)
  /-- The worker takes up its job `n`, up to the call of the handler. -/
  | start (n : Nat) (now : Time)
  /-- The handler returns, or ends with an error. -/
  | settle (n : Nat) (now : Time) (error : Option String)
  | markCompleted (n : Nat) (now : Time)
  /-- The `UPDATE` of `markCompleted` fails. -/
  | markCompletedFails (n : Nat) (error : String)
  | handleFailure (n : Nat) (now : Time)
  /-- The `UPDATE` of `handleFailure` fails. -/
  | handleFailureFails (n : Nat)
  /-- The process of a worker dies. -/
  | crash (workerId : String)
  | archiveCompletedEvents (now : Time) (order : List Nat)
  | archiveOldEvents (daysToKeep : Int) (now : Time) (order : List Nat)
  | archiveEventsImmediately (eventIds order : List Nat)
  /-- The archiver `n` saves its next batch. -/
  | saveBatch (n : Nat) (now : Time)
  /-- The archiver `n` deletes what it has archived. -/
  | deleteArchived (n : Nat)
  /-- A statement of the archiver `n` fails, or its process dies. -/
  | archiverFails (n : Nat)
  deriving DecidableEq

/-- The configuration in `OutboxService.handle`. -/
def circuitBreakerConfig : CircuitBreakerConfig where
  failureThreshold := 5
  recoveryTimeout := 300000
  halfOpenMaxCalls := 3

def circuitName (rawRow : OutboxRow) : String := s!"handler_{rawRow.eventType}"

/-- `OutboxService.handle` up to the call of the handler. -/
def beginHandle (circuit : CircuitBreakerState) (now : Time) (rawRow : OutboxRow) :
    CircuitBreakerState × JobProgress :=
  match circuit.beforeCall circuitBreakerConfig (circuitName rawRow) now with
  | (circuit, some error) => (circuit, .failed error)
  | (circuit, none) =>
    match HandlerRegistry.getHandler rawRow.eventType with
    | some _ => (circuit, .handling)
    | none =>
      (circuit.onFailure circuitBreakerConfig now,
        .failed s!"No handler registered for event type: {rawRow.eventType}")

/-- `OutboxService.handle` from the end of the handler on. -/
def endHandle (circuit : CircuitBreakerState) (now : Time) :
    Option String → CircuitBreakerState × JobProgress
  | none => (circuit.onSuccess, .handled)
  | some error => (circuit.onFailure circuitBreakerConfig now, .failed error)

/-- What the archiving services copy of a row. -/
def OutboxRow.archived (now : Time) (row : OutboxRow) : OutboxArchiveEvent where
  eventType := row.eventType
  payload := row.payload
  status := row.status
  retryCount := row.retryCount
  lastError := row.lastError
  nextRetryAt := row.nextRetryAt
  createdAt := row.createdAt
  processedAt := row.processedAt
  lockedAt := row.lockedAt
  lockedBy := row.lockedBy
  idempotencyKey := row.idempotencyKey
  archivedAt := now

/-- `archiveRepository.save` of a batch, in one transaction under the unique
constraint. -/
def saveArchive (archive batch : List OutboxArchiveEvent) : Option (List OutboxArchiveEvent) :=
  if (batch.map (·.idempotencyKey)).Nodup ∧
      ∀ event ∈ batch, event.idempotencyKey ∉ archive.map (·.idempotencyKey) then
    some (archive ++ batch)
  else none

/-- `ARCHIVE_AGE_HOURS`, in milliseconds. -/
def archiveAge : Int := 1 * 60 * 60 * 1000

/-- The condition of the query of `archiveCompletedEvents`. -/
def OutboxRow.archivable (now : Time) (row : OutboxRow) : Bool :=
  row.status = .completed && row.createdAt < now - archiveAge

/-- The condition of the query of `archiveOldEvents`. -/
def OutboxRow.outdated (daysToKeep : Int) (now : Time) (row : OutboxRow) : Bool :=
  row.createdAt < now - daysToKeep * 24 * 60 * 60 * 1000

/-- The order of both queries. -/
def OutboxRow.older (first second : OutboxRow) : Prop := first.createdAt ≤ second.createdAt

instance : DecidableRel OutboxRow.older := fun first second =>
  inferInstanceAs (Decidable (first.createdAt ≤ second.createdAt))

/-- The rows that a batch of an archiver saves next. -/
def Archiver.batch (archiver : Archiver) : List (Nat × OutboxRow) :=
  (archiver.eventsToArchive.drop archiver.archivedCount).take archiver.batchSize

/-- The archiver of an ordered query; it deletes what it found. -/
def Archiver.ofQuery (found : List (Nat × OutboxRow)) : Archiver where
  eventsToArchive := found.insertionSort fun first second => first.2.older second.2
  batchSize := 100
  archivedIds := (found.insertionSort fun first second => first.2.older second.2).map Prod.fst

namespace OutboxSystem

/-- An open claim holds the row lock. -/
def locked (s : OutboxSystem) (id : Nat) : Prop :=
  ∃ claim ∈ s.claims, id ∈ claim.rows.map Prod.fst

instance (s : OutboxSystem) (id : Nat) : Decidable (s.locked id) :=
  inferInstanceAs (Decidable (∃ claim ∈ s.claims, _))

/-- What the `SELECT` of `claimBatch` returns. -/
def claimBatch (s : OutboxSystem) (now : Time) (limit : Nat) (order : List Nat) :
    List (Nat × OutboxRow) :=
  let eligible := s.outbox.select order fun id row => row.claimable now && !decide (s.locked id)
  (eligible.insertionSort fun first second => first.2.precedes second.2).take limit

def jobsOf (claim : Claim) : List Job :=
  claim.rows.map fun entry => { workerId := claim.workerId, id := entry.1, rawRow := entry.2 }

/-- A job goes on, in the process of its worker. -/
def proceed (s : OutboxSystem) (n : Nat) (job : Job)
    (next : CircuitBreakerState × JobProgress) : OutboxSystem :=
  { s with
    jobs := s.jobs.set n { job with progress := next.2 }
    circuits := Function.update s.circuits (job.workerId, circuitName job.rawRow) next.1 }

def circuit (s : OutboxSystem) (job : Job) : CircuitBreakerState :=
  s.circuits (job.workerId, circuitName job.rawRow)

/-- A job ends with an `UPDATE` of the row of its id. -/
def conclude (s : OutboxSystem) (n : Nat) (job : Job) (f : OutboxRow → OutboxRow) :
    OutboxSystem :=
  { s with outbox := s.outbox.update (fun id _ => id == job.id) f, jobs := s.jobs.eraseIdx n }

def putArchiver (s : OutboxSystem) (n : Nat) (archiver : Archiver) : OutboxSystem :=
  { s with archivers := s.archivers.set n archiver }

def endArchiver (s : OutboxSystem) (n : Nat) : OutboxSystem :=
  { s with archivers := s.archivers.eraseIdx n }

/-- An archiver that found nothing is done. -/
def startArchiver (s : OutboxSystem) (archiver : Archiver) : OutboxSystem :=
  if archiver.eventsToArchive = [] then s
  else { s with archivers := s.archivers ++ [archiver] }

/-- `OutboxService.publish`. -/
def publish (s : OutboxSystem) (eventType : String) (payload : OutboxPayload) (now : Time) :
    OutboxSystem :=
  let idempotencyKey := generateIdempotencyKey eventType payload now
  if !isValidVersionedEventType eventType ∨ s.outbox.any (·.idempotencyKey = idempotencyKey) then s
  else { s with outbox := s.outbox.insert { eventType, payload, createdAt := now, idempotencyKey } }

def step (s : OutboxSystem) : OutboxAction → Option OutboxSystem
  | .publish eventType payload now => some (s.publish eventType payload now)
  | .releaseStaleLocks now =>
    some { s with outbox := s.outbox.update (fun _ row => row.stale now) OutboxRow.release }
  | .selectBatch workerId now limit order =>
    if order.Perm s.outbox.ids then
      let rows := s.claimBatch now limit order
      some (if rows = [] then s else { s with claims := s.claims ++ [{ workerId, now, rows }] })
    else none
  | .commitBatch n =>
    s.claims[n]?.map fun claim =>
      { s with
        outbox := s.outbox.update (fun id _ => decide (id ∈ claim.rows.map Prod.fst))
          (OutboxRow.lock claim.workerId claim.now)
        claims := s.claims.eraseIdx n
        jobs := s.jobs ++ jobsOf claim }
  | .abortBatch n => s.claims[n]?.map fun _ => { s with claims := s.claims.eraseIdx n }
  | .start n now =>
    match s.jobs[n]? with
    | some job =>
      if job.progress = .waiting then
        match toOutboxEvent job.id job.rawRow with
        -- The error ends the promise of this row; the row stays locked.
        | .error _ => some { s with jobs := s.jobs.eraseIdx n }
        | .ok _ => some (s.proceed n job (beginHandle (s.circuit job) now job.rawRow))
      else none
    | none => none
  | .settle n now error =>
    match s.jobs[n]? with
    | some job =>
      if job.progress = .handling then some (s.proceed n job (endHandle (s.circuit job) now error))
      else none
    | none => none
  | .markCompleted n now =>
    match s.jobs[n]? with
    | some job =>
      if job.progress = .handled ∧ ¬ s.locked job.id then
        some (s.conclude n job (OutboxRow.markCompleted now))
      else none
    | none => none
  | .markCompletedFails n error =>
    match s.jobs[n]? with
    | some job =>
      if job.progress = .handled then some (s.proceed n job (s.circuit job, .failed error)) else none
    | none => none
  | .handleFailure n now =>
    match s.jobs[n]? with
    | some job =>
      match job.progress with
      | .failed errorMessage =>
        if s.locked job.id then none
        else some (s.conclude n job (OutboxRow.handleFailure job.rawRow errorMessage now))
      | _ => none
    | none => none
  | .handleFailureFails n =>
    match s.jobs[n]? with
    | some job =>
      match job.progress with
      | .failed _ => some { s with jobs := s.jobs.eraseIdx n }
      | _ => none
    | none => none
  | .crash workerId =>
    some { s with
      claims := s.claims.filter (·.workerId ≠ workerId)
      jobs := s.jobs.filter (·.workerId ≠ workerId) }
  | .archiveCompletedEvents now order =>
    if order.Perm s.outbox.ids then
      some (s.startArchiver (.ofQuery (s.outbox.select order fun _ row => row.archivable now)))
    else none
  | .archiveOldEvents daysToKeep now order =>
    if order.Perm s.outbox.ids then
      some (s.startArchiver
        (.ofQuery (s.outbox.select order fun _ row => row.outdated daysToKeep now)))
    else none
  | .archiveEventsImmediately eventIds order =>
    if order.Perm s.outbox.ids then
      let found := s.outbox.select order fun id _ => decide (id ∈ eventIds)
      some (s.startArchiver
        { eventsToArchive := found, batchSize := found.length, archivedIds := eventIds })
    else none
  | .saveBatch n now =>
    match s.archivers[n]? with
    | some archiver =>
      if archiver.batch = [] then none
      else
        match saveArchive s.archive (archiver.batch.map fun entry => entry.2.archived now) with
        | some archive =>
          some ({ s with archive }.putArchiver n { archiver with
            archivedCount := archiver.archivedCount + archiver.batch.length })
        | none => some (s.endArchiver n)
    | none => none
  | .deleteArchived n =>
    match s.archivers[n]? with
    | some archiver =>
      -- The `DELETE` waits for the row locks of open claims.
      if archiver.batch = [] ∧ ∀ id ∈ archiver.archivedIds, ¬ s.locked id then
        some ({ s with outbox := s.outbox.delete archiver.archivedIds }.endArchiver n)
      else none
    | none => none
  | .archiverFails n => s.archivers[n]?.map fun _ => s.endArchiver n

end OutboxSystem

end DriverMicroServices
