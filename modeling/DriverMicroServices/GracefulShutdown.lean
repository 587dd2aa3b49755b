import DriverMicroServices.OutboxSteps
import Mathlib.Data.Finset.Basic

/-! `WorkerLifecycleService` in the process of one outbox worker, beside all that
happens to the outbox. The service knows the events of its process by their ids
only, from when the limiter starts them. -/
namespace DriverMicroServices
open Transitions OutboxSystem

/-- The process of a worker, with the outbox that it shares. -/
structure WorkerProcess where
  system : OutboxSystem
  workerId : String
  /-- The calls of `process` that found no shutdown and have not selected a batch yet. -/
  ticks : Nat := 0
  /-- The events with an outcome whose `finally` has not run yet. -/
  ending : List Nat := []
  shutdownRequested : Bool := false
  processingEvents : Finset Nat := ∅
  /-- The first call of `shutdown` has not settled. -/
  awaiting : Bool := false
  /-- The call of `shutdown` in `onModuleDestroy` of the worker has failed. -/
  forcing : Bool := false

inductive ProcessAction where
  /-- A step of the outbox, by this process or by another. -/
  | outbox (action : OutboxAction)
  /-- `process` is called. -/
  | tick
  /-- The `finally` of the event `n` among those that have an outcome. -/
  | finish (n : Nat)
  | shutdown
  /-- The interval of `waitForEventsToComplete`. -/
  | check
  /-- The call of `shutdown`, by the worker or not, has waited for `shutdownTimeout`. -/
  | timeout (byWorker : Bool)
  | forceShutdown
  deriving DecidableEq

namespace WorkerProcess

def addProcessingEvent (s : WorkerProcess) (eventId : Nat) : WorkerProcess :=
  { s with processingEvents := s.processingEvents ∪ {eventId} }

def removeProcessingEvent (s : WorkerProcess) (eventId : Nat) : WorkerProcess :=
  { s with processingEvents := s.processingEvents.erase eventId }

/-- The job `n`, where it is one of this process. -/
def job (s : WorkerProcess) (n : Nat) : Option Job :=
  s.system.jobs[n]?.filter fun job => job.workerId = s.workerId

/-- The process selects a batch in a call of `process` only, and lives. -/
def permits (s : WorkerProcess) : OutboxAction → Bool
  | .selectBatch workerId .. => workerId ≠ s.workerId || 0 < s.ticks
  | .crash workerId => workerId ≠ s.workerId
  | _ => true

/-- What a step of the outbox changes in the process besides the outbox. -/
def note (s : WorkerProcess) : OutboxAction → WorkerProcess
  | .selectBatch workerId .. => if workerId = s.workerId then { s with ticks := s.ticks - 1 } else s
  | .start n _ =>
    match s.job n with
    | some job =>
      match toOutboxEvent job.id job.rawRow with
      | .ok event => s.addProcessingEvent event.id
      | .error _ => s
    | none => s
  | .markCompleted n _ | .handleFailure n _ | .handleFailureFails n =>
    match s.job n with
    | some job => { s with ending := s.ending ++ [job.id] }
    | none => s
  | _ => s

def step (s : WorkerProcess) : ProcessAction → Option WorkerProcess
  | .outbox action =>
    if s.permits action then
      (s.system.step action).map fun system => { s.note action with system }
    else none
  | .tick => some (if s.shutdownRequested then s else { s with ticks := s.ticks + 1 })
  | .finish n =>
    s.ending[n]?.map fun eventId =>
      { s with ending := s.ending.eraseIdx n }.removeProcessingEvent eventId
  | .shutdown =>
    some (if s.shutdownRequested then s
      -- The initial check of `waitForEventsToComplete`.
      else { s with shutdownRequested := true, awaiting := s.processingEvents ≠ ∅ })
  | .check =>
    if s.awaiting then some { s with awaiting := s.processingEvents ≠ ∅ } else none
  | .timeout byWorker =>
    if s.awaiting then some { s with awaiting := false, forcing := byWorker } else none
  | .forceShutdown =>
    if s.forcing then
      some { s with shutdownRequested := true, processingEvents := ∅, forcing := false }
    else none

/-- No event that the process has claimed waits for its handler or is in it. -/
def Drained (s : WorkerProcess) : Prop :=
  ∀ job ∈ s.system.jobs, job.workerId = s.workerId →
    job.progress ≠ .waiting ∧ job.progress ≠ .handling

/-- The ids under which the process has events: of rows of its batches, and of
events that it has still to remove. -/
def inFlight (s : WorkerProcess) : List Nat :=
  (s.system.jobs.filter fun job => job.workerId = s.workerId).map Job.id ++ s.ending

/-- The process has just begun. -/
structure Begun (s : WorkerProcess) : Prop where
  unclaimed : s.system.claims = []
  jobless : s.system.jobs = []
  idle : s.ending = []

/-- A call of `shutdown` resolves without an error. -/
def Resolves : Taken WorkerProcess ProcessAction → Prop
  | ⟨before, .shutdown, after⟩ => before.shutdownRequested = true ∨ after.awaiting = false
  | ⟨_, .check, after⟩ => after.awaiting = false
  | _ => False

/-- The service loses track of an event: a row is claimed again whose event is still
in flight, or a forced shutdown forgets the events. -/
def LosesTrack : Taken WorkerProcess ProcessAction → Prop
  | ⟨before, .outbox (.commitBatch n), _⟩ =>
    ∃ claim ∈ before.system.claims[n]?, claim.workerId = before.workerId ∧
      ∃ id ∈ claim.rows.map Prod.fst, id ∈ before.inFlight
  | ⟨before, .forceShutdown, _⟩ => before.processingEvents ≠ ∅
  | _ => False

/-- No later call of `shutdown` comes while events are tracked, and none looks at the
events while those of a batch all wait to be started. -/
structure Timely (s : WorkerProcess) (action : ProcessAction) : Prop where
  first : action = .shutdown → s.shutdownRequested = true → s.processingEvents = ∅
  started : s.processingEvents = ∅ →
    ∀ job ∈ s.system.jobs, job.workerId = s.workerId → job.progress ≠ .waiting

/-- What the service knows: the events that have been started, each under an id of
its own. -/
structure Tracked (s : WorkerProcess) : Prop where
  held : Held s.system
  distinct : s.inFlight.Nodup
  tracked : ∀ job ∈ s.system.jobs, job.workerId = s.workerId → job.progress ≠ .waiting →
    job.id ∈ s.processingEvents

section Steps

variable {s s' : WorkerProcess} {action : ProcessAction} {n : Nat} {job : Job}

theorem Begun.tracked (begun : Begun s) : Tracked s where
  held := held_unclaimed begun.unclaimed
  distinct := by simp [inFlight, begun.jobless, begun.idle]
  tracked := by simp [begun.jobless]

theorem job_eq_some :
    s.job n = some job ↔ s.system.jobs[n]? = some job ∧ job.workerId = s.workerId := by
  simp [WorkerProcess.job, Option.filter_eq_some_iff]

@[simp] theorem note_workerId (action : OutboxAction) : (s.note action).workerId = s.workerId := by
  unfold note
  split <;> (try split) <;> (try split) <;> rfl

/-- The job that ends with an action. -/
def ends : OutboxAction → Option Nat
  | .markCompleted n _ | .handleFailure n _ | .handleFailureFails n => some n
  | _ => none

private theorem step_ends {system after : OutboxSystem} {action : OutboxAction}
    (stepped : system.step action = some after) (ended : ends action = some n) :
    ∃ job, system.jobs[n]? = some job ∧ after.jobs = system.jobs.eraseIdx n := by
  cases action <;> cases ended
  all_goals
    simp only [OutboxSystem.step] at stepped
    split at stepped
    · rename_i job found
      refine ⟨job, found, ?_⟩
      split at stepped
      · first
        | cases stepped; rfl
        | split at stepped <;> cases stepped; rfl
      · cases stepped
    · cases stepped

private theorem note_ends {action : OutboxAction} (ended : ends action = some n) :
    s.note action =
      match s.job n with
      | some job => { s with ending := s.ending ++ [job.id] }
      | none => s := by
  cases action <;> cases ended <;> rfl

theorem note_goes_on {action : OutboxAction} (goesOn : ends action = none) :
    (s.note action).ending = s.ending ∧ s.processingEvents ⊆ (s.note action).processingEvents := by
  unfold note
  split
  · split <;> exact ⟨rfl, fun _ known => known⟩
  · split
    · split
      · exact ⟨rfl, Finset.subset_union_left⟩
      · exact ⟨rfl, fun _ known => known⟩
    · exact ⟨rfl, fun _ known => known⟩
  · cases goesOn
  · cases goesOn
  · cases goesOn
  · exact ⟨rfl, fun _ known => known⟩

/-- What the process starts is tracked. -/
theorem note_start (found : s.system.jobs[n]? = some job) (own : job.workerId = s.workerId)
    (named : job.rawRow.eventType ≠ "") : job.id ∈ (s.note (.start n now)).processingEvents := by
  simp [note, job_eq_some.mpr ⟨found, own⟩, toOutboxEvent, named, addProcessingEvent]

/-- A step keeps track where it leaves no id twice, and every event past its start is
tracked by it or was so before. -/
theorem Tracked.keep (tracked : Tracked s) (held : Held s'.system)
    (worker : s'.workerId = s.workerId) (distinct : s'.inFlight.Nodup)
    (grown : s.processingEvents ⊆ s'.processingEvents)
    (known : ∀ job ∈ s'.system.jobs, job.workerId = s.workerId → job.progress ≠ .waiting →
      job.id ∈ s'.processingEvents ∨
        ∃ old ∈ s.system.jobs, old.workerId = s.workerId ∧ old.id = job.id ∧
          old.progress ≠ .waiting) : Tracked s' := by
  refine ⟨held, distinct, fun job listed own begun => ?_⟩
  rcases known job listed (own.trans worker) begun with here | ⟨old, earlier, own', same, begun'⟩
  · exact here
  · rw [← same]
    exact grown (tracked.tracked old earlier own' begun')

/-- A job of the process goes on. -/
theorem Tracked.proceed (tracked : Tracked s) {action : OutboxAction} {after : OutboxSystem}
    {next : CircuitBreakerState × JobProgress} (held : Held after)
    (goesOn : ends action = none) (found : s.system.jobs[n]? = some job)
    (jobs : after.jobs = s.system.jobs.set n { job with progress := next.2 })
    (begun : job.workerId = s.workerId →
      job.progress ≠ .waiting ∨ job.id ∈ (s.note action).processingEvents) :
    Tracked { s.note action with system := after } := by
  obtain ⟨first, last, whole, -, set⟩ := getElem?_split found
  obtain ⟨still, grown⟩ := note_goes_on goesOn
  refine tracked.keep held (note_workerId action) ?_ grown fun other listed own started => ?_
  · have distinct := tracked.distinct
    simp only [inFlight, note_workerId, jobs, still, set] at distinct ⊢
    rw [whole] at distinct
    simpa [List.filter_append, List.filter_cons, apply_ite (List.map Job.id)] using distinct
  · rw [show ({ s.note action with system := after } : WorkerProcess).system.jobs = after.jobs from rfl,
      jobs, set] at listed
    rcases List.mem_append.mp listed with before | listed
    · exact .inr ⟨other, by simp [whole, before], own, rfl, started⟩
    rcases List.mem_cons.mp listed with rfl | behind
    · rcases begun own with started' | here
      · exact .inr ⟨job, List.mem_of_getElem? found, own, rfl, started'⟩
      · exact .inl here
    · exact .inr ⟨other, by simp [whole, behind], own, rfl, started⟩

/-- No job is added. -/
theorem Tracked.fewer (tracked : Tracked s) {action : OutboxAction} {after : OutboxSystem}
    (held : Held after) (goesOn : ends action = none) (jobs : after.jobs.Sublist s.system.jobs) :
    Tracked { s.note action with system := after } := by
  obtain ⟨still, grown⟩ := note_goes_on goesOn
  refine tracked.keep held (note_workerId action) ?_ grown fun other listed own started => ?_
  · simp only [inFlight, note_workerId, still]
    exact tracked.distinct.sublist (((jobs.filter _).map _).append (List.Sublist.refl _))
  · exact .inr ⟨other, jobs.subset listed, own, rfl, started⟩

/-- A job has come to its outcome; its event is still to be removed. -/
theorem Tracked.ended (tracked : Tracked s) {action : OutboxAction} {after : OutboxSystem}
    (held : Held after) (stepped : s.system.step action = some after)
    (ended : ends action = some n) : Tracked { s.note action with system := after } := by
  obtain ⟨job, found, jobs⟩ := step_ends stepped ended
  obtain ⟨first, last, whole, erased, -⟩ := getElem?_split found
  have distinct := tracked.distinct
  rw [inFlight, whole] at distinct
  have kept : ∀ other ∈ after.jobs, other ∈ s.system.jobs := by
    rw [jobs]
    exact fun other listed => List.mem_of_mem_eraseIdx listed
  rw [note_ends ended]
  by_cases own : job.workerId = s.workerId
  · rw [job_eq_some.mpr ⟨found, own⟩]
    refine tracked.keep held rfl ?_ (fun _ known => known) fun other listed own started => ?_
    · simp only [inFlight, jobs, erased]
      simp only [List.filter_append, List.filter_cons, own, decide_true, if_true, List.map_append,
        List.map_cons] at distinct ⊢
      refine (List.Perm.nodup_iff ?_).mp distinct
      simp only [List.append_assoc, List.cons_append]
      refine List.Perm.append_left _ (List.perm_middle.symm.trans ?_)
      exact List.Perm.append_left _ (List.perm_append_singleton ..).symm
    · exact .inr ⟨other, kept other listed, own, rfl, started⟩
  · have other : s.job n = none := by simp [WorkerProcess.job, found, own]
    rw [other]
    refine tracked.keep held rfl ?_ (fun _ known => known) fun other listed own started => ?_
    · simp only [inFlight, jobs, erased]
      simpa [List.filter_append, List.filter_cons, own] using distinct
    · exact .inr ⟨other, kept other listed, own, rfl, started⟩

/-- The process has a new batch, or another worker has. -/
theorem Tracked.committed (tracked : Tracked s) {after : OutboxSystem} {claim : Claim}
    (held : Held after) (found : s.system.claims[n]? = some claim)
    (jobs : after.jobs = s.system.jobs ++ jobsOf claim)
    (kept : ¬ LosesTrack ⟨s, .outbox (.commitBatch n), s'⟩) :
    Tracked { s with system := after } := by
  refine tracked.keep held rfl ?_ (fun _ known => known) fun job listed own started => ?_
  · have distinct := tracked.distinct
    simp only [inFlight, jobs, List.filter_append, List.map_append] at distinct ⊢
    by_cases own : claim.workerId = s.workerId
    · have ids : ((jobsOf claim).filter fun job => job.workerId = s.workerId).map Job.id =
          claim.rows.map Prod.fst := by
        simp [jobsOf, List.filter_map, own, Function.comp_def]
      rw [ids, List.append_assoc]
      refine (List.Perm.nodup_iff (List.perm_append_comm_assoc ..)).mp ?_
      refine List.nodup_append'.mpr ⟨(tracked.held.committed found).1, distinct, ?_⟩
      intro id claimed flying
      exact kept ⟨claim, found, own, id, claimed, flying⟩
    · have ids : (jobsOf claim).filter (fun job => job.workerId = s.workerId) = [] := by
        simp [jobsOf, List.filter_map, own, Function.comp_def]
      simpa [ids] using distinct
  · rw [show ({ s with system := after } : WorkerProcess).system.jobs = after.jobs from rfl,
      jobs] at listed
    rcases List.mem_append.mp listed with old | new
    · exact .inr ⟨job, old, own, rfl, started⟩
    · obtain ⟨entry, -, rfl⟩ := List.mem_map.mp new
      exact absurd rfl started

private theorem tracked_outbox {action : OutboxAction} (tracked : Tracked s)
    (stepped : s.step (.outbox action) = some s') (kept : ¬ LosesTrack ⟨s, .outbox action, s'⟩) :
    Tracked s' := by
  simp only [step] at stepped
  split at stepped
  · rename_i permitted
    obtain ⟨after, ran, rfl⟩ := Option.map_eq_some_iff.mp stepped
    have held := held_step tracked.held ran
    cases ended : ends action with
    | some n => exact tracked.ended held ran ended
    | none =>
      cases step_effect ran with
      | committed found => exact tracked.committed held found rfl kept
      | started found _ named =>
        exact tracked.proceed held rfl found rfl fun own => .inr (note_start found own named)
      | settled found handling =>
        exact tracked.proceed held rfl found rfl fun _ => .inl (by simp [handling])
      | unmarked found handled =>
        exact tracked.proceed held rfl found rfl fun _ => .inl (by simp [handled])
      | dropped => exact tracked.fewer held ended (List.eraseIdx_sublist ..)
      | crashed => exact tracked.fewer held rfl List.filter_sublist
      | completed => cases ended
      | failed => cases ended
      | _ => exact tracked.fewer held ended (List.Sublist.refl _)
  · cases stepped

theorem tracked_step (tracked : Tracked s) (stepped : s.step action = some s')
    (kept : ¬ LosesTrack ⟨s, action, s'⟩) : Tracked s' := by
  obtain ⟨held, distinct, known⟩ := tracked
  cases action with
  | outbox action => exact tracked_outbox ⟨held, distinct, known⟩ stepped kept
  | tick =>
    cases stepped
    split <;> exact ⟨held, distinct, known⟩
  | finish n =>
    obtain ⟨eventId, found, rfl⟩ := Option.map_eq_some_iff.mp stepped
    obtain ⟨first, last, whole, erased, -⟩ := getElem?_split found
    rw [inFlight, whole, ← List.append_assoc, List.nodup_middle, List.append_assoc] at distinct
    obtain ⟨gone, rest⟩ := List.nodup_cons.mp distinct
    refine ⟨held, ?_, fun job listed own started => ?_⟩
    · simpa only [inFlight, removeProcessingEvent, erased] using rest
    · refine Finset.mem_erase.mpr ⟨?_, known job listed own started⟩
      rintro rfl
      refine gone (List.mem_append_left _ (List.mem_map_of_mem (List.mem_filter.mpr ⟨listed, ?_⟩)))
      exact decide_eq_true own
  | shutdown =>
    cases stepped
    split <;> exact ⟨held, distinct, known⟩
  | check =>
    simp only [step] at stepped
    split at stepped
    · cases stepped
      exact ⟨held, distinct, known⟩
    · cases stepped
  | timeout byWorker =>
    simp only [step] at stepped
    split at stepped
    · cases stepped
      exact ⟨held, distinct, known⟩
    · cases stepped
  | forceShutdown =>
    simp only [step] at stepped
    split at stepped
    · cases stepped
      have empty : s.processingEvents = ∅ := not_not.mp kept
      refine ⟨held, distinct, fun job listed own started => ?_⟩
      rw [← empty]
      exact known job listed own started
    · cases stepped

/-- A call that resolves in time finds no event tracked. -/
theorem resolved_untracked (stepped : s.step action = some s') (resolves : Resolves ⟨s, action, s'⟩)
    (timely : Timely s action) : s.processingEvents = ∅ := by
  cases action with
  | shutdown =>
    cases stepped
    cases requested : s.shutdownRequested with
    | true => exact timely.first rfl requested
    | false => simpa [Resolves, requested] using resolves
  | check =>
    simp only [step] at stepped
    split at stepped
    · cases stepped
      simpa [Resolves] using resolves
    · cases stepped
  | _ => exact resolves.elim

/-- Where the service has lost track of no event, a call that resolves in time leaves
none to its handler. -/
theorem shutdown_waits {actions : List ProcessAction}
    {earlier later : List (Taken WorkerProcess ProcessAction)}
    {taken : Taken WorkerProcess ProcessAction} (begun : Begun s)
    (shape : trace step s actions = earlier ++ taken :: later)
    (kept : ∀ before ∈ earlier, ¬ LosesTrack before) (resolves : Resolves taken)
    (timely : Timely taken.before taken.action) : Drained taken.before := by
  have tracked : Tracked taken.before :=
    trace_until (fun tracked _ stepped kept => tracked_step tracked stepped kept) begun.tracked
      admits_true shape kept
  obtain ⟨stepped, -⟩ := trace_cut admits_true shape
  have untracked := resolved_untracked stepped resolves timely
  intro job listed own
  have started := timely.started untracked job listed own
  refine ⟨started, fun handling => ?_⟩
  have known := tracked.tracked job listed own started
  rw [untracked] at known
  exact Finset.notMem_empty _ known

end Steps

/-! ## Sample runs -/

instance : DecidablePred Drained := fun s =>
  inferInstanceAs (Decidable (∀ job ∈ s.system.jobs, _))

instance : DecidablePred Resolves
  | ⟨before, .shutdown, after⟩ =>
    inferInstanceAs (Decidable (before.shutdownRequested = true ∨ after.awaiting = false))
  | ⟨_, .check, after⟩ => inferInstanceAs (Decidable (after.awaiting = false))
  | ⟨_, .outbox _, _⟩ | ⟨_, .tick, _⟩ | ⟨_, .finish _, _⟩ | ⟨_, .timeout _, _⟩
  | ⟨_, .forceShutdown, _⟩ => isFalse id

instance : DecidablePred LosesTrack := fun taken => by
  unfold LosesTrack
  split <;> infer_instance

instance (s : WorkerProcess) (action : ProcessAction) : Decidable (Timely s action) :=
  decidable_of_iff
    ((action = .shutdown → s.shutdownRequested = true → s.processingEvents = ∅) ∧
      (s.processingEvents = ∅ → ∀ job ∈ s.system.jobs, job.workerId = s.workerId →
        job.progress ≠ .waiting))
    ⟨fun both => ⟨both.1, both.2⟩, fun timely => ⟨timely.first, timely.started⟩⟩

section Samples
open OutboxSample

/-- The worker `w1` with one event that waits. -/
def waitingWorker : WorkerProcess where
  system := one
  workerId := "w1"

private theorem waitingWorker_begun : Begun waitingWorker := ⟨rfl, rfl, rfl⟩

/-- A call of `process` of `w1` that takes up job `n`. -/
def attempt (n : Nat) (now : Time) : List ProcessAction :=
  .tick :: (takeUp "w1" n now [0]).map .outbox

/-- Both services are destroyed while the event is in its handler. -/
def calledTwice : List ProcessAction := attempt 0 0 ++ [.shutdown, .shutdown]

/-- The shutdown comes when the batch is claimed and its event not started. -/
def claimedOnly : List ProcessAction := (attempt 0 0).take 3 ++ [.shutdown]

/-- A handler takes so long that the process claims its row again; then the first
attempt ends. -/
def claimedAgain : List ProcessAction :=
  attempt 0 0 ++ .outbox (.releaseStaleLocks 120001) :: attempt 1 120001 ++
    [.outbox (.settle 0 120002 none), .outbox (.markCompleted 0 120002), .finish 0, .shutdown]

theorem shutdown_resolves_early :
    (∃ taken ∈ trace step waitingWorker calledTwice, Resolves taken ∧ ¬ Drained taken.before) ∧
    (∃ taken ∈ trace step waitingWorker claimedOnly, Resolves taken ∧ ¬ Drained taken.before) ∧
    ∃ taken ∈ trace step waitingWorker claimedAgain, Resolves taken ∧ ¬ Drained taken.before := by
  decide

/-- The shutdown waits for the event. -/
def calledOnce : List ProcessAction :=
  attempt 0 0 ++
    [.shutdown, .outbox (.settle 0 1 none), .outbox (.markCompleted 0 1), .finish 0, .check]

theorem shutdown_waits_shop :
    ∃ taken ∈ (trace step waitingWorker calledOnce)[8]?, taken.action = .check ∧
      Resolves taken ∧ Drained taken.before := by
  obtain ⟨taken, here, last, resolves, timely⟩ :
      ∃ taken ∈ (trace step waitingWorker calledOnce)[8]?, taken.action = .check ∧
        Resolves taken ∧ Timely taken.before taken.action := by decide
  have kept : ∀ before ∈ (trace step waitingWorker calledOnce).take 8, ¬ LosesTrack before := by
    decide
  exact ⟨taken, here, last, resolves,
    shutdown_waits waitingWorker_begun (take_cons_drop here) kept resolves timely⟩

end Samples

end WorkerProcess

end DriverMicroServices
