import DriverMicroServices.OutboxCompletion

/-! `DeadLetterService.retryEvent` next to the workers. It makes a FAILED row PENDING,
calls the handler itself and writes the outcome by the id of the row, and it holds no
lock meanwhile: the row is its own only as long as no worker claims it and no other
retry has found it FAILED too. -/
namespace DriverMicroServices
open Tables Transitions

/-- A call of `retryEvent` that has found its row. -/
structure Retry where
  /-- The process, whose circuits the call shares with the worker there. -/
  workerId : String
  id : Nat
  /-- The row as `findOne` returned it. -/
  event : OutboxRow
  /-- The row has been made PENDING. -/
  reset : Bool := false
  progress : JobProgress := .waiting
  deriving DecidableEq

structure RetrySystem extends OutboxSystem where
  retries : List Retry := []

inductive RetryAction where
  | outbox (action : OutboxAction)
  /-- `findOne` of `retryEvent`. -/
  | findFailed (workerId : String) (id : Nat)
  /-- The `UPDATE` that makes the row PENDING. -/
  | reset (n : Nat)
  | resetFails (n : Nat) (error : String)
  /-- `OutboxService.handle`, up to the call of the handler. -/
  | handle (n : Nat) (now : Time)
  | settle (n : Nat) (now : Time) (error : Option String)
  /-- The `UPDATE` that marks the row as COMPLETED, and the success of the call. -/
  | complete (n : Nat) (now : Time)
  | completeFails (n : Nat) (error : String)
  /-- The `UPDATE` in the `catch`. -/
  | fail (n : Nat)
  | failFails (n : Nat)
  deriving DecidableEq

namespace OutboxRow

/-- Reset error state; `lastError: undefined` is left out of the `UPDATE`. -/
def retry (event row : OutboxRow) : OutboxRow :=
  { row with status := .pending, retryCount := event.retryCount + 1 }

def completeRetry (now : Time) (row : OutboxRow) : OutboxRow :=
  { row with status := .completed, processedAt := some now }

def failRetry (event : OutboxRow) (errorMessage : String) (row : OutboxRow) : OutboxRow :=
  { row with
    status := .failed, lastError := some errorMessage, retryCount := event.retryCount + 1 }

end OutboxRow

/-- The rows that the action selects for a claim. -/
def OutboxSystem.selection (s : OutboxSystem) : OutboxAction → List Nat
  | .selectBatch _ now limit order => (s.claimBatch now limit order).map Prod.fst
  | _ => []

namespace RetrySystem

/-- A retry goes on, in its process. -/
def proceedRetry (s : RetrySystem) (n : Nat) (retry : Retry)
    (next : CircuitBreakerState × JobProgress) : RetrySystem :=
  { s with
    retries := s.retries.set n { retry with progress := next.2 }
    circuits := Function.update s.circuits (retry.workerId, circuitName retry.event) next.1 }

def retryCircuit (s : RetrySystem) (retry : Retry) : CircuitBreakerState :=
  s.circuits (retry.workerId, circuitName retry.event)

/-- An `UPDATE` of the row with this id. -/
def write (s : RetrySystem) (id : Nat) (f : OutboxRow → OutboxRow) : RetrySystem :=
  { s with outbox := s.outbox.update (fun other _ => other == id) f }

def concludeRetry (s : RetrySystem) (n : Nat) (retry : Retry) (f : OutboxRow → OutboxRow) :
    RetrySystem :=
  { s.write retry.id f with retries := s.retries.eraseIdx n }

/-- `OutboxService.handle` up to the call of the handler. -/
def beginRetry (s : RetrySystem) (now : Time) (retry : Retry) : CircuitBreakerState × JobProgress :=
  if retry.event.eventType = "" then
    (s.retryCircuit retry, .failed s!"Missing eventType for outbox event {retry.id}")
  else beginHandle (s.retryCircuit retry) now retry.event

def step (s : RetrySystem) : RetryAction → Option RetrySystem
  | .outbox action =>
    (OutboxSystem.step s.toOutboxSystem action).map fun next =>
      { next with
        retries :=
          match action with
          | .crash workerId => s.retries.filter (·.workerId ≠ workerId)
          | _ => s.retries }
  | .findFailed workerId id =>
    match s.outbox.row id with
    | some event =>
      some (if event.status = .failed then
        { s with retries := s.retries ++ [{ workerId, id, event }] } else s)
    | none => some s
  | .reset n =>
    match s.retries[n]? with
    | some retry =>
      if retry.reset = false ∧ retry.progress = .waiting ∧ ¬ s.locked retry.id then
        some { s.write retry.id (OutboxRow.retry retry.event) with
          retries := s.retries.set n { retry with reset := true } }
      else none
    | none => none
  | .resetFails n error =>
    match s.retries[n]? with
    | some retry =>
      if retry.reset = false ∧ retry.progress = .waiting then
        some (s.proceedRetry n retry (s.retryCircuit retry, .failed error))
      else none
    | none => none
  | .handle n now =>
    match s.retries[n]? with
    | some retry =>
      if retry.reset = true ∧ retry.progress = .waiting then
        some (s.proceedRetry n retry (s.beginRetry now retry))
      else none
    | none => none
  | .settle n now error =>
    match s.retries[n]? with
    | some retry =>
      if retry.progress = .handling then
        some (s.proceedRetry n retry (endHandle (s.retryCircuit retry) now error))
      else none
    | none => none
  | .complete n now =>
    match s.retries[n]? with
    | some retry =>
      if retry.progress = .handled ∧ ¬ s.locked retry.id then
        some (s.concludeRetry n retry (OutboxRow.completeRetry now))
      else none
    | none => none
  | .completeFails n error =>
    match s.retries[n]? with
    | some retry =>
      if retry.progress = .handled then
        some (s.proceedRetry n retry (s.retryCircuit retry, .failed error))
      else none
    | none => none
  | .fail n =>
    match s.retries[n]? with
    | some retry =>
      match retry.progress with
      | .failed errorMessage =>
        if s.locked retry.id then none
        else some (s.concludeRetry n retry (OutboxRow.failRetry retry.event errorMessage))
      | _ => none
    | none => none
  | .failFails n =>
    match s.retries[n]? with
    | some retry =>
      match retry.progress with
      | .failed _ => some { s with retries := s.retries.eraseIdx n }
      | _ => none
    | none => none

/-- A retry of the row is in progress. -/
def retried (s : RetrySystem) (id : Nat) : Bool := s.retries.any (·.id = id)

/-- The handlers of an event that are running, of workers and of retries. -/
def handlers (s : RetrySystem) (id : Nat) : Nat :=
  s.jobs.countP (fun job => job.id = id && job.progress = .handling) +
    s.retries.countP fun retry => retry.id = id && retry.progress = .handling

/-- No worker claims a row that is being retried, no second retry finds it, and no
lock of a live job is released. -/
def Unopposed (s : RetrySystem) : RetryAction → Prop
  | .outbox action =>
    SparesJobs s.toOutboxSystem action ∧ ∀ id ∈ s.selection action, s.retried id = false
  | .findFailed _ id => (s.outbox.row id).any (·.status = .failed) → s.retried id = false
  | _ => True

instance {s : RetrySystem} {action : RetryAction} : Decidable (Unopposed s action) :=
  match action with
  | .outbox action => inferInstanceAs (Decidable (SparesJobs s.toOutboxSystem action ∧
      ∀ id ∈ s.selection action, s.retried id = false))
  | .findFailed _ id => inferInstanceAs (Decidable ((s.outbox.row id).any (·.status = .failed) →
      s.retried id = false))
  | .reset _ | .resetFails _ _ | .handle _ _ | .settle _ _ _ | .complete _ _ | .completeFails _ _
  | .fail _ | .failFails _ => isTrue trivial

end RetrySystem

/-! ## A row that no worker is at -/

namespace OutboxSystem

/-- No open claim and no job is at the row. -/
structure Free (s : OutboxSystem) (id : Nat) : Prop where
  known : id < s.outbox.serial
  unlocked : ¬ s.locked id
  unused : ∀ job ∈ s.jobs, job.id ≠ id

variable {s s' : OutboxSystem} {action : OutboxAction} {id n : Nat} {row row' : OutboxRow}

theorem Free.fewer (free : s.Free id) (serial : s.outbox.serial ≤ s'.outbox.serial)
    (claims : ∀ claim ∈ s'.claims, claim ∈ s.claims)
    (jobs : ∀ job ∈ s'.jobs, ∃ old ∈ s.jobs, old.id = job.id) : s'.Free id where
  known := Nat.lt_of_lt_of_le free.known serial
  unlocked := by
    rintro ⟨claim, open', listed⟩
    exact free.unlocked ⟨claim, claims claim open', listed⟩
  unused := by
    intro job member same
    obtain ⟨old, before, kept⟩ := jobs job member
    exact free.unused old before (kept.trans same)

/-- It stays so until the row is selected. -/
theorem free_step (free : s.Free id) (unselected : id ∉ s.selection action)
    (stepped : step s action = some s') : s'.Free id := by
  have serial := serial_step stepped
  have jobs_proceed : ∀ {n : Nat} {job : Job} {next : CircuitBreakerState × JobProgress},
      s.jobs[n]? = some job → ∀ later ∈ (s.proceed n job next).jobs,
        ∃ old ∈ s.jobs, old.id = later.id := by
    intro n job next found later member
    rcases List.mem_or_eq_of_mem_set member with old | rfl
    · exact ⟨later, old, rfl⟩
    · exact ⟨job, List.mem_of_getElem? found, rfl⟩
  cases step_effect stepped with
  | selected scans =>
    refine ⟨free.known, ?_, free.unused⟩
    rintro ⟨claim, open', listed⟩
    rcases List.mem_append.mp open' with old | new
    · exact free.unlocked ⟨claim, old, listed⟩
    · obtain rfl := List.mem_singleton.mp new
      exact unselected listed
  | committed found =>
    have open' := List.mem_of_getElem? found
    refine ⟨free.known, ?_, ?_⟩
    · rintro ⟨claim, still, listed⟩
      exact free.unlocked ⟨claim, List.mem_of_mem_eraseIdx still, listed⟩
    · intro job member same
      rcases List.mem_append.mp member with old | new
      · exact free.unused job old same
      · obtain ⟨entry, listed, rfl⟩ := List.mem_map.mp new
        exact free.unlocked ⟨_, open', List.mem_map.mpr ⟨entry, listed, same⟩⟩
  | aborted found =>
    exact free.fewer serial (fun claim => List.mem_of_mem_eraseIdx) fun job old => ⟨job, old, rfl⟩
  | started found | settled found | unmarked found =>
    exact free.fewer serial (fun claim old => old) (jobs_proceed found)
  | dropped | completed | failed =>
    exact free.fewer serial (fun claim old => old) fun job old =>
      ⟨job, List.mem_of_mem_eraseIdx old, rfl⟩
  | crashed =>
    exact free.fewer serial (fun claim => List.mem_of_mem_filter) fun job old =>
      ⟨job, List.mem_of_mem_filter old, rfl⟩
  | _ => exact free.fewer serial (fun claim old => old) fun job old => ⟨job, old, rfl⟩

/-- A worker does not write a row that it is not at, but for the release of a stale
lock. -/
theorem free_row (free : s.Free id) (stepped : step s action = some s')
    (after : s'.outbox.row id = some row') (idle : ∀ row, s.outbox.row id = some row →
      row.status ≠ .processing) : s.outbox.row id = some row' := by
  cases step_effect stepped with
  | stored =>
    rwa [Table.insert_row, if_neg (Nat.ne_of_lt free.known)] at after
  | released =>
    obtain ⟨row, here, rfl⟩ := Table.of_update after
    have fresh : ∀ now, row.stale now = false := by simp [OutboxRow.stale, idle row here]
    simp [fresh, here]
  | committed found =>
    obtain ⟨row, here, rfl⟩ := Table.of_update after
    rw [here, if_neg]
    intro claimed
    exact free.unlocked ⟨_, List.mem_of_getElem? found, of_decide_eq_true claimed⟩
  | completed found | failed found =>
    obtain ⟨row, here, rfl⟩ := Table.of_update after
    rw [here, if_neg]
    intro own
    exact free.unused _ (List.mem_of_getElem? found) (beq_iff_eq.mp own).symm
  | deleted => exact (Table.of_delete after).2
  | _ => exact after

/-- Where no worker is, a row may be written. -/
theorem owned_write (owned : Owned s) (free : s.Free id) (f : OutboxRow → OutboxRow) :
    Owned { s with outbox := s.outbox.update (fun other _ => other == id) f } := by
  have elsewhere : ∀ other, other ≠ id →
      (s.outbox.update (fun other _ => other == id) f).row other = s.outbox.row other := by
    intro other different
    simp [different]
  refine ⟨⟨owned.held.distinct, ?_, owned.held.claimable⟩, owned.apart, owned.known, ?_⟩
  · intro claim open' entry member
    have different : entry.1 ≠ id := by
      intro same
      exact free.unlocked ⟨claim, open', List.mem_map.mpr ⟨entry, member, same⟩⟩
    exact (elsewhere entry.1 different).trans (owned.held.kept claim open' entry member)
  · intro owner member row here
    obtain ⟨job, inside, rfl⟩ := List.mem_map.mp member
    have different := free.unused job inside
    rw [elsewhere job.id different] at here
    exact owned.of_job inside here

end OutboxSystem

/-! ## Retries in progress -/

namespace RetrySystem
open OutboxSystem (Owned serial_step row_origin owned_step owned_idle owned_write
  free_step free_row finished_free finished_step getElem?_split)

/-- What one step does to the retries and their rows. -/
inductive RetryEffect (s : RetrySystem) : RetryAction → RetrySystem → Prop where
  | outbox {left : List Retry} (stepped : OutboxSystem.step s.toOutboxSystem base = some after)
      (part : left.Sublist s.retries) : RetryEffect s (.outbox base) { after with retries := left }
  | missed {id : Nat} : RetryEffect s (.findFailed workerId id) s
  | found {id : Nat} (here : s.outbox.row id = some event) (failed : event.status = .failed) :
      RetryEffect s (.findFailed workerId id)
        { s with retries := s.retries ++ [{ workerId, id, event }] }
  | reset (found : s.retries[n]? = some retry) (fresh : retry.reset = false) :
      RetryEffect s (.reset n)
        { s.write retry.id (OutboxRow.retry retry.event) with
          retries := s.retries.set n { retry with reset := true } }
  | proceeded (found : s.retries[n]? = some retry) (other : ∀ m now, action ≠ .complete m now) :
      RetryEffect s action (s.proceedRetry n retry next)
  | completed (found : s.retries[n]? = some retry) :
      RetryEffect s (.complete n now) (s.concludeRetry n retry (OutboxRow.completeRetry now))
  | failed (found : s.retries[n]? = some retry) :
      RetryEffect s (.fail n)
        (s.concludeRetry n retry (OutboxRow.failRetry retry.event errorMessage))
  | dropped (found : s.retries[n]? = some retry) :
      RetryEffect s (.failFails n) { s with retries := s.retries.eraseIdx n }

variable {s s' : RetrySystem} {action : RetryAction} {n id : Nat} {retry : Retry}

theorem retry_effect (stepped : step s action = some s') : RetryEffect s action s' := by
  cases action with
  | outbox base =>
    obtain ⟨after, moved, rfl⟩ := Option.map_eq_some_iff.mp stepped
    apply RetryEffect.outbox moved
    split
    · exact List.filter_sublist
    · exact List.Sublist.refl _
  | findFailed workerId id =>
    simp only [step] at stepped
    split at stepped
    · rename_i event here
      split at stepped
      · cases stepped
        exact .found here ‹_›
      · cases stepped
        exact .missed
    · cases stepped
      exact .missed
  | reset n =>
    simp only [step] at stepped
    split at stepped
    · rename_i retry found
      split at stepped
      · rename_i ready
        cases stepped
        exact .reset found ready.1
      · cases stepped
    · cases stepped
  | complete n now =>
    simp only [step] at stepped
    split at stepped
    · rename_i retry found
      split at stepped
      · cases stepped
        exact .completed found
      · cases stepped
    · cases stepped
  | resetFails n error | handle n now | settle n now error | completeFails n error =>
    simp only [step] at stepped
    split at stepped
    · rename_i retry found
      split at stepped
      · cases stepped
        exact .proceeded found (by simp)
      · cases stepped
    · cases stepped
  | fail n =>
    simp only [step] at stepped
    split at stepped
    · rename_i retry found
      split at stepped
      · split at stepped
        · cases stepped
        · cases stepped
          exact .failed found
      · cases stepped
    · cases stepped
  | failFails n =>
    simp only [step] at stepped
    split at stepped
    · rename_i retry found
      split at stepped
      · cases stepped
        exact .dropped found
      · cases stepped
    · cases stepped

/-- The rows of the retries, and whether they have been made PENDING. -/
def entries (s : RetrySystem) : List (Nat × Bool) :=
  s.retries.map fun retry => (retry.id, retry.reset)

/-- Every retry is at a row of its own, which no worker is at: FAILED until the retry
makes it PENDING. -/
structure Retrying (s : RetrySystem) : Prop where
  owned : Owned s.toOutboxSystem
  apart : (s.entries.map Prod.fst).Nodup
  free : ∀ entry ∈ s.entries, s.Free entry.1
  stored : ∀ entry ∈ s.entries, ∀ row, s.outbox.row entry.1 = some row →
    row.status = if entry.2 then .pending else .failed

private theorem entries_proceed (found : s.retries[n]? = some retry)
    (next : CircuitBreakerState × JobProgress) :
    (s.proceedRetry n retry next).entries = s.entries := by
  obtain ⟨first, last, whole, -, replaced⟩ := getElem?_split found
  simp only [entries, proceedRetry, replaced]
  simp [whole]

theorem retried_iff : s.retried id = true ↔ id ∈ s.entries.map Prod.fst := by
  simp [retried, entries]

theorem mem_entries (found : s.retries[n]? = some retry) : (retry.id, retry.reset) ∈ s.entries :=
  List.mem_map_of_mem (List.mem_of_getElem? found)

private theorem retrying_idle (unclaimed : s.claims = []) (idle : s.jobs = []) (unretried : s.retries = []) :
    Retrying s where
  owned := owned_idle unclaimed idle
  apart := by simp [entries, unretried]
  free := by simp [entries, unretried]
  stored := by simp [entries, unretried]

/-- What keeps the retries, or some of them, and leaves their rows alone. -/
theorem Retrying.fewer (retrying : Retrying s) (owned : Owned s'.toOutboxSystem)
    (part : s'.entries.Sublist s.entries) (free : ∀ entry ∈ s'.entries, s'.Free entry.1)
    (kept : ∀ entry ∈ s'.entries, ∀ row, s'.outbox.row entry.1 = some row →
      s.outbox.row entry.1 = some row) : Retrying s' where
  owned := owned
  apart := retrying.apart.sublist (part.map Prod.fst)
  free := free
  stored := fun entry member row here =>
    retrying.stored entry (part.subset member) row (kept entry member row here)

/-- The row of a retry is not PROCESSING. -/
theorem Retrying.idle (retrying : Retrying s) (member : entry ∈ s.entries)
    (here : s.outbox.row entry.1 = some row) : row.status ≠ .processing := by
  rw [retrying.stored entry member row here]
  split <;> simp

private theorem retrying_outbox {base : OutboxAction} {after : OutboxSystem} {left : List Retry}
    (retrying : Retrying s) (unopposed : Unopposed s (.outbox base))
    (stepped : OutboxSystem.step s.toOutboxSystem base = some after)
    (part : left.Sublist s.retries) : Retrying { after with retries := left } := by
  have unselected : ∀ entry ∈ s.entries, entry.1 ∉ s.selection base := by
    intro entry member selected
    have unretried := unopposed.2 entry.1 selected
    have retried := retried_iff.mpr (List.mem_map_of_mem member)
    rw [unretried] at retried
    cases retried
  have entries : ({ after with retries := left } : RetrySystem).entries.Sublist s.entries := part.map _
  apply retrying.fewer (owned_step retrying.owned unopposed.1 stepped) entries
  · intro entry member
    have old := entries.subset member
    exact free_step (retrying.free entry old) (unselected entry old) stepped
  · intro entry member row here
    have old := entries.subset member
    exact free_row (retrying.free entry old) stepped here fun row => retrying.idle old

/-- A retry that ends writes its own row, and no other retry is at it. -/
theorem retrying_conclude (retrying : Retrying s) (found : s.retries[n]? = some retry)
    (f : OutboxRow → OutboxRow) : Retrying (s.concludeRetry n retry f) := by
  have free := retrying.free _ (mem_entries found)
  obtain ⟨first, last, whole, rest, -⟩ := getElem?_split found
  have left : (s.concludeRetry n retry f).entries =
      (first ++ last).map fun retry => (retry.id, retry.reset) := by
    simp [entries, concludeRetry, rest]
  have apart := retrying.apart
  simp only [entries, whole, List.map_append, List.map_cons] at apart
  have part : (s.concludeRetry n retry f).entries.Sublist s.entries := by
    rw [left]
    simp only [entries, whole]
    exact ((List.Sublist.refl first).append (List.sublist_cons_self retry last)).map _
  apply retrying.fewer (owned_write retrying.owned free f) part
  · intro entry member
    have kept := retrying.free entry (part.subset member)
    exact ⟨kept.known, kept.unlocked, kept.unused⟩
  · intro entry member row here
    obtain ⟨before, stored, rfl⟩ := Table.of_update here
    rw [stored, if_neg]
    intro same
    rw [beq_iff_eq] at same
    rw [left] at member
    rw [List.nodup_middle, ← same, ← List.map_append, ← List.map_append] at apart
    exact (List.nodup_cons.mp apart).1 (List.mem_map_of_mem member)

private theorem retrying_reset (retrying : Retrying s) (found : s.retries[n]? = some retry) :
    Retrying { s.write retry.id (OutboxRow.retry retry.event) with
      retries := s.retries.set n { retry with reset := true } } := by
  have free := retrying.free _ (mem_entries found)
  obtain ⟨first, last, whole, -, replaced⟩ := getElem?_split found
  have apart := retrying.apart
  have shape : ({ s.write retry.id (OutboxRow.retry retry.event) with
      retries := s.retries.set n { retry with reset := true } } : RetrySystem).entries =
      first.map (fun retry => (retry.id, retry.reset)) ++
        (retry.id, true) :: last.map fun retry => (retry.id, retry.reset) := by
    simp [entries, replaced]
  have before : s.entries = first.map (fun retry => (retry.id, retry.reset)) ++
      (retry.id, retry.reset) :: last.map fun retry => (retry.id, retry.reset) := by
    simp [entries, whole]
  have others : ∀ entry ∈ first.map (fun retry => (retry.id, retry.reset)) ++
      last.map (fun retry => (retry.id, retry.reset)), entry ∈ s.entries ∧ entry.1 ≠ retry.id := by
    intro entry member
    constructor
    · rw [before]
      rcases List.mem_append.mp member with early | late
      · exact List.mem_append_left _ early
      · exact List.mem_append_right _ (List.mem_cons_of_mem _ late)
    · intro same
      rw [before, List.map_append, List.map_cons, List.nodup_middle, ← List.map_append] at apart
      exact (List.nodup_cons.mp apart).1 (List.mem_map.mpr ⟨entry, member, same⟩)
  refine ⟨owned_write retrying.owned free _, ?_, ?_, ?_⟩
  · rw [shape]
    rw [before] at apart
    simpa using apart
  · intro entry member
    rw [shape, List.mem_append, List.mem_cons, or_left_comm, ← List.mem_append] at member
    rcases member with rfl | other
    · exact ⟨free.known, free.unlocked, free.unused⟩
    · have kept := retrying.free entry (others entry other).1
      exact ⟨kept.known, kept.unlocked, kept.unused⟩
  · intro entry member row here
    obtain ⟨stored, held, rfl⟩ := Table.of_update here
    rw [shape, List.mem_append, List.mem_cons, or_left_comm, ← List.mem_append] at member
    rcases member with rfl | other
    · simp [OutboxRow.retry]
    · obtain ⟨old, different⟩ := others entry other
      rw [if_neg (by simpa using different)]
      exact retrying.stored entry old stored held

private theorem retrying_found {workerId : String} {event : OutboxRow} (retrying : Retrying s)
    (here : s.outbox.row id = some event) (failed : event.status = .failed)
    (unretried : s.retried id = false) :
    Retrying { s with retries := s.retries ++ [{ workerId, id, event }] } := by
  have fresh : id ∉ s.entries.map Prod.fst := by
    intro listed
    have retried := retried_iff.mpr listed
    rw [unretried] at retried
    cases retried
  have shape : ({ s with retries := s.retries ++ [{ workerId, id, event }] } :
      RetrySystem).entries = s.entries ++ [(id, false)] := by simp [entries]
  refine ⟨retrying.owned, ?_, ?_, ?_⟩
  · rw [shape, List.map_append]
    exact retrying.apart.append (List.nodup_singleton _) (by simpa using fresh)
  · intro entry member
    rw [shape] at member
    rcases List.mem_append.mp member with old | new
    · exact retrying.free entry old
    · obtain rfl := List.mem_singleton.mp new
      obtain ⟨unlocked, unused⟩ :=
        finished_free retrying.owned here (by simp [OutboxRow.finished, failed])
      exact ⟨Table.row_below here, unlocked, unused⟩
  · intro entry member row stored
    rw [shape] at member
    rcases List.mem_append.mp member with old | new
    · exact retrying.stored entry old row stored
    · obtain rfl := List.mem_singleton.mp new
      obtain rfl := Option.some.inj (here.symm.trans stored)
      exact failed

private theorem retrying_proceed (retrying : Retrying s) (found : s.retries[n]? = some retry)
    (next : CircuitBreakerState × JobProgress) : Retrying (s.proceedRetry n retry next) := by
  have same := entries_proceed found next
  have owned := retrying.owned
  refine ⟨⟨⟨owned.held.distinct, owned.held.kept, owned.held.claimable⟩, owned.apart, owned.known,
    owned.owned⟩, ?_, ?_, ?_⟩
  · rw [same]
    exact retrying.apart
  · intro entry member
    rw [same] at member
    have kept := retrying.free entry member
    exact ⟨kept.known, kept.unlocked, kept.unused⟩
  · intro entry member
    rw [same] at member
    exact retrying.stored entry member

private theorem retrying_drop (retrying : Retrying s) (n : Nat) :
    Retrying { s with retries := s.retries.eraseIdx n } := by
  have part : ({ s with retries := s.retries.eraseIdx n } : RetrySystem).entries.Sublist
      s.entries := (List.eraseIdx_sublist ..).map _
  exact retrying.fewer retrying.owned part
    (fun entry member => retrying.free entry (part.subset member)) fun _ _ _ here => here

theorem retrying_step (retrying : Retrying s) (unopposed : Unopposed s action)
    (stepped : step s action = some s') : Retrying s' := by
  cases retry_effect stepped with
  | outbox moved part => exact retrying_outbox retrying unopposed moved part
  | missed => exact retrying
  | found here failed =>
    exact retrying_found retrying here failed (unopposed (by simp [here, failed]))
  | reset found => exact retrying_reset retrying found
  | proceeded found => exact retrying_proceed retrying found _
  | completed found | failed found => exact retrying_conclude retrying found _
  | dropped found => exact retrying_drop retrying _

/-! ## What it comes to -/

/-- Where the keys differ, one element at most has a given key. -/
theorem countP_le_one {α : Type} {l : List α} {test : α → Bool} (key : α → Nat)
    (distinct : (l.map key).Nodup) (same : ∀ a ∈ l, test a = true → key a = id) :
    l.countP test ≤ 1 := by
  have keyed : l.countP test ≤ (l.map key).count id := by
    rw [List.count_eq_countP, List.countP_map]
    apply List.countP_mono_left
    intro a member holds
    simpa using same a member holds
  exact Nat.le_trans keyed (List.nodup_iff_count_le_one.mp distinct id)

/-- An event has one handler at most. -/
theorem handlers_le (retrying : Retrying s) (id : Nat) : s.handlers id ≤ 1 := by
  have ids : s.jobs.map Job.id = s.owners.map Prod.fst := by simp [OutboxSystem.owners]
  have jobs : s.jobs.countP (fun job => job.id = id && job.progress = .handling) ≤ 1 := by
    apply countP_le_one Job.id
    · rw [ids]
      exact retrying.owned.apart
    · intro job _ holds
      simp only [Bool.and_eq_true, decide_eq_true_eq] at holds
      exact holds.1
  have retries : s.retries.countP (fun retry => retry.id = id && retry.progress = .handling) ≤ 1 := by
    apply countP_le_one Retry.id
    · simpa [entries, Function.comp_def] using retrying.apart
    · intro retry _ holds
      simp only [Bool.and_eq_true, decide_eq_true_eq] at holds
      exact holds.1
  have apart : s.jobs.countP (fun job => job.id = id && job.progress = .handling) = 0 ∨
      s.retries.countP (fun retry => retry.id = id && retry.progress = .handling) = 0 := by
    by_cases used : ∃ job ∈ s.jobs, job.id = id
    · obtain ⟨job, member, here⟩ := used
      right
      rw [List.countP_eq_zero]
      intro retry listed holds
      simp only [Bool.and_eq_true, decide_eq_true_eq] at holds
      have free := retrying.free (retry.id, retry.reset) (List.mem_map_of_mem listed)
      exact free.unused job member (here.trans holds.1.symm)
    · left
      rw [List.countP_eq_zero]
      intro job member holds
      simp only [Bool.and_eq_true, decide_eq_true_eq] at holds
      exact used ⟨job, member, holds.1⟩
  unfold handlers
  omega

/-- The row is COMPLETED for as long as it is in the table. -/
structure Closed (id : Nat) (s : RetrySystem) : Prop where
  known : id < s.outbox.serial
  completed : ∀ row, s.outbox.row id = some row → row.status = .completed

/-- A retry does not write a row that is COMPLETED. -/
theorem closed_write (retrying : Retrying s) (closed : Closed id s)
    (found : s.retries[n]? = some retry) (f : OutboxRow → OutboxRow) :
    ∀ row, (s.write retry.id f).outbox.row id = some row → row.status = .completed := by
  intro row here
  obtain ⟨before, stored, rfl⟩ := Table.of_update here
  have completed := closed.completed before stored
  rw [if_neg]
  · exact completed
  · intro same
    rw [beq_iff_eq] at same
    have pending := retrying.stored _ (mem_entries found) before (same ▸ stored)
    rw [completed] at pending
    split at pending <;> cases pending

theorem closed_step (retrying : Retrying s) (closed : Closed id s)
    (stepped : step s action = some s') : Closed id s' := by
  cases retry_effect stepped with
  | outbox moved part =>
    refine ⟨Nat.lt_of_lt_of_le closed.known (serial_step moved), fun row after => ?_⟩
    obtain ⟨before, here⟩ := row_origin moved closed.known after
    have completed := closed.completed before here
    rw [finished_step retrying.owned moved here (by simp [OutboxRow.finished, completed]) after]
    exact completed
  | missed | found | proceeded | dropped => exact ⟨closed.known, closed.completed⟩
  | reset found => exact ⟨closed.known, closed_write retrying closed found _⟩
  | completed found | failed found =>
    exact ⟨closed.known, closed_write retrying closed found _⟩

/-- A retry that succeeds leaves its row COMPLETED. -/
theorem closed_complete {now : Time} (retrying : Retrying s)
    (found : s.retries[n]? = some retry) (stepped : step s (.complete n now) = some s') :
    Closed retry.id s' := by
  cases retry_effect stepped with
  | proceeded _ other => exact absurd rfl (other n now)
  | completed here =>
    obtain rfl := Option.some.inj (found.symm.trans here)
    refine ⟨(retrying.free _ (mem_entries found)).known, fun row after => ?_⟩
    obtain ⟨before, -, rfl⟩ := Table.of_update after
    simp [OutboxRow.completeRetry]

end RetrySystem

section Runs
open RetrySystem

variable {s : RetrySystem} {actions : List RetryAction}

/-- As long as nothing else takes the row of a retry, an event has one handler at a
time, and a retry that succeeded has completed it for good. -/
theorem retry_alone (unclaimed : s.claims = []) (idle : s.jobs = []) (unretried : s.retries = [])
    (admitted : Admits step Unopposed s actions) :
    (∀ taken ∈ trace step s actions, ∀ id, taken.after.handlers id ≤ 1) ∧
      ∀ earlier taken later, trace step s actions = earlier ++ taken :: later →
        ∀ n now retry, taken.action = .complete n now → taken.before.retries[n]? = some retry →
          ∀ next ∈ taken :: later, ∀ row, next.after.outbox.row retry.id = some row →
            row.status = .completed := by
  have start := retrying_idle unclaimed idle unretried
  have keeps : ∀ {s action s'}, Retrying s → Unopposed s action → step s action = some s' →
      Retrying s' := retrying_step
  constructor
  · intro taken member id
    obtain ⟨retrying, unopposed, stepped⟩ := trace_inv keeps start admitted taken member
    exact handlers_le (keeps retrying unopposed stepped) id
  · intro earlier taken later shape n now retry completes found
    have member : taken ∈ trace step s actions := by simp [shape]
    obtain ⟨retrying, unopposed, stepped⟩ := trace_inv keeps start admitted taken member
    obtain ⟨-, -, rest, rfl, following⟩ := trace_cut admitted shape
    have closed : Closed retry.id taken.after :=
      closed_complete retrying found (completes ▸ stepped)
    intro next among row here
    rcases List.mem_cons.mp among with rfl | after
    · exact closed.completed row here
    · have both : ∀ {s action s'}, Retrying s ∧ Closed retry.id s → Unopposed s action →
          step s action = some s' → Retrying s' ∧ Closed retry.id s' :=
        fun held unopposed stepped =>
          ⟨retrying_step held.1 unopposed stepped, closed_step held.1 held.2 stepped⟩
      obtain ⟨⟨retrying, closed⟩, unopposed, stepped⟩ :=
        trace_inv both ⟨keeps retrying unopposed stepped, closed⟩ following next after
      exact (closed_step retrying closed stepped).completed row here

end Runs

namespace OutboxSample

/-- One event is FAILED. -/
def dead : RetrySystem where
  outbox := .ofList [{ waiting "DELIVERY_ASSIGNED_V1:order:S1" with
    status := .failed, retryCount := 10, lastError := some "timeout" }]

/-- A retry that succeeds next to a worker that releases and selects. -/
def oneRetry : List RetryAction :=
  [.findFailed "w1" 0, .reset 0, .handle 0 10, .outbox (.releaseStaleLocks 15), .settle 0 20 none,
   .complete 0 20, .outbox (.selectBatch "w2" 30 50 [0])]

theorem retry_alone_dead : (run RetrySystem.step dead oneRetry).isSome ∧
    ∀ taken ∈ trace RetrySystem.step dead oneRetry, ∀ id, taken.after.handlers id ≤ 1 :=
  ⟨by decide +kernel, (retry_alone rfl rfl rfl (by decide +kernel)).1⟩

/-- Two retries have found the row, and the handler runs twice at once; or a worker
claims the row of a retry, and its failure undoes the success. -/
theorem retried_twice :
    (∃ s, run RetrySystem.step dead
        [.findFailed "w1" 0, .findFailed "w2" 0, .reset 0, .reset 1, .handle 0 10, .handle 1 10] =
          some s ∧ s.handlers 0 = 2) ∧
    ∃ s, run RetrySystem.step dead
        ([.findFailed "w1" 0, .reset 0, .handle 0 10] ++
          (takeUp "w2" 0 15 [0]).map RetryAction.outbox ++
          [.settle 0 20 none, .complete 0 20, .outbox (.settle 0 25 (some "timeout")),
           .outbox (.handleFailure 0 25)]) = some s ∧
      (s.outbox.row 0).map (·.status) = some .failed := by
  constructor
  · apply Option.map_eq_some_iff.mp
    decide +kernel
  · apply Option.map_eq_some_iff.mp
    decide +kernel

end OutboxSample

end DriverMicroServices
