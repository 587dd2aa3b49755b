import DriverMicroServices.OutboxSteps

/-! Whose a row is while its handler runs. The outcome of a job is written by the
row's id alone, so it is only as good as the lock: as long as no lock of a live
job is released, a worker writes its own rows and a completed row stays so. -/
namespace DriverMicroServices
open Tables Transitions OutboxSystem

/-- No lock is released while its worker is still at the row. -/
def SparesJobs (s : OutboxSystem) : OutboxAction → Prop
  | .releaseStaleLocks now =>
    ∀ job ∈ s.jobs, (s.outbox.row job.id).any (fun row => row.stale now) = false
  | _ => True

instance : ∀ s action, Decidable (SparesJobs s action)
  | s, .releaseStaleLocks _ => inferInstanceAs (Decidable (∀ job ∈ s.jobs, _ = false))
  | _, .publish .. | _, .selectBatch .. | _, .commitBatch .. | _, .abortBatch .. | _, .start ..
  | _, .settle .. | _, .markCompleted .. | _, .markCompletedFails .. | _, .handleFailure ..
  | _, .handleFailureFails .. | _, .crash .. | _, .archiveCompletedEvents ..
  | _, .archiveOldEvents .. | _, .archiveEventsImmediately .. | _, .saveBatch ..
  | _, .deleteArchived .. | _, .archiverFails .. => isTrue trivial

namespace OutboxSystem

/-- The ids of the jobs with their workers. -/
def owners (s : OutboxSystem) : List (Nat × String) :=
  s.jobs.map fun job => (job.id, job.workerId)

/-- Every job is at a row of its own, which is PROCESSING and locked by its worker
for as long as it is in the table. -/
structure Owned (s : OutboxSystem) : Prop where
  held : Held s
  apart : (s.owners.map Prod.fst).Nodup
  known : ∀ owner ∈ s.owners, owner.1 < s.outbox.serial
  owned : ∀ owner ∈ s.owners, ∀ row, s.outbox.row owner.1 = some row →
    row.status = .processing ∧ row.lockedBy = some owner.2

variable {s s' : OutboxSystem} {action : OutboxAction} {actions : List OutboxAction}
  {id n : Nat} {row : OutboxRow} {claim : Claim} {next : CircuitBreakerState × JobProgress}

private theorem owners_proceed {job : Job} (found : s.jobs[n]? = some job) : (s.proceed n job next).owners = s.owners := by
  obtain ⟨first, last, whole, -, replaced⟩ := getElem?_split found
  simp only [owners, proceed, replaced]
  simp [whole]

theorem owned_idle (unclaimed : s.claims = []) (idle : s.jobs = []) : Owned s where
  held := held_unclaimed unclaimed
  apart := by simp [owners, idle]
  known := by simp [owners, idle]
  owned := by simp [owners, idle]

/-- The owner of a job. -/
theorem Owned.of_job (owned : Owned s) {job : Job} (member : job ∈ s.jobs) (here : s.outbox.row job.id = some row) :
    row.status = .processing ∧ row.lockedBy = some job.workerId :=
  owned.owned (job.id, job.workerId) (List.mem_map_of_mem member) row here

/-- What keeps the owners, or some of them, and leaves their rows alone. -/
theorem Owned.fewer (owned : Owned s) (held : Held s') (part : s'.owners.Sublist s.owners)
    (serial : s.outbox.serial ≤ s'.outbox.serial)
    (kept : ∀ owner ∈ s'.owners, ∀ row, s'.outbox.row owner.1 = some row →
      s.outbox.row owner.1 = some row) : Owned s' where
  held := held
  apart := owned.apart.sublist (part.map Prod.fst)
  known := fun owner member => Nat.lt_of_lt_of_le (owned.known owner (part.subset member)) serial
  owned := fun owner member row here =>
    owned.owned owner (part.subset member) row (kept owner member row here)

/-- The job that ends leaves the rows of the others alone. -/
theorem owned_conclude (owned : Owned s) (found : s.jobs[n]? = some job)
    (held : Held (s.conclude n job f)) : Owned (s.conclude n job f) := by
  obtain ⟨first, last, whole, rest, -⟩ := getElem?_split found
  have left : (s.conclude n job f).owners =
      (first ++ last).map fun job => (job.id, job.workerId) := by
    simp [owners, conclude, rest]
  have apart := owned.apart
  simp only [owners, whole, List.map_append, List.map_cons] at apart
  refine owned.fewer held ?_ (Nat.le_refl _) fun owner member row here => ?_
  · rw [left]
    simp only [owners, whole]
    exact ((List.Sublist.refl first).append (List.sublist_cons_self job last)).map _
  · obtain ⟨before, stored, rfl⟩ := Table.of_update here
    rw [stored, if_neg]
    intro same
    rw [beq_iff_eq] at same
    rw [left] at member
    rw [List.nodup_middle, ← same, ← List.map_append, ← List.map_append] at apart
    exact (List.nodup_cons.mp apart).1 (List.mem_map_of_mem member)

/-- The rows of a claim become the jobs of its worker. -/
theorem owned_commit (owned : Owned s) (found : s.claims[n]? = some claim)
    (stepped : step s (.commitBatch n) = some s') : Owned s' := by
  have held' := owned.held
  have held := held_step held' stepped
  simp only [step, found, Option.map_some, Option.some.injEq] at stepped
  subst stepped
  have kept : ∀ entry ∈ claim.rows, s.outbox.row entry.1 = some entry.2 :=
    held'.kept claim (List.mem_of_getElem? found)
  have pending : ∀ entry ∈ claim.rows, entry.2.status = .pending := by
    intro entry member
    have claimable := held'.claimable claim (List.mem_of_getElem? found) entry member
    simp only [OutboxRow.claimable, Bool.and_eq_true, decide_eq_true_eq] at claimable
    exact claimable.1.1
  have foreign : ∀ owner ∈ s.owners, owner.1 ∉ claim.rows.map Prod.fst := by
    intro owner member inside
    obtain ⟨entry, listed, same⟩ := List.mem_map.mp inside
    have busy := (owned.owned owner member entry.2 (same ▸ kept entry listed)).1
    rw [pending entry listed] at busy
    cases busy
  have whole : (s.jobs ++ jobsOf claim).map (fun job => (job.id, job.workerId)) =
      s.owners ++ claim.rows.map fun entry => (entry.1, claim.workerId) := by
    simp [owners, jobsOf]
  have ids : (claim.rows.map fun entry => (entry.1, claim.workerId)).map Prod.fst =
      claim.rows.map Prod.fst := by simp
  have origin : ∀ owner ∈ (s.jobs ++ jobsOf claim).map fun job => (job.id, job.workerId),
      owner ∈ s.owners ∨ ∃ entry ∈ claim.rows, (entry.1, claim.workerId) = owner := by
    intro owner member
    rw [whole, List.mem_append, List.mem_map] at member
    exact member
  refine ⟨held, ?_, fun owner member => ?_, fun owner member row here => ?_⟩
  · change (((s.jobs ++ jobsOf claim).map fun job => (job.id, job.workerId)).map Prod.fst).Nodup
    rw [whole, List.map_append, ids]
    refine owned.apart.append (held'.committed found).1 fun id earlier claimed => ?_
    obtain ⟨owner, member, rfl⟩ := List.mem_map.mp earlier
    exact foreign owner member claimed
  · rcases origin owner member with old | ⟨entry, listed, rfl⟩
    · exact owned.known owner old
    · exact Table.row_below (t := s.outbox) (kept entry listed)
  · obtain ⟨before, stored, rfl⟩ := Table.of_update here
    rcases origin owner member with old | ⟨entry, listed, rfl⟩
    · rw [if_neg (by simpa using foreign owner old)]
      exact owned.owned owner old before stored
    · rw [if_pos (decide_eq_true (List.mem_map_of_mem (f := Prod.fst) listed))]
      exact ⟨rfl, rfl⟩

theorem owned_step (owned : Owned s) (spares : SparesJobs s action)
    (stepped : step s action = some s') : Owned s' := by
  have held := held_step owned.held stepped
  cases step_effect stepped with
  | stored =>
    refine owned.fewer held (List.Sublist.refl _) (Nat.le_succ _) fun owner member row here => ?_
    have old : owner.1 ≠ s.outbox.serial := Nat.ne_of_lt (owned.known owner member)
    rwa [Table.insert_row, if_neg old] at here
  | released =>
    refine owned.fewer held (List.Sublist.refl _) (Nat.le_refl _) fun owner member row here => ?_
    obtain ⟨job, inside, rfl⟩ := List.mem_map.mp member
    obtain ⟨before, stored, rfl⟩ := Table.of_update here
    have fresh := spares job inside
    rw [stored, Option.any_some] at fresh
    simpa [fresh] using stored
  | committed found => exact owned_commit owned found stepped
  | started found | settled found | unmarked found =>
    refine owned.fewer held ?_ (Nat.le_refl _) fun _ _ _ here => here
    rw [owners_proceed found]
  | dropped =>
    exact owned.fewer held ((List.eraseIdx_sublist ..).map _) (Nat.le_refl _) fun _ _ _ here => here
  | completed found | failed found => exact owned_conclude owned found held
  | crashed =>
    exact owned.fewer held (List.filter_sublist.map _) (Nat.le_refl _) fun _ _ _ here => here
  | deleted =>
    exact owned.fewer held (List.Sublist.refl _) (Nat.le_refl _) fun _ _ _ here =>
      (Table.of_delete here).2
  | _ => exact owned.fewer held (List.Sublist.refl _) (Nat.le_refl _) fun _ _ _ here => here

/-- The row of a claim is PENDING, and the row of a job PROCESSING. -/
theorem finished_free (owned : Owned s) (here : s.outbox.row id = some row)
    (done : row.finished = true) : ¬ s.locked id ∧ ∀ job ∈ s.jobs, job.id ≠ id := by
  simp only [OutboxRow.finished, Bool.or_eq_true, decide_eq_true_eq] at done
  constructor
  · intro locked
    obtain ⟨row', here', pending⟩ := owned.held.mem locked
    cases here.symm.trans here'
    simp [pending] at done
  · rintro job member rfl
    have busy := (owned.of_job member here).1
    simp [busy] at done

/-- A finished row is not written any more. -/
theorem finished_step (owned : Owned s) (stepped : step s action = some s')
    (before : s.outbox.row id = some row) (done : row.finished = true)
    (after : s'.outbox.row id = some row') : row' = row := by
  obtain ⟨unlocked, unused⟩ := finished_free owned before done
  cases step_effect stepped with
  | stored =>
    rw [Table.insert_row_of_some before, Option.some.injEq] at after
    exact after.symm
  | released =>
    obtain ⟨stored, here, rfl⟩ := Table.of_update after
    cases before.symm.trans here
    have fresh : ∀ now, row.stale now = false := by
      intro now
      simp only [OutboxRow.finished, Bool.or_eq_true, decide_eq_true_eq] at done
      rcases done with done | done <;> simp [OutboxRow.stale, done]
    rw [fresh]
    rfl
  | committed found =>
    obtain ⟨stored, here, rfl⟩ := Table.of_update after
    cases before.symm.trans here
    refine if_neg fun claimed => unlocked ⟨_, List.mem_of_getElem? found, ?_⟩
    exact of_decide_eq_true claimed
  | completed found | failed found =>
    obtain ⟨stored, here, rfl⟩ := Table.of_update after
    cases before.symm.trans here
    exact if_neg fun own => unused _ (List.mem_of_getElem? found) (beq_iff_eq.mp own).symm
  | deleted =>
    exact Option.some.inj ((Table.of_delete after).2.symm.trans before)
  | _ => exact Option.some.inj (after.symm.trans before)

end OutboxSystem

/-- A step that writes the outcome of a job. -/
def WritesOutcome (job : Job) (taken : Taken OutboxSystem OutboxAction) : Prop :=
  ∃ n now, (taken.action = .markCompleted n now ∨ taken.action = .handleFailure n now) ∧
    taken.before.jobs[n]? = some job

/-- A row that was COMPLETED is COMPLETED or gone after the step. -/
def CompletionFinal (taken : Taken OutboxSystem OutboxAction) : Prop :=
  ∀ id row row', taken.before.outbox.row id = some row → row.status = .completed →
    taken.after.outbox.row id = some row' → row'.status = .completed

/-- The row that a worker writes an outcome for is PROCESSING and its own. -/
def OutcomeOwned (taken : Taken OutboxSystem OutboxAction) : Prop :=
  ∀ job row, WritesOutcome job taken → taken.before.outbox.row job.id = some row →
    row.status = .processing ∧ row.lockedBy = some job.workerId

section Completion

variable {s : OutboxSystem} {actions : List OutboxAction}

/-- In a run that releases no lock of a live job, completion is final and
outcomes are written by their owners. -/
theorem completion_final_and_owned (unclaimed : s.claims = []) (idle : s.jobs = [])
    (admitted : Admits step SparesJobs s actions) :
    ∀ taken ∈ trace step s actions, CompletionFinal taken ∧ OutcomeOwned taken := by
  intro taken member
  obtain ⟨owned, spares, stepped⟩ :=
    trace_inv owned_step (owned_idle unclaimed idle) admitted taken member
  constructor
  · intro id row row' before done after
    rw [finished_step owned stepped before (by simp [OutboxRow.finished, done]) after]
    exact done
  · rintro job row ⟨n, now, -, found⟩ here
    exact owned.of_job (List.mem_of_getElem? found) here

end Completion

section Samples
open OutboxSample

/-- A failure that is retried, and then a success. -/
def retried : List OutboxAction :=
  failingAttempt "w1" 0 0 [0] ++ [.releaseStaleLocks 1000] ++ takeUp "w2" 0 5000 [0] ++
    [.settle 0 6000 none, .markCompleted 0 6000]

theorem completion_final_and_owned_shop :
    (run step one retried).isSome ∧
      ∀ taken ∈ trace step one retried, CompletionFinal taken ∧ OutcomeOwned taken :=
  ⟨by decide +kernel, completion_final_and_owned rfl rfl (by decide +kernel)⟩

/-- The handler of `w1` takes more than two minutes; `w2` completes the event
before that handler ends with an error. -/
def overtaken : List OutboxAction :=
  takeUp "w1" 0 0 [0] ++ [.releaseStaleLocks 120001] ++ takeUp "w2" 1 120001 [0] ++
    [.settle 1 121000 none, .markCompleted 1 121000, .settle 0 122000 (some "timeout"),
     .handleFailure 0 122000]

/-- The completed event is PENDING again. -/
theorem completion_undone :
    ∃ taken ∈ trace step one overtaken, ¬ CompletionFinal taken ∧ ¬ OutcomeOwned taken := by
  have computed : (trace step one overtaken)[10]?.map (fun taken =>
      (taken.action, (taken.before.jobs[0]?).map (·.id), (taken.before.outbox.row 0).map (·.status),
        (taken.after.outbox.row 0).map (·.status))) =
      some (.handleFailure 0 122000, some 0, some .completed, some .pending) := by decide +kernel
  obtain ⟨taken, here, shape⟩ := Option.map_eq_some_iff.mp computed
  simp only [Prod.mk.injEq, Option.map_eq_some_iff] at shape
  obtain ⟨action, ⟨job, found, id⟩, ⟨row, before, done⟩, ⟨row', after, pending⟩⟩ := shape
  refine ⟨taken, List.mem_of_getElem? here, fun final => ?_, fun owned => ?_⟩
  · have still := final 0 row row' before done after
    rw [pending] at still
    cases still
  · have busy := (owned job row ⟨0, 122000, .inr action, found⟩ (id ▸ before)).1
    rw [done] at busy
    cases busy

end Samples

end DriverMicroServices
