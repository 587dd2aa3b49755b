import DriverMicroServices.OutboxCompletion

/-! What the archiving services take out of the outbox. Rows are chosen by age or
by id in one statement and deleted by id in another, so both the choice and what
the workers do in between decide whether an event is lost. -/
namespace DriverMicroServices
open Tables Transitions OutboxSystem

/-- The archivers choose finished events of the table, and no lock of a live job is
released. -/
def TakesFinished (s : OutboxSystem) : OutboxAction → Prop
  | .releaseStaleLocks now => SparesJobs s (.releaseStaleLocks now)
  | .archiveOldEvents daysToKeep now order =>
    ∀ entry ∈ s.outbox.select order (fun _ row => row.outdated daysToKeep now),
      entry.2.finished = true
  | .archiveEventsImmediately eventIds _ =>
    ∀ id ∈ eventIds, id < s.outbox.serial ∧ (s.outbox.row id).all OutboxRow.finished = true
  | _ => True

instance : ∀ s action, Decidable (TakesFinished s action)
  | s, .releaseStaleLocks now => inferInstanceAs (Decidable (SparesJobs s (.releaseStaleLocks now)))
  | _, .archiveOldEvents .. => inferInstanceAs (Decidable (∀ entry ∈ _, _ = true))
  | s, .archiveEventsImmediately eventIds _ =>
    inferInstanceAs (Decidable (∀ id ∈ eventIds, id < s.outbox.serial ∧ _ = true))
  | _, .publish .. | _, .selectBatch .. | _, .commitBatch .. | _, .abortBatch .. | _, .start ..
  | _, .settle .. | _, .markCompleted .. | _, .markCompletedFails .. | _, .handleFailure ..
  | _, .handleFailureFails .. | _, .crash .. | _, .archiveCompletedEvents .. | _, .saveBatch ..
  | _, .deleteArchived .. | _, .archiverFails .. => isTrue trivial

/-- Nothing is deleted but finished rows. -/
structure Delivering (s : OutboxSystem) : Prop where
  owned : Owned s
  taken : ∀ archiver ∈ s.archivers, ∀ id ∈ archiver.archivedIds,
    id < s.outbox.serial ∧ ∀ row, s.outbox.row id = some row → row.finished = true

section Cleanup

variable {s s' : OutboxSystem} {action : OutboxAction} {actions : List OutboxAction} {id : Nat}
  {row row' : OutboxRow}

private theorem takesFinished_spares (takes : TakesFinished s action) : SparesJobs s action := by
  cases action with
  | releaseStaleLocks => exact takes
  | _ => trivial

/-- The ids of a query are those of rows that it found. -/
theorem ofQuery_ids (scans : order.Perm s.outbox.ids)
    (member : id ∈ (Archiver.ofQuery (s.outbox.select order test)).archivedIds) :
    ∃ row, s.outbox.row id = some row ∧ test id row = true := by
  obtain ⟨entry, found, rfl⟩ := List.mem_map.mp member
  have chosen := (List.mem_insertionSort _).mp found
  exact ⟨entry.2, (Table.mem_select scans).mp chosen⟩

/-- What was chosen stays finished until it is gone. -/
theorem taken_step (delivering : Delivering s) (stepped : step s action = some s')
    (archiver : Archiver) (member : archiver ∈ s.archivers) :
    ∀ id ∈ archiver.archivedIds, id < s'.outbox.serial ∧
      ∀ row, s'.outbox.row id = some row → row.finished = true := by
  intro id chosen
  obtain ⟨known, finished⟩ := delivering.taken archiver member id chosen
  refine ⟨Nat.lt_of_lt_of_le known (serial_step stepped), fun row after => ?_⟩
  obtain ⟨before, here⟩ := row_origin stepped known after
  rw [finished_step delivering.owned stepped here (finished before here) after]
  exact finished before here

theorem delivering_step (delivering : Delivering s) (takes : TakesFinished s action)
    (stepped : step s action = some s') : Delivering s' := by
  have owned := owned_step delivering.owned (takesFinished_spares takes) stepped
  have old := taken_step delivering stepped
  have fewer : s'.archivers.Sublist s.archivers → Delivering s' := fun part =>
    ⟨owned, fun archiver member => old archiver (part.subset member)⟩
  have one : ∀ archiver, s'.archivers = s.archivers ++ [archiver] →
      (∀ id ∈ archiver.archivedIds, id < s.outbox.serial ∧
        ∀ row, s.outbox.row id = some row → row.finished = true) →
      s'.outbox = s.outbox → Delivering s' := by
    intro archiver shape new same
    refine ⟨owned, fun archiver' member => ?_⟩
    rw [shape] at member
    rcases List.mem_append.mp member with before | here
    · exact old archiver' before
    · rw [List.mem_singleton.mp here, same]
      exact new
  cases step_effect stepped with
  | queriedCompleted scans =>
    refine one _ rfl (fun id member => ?_) rfl
    obtain ⟨row, here, chosen⟩ := ofQuery_ids scans member
    simp only [OutboxRow.archivable, Bool.and_eq_true, decide_eq_true_eq] at chosen
    refine ⟨Table.row_below here, fun row' here' => ?_⟩
    cases here.symm.trans here'
    simp [OutboxRow.finished, chosen.1]
  | queriedOld scans =>
    refine one _ rfl (fun id member => ?_) rfl
    obtain ⟨row, here, chosen⟩ := ofQuery_ids scans member
    refine ⟨Table.row_below here, fun row' here' => ?_⟩
    exact takes (id, row') ((Table.mem_select scans).mpr ⟨here', by cases here.symm.trans here'; exact chosen⟩)
  | chosen scans =>
    refine one _ rfl (fun id member => ?_) rfl
    obtain ⟨known, finished⟩ := takes id member
    refine ⟨known, fun row here => ?_⟩
    simpa [here] using finished
  | saved found =>
    refine ⟨owned, fun archiver member => ?_⟩
    rcases List.mem_or_eq_of_mem_set member with before | rfl
    · exact old archiver before
    · have same := old _ (List.mem_of_getElem? found)
      exact same
  | collided | archiverFailed | deleted => exact fewer (List.eraseIdx_sublist ..)
  | _ => exact fewer (List.Sublist.refl _)

private theorem delivering_idle (unclaimed : s.claims = []) (idle : s.jobs = [])
    (unarchived : s.archivers = []) : Delivering s where
  owned := owned_idle unclaimed idle
  taken := by simp [unarchived]

/-- A step that takes the row out of the table. -/
def Removes (id : Nat) (row : OutboxRow) (taken : Taken OutboxSystem OutboxAction) : Prop :=
  taken.before.outbox.row id = some row ∧ taken.after.outbox.row id = none

/-- Only finished rows are removed. -/
theorem removed_finished (delivering : Delivering s) (stepped : step s action = some s')
    (before : s.outbox.row id = some row) (after : s'.outbox.row id = none) :
    row.finished = true := by
  cases step_effect stepped with
  | stored => cases after.symm.trans (Table.insert_row_of_some before)
  | released | committed | completed | failed => simp [conclude, before] at after
  | deleted found =>
    simp only [endArchiver, Table.delete_row] at after
    split at after
    · exact (delivering.taken _ (List.mem_of_getElem? found) id ‹_›).2 row before
    · cases after.symm.trans before
  | _ => cases after.symm.trans before

/-- A row is finished by the outcome that a worker writes for it. -/
theorem finished_written (stepped : step s action = some s') (after : s'.outbox.row id = some row)
    (done : row.finished = true) :
    (∃ before, s.outbox.row id = some before ∧ before.finished = true) ∨
      ∃ job, WritesOutcome job ⟨s, action, s'⟩ ∧ job.id = id := by
  cases step_effect stepped with
  | stored =>
    rw [Table.insert_row] at after
    split at after
    · cases after
      cases done
    · exact .inl ⟨row, after, done⟩
  | released | committed =>
    obtain ⟨before, here, rfl⟩ := Table.of_update after
    split at done
    · cases done
    · exact .inl ⟨before, here, done⟩
  | completed found =>
    obtain ⟨before, here, rfl⟩ := Table.of_update after
    split at done
    · exact .inr ⟨_, ⟨_, _, .inl rfl, found⟩, (beq_iff_eq.mp ‹_›).symm⟩
    · exact .inl ⟨before, here, done⟩
  | failed found =>
    obtain ⟨before, here, rfl⟩ := Table.of_update after
    split at done
    · exact .inr ⟨_, ⟨_, _, .inr rfl, found⟩, (beq_iff_eq.mp ‹_›).symm⟩
    · exact .inl ⟨before, here, done⟩
  | deleted => exact .inl ⟨row, (Table.of_delete after).2, done⟩
  | _ => exact .inl ⟨row, after, done⟩

/-- An event that is in the table, or is still to be published. -/
def Tracks (s : OutboxSystem) (id : Nat) : Prop :=
  (s.outbox.row id).isSome ∨ s.outbox.serial ≤ id

private theorem tracks_step (tracks : Tracks s id) (stepped : step s action = some s') :
    Tracks s' id ∨ ∃ row, Removes id row ⟨s, action, s'⟩ := by
  rcases tracks with held | future
  · cases after : s'.outbox.row id with
    | some row => exact .inl (.inl (by simp [after]))
    | none =>
      obtain ⟨row, before⟩ := Option.isSome_iff_exists.mp held
      exact .inr ⟨row, before, after⟩
  · left
    cases step_effect stepped with
    | stored =>
      by_cases here : id = s.outbox.serial
      · exact .inl (by simp [Table.insert_row, here])
      · exact .inr (Nat.lt_of_le_of_ne future (Ne.symm here))
    | _ => exact .inr future

/-- Every event is in the table at the end of a run, or was removed by one of its
steps when it was finished. -/
theorem accounted (delivering : Delivering s) (admitted : Admits step TakesFinished s actions)
    (ran : run step s actions = some s') (tracks : Tracks s id) :
    Tracks s' id ∨ ∃ taken ∈ trace step s actions, ∃ row, Removes id row taken ∧ row.finished = true := by
  induction actions generalizing s with
  | nil =>
    cases ran
    exact .inl tracks
  | cons action rest ih =>
    obtain ⟨next, stepped, ran⟩ := Option.bind_eq_some_iff.mp ran
    have steps : trace step s (action :: rest) = ⟨s, action, next⟩ :: trace step next rest := by
      simp [trace, stepped]
    rw [steps]
    rcases tracks_step tracks stepped with still | ⟨row, before, after⟩
    · rcases ih (delivering_step delivering admitted.1 stepped) (admitted.2 next stepped) ran still
        with held | ⟨taken, member, removed⟩
      · exact .inl held
      · exact .inr ⟨taken, by simp [member], removed⟩
    · exact .inr ⟨_, by simp, row, ⟨before, after⟩,
        removed_finished delivering stepped before after⟩

/-- In a run whose archivers choose finished events and that releases no lock of a
live job, only finished rows leave the outbox: every event stays in it until a
worker has settled it. -/
theorem nothing_dropped (unclaimed : s.claims = []) (idle : s.jobs = [])
    (unarchived : s.archivers = []) (admitted : Admits step TakesFinished s actions)
    (ran : run step s actions = some s') :
    (∀ taken ∈ trace step s actions, ∀ id row, Removes id row taken → row.finished = true) ∧
    (∀ id, Tracks s id → id < s'.outbox.serial → (s'.outbox.row id).isSome ∨
      ∃ taken ∈ trace step s actions, ∃ row, Removes id row taken ∧ row.finished = true) ∧
    ∀ taken ∈ trace step s actions, ∀ id row, taken.after.outbox.row id = some row →
      row.finished = true → (∃ before, taken.before.outbox.row id = some before ∧
        before.finished = true) ∨ ∃ job, WritesOutcome job taken ∧ job.id = id := by
  have start := delivering_idle unclaimed idle unarchived
  have steps := trace_inv delivering_step start admitted
  refine ⟨fun taken member id row removed => ?_, fun id tracks known => ?_,
    fun taken member id row after done => ?_⟩
  · obtain ⟨delivering, -, stepped⟩ := steps taken member
    exact removed_finished delivering stepped removed.1 removed.2
  · rcases accounted start admitted ran tracks with (held | future) | removed
    · exact .inl held
    · omega
    · exact .inr removed
  · obtain ⟨-, -, stepped⟩ := steps taken member
    exact finished_written stepped after done

end Cleanup

section Samples
open OutboxSample

/-- Eight days, in milliseconds. -/
def eightDays : Int := 8 * 24 * 60 * 60 * 1000

/-- The event is delivered, and archived when it is old. -/
def delivered : List OutboxAction :=
  takeUp "w" 0 0 [0] ++ [.settle 0 0 none, .markCompleted 0 0,
    .archiveOldEvents 7 eightDays [0], .saveBatch 0 eightDays, .deleteArchived 0]

theorem nothing_dropped_shop :
    ∃ s', run step one delivered = some s' ∧ s'.outbox.row 0 = none ∧
      ∃ taken ∈ trace step one delivered, ∃ row, Removes 0 row taken ∧ row.finished = true := by
  have computed : (run step one delivered).map (fun s' => (s'.outbox.serial, s'.outbox.row 0)) =
      some (1, none) := by decide +kernel
  obtain ⟨s', ran, shape⟩ := Option.map_eq_some_iff.mp computed
  obtain ⟨serial, gone⟩ := Prod.mk.inj shape
  have dropped := nothing_dropped rfl rfl rfl (by decide +kernel) ran
  refine ⟨s', ran, gone, (dropped.2.1 0 (.inl rfl) (by omega)).resolve_left ?_⟩
  simp [gone]

/-- The worker was down for a week, and the event was never delivered. -/
def outage : List OutboxAction :=
  [.archiveOldEvents 7 eightDays [0], .saveBatch 0 eightDays, .deleteArchived 0]

theorem pending_archived :
    ∃ taken ∈ trace step one outage, ∃ row, Removes 0 row taken ∧ row.status = .pending := by
  have computed : (trace step one outage)[2]?.map (fun taken =>
      ((taken.before.outbox.row 0).map (·.status), taken.after.outbox.row 0)) =
      some (some .pending, none) := by decide +kernel
  obtain ⟨taken, here, shape⟩ := Option.map_eq_some_iff.mp computed
  obtain ⟨status, gone⟩ := Prod.mk.inj shape
  obtain ⟨row, before, pending⟩ := Option.map_eq_some_iff.mp status
  exact ⟨taken, List.mem_of_getElem? here, row, ⟨before, gone⟩, pending⟩

end Samples

end DriverMicroServices
