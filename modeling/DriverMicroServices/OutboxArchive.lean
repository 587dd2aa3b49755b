import DriverMicroServices.OutboxSteps

/-! The outbox and its archive under one janitor: what each event says stays in one
of the two tables, and the unique keys of both never stop the janitor, as long as
each of its runs ends with its delete and no archived key is published again. -/
namespace DriverMicroServices
open Tables Transitions OutboxSystem

/-- What an event says, in either table. -/
structure Fact where
  idempotencyKey : String
  eventType : String
  payload : OutboxPayload
  deriving DecidableEq

def OutboxRow.fact (row : OutboxRow) : Fact where
  idempotencyKey := row.idempotencyKey
  eventType := row.eventType
  payload := row.payload

def OutboxArchiveEvent.fact (event : OutboxArchiveEvent) : Fact where
  idempotencyKey := event.idempotencyKey
  eventType := event.eventType
  payload := event.payload

@[simp] theorem archived_fact (row : OutboxRow) (now : Time) : (row.archived now).fact = row.fact := rfl

@[simp] theorem release_fact (row : OutboxRow) : row.release.fact = row.fact := rfl

@[simp] theorem lock_fact (row : OutboxRow) (workerId : String) (now : Time) :
    (row.lock workerId now).fact = row.fact := rfl

@[simp] theorem markCompleted_fact (row : OutboxRow) (now : Time) :
    (row.markCompleted now).fact = row.fact := rfl

@[simp] theorem handleFailure_fact (row rawRow : OutboxRow) (errorMessage : String) (now : Time) :
    (OutboxRow.handleFailure rawRow errorMessage now row).fact = row.fact := by
  unfold OutboxRow.handleFailure
  dsimp only
  split <;> rfl

namespace OutboxSystem

variable {s s' : OutboxSystem} {test : Nat → OutboxRow → Bool}

/-- What the rows of the outbox say. -/
def facts (s : OutboxSystem) (id : Nat) : Option Fact := (s.outbox.row id).map OutboxRow.fact

/-- The event is in the outbox or in the archive. -/
def Stored (s : OutboxSystem) (fact : Fact) : Prop :=
  (∃ id, s.facts id = some fact) ∨ ∃ event ∈ s.archive, event.fact = fact

theorem facts_update {f : OutboxRow → OutboxRow} (same : ∀ row, (f row).fact = row.fact) :
    (fun id => ((s.outbox.update test f).row id).map OutboxRow.fact) = s.facts := by
  funext id
  simp only [facts, Table.update_row, Option.map_map]
  congr 1
  funext row
  simp only [Function.comp]
  split
  · exact same row
  · rfl

/-- An archiver in the middle of its run: all its rows are still in the outbox, the
first ones are in the archive as well, and no other event is in both. -/
structure Working (s : OutboxSystem) (archiver : Archiver) : Prop where
  size : archiver.batchSize ≠ 0
  ids : archiver.archivedIds = archiver.eventsToArchive.map Prod.fst
  distinct : (archiver.eventsToArchive.map Prod.fst).Nodup
  stored : ∀ entry ∈ archiver.eventsToArchive, s.facts entry.1 = some entry.2.fact
  saved : ∀ entry ∈ archiver.eventsToArchive.take archiver.archivedCount,
    ∃ event ∈ s.archive, event.fact = entry.2.fact
  both : ∀ event ∈ s.archive, ∀ id fact, s.facts id = some fact →
    fact.idempotencyKey = event.idempotencyKey →
    id ∈ (archiver.eventsToArchive.take archiver.archivedCount).map Prod.fst

/-- Keys are unique in each table, and an event is in both only while its archiver
is at work. -/
structure Clean (s : OutboxSystem) : Prop where
  outboxKeys : ∀ id id' fact fact', s.facts id = some fact → s.facts id' = some fact' →
    fact.idempotencyKey = fact'.idempotencyKey → id = id'
  archiveKeys : (s.archive.map (·.idempotencyKey)).Nodup
  janitor : (s.archivers = [] ∧ ∀ event ∈ s.archive, ∀ id fact, s.facts id = some fact →
      fact.idempotencyKey ≠ event.idempotencyKey) ∨
    ∃ archiver, s.archivers = [archiver] ∧ Working s archiver

end OutboxSystem

/-- The janitor works alone and gives up only before its first batch, and no archived
key is published that the outbox does not hold. -/
def ArchivesWell (s : OutboxSystem) : OutboxAction → Prop
  | .publish eventType payload now =>
    let idempotencyKey := generateIdempotencyKey eventType payload now
    (∃ event ∈ s.archive, event.idempotencyKey = idempotencyKey) →
      s.outbox.any (·.idempotencyKey = idempotencyKey) = true
  | .archiveCompletedEvents .. => s.archivers = []
  | .archiverFails n => s.archivers[n]?.all (fun archiver => archiver.archivedCount == 0) = true
  | .archiveOldEvents .. | .archiveEventsImmediately .. => False
  | _ => True

instance : ∀ s action, Decidable (ArchivesWell s action)
  | s, .publish .. => inferInstanceAs (Decidable ((∃ event ∈ s.archive, _ = _) → _ = true))
  | s, .archiveCompletedEvents .. => inferInstanceAs (Decidable (s.archivers = []))
  | _, .archiverFails _ => inferInstanceAs (Decidable (_ = true))
  | _, .archiveOldEvents .. | _, .archiveEventsImmediately .. => isFalse id
  | _, .releaseStaleLocks .. | _, .selectBatch .. | _, .commitBatch .. | _, .abortBatch ..
  | _, .start .. | _, .settle .. | _, .markCompleted .. | _, .markCompletedFails ..
  | _, .handleFailure .. | _, .handleFailureFails .. | _, .crash .. | _, .saveBatch ..
  | _, .deleteArchived .. => isTrue trivial

section Archive

variable {s s' : OutboxSystem} {action : OutboxAction} {actions : List OutboxAction} {id n : Nat}
  {archiver : Archiver} {fact : Fact}

/-- Nothing happened to the events. -/
theorem clean_kept (clean : Clean s) (facts : s'.facts = s.facts) (archive : s'.archive = s.archive)
    (archivers : s'.archivers = s.archivers) : Clean s' := by
  refine ⟨by rw [facts]; exact clean.outboxKeys, by rw [archive]; exact clean.archiveKeys, ?_⟩
  rw [archivers, archive, facts]
  rcases clean.janitor with idle | ⟨archiver, one, working⟩
  · exact .inl idle
  · refine .inr ⟨archiver, one, working.size, working.ids, working.distinct, ?_, ?_, ?_⟩
    · rw [facts]
      exact working.stored
    · rw [archive]
      exact working.saved
    · rw [archive, facts]
      exact working.both

/-- The archiver that is at work. -/
theorem OutboxSystem.Clean.working (clean : Clean s) (found : s.archivers[n]? = some archiver) :
    s.archivers = [archiver] ∧ n = 0 ∧ Working s archiver := by
  rcases clean.janitor with ⟨none, -⟩ | ⟨one, shape, working⟩
  · simp [none] at found
  · cases n with
    | zero =>
      rw [shape] at found
      cases found
      exact ⟨shape, rfl, working⟩
    | succ n => simp [shape] at found

/-- The rows archived already and the next batch. -/
theorem take_batch (archiver : Archiver) :
    archiver.eventsToArchive.take (archiver.archivedCount + archiver.batch.length) =
      archiver.eventsToArchive.take archiver.archivedCount ++ archiver.batch := by
  rw [List.take_add]
  congr 1
  simp [Archiver.batch]

theorem mem_batch (member : entry ∈ archiver.batch) : entry ∈ archiver.eventsToArchive :=
  List.mem_of_mem_drop (List.mem_of_mem_take member)

/-- A row of the next batch is not one of those archived already. -/
theorem OutboxSystem.Working.unsaved (working : Working s archiver) (member : entry ∈ archiver.batch) :
    entry.1 ∉ (archiver.eventsToArchive.take archiver.archivedCount).map Prod.fst := by
  intro inside
  have distinct := working.distinct
  rw [← List.take_append_drop archiver.archivedCount archiver.eventsToArchive, List.map_append,
    List.nodup_append'] at distinct
  exact distinct.2.2 inside (List.mem_map_of_mem (List.mem_of_mem_take member))

/-- Without a failure of its own a batch is always saved. -/
theorem OutboxSystem.Working.saves (working : Working s archiver) (clean : Clean s) (now : Time) :
    saveArchive s.archive (archiver.batch.map fun entry => entry.2.archived now) =
      some (s.archive ++ archiver.batch.map fun entry => entry.2.archived now) := by
  refine if_pos ⟨?_, fun event member taken => ?_⟩
  · rw [List.map_map]
    have apart : (archiver.batch.map Prod.fst).Nodup :=
      working.distinct.sublist (((List.take_sublist ..).trans (List.drop_sublist ..)).map Prod.fst)
    refine List.Nodup.map_on (fun first member second member' same => ?_) (List.Nodup.of_map _ apart)
    have ids := clean.outboxKeys first.1 second.1 _ _ (working.stored first (mem_batch member))
      (working.stored second (mem_batch member')) same
    exact List.inj_on_of_nodup_map apart member member' ids
  · obtain ⟨entry, chosen, rfl⟩ := List.mem_map.mp member
    obtain ⟨event, archived, same⟩ := List.mem_map.mp taken
    exact working.unsaved chosen
      (working.both event archived entry.1 _ (working.stored entry (mem_batch chosen)) same.symm)

/-- Before the delete all rows are archived. -/
theorem OutboxSystem.Working.done (working : Working s archiver) (done : archiver.batch = []) :
    archiver.eventsToArchive.take archiver.archivedCount = archiver.eventsToArchive := by
  rw [List.take_of_length_le]
  by_contra short
  have more : 0 < (archiver.eventsToArchive.drop archiver.archivedCount).length := by
    rw [List.length_drop]
    omega
  have size := working.size
  have empty := congrArg List.length done
  simp only [Archiver.batch, List.length_take, List.length_nil] at empty
  omega

/-- A new event has a key that is in neither table. -/
theorem clean_published (clean : Clean s) (archive : s'.archive = s.archive)
    (archivers : s'.archivers = s.archivers)
    (facts : ∀ id, s'.facts id = if id = s.outbox.serial then some fact else s.facts id)
    (fresh : ∀ id old, s.facts id = some old → old.idempotencyKey ≠ fact.idempotencyKey)
    (unarchived : ∀ event ∈ s.archive, fact.idempotencyKey ≠ event.idempotencyKey) : Clean s' := by
  have unknown : ∀ id old, s.facts id = some old → id ≠ s.outbox.serial := by
    rintro id old here rfl
    rw [OutboxSystem.facts, Table.row_none (Nat.le_refl _)] at here
    cases here
  refine ⟨fun id id' old old' here here' same => ?_, by rw [archive]; exact clean.archiveKeys, ?_⟩
  · rw [facts] at here here'
    split at here <;> split at here'
    · simp_all
    · cases here
      exact absurd same.symm (fresh id' old' here')
    · cases here'
      exact absurd same (fresh id old here)
    · exact clean.outboxKeys id id' old old' here here' same
  · have both : ∀ event ∈ s'.archive, ∀ id old, s'.facts id = some old →
        old.idempotencyKey = event.idempotencyKey → s.facts id = some old := by
      intro event member id old here same
      rw [facts] at here
      split at here
      · cases here
        exact absurd same (unarchived event (archive ▸ member))
      · exact here
    rw [archivers]
    rcases clean.janitor with ⟨none, apart⟩ | ⟨archiver, one, working⟩
    · refine .inl ⟨none, fun event member id old here same => ?_⟩
      exact apart event (archive ▸ member) id old (both event member id old here same) same
    · refine .inr ⟨archiver, one, working.size, working.ids, working.distinct,
        fun entry member => ?_, ?_, fun event member id old here same => ?_⟩
      · have here := working.stored entry member
        rw [facts, if_neg (unknown _ _ here), here]
      · rw [archive]
        exact working.saved
      · exact working.both event (archive ▸ member) id old (both event member id old here same) same

/-- The janitor's query finds rows that are in the outbox only. -/
theorem clean_queried (clean : Clean s) (alone : s.archivers = []) (scans : order.Perm s.outbox.ids) :
    Clean { s with archivers := s.archivers ++
      [.ofQuery (s.outbox.select order fun _ row => row.archivable now)] } := by
  refine ⟨clean.outboxKeys, clean.archiveKeys, .inr ⟨_, by rw [alone]; rfl, ?_⟩⟩
  refine ⟨Nat.succ_ne_zero 99, rfl, ?_, fun entry member => ?_, by simp [Archiver.ofQuery], ?_⟩
  · have distinct : ((s.outbox.select order fun _ row => row.archivable now).map Prod.fst).Nodup :=
      Table.select_nodup scans
    exact ((List.perm_insertionSort _ _).map Prod.fst).nodup_iff.mpr distinct
  · have found := (Table.mem_select scans).mp ((List.mem_insertionSort _).mp member)
    simp [OutboxSystem.facts, found.1]
  · intro event member id fact here same
    rcases clean.janitor with ⟨-, apart⟩ | ⟨archiver, one, -⟩
    · exact absurd same (apart event member id fact here)
    · rw [alone] at one
      cases one

private theorem clean_saved (clean : Clean s) (found : s.archivers[n]? = some archiver)
    (free : saveArchive s.archive (archiver.batch.map fun entry => entry.2.archived now) =
      some kept) :
    Clean ({ s with archive := kept }.putArchiver n { archiver with
      archivedCount := archiver.archivedCount + archiver.batch.length }) := by
  obtain ⟨one, rfl, working⟩ := clean.working found
  unfold saveArchive at free
  split at free
  · rename_i unique
    cases free
    have shape : s.archivers.set 0 { archiver with
        archivedCount := archiver.archivedCount + archiver.batch.length } = [{ archiver with
        archivedCount := archiver.archivedCount + archiver.batch.length }] := by
      rw [one]
      rfl
    refine ⟨clean.outboxKeys, ?_, .inr ⟨_, shape, working.size, working.ids, working.distinct,
      working.stored, fun entry member => ?_, fun event member id fact here same => ?_⟩⟩
    · change ((s.archive ++ _).map (·.idempotencyKey)).Nodup
      rw [List.map_append]
      refine clean.archiveKeys.append unique.1 fun key old new => ?_
      obtain ⟨event, inside, rfl⟩ := List.mem_map.mp new
      exact unique.2 event inside old
    · change entry ∈ archiver.eventsToArchive.take (_ + _) at member
      rw [take_batch, List.mem_append] at member
      rcases member with old | new
      · obtain ⟨event, archived, same⟩ := working.saved entry old
        exact ⟨event, List.mem_append_left _ archived, same⟩
      · exact ⟨_, List.mem_append_right _ (List.mem_map_of_mem new), archived_fact ..⟩
    · change id ∈ (archiver.eventsToArchive.take (_ + _)).map Prod.fst
      rw [take_batch, List.map_append, List.mem_append]
      rcases List.mem_append.mp member with old | new
      · exact .inl (working.both event old id fact here same)
      · obtain ⟨entry, chosen, rfl⟩ := List.mem_map.mp new
        have stored := working.stored entry (mem_batch chosen)
        rw [clean.outboxKeys id entry.1 fact _ here stored same]
        exact .inr (List.mem_map_of_mem chosen)
  · cases free

private theorem clean_deleted (clean : Clean s) (found : s.archivers[n]? = some archiver)
    (done : archiver.batch = []) :
    Clean ({ s with outbox := s.outbox.delete archiver.archivedIds }.endArchiver n) := by
  obtain ⟨one, rfl, working⟩ := clean.working found
  have left : ∀ id fact, ((s.outbox.delete archiver.archivedIds).row id).map OutboxRow.fact = some fact →
      id ∉ archiver.archivedIds ∧ s.facts id = some fact := by
    intro id fact here
    obtain ⟨row, stored, rfl⟩ := Option.map_eq_some_iff.mp here
    obtain ⟨spared, held⟩ := Table.of_delete stored
    exact ⟨spared, by simp [OutboxSystem.facts, held]⟩
  refine ⟨fun id id' fact fact' here here' => ?_, clean.archiveKeys,
    .inl ⟨by simp [endArchiver, one], fun event member id fact here same => ?_⟩⟩
  · exact clean.outboxKeys id id' fact fact' (left id fact here).2 (left id' fact' here').2
  · obtain ⟨spared, held⟩ := left id fact here
    have archived := working.both event member id fact held same
    rw [working.done done, ← working.ids] at archived
    exact spared archived

theorem clean_step (clean : Clean s) (well : ArchivesWell s action) (stepped : step s action = some s') :
    Clean s' := by
  cases step_effect stepped with
  | @stored eventType payload now valid free =>
    refine @clean_published s _ ⟨generateIdempotencyKey eventType payload now, eventType, payload⟩
      clean rfl rfl (fun id => ?_) (fun id old here same => ?_) fun event member same => ?_
    · simp only [OutboxSystem.facts, Table.insert_row]
      split
      · rfl
      · rfl
    · obtain ⟨row, held, rfl⟩ := Option.map_eq_some_iff.mp here
      have taken : s.outbox.any (·.idempotencyKey = generateIdempotencyKey eventType payload now) =
          true := Table.any_iff.mpr ⟨id, row, held, by simpa [OutboxRow.fact] using same⟩
      rw [free] at taken
      cases taken
    · have taken := well ⟨event, member, same.symm⟩
      rw [free] at taken
      cases taken
  | released => exact clean_kept clean (facts_update release_fact) rfl rfl
  | committed => exact clean_kept clean (facts_update fun row => lock_fact row _ _) rfl rfl
  | completed => exact clean_kept clean (facts_update fun row => markCompleted_fact row _) rfl rfl
  | failed => exact clean_kept clean (facts_update fun row => handleFailure_fact row _ _ _) rfl rfl
  | queriedCompleted scans => exact clean_queried clean well scans
  | queriedOld | chosen => exact well.elim
  | saved found left free => exact clean_saved clean found free
  | collided found left taken =>
    have saves := (clean.working found).2.2.saves clean
    rw [saves] at taken
    cases taken
  | deleted found done => exact clean_deleted clean found done
  | @archiverFailed n archiver found =>
    obtain ⟨one, rfl, working⟩ := clean.working found
    have untouched : archiver.archivedCount = 0 := by
      simpa [ArchivesWell, found] using well
    refine ⟨clean.outboxKeys, clean.archiveKeys,
      .inl ⟨by simp [endArchiver, one], fun event member id fact here same => ?_⟩⟩
    have both := working.both event member id fact here same
    simp [untouched] at both
  | _ => exact clean_kept clean rfl rfl rfl

/-- An event that is stored stays stored. -/
theorem stored_step (clean : Clean s) (well : ArchivesWell s action)
    (stepped : step s action = some s') (stored : Stored s fact) : Stored s' fact := by
  have kept : s'.facts = s.facts → s'.archive = s.archive → Stored s' fact := by
    intro facts archive
    rw [Stored, facts, archive]
    exact stored
  cases step_effect stepped with
  | stored =>
    rcases stored with ⟨id, here⟩ | archived
    · obtain ⟨row, held, rfl⟩ := Option.map_eq_some_iff.mp here
      exact .inl ⟨id, by simp [OutboxSystem.facts, Table.insert_row_of_some held]⟩
    · exact .inr archived
  | released => exact kept (facts_update release_fact) rfl
  | committed => exact kept (facts_update fun row => lock_fact row _ _) rfl
  | completed => exact kept (facts_update fun row => markCompleted_fact row _) rfl
  | failed => exact kept (facts_update fun row => handleFailure_fact row _ _ _) rfl
  | saved found left free =>
    rcases stored with here | ⟨event, archived, same⟩
    · exact .inl here
    · have saves := (clean.working found).2.2.saves clean
      cases (saves _).symm.trans free
      exact .inr ⟨event, List.mem_append_left _ archived, same⟩
  | @deleted n archiver found done =>
    rcases stored with ⟨id, here⟩ | archived
    · by_cases gone : id ∈ archiver.archivedIds
      · obtain ⟨-, -, working⟩ := clean.working found
        rw [working.ids] at gone
        obtain ⟨entry, chosen, rfl⟩ := List.mem_map.mp gone
        cases (working.stored entry chosen).symm.trans here
        exact .inr (working.saved entry (by rwa [working.done done]))
      · refine .inl ⟨id, ?_⟩
        simpa [OutboxSystem.facts, endArchiver, gone] using here
    · exact .inr archived
  | queriedOld | chosen => exact well.elim
  | _ => exact kept rfl rfl

/-- A janitor's run that has the row on its list. -/
structure Listed (id : Nat) (s : OutboxSystem) : Prop where
  clean : Clean s
  listed : ∃ archiver, s.archivers = [archiver] ∧ id ∈ archiver.archivedIds

/-- A run of the janitor ends by its delete or by a failure. -/
def EndsArchiver (taken : Taken OutboxSystem OutboxAction) : Prop :=
  ∃ n, taken.action = .deleteArchived n ∨ taken.action = .archiverFails n

private theorem listed_step (listed : Listed id s) (well : ArchivesWell s action)
    (stepped : step s action = some s') (goes : ¬ EndsArchiver ⟨s, action, s'⟩) : Listed id s' := by
  have clean := clean_step listed.clean well stepped
  obtain ⟨archiver, one, member⟩ := listed.listed
  cases step_effect stepped with
  | queriedCompleted =>
    change s.archivers = [] at well
    rw [one] at well
    cases well
  | queriedOld | chosen => exact well.elim
  | saved found =>
    obtain ⟨one', rfl, -⟩ := listed.clean.working found
    cases one.symm.trans one'
    refine ⟨clean, { archiver with
      archivedCount := archiver.archivedCount + archiver.batch.length }, ?_, member⟩
    simp [putArchiver, one]
  | collided found left taken =>
    rw [(listed.clean.working found).2.2.saves listed.clean] at taken
    cases taken
  | deleted => exact absurd ⟨_, .inl rfl⟩ goes
  | archiverFailed => exact absurd ⟨_, .inr rfl⟩ goes
  | _ => exact ⟨clean, archiver, one, member⟩

/-- The query of a janitor's run lists the eligible rows. -/
theorem listed_query (clean : Clean s) (well : ArchivesWell s action)
    (stepped : step s action = some s') (query : action = .archiveCompletedEvents now order)
    (here : s.outbox.row id = some row) (eligible : row.archivable now = true) : Listed id s' := by
  have clean' := clean_step clean well stepped
  subst query
  change s.archivers = [] at well
  simp only [step] at stepped
  split at stepped
  · rename_i scans
    have found : (id, row) ∈ s.outbox.select order fun _ row => row.archivable now :=
      (Table.mem_select scans).mpr ⟨here, eligible⟩
    have inside : (id, row) ∈ (Archiver.ofQuery
        (s.outbox.select order fun _ row => row.archivable now)).eventsToArchive :=
      (List.mem_insertionSort _).mpr found
    simp only [startArchiver, if_neg (List.ne_nil_of_mem inside), Option.some.injEq] at stepped
    subst stepped
    have listed : id ∈ (Archiver.ofQuery
        (s.outbox.select order fun _ row => row.archivable now)).archivedIds :=
      List.mem_map_of_mem (f := Prod.fst) inside
    refine ⟨clean', _, ?_, listed⟩
    rw [well]
    rfl
  · cases stepped

private theorem listed_deleted (listed : Listed id s) (stepped : step s (.deleteArchived n) = some s') :
    s'.outbox.row id = none := by
  obtain ⟨archiver, one, member⟩ := listed.listed
  simp only [step] at stepped
  split at stepped
  · rename_i archiver' found
    cases one.symm.trans (listed.clean.working found).1
    split at stepped
    · rw [← Option.some.inj stepped]
      simp [endArchiver, member]
    · cases stepped
  · cases stepped

/-- The tables stay consistent, and every run of the janitor succeeds that has no
failure of its own: its batches are saved, and with its delete the rows that were
eligible at its query are gone. -/
theorem archive_consistent (clean : Clean s) (admitted : Admits step ArchivesWell s actions)
    (ran : run step s actions = some s') :
    (∀ taken ∈ trace step s actions, ∀ id row, taken.before.outbox.row id = some row →
      row.status = .completed → Stored s' row.fact) ∧
    (s'.archive.map (·.idempotencyKey)).Nodup ∧
    (∀ taken ∈ trace step s actions, ∀ eventType payload now,
      taken.action = .publish eventType payload now →
      (∃ event ∈ taken.before.archive,
        event.idempotencyKey = generateIdempotencyKey eventType payload now) →
      taken.after.outbox = taken.before.outbox) ∧
    (∀ taken ∈ trace step s actions, ∀ n now, taken.action = .saveBatch n now →
      ∃ archiver, taken.before.archivers[n]? = some archiver ∧ taken.after.archive =
        taken.before.archive ++ archiver.batch.map fun entry => entry.2.archived now) ∧
    ∀ earlier query between delete later now order n id row,
      trace step s actions = earlier ++ query :: between ++ delete :: later →
      query.action = .archiveCompletedEvents now order → delete.action = .deleteArchived n →
      (∀ taken ∈ between, ¬ EndsArchiver taken) →
      query.before.outbox.row id = some row → row.archivable now = true →
      delete.after.outbox.row id = none := by
  have steps := trace_inv clean_step clean admitted
  refine ⟨?_, ?_, ?_, ?_, ?_⟩
  · intro taken member id row here _
    obtain ⟨rest, ran', admitted'⟩ := trace_rest admitted ran member
    have start : Clean taken.before ∧ Stored taken.before row.fact :=
      ⟨(steps taken member).1, .inl ⟨id, by simp [OutboxSystem.facts, here]⟩⟩
    have keeps : ∀ {s action s'}, Clean s ∧ Stored s row.fact → ArchivesWell s action →
        step s action = some s' → Clean s' ∧ Stored s' row.fact := fun kept well stepped =>
      ⟨clean_step kept.1 well stepped, stored_step kept.1 well stepped kept.2⟩
    exact (run_inv keeps start admitted' ran').2
  · exact (run_inv clean_step clean admitted ran).archiveKeys
  · intro taken member eventType payload now published archived
    obtain ⟨-, well, stepped⟩ := steps taken member
    rw [published] at well stepped
    have taken' := well archived
    simp only [step, OutboxSystem.publish, taken', or_true, if_true, Option.some.injEq] at stepped
    rw [← stepped]
  · intro taken member n now saves
    obtain ⟨clean', well, stepped⟩ := steps taken member
    rw [saves] at stepped
    simp only [step] at stepped
    split at stepped
    · rename_i archiver found
      rw [(clean'.working found).2.2.saves clean' now] at stepped
      split at stepped
      · cases stepped
      · refine ⟨archiver, found, ?_⟩
        rw [← Option.some.inj stepped]
        rfl
    · cases stepped
  · intro earlier query between delete later now order n id row shape queries deletes goes here eligible
    have shape' : trace step s actions = earlier ++ query :: (between ++ delete :: later) := by
      simpa using shape
    obtain ⟨stepped, well, rest, following, admitted'⟩ := trace_cut admitted shape'
    have clean' : Clean query.before := (steps query (by simp [shape'])).1
    have listed := listed_query clean' well stepped queries here eligible
    have still : Listed id delete.before :=
      trace_until listed_step listed admitted' following.symm goes
    obtain ⟨stepped', -⟩ := trace_cut admitted' following.symm
    exact listed_deleted still (deletes ▸ stepped')

end Archive

section Samples
open OutboxSample

private theorem clean_one : Clean one := by
  refine ⟨fun id id' fact fact' here here' _ => ?_, List.nodup_nil, .inl ⟨rfl, by simp [one]⟩⟩
  have only : ∀ id fact, one.facts id = some fact → id = 0 := by
    intro id fact here
    obtain ⟨row, held, -⟩ := Option.map_eq_some_iff.mp here
    have below : id < 1 := Table.row_below held
    omega
  rw [only id fact here, only id' fact' here']

/-- One hour and a millisecond. -/
def later : Int := 3600001

/-- The worker delivers the event, and an hour later the janitor starts. -/
def toArchive : List OutboxAction :=
  takeUp "w" 0 0 [0] ++ [.settle 0 0 none, .markCompleted 0 0, .archiveCompletedEvents later [0]]

/-- The fact that the event of `one` states. -/
def oneFact : Fact := (waiting "DELIVERY_ASSIGNED_V1:order:S1").fact

theorem archive_consistent_shop :
    ∃ s', run step one (toArchive ++ [.saveBatch 0 later, .deleteArchived 0]) = some s' ∧
      s'.outbox.row 0 = none ∧ Stored s' oneFact := by
  have computed : (run step one (toArchive ++ [.saveBatch 0 later, .deleteArchived 0])).map
      (·.outbox.row 0) = some none := by decide
  obtain ⟨s', ran, gone⟩ := Option.map_eq_some_iff.mp computed
  have completed : (trace step one (toArchive ++ [.saveBatch 0 later, .deleteArchived 0]))[6]?.map
      (fun taken => (taken.before.outbox.row 0).map fun row => (row.status, row.fact)) =
      some (some (.completed, oneFact)) := by decide
  obtain ⟨taken, here, shape⟩ := Option.map_eq_some_iff.mp completed
  obtain ⟨row, held, status⟩ := Option.map_eq_some_iff.mp shape
  obtain ⟨done, fact⟩ := Prod.mk.inj status
  have stored := (archive_consistent clean_one (by decide) ran).1 taken
    (List.mem_of_getElem? here) 0 row held done
  exact ⟨s', ran, gone, fact ▸ stored⟩

/-- A delete fails, and the next run of the janitor cannot save its batch, though
nothing fails in it; and a key that is archived is published again. -/
theorem archive_blocked :
    (∃ taken ∈ trace step one (toArchive ++ [.saveBatch 0 later, .archiverFails 0,
        .archiveCompletedEvents later [0], .saveBatch 0 later]),
      taken.action = .saveBatch 0 later ∧ taken.before.archivers ≠ [] ∧ taken.after.archivers = [] ∧
        (taken.after.outbox.row 0).any (fun row => row.archivable later) = true) ∧
    ∃ taken ∈ trace step one (toArchive ++ [.saveBatch 0 later, .deleteArchived 0,
        .publish oneFact.eventType oneFact.payload later]),
      taken.action = .publish oneFact.eventType oneFact.payload later ∧
        (∃ event ∈ taken.before.archive, event.fact = oneFact) ∧
        taken.before.outbox.row 1 = none ∧ (taken.after.outbox.row 1).isSome := by
  constructor
  · have computed : (trace step one (toArchive ++ [.saveBatch 0 later, .archiverFails 0,
        .archiveCompletedEvents later [0], .saveBatch 0 later]))[9]?.map (fun taken =>
          (taken.action, decide (taken.before.archivers ≠ []), taken.after.archivers,
            (taken.after.outbox.row 0).any fun row => row.archivable later)) =
        some (.saveBatch 0 later, true, [], true) := by decide
    obtain ⟨taken, here, shape⟩ := Option.map_eq_some_iff.mp computed
    simp only [Prod.mk.injEq, decide_eq_true_eq] at shape
    exact ⟨taken, List.mem_of_getElem? here, shape⟩
  · have computed : (trace step one (toArchive ++ [.saveBatch 0 later, .deleteArchived 0,
        .publish oneFact.eventType oneFact.payload later]))[8]?.map (fun taken =>
          (taken.action, decide (∃ event ∈ taken.before.archive, event.fact = oneFact),
            taken.before.outbox.row 1, (taken.after.outbox.row 1).isSome)) =
        some (.publish oneFact.eventType oneFact.payload later, true, none, true) := by decide
    obtain ⟨taken, here, shape⟩ := Option.map_eq_some_iff.mp computed
    simp only [Prod.mk.injEq, decide_eq_true_eq] at shape
    exact ⟨taken, List.mem_of_getElem? here, shape⟩

end Samples

end DriverMicroServices
