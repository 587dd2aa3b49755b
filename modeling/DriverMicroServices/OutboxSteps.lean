import DriverMicroServices.OutboxWorker

/-! What one step of the outbox system does, and what holds of its claims,
whatever happens: the rows of an open claim are as its `SELECT` found them, and
no row is in two open claims. -/
namespace DriverMicroServices
open Tables Transitions

namespace OutboxSystem

/-- The shapes of a step, one for each thing that may happen to the tables. -/
inductive Effect (s : OutboxSystem) : OutboxAction → OutboxSystem → Prop where
  | nothing (other : ∀ n now, action ≠ .start n now) : Effect s action s
  | stored (valid : isValidVersionedEventType eventType = true)
      (free : s.outbox.any (·.idempotencyKey = generateIdempotencyKey eventType payload now) = false) :
      Effect s (.publish eventType payload now)
        { s with
          outbox := s.outbox.insert
            { eventType, payload, createdAt := now
              idempotencyKey := generateIdempotencyKey eventType payload now } }
  | released : Effect s (.releaseStaleLocks now)
      { s with outbox := s.outbox.update (fun _ row => row.stale now) OutboxRow.release }
  | selected (scans : order.Perm s.outbox.ids) :
      Effect s (.selectBatch workerId now limit order)
        { s with claims := s.claims ++ [⟨workerId, now, s.claimBatch now limit order⟩] }
  | committed (found : s.claims[n]? = some claim) :
      Effect s (.commitBatch n)
        { s with
          outbox := s.outbox.update (fun id _ => decide (id ∈ claim.rows.map Prod.fst))
            (OutboxRow.lock claim.workerId claim.now)
          claims := s.claims.eraseIdx n
          jobs := s.jobs ++ jobsOf claim }
  | aborted (found : s.claims[n]? = some claim) :
      Effect s (.abortBatch n) { s with claims := s.claims.eraseIdx n }
  | started (found : s.jobs[n]? = some job) (waiting : job.progress = .waiting)
      (named : job.rawRow.eventType ≠ "") :
      Effect s (.start n now) (s.proceed n job (beginHandle (s.circuit job) now job.rawRow))
  | settled (found : s.jobs[n]? = some job) (handling : job.progress = .handling) :
      Effect s (.settle n now error) (s.proceed n job (endHandle (s.circuit job) now error))
  | unmarked (found : s.jobs[n]? = some job) (handled : job.progress = .handled) :
      Effect s (.markCompletedFails n error) (s.proceed n job (s.circuit job, .failed error))
  | dropped (found : s.jobs[n]? = some job)
      (ends : action = .handleFailureFails n ∨ ∃ now, action = .start n now ∧ job.rawRow.eventType = "") :
      Effect s action { s with jobs := s.jobs.eraseIdx n }
  | completed (found : s.jobs[n]? = some job) (handled : job.progress = .handled)
      (free : ¬ s.locked job.id) :
      Effect s (.markCompleted n now) (s.conclude n job (OutboxRow.markCompleted now))
  | failed (found : s.jobs[n]? = some job) (failed : job.progress = .failed errorMessage)
      (free : ¬ s.locked job.id) :
      Effect s (.handleFailure n now)
        (s.conclude n job (OutboxRow.handleFailure job.rawRow errorMessage now))
  | crashed : Effect s (.crash workerId)
      { s with
        claims := s.claims.filter (·.workerId ≠ workerId)
        jobs := s.jobs.filter (·.workerId ≠ workerId) }
  | queriedCompleted (scans : order.Perm s.outbox.ids) :
      Effect s (.archiveCompletedEvents now order)
        { s with archivers := s.archivers ++
            [.ofQuery (s.outbox.select order fun _ row => row.archivable now)] }
  | queriedOld (scans : order.Perm s.outbox.ids) :
      Effect s (.archiveOldEvents daysToKeep now order)
        { s with archivers := s.archivers ++
            [.ofQuery (s.outbox.select order fun _ row => row.outdated daysToKeep now)] }
  | chosen (scans : order.Perm s.outbox.ids) :
      Effect s (.archiveEventsImmediately eventIds order)
        { s with archivers := s.archivers ++
            [{ eventsToArchive := s.outbox.select order fun id _ => decide (id ∈ eventIds)
               batchSize := (s.outbox.select order fun id _ => decide (id ∈ eventIds)).length
               archivedIds := eventIds }] }
  | saved (found : s.archivers[n]? = some archiver) (left : archiver.batch ≠ [])
      (free : saveArchive s.archive (archiver.batch.map fun entry => entry.2.archived now) =
        some kept) :
      Effect s (.saveBatch n now) ({ s with archive := kept }.putArchiver n { archiver with
        archivedCount := archiver.archivedCount + archiver.batch.length })
  | collided (found : s.archivers[n]? = some archiver) (left : archiver.batch ≠ [])
      (taken : saveArchive s.archive (archiver.batch.map fun entry => entry.2.archived now) = none) :
      Effect s (.saveBatch n now) (s.endArchiver n)
  | deleted (found : s.archivers[n]? = some archiver) (done : archiver.batch = [])
      (free : ∀ id ∈ archiver.archivedIds, ¬ s.locked id) :
      Effect s (.deleteArchived n)
        ({ s with outbox := s.outbox.delete archiver.archivedIds }.endArchiver n)
  | archiverFailed (found : s.archivers[n]? = some archiver) :
      Effect s (.archiverFails n) (s.endArchiver n)

variable {s s' : OutboxSystem} {action : OutboxAction} {order : List Nat} {id n : Nat}
  {row : OutboxRow} {claim : Claim}

/-- A run of the archive that finds no event ends at once. -/
private theorem startArchiver_effect {archiver : Archiver} (other : ∀ n now, action ≠ .start n now)
    (begun : Effect s action { s with archivers := s.archivers ++ [archiver] }) :
    Effect s action (s.startArchiver archiver) := by
  unfold startArchiver
  split
  · exact .nothing other
  · exact begun

theorem step_effect (stepped : step s action = some s') : Effect s action s' := by
  cases action with
  | publish eventType payload now =>
    cases stepped
    unfold publish
    dsimp only
    split
    · exact .nothing (by simp)
    · rename_i admitted
      simp only [Bool.not_eq_eq_eq_not, Bool.not_true, not_or, Bool.not_eq_false,
        Bool.not_eq_true] at admitted
      exact .stored admitted.1 admitted.2
  | releaseStaleLocks now =>
    cases stepped
    exact .released
  | selectBatch workerId now limit order =>
    simp only [step] at stepped
    split at stepped
    · rename_i scans
      split at stepped
      · cases stepped
        exact .nothing (by simp)
      · cases stepped
        exact .selected scans
    · cases stepped
  | commitBatch n =>
    obtain ⟨claim, found, shape⟩ := Option.map_eq_some_iff.mp stepped
    cases shape
    exact .committed found
  | abortBatch n =>
    obtain ⟨claim, found, shape⟩ := Option.map_eq_some_iff.mp stepped
    cases shape
    exact .aborted found
  | start n now =>
    simp only [step] at stepped
    split at stepped
    · rename_i job found
      split at stepped
      · rename_i waiting
        by_cases named : job.rawRow.eventType = ""
        · simp only [toOutboxEvent, named, if_true] at stepped
          cases stepped
          exact .dropped found (.inr ⟨now, rfl, named⟩)
        · simp only [toOutboxEvent, named, if_false] at stepped
          cases stepped
          exact .started found waiting named
      · cases stepped
    · cases stepped
  | settle n now error =>
    simp only [step] at stepped
    split at stepped
    · rename_i job found
      split at stepped
      · cases stepped
        exact .settled found ‹_›
      · cases stepped
    · cases stepped
  | markCompleted n now =>
    simp only [step] at stepped
    split at stepped
    · rename_i job found
      split at stepped
      · rename_i ready
        cases stepped
        exact .completed found ready.1 ready.2
      · cases stepped
    · cases stepped
  | markCompletedFails n error =>
    simp only [step] at stepped
    split at stepped
    · rename_i job found
      split at stepped
      · cases stepped
        exact .unmarked found ‹_›
      · cases stepped
    · cases stepped
  | handleFailure n now =>
    simp only [step] at stepped
    split at stepped
    · rename_i job found
      split at stepped
      · rename_i errorMessage failed
        split at stepped
        · cases stepped
        · cases stepped
          exact .failed found failed ‹_›
      · cases stepped
    · cases stepped
  | handleFailureFails n =>
    simp only [step] at stepped
    split at stepped
    · rename_i job found
      split at stepped
      · cases stepped
        exact .dropped found (.inl rfl)
      · cases stepped
    · cases stepped
  | crash workerId =>
    cases stepped
    exact .crashed
  | archiveCompletedEvents now order =>
    simp only [step] at stepped
    split at stepped
    · rename_i scans
      cases stepped
      exact startArchiver_effect (by simp) (.queriedCompleted scans)
    · cases stepped
  | archiveOldEvents daysToKeep now order =>
    simp only [step] at stepped
    split at stepped
    · rename_i scans
      cases stepped
      exact startArchiver_effect (by simp) (.queriedOld scans)
    · cases stepped
  | archiveEventsImmediately eventIds order =>
    simp only [step] at stepped
    split at stepped
    · rename_i scans
      cases stepped
      exact startArchiver_effect (by simp) (.chosen scans)
    · cases stepped
  | saveBatch n now =>
    simp only [step] at stepped
    split at stepped
    · rename_i archiver found
      split at stepped
      · cases stepped
      · rename_i left
        split at stepped
        · rename_i kept free
          cases stepped
          exact .saved found left free
        · rename_i taken
          cases stepped
          exact .collided found left taken
    · cases stepped
  | deleteArchived n =>
    simp only [step] at stepped
    split at stepped
    · rename_i archiver found
      split at stepped
      · rename_i ready
        cases stepped
        exact .deleted found ready.1 ready.2
      · cases stepped
    · cases stepped
  | archiverFails n =>
    obtain ⟨archiver, found, shape⟩ := Option.map_eq_some_iff.mp stepped
    cases shape
    exact .archiverFailed found

theorem serial_step (stepped : step s action = some s') : s.outbox.serial ≤ s'.outbox.serial := by
  cases step_effect stepped with
  | stored => exact Nat.le_succ _
  | _ => exact Nat.le_refl _

/-- A row that was handed an id before the step was in the table before it. -/
theorem row_origin (stepped : step s action = some s') (known : id < s.outbox.serial)
    (after : s'.outbox.row id = some row) : ∃ before, s.outbox.row id = some before := by
  cases step_effect stepped with
  | stored =>
    rw [Table.insert_row, if_neg (Nat.ne_of_lt known)] at after
    exact ⟨row, after⟩
  | released | committed | completed | failed =>
    obtain ⟨before, here, -⟩ := Table.of_update after
    exact ⟨before, here⟩
  | deleted => exact ⟨row, (Table.of_delete after).2⟩
  | _ => exact ⟨row, after⟩

/-! ## Open claims -/

/-- A list around one of its positions. -/
theorem take_cons_drop {l : List α} (found : l[n]? = some a) :
    l = l.take n ++ a :: l.drop (n + 1) := by
  obtain ⟨bound, rfl⟩ := List.getElem?_eq_some_iff.mp found
  rw [← List.drop_eq_getElem_cons bound, List.take_append_drop]

theorem getElem?_split {l : List α} (found : l[n]? = some a) :
    ∃ first last, l = first ++ a :: last ∧ l.eraseIdx n = first ++ last ∧
      ∀ b, l.set n b = first ++ b :: last := by
  refine ⟨l.take n, l.drop (n + 1), take_cons_drop found, List.eraseIdx_eq_take_drop_succ ..,
    fun b => ?_⟩
  rw [List.set_eq_take_append_cons_drop, if_pos (List.getElem?_eq_some_iff.mp found).1]

/-- The rows that are locked. -/
def heldIds (s : OutboxSystem) : List Nat := s.claims.flatMap fun claim => claim.rows.map Prod.fst

private theorem locked_iff : s.locked id ↔ id ∈ s.heldIds := by
  simp [locked, heldIds]

/-- Every row that a claim selects is claimable and not locked. -/
theorem mem_claimBatch (scans : order.Perm s.outbox.ids)
    (member : (id, row) ∈ s.claimBatch now limit order) :
    s.outbox.row id = some row ∧ row.claimable now = true ∧ ¬ s.locked id := by
  have member := (List.mem_insertionSort _).mp (List.mem_of_mem_take member)
  simpa using (Table.mem_select scans).mp member

private theorem claimBatch_nodup (scans : order.Perm s.outbox.ids) :
    ((s.claimBatch now limit order).map Prod.fst).Nodup := by
  have distinct : ((s.outbox.select order fun id row =>
      row.claimable now && !decide (s.locked id)).map Prod.fst).Nodup := Table.select_nodup scans
  refine List.Nodup.sublist ((List.take_sublist limit _).map Prod.fst) ?_
  exact ((List.perm_insertionSort _ _).map Prod.fst).nodup_iff.mpr distinct

/-- The rows of the open claims are as they were selected, and in one claim
each. -/
structure Held (s : OutboxSystem) : Prop where
  distinct : s.heldIds.Nodup
  kept : ∀ claim ∈ s.claims, ∀ entry ∈ claim.rows, s.outbox.row entry.1 = some entry.2
  claimable : ∀ claim ∈ s.claims, ∀ entry ∈ claim.rows, entry.2.claimable claim.now = true

theorem held_unclaimed (unclaimed : s.claims = []) : Held s where
  distinct := by simp [heldIds, unclaimed]
  kept := by simp [unclaimed]
  claimable := by simp [unclaimed]

theorem Held.mem (held : Held s) (locked : s.locked id) :
    ∃ row, s.outbox.row id = some row ∧ row.status = .pending := by
  obtain ⟨claim, open', listed⟩ := locked
  obtain ⟨entry, member, rfl⟩ := List.mem_map.mp listed
  have claimable := held.claimable claim open' entry member
  simp only [OutboxRow.claimable, Bool.and_eq_true, decide_eq_true_eq] at claimable
  exact ⟨entry.2, held.kept claim open' entry member, claimable.1.1⟩

/-- The rows of a claim differ from each other and from those of the other claims. -/
theorem Held.committed (held : Held s) (found : s.claims[n]? = some claim) :
    (claim.rows.map Prod.fst).Nodup ∧
      ∀ id ∈ claim.rows.map Prod.fst, ∀ other ∈ s.claims.eraseIdx n,
        id ∉ other.rows.map Prod.fst := by
  obtain ⟨first, last, whole, rest, -⟩ := getElem?_split found
  have distinct := held.distinct
  simp only [heldIds, whole, List.flatMap_append, List.flatMap_cons] at distinct
  rw [rest]
  have apart : ((claim.rows.map Prod.fst) ++
      (first.flatMap (fun claim => claim.rows.map Prod.fst) ++
        last.flatMap fun claim => claim.rows.map Prod.fst)).Nodup :=
    (List.perm_append_comm_assoc ..).nodup_iff.mp distinct
  obtain ⟨own, -, disjoint⟩ := List.nodup_append'.mp apart
  refine ⟨own, fun id member other open' inside => disjoint member ?_⟩
  rw [← List.flatMap_append, List.mem_flatMap]
  exact ⟨other, open', inside⟩

/-- The rows of an open claim that stays open are not touched. -/
theorem Held.step (held : Held s) (effect : Effect s action s') (open' : claim ∈ s.claims)
    (open'' : claim ∈ s'.claims) (member : entry ∈ claim.rows) :
    s'.outbox.row entry.1 = some entry.2 := by
  have kept := held.kept claim open' entry member
  have locked : s.locked entry.1 := ⟨claim, open', List.mem_map_of_mem member⟩
  have pending : entry.2.status = .pending := by
    obtain ⟨row, here, pending⟩ := held.mem locked
    rw [kept] at here
    cases here
    exact pending
  cases effect with
  | stored => exact Table.insert_row_of_some kept
  | released =>
    have fresh : ∀ now, entry.2.stale now = false := by simp [OutboxRow.stale, pending]
    simp [kept, fresh]
  | committed found =>
    have other := (held.committed found).2
    simp only [Table.update_row, kept, Option.map_some]
    rw [if_neg]
    intro inside
    exact other entry.1 (by simpa using inside) claim open'' (List.mem_map_of_mem member)
  | completed found _ free | failed found _ free =>
    simp only [conclude, Table.update_row, kept, Option.map_some]
    rw [if_neg]
    intro same
    exact free (by rwa [← beq_iff_eq.mp same])
  | deleted found _ free =>
    simp only [endArchiver, Table.delete_row]
    rw [if_neg fun gone => free entry.1 gone locked, kept]
  | _ => exact kept

theorem held_step (held : Held s) (stepped : step s action = some s') : Held s' := by
  have effect := step_effect stepped
  have fewer : ∀ claims : List Claim, claims.Sublist s.claims → s'.claims = claims → Held s' := by
    intro claims part shape
    refine ⟨?_, fun claim open' entry member => ?_, fun claim open' => ?_⟩
    · unfold heldIds
      rw [shape]
      exact held.distinct.sublist (part.flatMap _)
    · exact held.step effect (part.subset (shape ▸ open')) open' member
    · exact held.claimable claim (part.subset (shape ▸ open'))
  cases effect with
  | selected scans =>
    refine ⟨?_, fun claim open' entry member => ?_, fun claim open' entry member => ?_⟩
    · simp only [heldIds, List.flatMap_append, List.flatMap_singleton]
      refine held.distinct.append (claimBatch_nodup scans) fun id earlier chosen => ?_
      obtain ⟨entry, member, rfl⟩ := List.mem_map.mp chosen
      exact (mem_claimBatch scans member).2.2 (locked_iff.mpr earlier)
    · rcases List.mem_append.mp open' with old | new
      · exact held.kept claim old entry member
      · cases List.mem_singleton.mp new
        exact (mem_claimBatch scans member).1
    · rcases List.mem_append.mp open' with old | new
      · exact held.claimable claim old entry member
      · cases List.mem_singleton.mp new
        exact (mem_claimBatch scans member).2.1
  | committed found => exact fewer _ (List.eraseIdx_sublist ..) rfl
  | aborted found => exact fewer _ (List.eraseIdx_sublist ..) rfl
  | crashed => exact fewer _ List.filter_sublist rfl
  | _ => exact fewer _ (List.Sublist.refl _) rfl

end OutboxSystem

/-! ## Sample runs -/

namespace OutboxSample

/-- An assignment of the shop's order `S1` that waits under this key. -/
def waiting (idempotencyKey : String) : OutboxRow where
  eventType := "DELIVERY_ASSIGNED_V1"
  payload := { sellerOrderId := some "S1", channelId := some "channel", driverId := some "x" }
  createdAt := 0
  idempotencyKey := idempotencyKey

/-- One event waits. -/
def one : OutboxSystem where
  outbox := .ofList [waiting "DELIVERY_ASSIGNED_V1:order:S1"]

/-- The worker claims what is eligible and takes up job `n`. -/
def takeUp (workerId : String) (n : Nat) (now : Time) (order : List Nat) : List OutboxAction :=
  [.selectBatch workerId now 50 order, .commitBatch 0, .start n now]

/-- An attempt at job `n` that ends with an error. -/
def failingAttempt (workerId : String) (n : Nat) (now : Time) (order : List Nat) :
    List OutboxAction :=
  takeUp workerId n now order ++ [.settle n now (some "timeout"), .handleFailure n now]

end OutboxSample

end DriverMicroServices
