import DriverMicroServices.OutboxSteps
import Mathlib.Data.Finset.Card
import Mathlib.Data.Finset.Order

/-! One worker running `process` again and again over rows of which some have no
event type. A null type undoes the whole claim, and an empty one ends the promise of
its row, which stays PROCESSING until its lock is stale: neither row ever becomes
FAILED. Where every row is well-formed, all of them are completed in the end. -/
namespace DriverMicroServices
open Tables

/-- A row whose `event_type` may be null; the text is then of no account. -/
structure RawOutboxRow extends OutboxRow where
  untyped : Bool := false
  deriving DecidableEq

namespace RawOutboxRow

/-- `event_type`. -/
def typeColumn (row : RawOutboxRow) : Option String :=
  if row.untyped then none else some row.eventType

def wellFormed (row : RawOutboxRow) : Bool := row.typeColumn.any (· != "")

/-- An `UPDATE` that leaves `event_type` alone. -/
def change (f : OutboxRow → OutboxRow) (row : RawOutboxRow) : RawOutboxRow :=
  { row with toOutboxRow := f row.toOutboxRow }

end RawOutboxRow

/-- `forceFail`. -/
def OutboxRow.forceFail (reason : String) (row : OutboxRow) : OutboxRow :=
  { row with
    status := .failed, retryCount := maxRetries, lastError := some s!"FORCE_FAIL: {reason}"
    lockedAt := none, lockedBy := none }

/-- The table, and the circuits in the process of the worker. -/
structure WorkerState where
  outbox : Table RawOutboxRow
  circuits : String → CircuitBreakerState := fun _ => {}

/-- What one call of `process` reads of the outside: the clock, the batch size and the
order in which the database scans. -/
structure ProcessTick where
  now : Time
  limit : Nat
  order : List Nat

section Process

variable (workerId : String) (handler : OutboxRow → Option String)

/-- `claimBatch`; an error rolls its transaction back. -/
def claimBatch (tick : ProcessTick) (outbox : Table RawOutboxRow) :
    Except String (Table RawOutboxRow × List (Nat × RawOutboxRow)) :=
  let eligible := outbox.select tick.order fun _ row => row.claimable tick.now
  let selectedRows := (eligible.insertionSort fun first second =>
    first.2.toOutboxRow.precedes second.2.toOutboxRow).take tick.limit
  match selectedRows.find? (·.2.untyped) with
  | some (id, _) => .error s!"STRUCTURAL_CORRUPTION: Row {id} missing event_type"
  | none =>
    .ok (outbox.update (fun id _ => decide (id ∈ selectedRows.map Prod.fst))
      (RawOutboxRow.change (OutboxRow.lock workerId tick.now)), selectedRows)

/-- An `UPDATE` of the row with this id. -/
def WorkerState.write (s : WorkerState) (id : Nat) (f : OutboxRow → OutboxRow) : WorkerState :=
  { s with outbox := s.outbox.update (fun other _ => other == id) (RawOutboxRow.change f) }

def WorkerState.setCircuit (s : WorkerState) (rawRow : OutboxRow) (circuit : CircuitBreakerState) :
    WorkerState :=
  { s with circuits := Function.update s.circuits (circuitName rawRow) circuit }

/-- `processSingle`; the handler ends with an error or without. -/
def processSingle (now : Time) (s : WorkerState) (id : Nat) (rawRow : OutboxRow) : WorkerState :=
  match beginHandle (s.circuits (circuitName rawRow)) now rawRow with
  | (circuit, .failed error) =>
    (s.setCircuit rawRow circuit).write id (OutboxRow.handleFailure rawRow error now)
  | (circuit, _) =>
    let s := s.setCircuit rawRow (endHandle circuit now (handler rawRow)).1
    match handler rawRow with
    | none => s.write id (OutboxRow.markCompleted now)
    | some error => s.write id (OutboxRow.handleFailure rawRow error now)

/-- What `process` does for one row of its batch. -/
def processRow (now : Time) (s : WorkerState) (entry : Nat × RawOutboxRow) : WorkerState :=
  match toOutboxEvent entry.1 entry.2.toOutboxRow with
  -- The promise of the row rejects; those of the other rows go on.
  | .error _ => s
  | .ok event =>
    if event.eventType = "" then s.write event.id (OutboxRow.forceFail "NULL_EVENT_TYPE")
    else processSingle handler now s event.id entry.2.toOutboxRow

/-- `releaseStaleLocks`. -/
def releaseStaleLocks (now : Time) (outbox : Table RawOutboxRow) : Table RawOutboxRow :=
  outbox.update (fun _ row => row.stale now) (RawOutboxRow.change OutboxRow.release)

/-- One call of `process`. An error of `claimBatch` is logged. -/
def process (s : WorkerState) (tick : ProcessTick) : WorkerState :=
  let outbox := releaseStaleLocks tick.now s.outbox
  match claimBatch workerId tick outbox with
  | .error _ => { s with outbox }
  | .ok (outbox, rawRows) => rawRows.foldl (processRow handler tick.now) { s with outbox }

/-- The state after so many calls. -/
def processed (s : WorkerState) (ticks : Nat → ProcessTick) : Nat → WorkerState
  | 0 => s
  | n + 1 => process workerId handler (processed s ticks n) (ticks n)

/-- The rows that a call of `process` claims. -/
def claimedIds (s : WorkerState) (tick : ProcessTick) : List Nat :=
  match claimBatch workerId tick (releaseStaleLocks tick.now s.outbox) with
  | .error _ => []
  | .ok (_, rawRows) => rawRows.map Prod.fst

end Process

/-- Calls of `process` with a clock that passes every time. -/
structure Repeats (s : WorkerState) (ticks : Nat → ProcessTick) : Prop where
  scans : ∀ n, (ticks n).order.Perm s.outbox.ids
  positive : ∀ n, 0 < (ticks n).limit
  passes : ∀ time : Time, ∃ N, ∀ n ≥ N, time ≤ (ticks n).now

/-- The handler of the row is registered and returns. -/
def Succeeds (handler : OutboxRow → Option String) (rawRow : OutboxRow) : Prop :=
  (HandlerRegistry.getHandler rawRow.eventType).isSome ∧ handler rawRow = none

/-- In the end the well-formed rows are COMPLETED and the others FAILED, and these
were not claimed more often than a row may be retried. -/
structure Isolated (workerId : String) (handler : OutboxRow → Option String) (s : WorkerState)
    (ticks : Nat → ProcessTick) : Prop where
  settled : ∃ N, ∀ n ≥ N, ∀ id row,
    (processed workerId handler s ticks n).outbox.row id = some row →
      row.status = if row.wellFormed then .completed else .failed
  bounded : ∀ n id row, s.outbox.row id = some row → row.wellFormed = false →
    (List.range n).countP (fun m =>
      decide (id ∈ claimedIds workerId (processed workerId handler s ticks m) (ticks m))) ≤ maxRetries

/-! ## What stays -/

section Stays

variable {t t' t'' : Table RawOutboxRow} {f : OutboxRow → OutboxRow} {s : WorkerState} {id : Nat}
  {workerId : String} {handler : OutboxRow → Option String} {tick : ProcessTick} {now : Time}
  {entries : List (Nat × RawOutboxRow)} {outbox : Table RawOutboxRow}

/-- The same rows, with the same event types. -/
structure Rewrites (t t' : Table RawOutboxRow) : Prop where
  serial : t'.serial = t.serial
  types : ∀ id, (t'.row id).map RawOutboxRow.typeColumn = (t.row id).map RawOutboxRow.typeColumn

theorem Rewrites.refl (t : Table RawOutboxRow) : Rewrites t t := ⟨rfl, fun _ => rfl⟩

theorem Rewrites.trans (first : Rewrites t t') (second : Rewrites t' t'') : Rewrites t t'' where
  serial := second.serial.trans first.serial
  types := fun id => (second.types id).trans (first.types id)

theorem Rewrites.ids (same : Rewrites t t') : t'.ids = t.ids := by
  unfold Table.ids
  rw [same.serial]
  apply List.filter_congr
  intro id _
  have types := congrArg Option.isSome (same.types id)
  simpa using types

theorem Rewrites.wellFormed (same : Rewrites t t') (before : t.row id = some row)
    (after : t'.row id = some row') : row'.wellFormed = row.wellFormed := by
  have types := same.types id
  rw [before, after] at types
  unfold RawOutboxRow.wellFormed
  rw [Option.some.inj types]

theorem Rewrites.before (same : Rewrites t t') (after : t'.row id = some row') :
    ∃ row, t.row id = some row := by
  have types := same.types id
  rw [after] at types
  obtain ⟨row, here, -⟩ := Option.map_eq_some_iff.mp types.symm
  exact ⟨row, here⟩

theorem Rewrites.after (same : Rewrites t t') (before : t.row id = some row) :
    ∃ row', t'.row id = some row' := by
  have types := same.types id
  rw [before] at types
  obtain ⟨row', here, -⟩ := Option.map_eq_some_iff.mp types
  exact ⟨row', here⟩

theorem rewrites_update (test : Nat → RawOutboxRow → Bool)
    (kept : ∀ row, (f row).eventType = row.eventType) :
    Rewrites t (t.update test (RawOutboxRow.change f)) where
  serial := rfl
  types := by
    intro id
    rw [Table.update_row, Option.map_map]
    apply Option.map_congr
    intro row _
    dsimp only [Function.comp_apply]
    split
    · simp [RawOutboxRow.typeColumn, RawOutboxRow.change, kept]
    · rfl

theorem handleFailure_eventType (rawRow row : OutboxRow) (error : String) :
    (OutboxRow.handleFailure rawRow error now row).eventType = row.eventType := by
  unfold OutboxRow.handleFailure
  dsimp only
  split <;> rfl

private theorem processRow_rewrites (entry : Nat × RawOutboxRow) :
    Rewrites s.outbox (processRow handler now s entry).outbox := by
  unfold processRow
  split
  · exact Rewrites.refl _
  · split
    · exact rewrites_update _ fun _ => rfl
    · unfold processSingle
      split
      · exact rewrites_update _ fun row => handleFailure_eventType ..
      · dsimp only
        split
        · exact rewrites_update _ fun _ => rfl
        · exact rewrites_update _ fun row => handleFailure_eventType ..

private theorem processRows_rewrites (entries : List (Nat × RawOutboxRow)) :
    Rewrites s.outbox (entries.foldl (processRow handler now) s).outbox := by
  induction entries generalizing s with
  | nil => exact Rewrites.refl _
  | cons entry rest ih => exact (processRow_rewrites entry).trans ih

theorem releaseStaleLocks_rewrites : Rewrites t (releaseStaleLocks now t) :=
  rewrites_update _ fun _ => rfl

private theorem claimBatch_rewrites (claimed : claimBatch workerId tick t = .ok (outbox, entries)) :
    Rewrites t outbox := by
  unfold claimBatch at claimed
  dsimp only at claimed
  split at claimed
  · cases claimed
  · cases claimed
    exact rewrites_update _ fun _ => rfl

theorem process_rewrites (s : WorkerState) (tick : ProcessTick) :
    Rewrites s.outbox (process workerId handler s tick).outbox := by
  unfold process
  dsimp only
  split
  · exact releaseStaleLocks_rewrites
  · rename_i claimed
    exact (releaseStaleLocks_rewrites.trans (claimBatch_rewrites claimed)).trans
      (processRows_rewrites (s := { s with outbox := _ }) _)

theorem processed_rewrites (workerId : String) (handler : OutboxRow → Option String)
    (s : WorkerState) (ticks : Nat → ProcessTick) (n : Nat) :
    Rewrites s.outbox (processed workerId handler s ticks n).outbox := by
  induction n with
  | zero => exact Rewrites.refl _
  | succ n ih => exact ih.trans (process_rewrites _ _)

/-! ## Malformed rows -/

/-- A row that a scan claims is a row of the table with a type that is not null. -/
theorem mem_claimBatch (scans : tick.order.Perm t.ids)
    (claimed : claimBatch workerId tick t = .ok (outbox, entries)) (member : entry ∈ entries) :
    t.row entry.1 = some entry.2 ∧ entry.2.claimable tick.now = true ∧
      entry.2.untyped = false := by
  unfold claimBatch at claimed
  dsimp only at claimed
  split at claimed
  · cases claimed
  · rename_i typed
    cases claimed
    have chosen := (List.mem_insertionSort _).mp (List.mem_of_mem_take member)
    obtain ⟨here, claimable⟩ := (Table.mem_select scans).mp chosen
    have named := List.find?_eq_none.mp typed entry member
    exact ⟨here, claimable, by simpa using named⟩

private theorem processRow_other {entry : Nat × RawOutboxRow} (other : entry.1 ≠ id) :
    (processRow handler now s entry).outbox.row id = s.outbox.row id := by
  have elsewhere : ∀ (s : WorkerState) f, (s.write entry.1 f).outbox.row id = s.outbox.row id := by
    intro s f
    simp [WorkerState.write, other.symm]
  unfold processRow
  split
  · rfl
  · rename_i event made
    have same : event.id = entry.1 := by
      unfold toOutboxEvent at made
      split at made
      · cases made
      · cases made
        rfl
    rw [same]
    split
    · exact elsewhere _ _
    · unfold processSingle
      split
      · exact elsewhere _ _
      · dsimp only
        split
        · exact elsewhere _ _
        · exact elsewhere _ _

/-- The rows of a batch without a type are left as they are. -/
theorem processRow_malformed {entry : Nat × RawOutboxRow} (malformed : entry.2.eventType = "") :
    processRow handler now s entry = s := by
  unfold processRow toOutboxEvent
  rw [if_pos malformed]

private theorem processRows_row (malformed : ∀ entry ∈ entries, entry.1 = id → entry.2.eventType = "") :
    (entries.foldl (processRow handler now) s).outbox.row id = s.outbox.row id := by
  induction entries generalizing s with
  | nil => rfl
  | cons entry rest ih =>
    rw [List.foldl_cons, ih fun later member => malformed later (by simp [member])]
    by_cases here : entry.1 = id
    · rw [processRow_malformed (malformed entry (by simp) here)]
    · exact processRow_other here

/-- The row waits or is claimed, and is not settled. -/
def Unsettled (t : Table RawOutboxRow) (id : Nat) : Prop :=
  ∀ row, t.row id = some row → row.status = .pending ∨ row.status = .processing

theorem unsettled_release (unsettled : Unsettled t id) : Unsettled (releaseStaleLocks now t) id := by
  intro row here
  obtain ⟨before, stored, rfl⟩ := Table.of_update here
  split
  · exact .inl rfl
  · exact unsettled before stored

private theorem unsettled_claim (unsettled : Unsettled t id)
    (claimed : claimBatch workerId tick t = .ok (outbox, entries)) : Unsettled outbox id := by
  unfold claimBatch at claimed
  dsimp only at claimed
  split at claimed
  · cases claimed
  · cases claimed
    intro row here
    obtain ⟨before, stored, rfl⟩ := Table.of_update here
    split
    · exact .inr rfl
    · exact unsettled before stored

/-- A malformed row is not settled by any call of `process`. -/
theorem process_unsettled (scans : tick.order.Perm s.outbox.ids) (unsettled : Unsettled s.outbox id)
    (malformed : ∀ row, s.outbox.row id = some row → row.wellFormed = false) :
    Unsettled (process workerId handler s tick).outbox id := by
  unfold process
  dsimp only
  split
  · exact unsettled_release unsettled
  · rename_i outbox entries claimed
    have released : Rewrites s.outbox (releaseStaleLocks tick.now s.outbox) :=
      releaseStaleLocks_rewrites
    have rows : ∀ entry ∈ entries, entry.1 = id → entry.2.eventType = "" := by
      intro entry member same
      obtain ⟨here, -, typed⟩ := mem_claimBatch (released.ids ▸ scans) claimed member
      obtain ⟨before, stored⟩ := released.before here
      have kept := released.wellFormed stored here
      rw [same] at stored
      rw [malformed before stored] at kept
      simpa [RawOutboxRow.wellFormed, RawOutboxRow.typeColumn, typed] using kept
    intro row here
    rw [processRows_row rows] at here
    exact unsettled_claim (unsettled_release unsettled) claimed row here

/-! ## Well-formed rows -/

/-- A handler that returns completes the row, and its circuit stays closed. -/
theorem processRow_succeeds {entry : Nat × RawOutboxRow} (fresh : s.circuits = fun _ => {})
    (named : entry.2.eventType ≠ "") (succeeds : Succeeds handler entry.2.toOutboxRow) :
    processRow handler now s entry = s.write entry.1 (OutboxRow.markCompleted now) := by
  obtain ⟨registered, returns⟩ := succeeds
  obtain ⟨found, here⟩ := Option.isSome_iff_exists.mp registered
  have begins : beginHandle {} now entry.2.toOutboxRow = ({}, .handling) := by
    simp [beginHandle, CircuitBreakerState.beforeCall, here]
  have closed : s.setCircuit entry.2.toOutboxRow {} = s := by
    obtain ⟨outbox, circuits⟩ := s
    subst fresh
    simp [WorkerState.setCircuit]
  have ends : (endHandle {} now none).1 = {} := rfl
  unfold processRow toOutboxEvent
  rw [if_neg named]
  simp only [named, if_false, processSingle, fresh, begins, returns, ends, closed]

private theorem processRows_succeed (now : Time) (s : WorkerState) (fresh : s.circuits = fun _ => {})
    (succeed : ∀ entry ∈ entries,
      entry.2.eventType ≠ "" ∧ Succeeds handler entry.2.toOutboxRow) :
    (entries.foldl (processRow handler now) s).circuits = (fun _ => {}) ∧
      ∀ id, (entries.foldl (processRow handler now) s).outbox.row id =
        (s.outbox.row id).map fun row =>
          if id ∈ entries.map Prod.fst then row.change (OutboxRow.markCompleted now) else row := by
  induction entries generalizing s with
  | nil => simp [fresh]
  | cons entry rest ih =>
    obtain ⟨named, succeeds⟩ := succeed entry (by simp)
    rw [List.foldl_cons, processRow_succeeds fresh named succeeds]
    obtain ⟨still, rows⟩ := ih (s.write entry.1 (OutboxRow.markCompleted now)) fresh
      fun later member => succeed later (by simp [member])
    refine ⟨still, fun id => ?_⟩
    rw [rows id]
    simp only [WorkerState.write, Table.update_row, Option.map_map, List.map_cons, List.mem_cons]
    apply Option.map_congr
    intro row _
    by_cases here : id = entry.1
    · by_cases later : id ∈ rest.map Prod.fst
      · simp [here, RawOutboxRow.change, OutboxRow.markCompleted]
      · simp [here, RawOutboxRow.change, OutboxRow.markCompleted]
    · simp only [here, false_or, Function.comp_apply, beq_iff_eq, if_false]

private theorem claimBatch_outbox (claimed : claimBatch workerId tick t = .ok (outbox, entries)) :
    outbox = t.update (fun id _ => decide (id ∈ entries.map Prod.fst))
      (RawOutboxRow.change (OutboxRow.lock workerId tick.now)) := by
  unfold claimBatch at claimed
  dsimp only at claimed
  split at claimed
  · cases claimed
  · cases claimed
    rfl

/-- A claim over rows that have a type does not fail, and finds a row if there is one. -/
theorem claimBatch_ok (workerId : String) (scans : tick.order.Perm t.ids)
    (typed : ∀ id row, t.row id = some row → row.untyped = false) :
    ∃ outbox entries, claimBatch workerId tick t = .ok (outbox, entries) ∧
      (0 < tick.limit → ∀ id row, t.row id = some row → row.claimable tick.now = true →
        entries ≠ []) := by
  unfold claimBatch
  dsimp only
  split
  · rename_i id row found
    have chosen := (List.mem_insertionSort _).mp (List.mem_of_mem_take (List.mem_of_find?_eq_some found))
    have untyped := List.find?_some found
    rw [typed id row ((Table.mem_select scans).mp chosen).1] at untyped
    cases untyped
  · refine ⟨_, _, rfl, ?_⟩
    intro positive id row here claimable empty
    rcases List.take_eq_nil_iff.mp empty with none_left | nothing
    · omega
    · have eligible : (id, row) ∈ t.select tick.order fun _ row => row.claimable tick.now :=
        (Table.mem_select scans).mpr ⟨here, claimable⟩
      have member := (List.mem_insertionSort fun first second =>
        first.2.toOutboxRow.precedes second.2.toOutboxRow).mpr eligible
      rw [nothing] at member
      cases member

/-- The rows of a start that are left wait as they did, and the others are
COMPLETED. -/
structure Completing (start s : WorkerState) : Prop where
  fresh : s.circuits = fun _ => {}
  same : Rewrites start.outbox s.outbox
  rows : ∀ id row, s.outbox.row id = some row →
    start.outbox.row id = some row ∨ row.status = .completed

/-- What is asked of the rows at the start: they wait, and their handlers succeed. -/
structure Waiting (handler : OutboxRow → Option String) (t : Table RawOutboxRow) : Prop where
  pending : ∀ id row, t.row id = some row → row.status = .pending ∧ row.lockedAt = none
  succeed : ∀ id row, t.row id = some row → row.wellFormed = true →
    Succeeds handler row.toOutboxRow

/-- The rows that are left. -/
def pendingIds (t : Table RawOutboxRow) : Finset Nat :=
  (Finset.range t.serial).filter fun id => (t.row id).any (·.status = .pending)

theorem mem_pendingIds : id ∈ pendingIds t ↔ ∃ row, t.row id = some row ∧ row.status = .pending := by
  unfold pendingIds
  rw [Finset.mem_filter, Finset.mem_range]
  constructor
  · rintro ⟨-, waits⟩
    cases here : t.row id with
    | none => simp [here] at waits
    | some row => exact ⟨row, rfl, by simpa [here] using waits⟩
  · rintro ⟨row, here, waits⟩
    exact ⟨Table.row_below here, by simp [here, waits]⟩

private theorem pending_of_claimable {row : OutboxRow} (claimable : row.claimable now = true) :
    row.status = .pending := by
  simp only [OutboxRow.claimable, Bool.and_eq_true, decide_eq_true_eq] at claimable
  exact claimable.1.1

private theorem named_of_wellFormed {row : RawOutboxRow} (wellFormed : row.wellFormed = true) :
    row.untyped = false ∧ row.eventType ≠ "" := by
  unfold RawOutboxRow.wellFormed RawOutboxRow.typeColumn at wellFormed
  split at wellFormed
  · cases wellFormed
  · rename_i typed
    exact ⟨by simpa using typed, by simpa using wellFormed⟩

/-- No lock is stale where no row is claimed. -/
theorem release_idle (idle : ∀ row, t.row id = some row → row.status ≠ .processing) :
    (releaseStaleLocks now t).row id = t.row id := by
  unfold releaseStaleLocks
  rw [Table.update_row]
  cases here : t.row id with
  | none => rfl
  | some row => simp [OutboxRow.stale, idle row here]

theorem Completing.idle (waiting : Waiting handler start.outbox) (completing : Completing start s)
    (here : s.outbox.row id = some row) : row.status ≠ .processing := by
  rcases completing.rows id row here with before | completed
  · simp [(waiting.pending id row before).1]
  · simp [completed]

/-- A call of `process` completes what it claims, and leaves the rest. -/
theorem process_completes (workerId : String) (waiting : Waiting handler start.outbox)
    (wellFormed : ∀ id row, start.outbox.row id = some row → row.wellFormed = true)
    (completing : Completing start s) (scans : tick.order.Perm s.outbox.ids) :
    ∃ claimed : List Nat,
      (process workerId handler s tick).circuits = (fun _ => {}) ∧
      (∀ id ∈ claimed, id ∈ pendingIds s.outbox) ∧
      (∀ id row, (process workerId handler s tick).outbox.row id = some row →
        (id ∈ claimed ∧ row.status = .completed) ∨
          (id ∉ claimed ∧ s.outbox.row id = some row)) ∧
      (0 < tick.limit → ∀ id row, s.outbox.row id = some row → row.claimable tick.now = true →
        claimed ≠ []) := by
  have released : ∀ id, (releaseStaleLocks tick.now s.outbox).row id = s.outbox.row id :=
    fun id => release_idle fun row here => completing.idle waiting here
  have named : ∀ id row, s.outbox.row id = some row → row.untyped = false ∧ row.eventType ≠ "" := by
    intro id row here
    obtain ⟨before, stored⟩ := completing.same.before here
    apply named_of_wellFormed
    rw [completing.same.wellFormed stored here]
    exact wellFormed id before stored
  have scans' : tick.order.Perm (releaseStaleLocks tick.now s.outbox).ids := by
    have same : Rewrites s.outbox (releaseStaleLocks tick.now s.outbox) :=
      releaseStaleLocks_rewrites
    rw [same.ids]
    exact scans
  obtain ⟨outbox, entries, claimed, some_left⟩ := claimBatch_ok workerId scans' fun id row here =>
    (named id row (released id ▸ here)).1
  have chosen : ∀ entry ∈ entries,
      s.outbox.row entry.1 = some entry.2 ∧ entry.2.status = .pending := by
    intro entry member
    obtain ⟨here, claimable, -⟩ := mem_claimBatch scans' claimed member
    exact ⟨released entry.1 ▸ here, pending_of_claimable claimable⟩
  have succeed : ∀ entry ∈ entries,
      entry.2.eventType ≠ "" ∧ Succeeds handler entry.2.toOutboxRow := by
    intro entry member
    obtain ⟨here, pending⟩ := chosen entry member
    refine ⟨(named entry.1 entry.2 here).2, ?_⟩
    rcases completing.rows entry.1 entry.2 here with before | completed
    · exact waiting.succeed entry.1 entry.2 before (wellFormed entry.1 entry.2 before)
    · simp [pending] at completed
  obtain ⟨fresh, rows⟩ := processRows_succeed tick.now { s with outbox } completing.fresh succeed
  have shape : process workerId handler s tick =
      entries.foldl (processRow handler tick.now) { s with outbox } := by
    unfold process
    simp only [claimed]
  refine ⟨entries.map Prod.fst, ?_, ?_, ?_, ?_⟩
  · rw [shape]
    exact fresh
  · intro id member
    obtain ⟨entry, listed, rfl⟩ := List.mem_map.mp member
    obtain ⟨here, pending⟩ := chosen entry listed
    exact mem_pendingIds.mpr ⟨entry.2, here, pending⟩
  · intro id row after
    rw [shape, rows id, claimBatch_outbox claimed, Table.update_row, released id] at after
    obtain ⟨locked, inside, rfl⟩ := Option.map_eq_some_iff.mp after
    obtain ⟨before, here, rfl⟩ := Option.map_eq_some_iff.mp inside
    by_cases member : id ∈ entries.map Prod.fst
    · left
      simp [member, RawOutboxRow.change, OutboxRow.markCompleted]
    · right
      simp [member, here]
  · intro positive id row here claimable empty
    exact some_left positive id row ((released id).trans here) claimable
      (List.map_eq_nil_iff.mp empty)

section Progress

variable {start : WorkerState} (workerId : String) (waiting : Waiting handler start.outbox)
  (wellFormed : ∀ id row, start.outbox.row id = some row → row.wellFormed = true)
include waiting wellFormed

private theorem process_completing (completing : Completing start s) (scans : tick.order.Perm s.outbox.ids) :
    Completing start (process workerId handler s tick) := by
  obtain ⟨claimed, fresh, -, rows, -⟩ :=
    process_completes workerId waiting wellFormed completing scans
  refine ⟨fresh, completing.same.trans (process_rewrites s tick), fun id row here => ?_⟩
  rcases rows id row here with ⟨-, completed⟩ | ⟨-, before⟩
  · exact .inr completed
  · exact completing.rows id row before

theorem pendingIds_process (completing : Completing start s)
    (scans : tick.order.Perm s.outbox.ids) :
    pendingIds (process workerId handler s tick).outbox ⊆ pendingIds s.outbox := by
  obtain ⟨claimed, -, pending, rows, -⟩ :=
    process_completes workerId waiting wellFormed completing scans
  intro id member
  obtain ⟨row, here, waits⟩ := mem_pendingIds.mp member
  rcases rows id row here with ⟨listed, -⟩ | ⟨-, before⟩
  · exact pending id listed
  · exact mem_pendingIds.mpr ⟨row, before, waits⟩

/-- A call that finds a row to claim leaves fewer. -/
theorem pendingIds_fewer (completing : Completing start s) (scans : tick.order.Perm s.outbox.ids)
    (positive : 0 < tick.limit) (here : s.outbox.row id = some row)
    (claimable : row.claimable tick.now = true) :
    (pendingIds (process workerId handler s tick).outbox).card < (pendingIds s.outbox).card := by
  obtain ⟨claimed, -, pending, rows, found⟩ :=
    process_completes workerId waiting wellFormed completing scans
  obtain ⟨chosen, listed⟩ := List.exists_mem_of_ne_nil _ (found positive id row here claimable)
  apply Finset.card_lt_card
  refine ⟨pendingIds_process workerId waiting wellFormed completing scans, fun all => ?_⟩
  obtain ⟨row, after, waits⟩ := mem_pendingIds.mp (all (pending chosen listed))
  rcases rows chosen row after with ⟨-, completed⟩ | ⟨unlisted, -⟩
  · rw [waits] at completed
    cases completed
  · exact unlisted listed

end Progress

/-- The rows wait for no later time than some. -/
theorem exists_retry_bound (t : Table RawOutboxRow) :
    ∃ bound : Time, ∀ id row, t.row id = some row → row.nextRetryAt.all (· ≤ bound) = true := by
  obtain ⟨bound, above⟩ := ((Finset.range t.serial).image fun id =>
    ((t.row id).bind fun row => row.nextRetryAt).getD 0).exists_le
  refine ⟨bound, fun id row here => ?_⟩
  cases waits : row.nextRetryAt with
  | none => rfl
  | some nextRetryAt =>
    have below := above nextRetryAt (Finset.mem_image.mpr
      ⟨id, Finset.mem_range.mpr (Table.row_below here), by simp [here, waits]⟩)
    simpa using below

/-- What falls while it is positive reaches zero. -/
theorem reaches_zero {measure : Nat → Nat} {N : Nat}
    (falls : ∀ n ≥ N, 0 < measure n → measure (n + 1) < measure n)
    (stays : ∀ n, measure (n + 1) ≤ measure n) : ∃ M, ∀ n ≥ M, measure n = 0 := by
  have bounded : ∀ k, measure (N + k) ≤ measure N - k := by
    intro k
    induction k with
    | zero => exact Nat.le_refl _
    | succ k ih =>
      have step := stays (N + k)
      by_cases left : 0 < measure (N + k)
      · have less := falls (N + k) (Nat.le_add_right N k) left
        rw [← Nat.add_assoc]
        omega
      · rw [← Nat.add_assoc]
        omega
  refine ⟨N + measure N, fun n late => ?_⟩
  have here := bounded (n - N)
  rw [Nat.add_sub_cancel' (by omega)] at here
  omega

private theorem processed_completing {ticks : Nat → ProcessTick} (workerId : String) (waiting : Waiting handler s.outbox)
    (wellFormed : ∀ id row, s.outbox.row id = some row → row.wellFormed = true)
    (fresh : s.circuits = fun _ => {}) (repeats : Repeats s ticks) (n : Nat) :
    Completing s (processed workerId handler s ticks n) := by
  induction n with
  | zero => exact ⟨fresh, Rewrites.refl _, fun id row here => .inl here⟩
  | succ n ih =>
    apply process_completing workerId waiting wellFormed ih
    rw [ih.same.ids]
    exact repeats.scans n

private theorem processed_all {ticks : Nat → ProcessTick} (workerId : String) (waiting : Waiting handler s.outbox)
    (wellFormed : ∀ id row, s.outbox.row id = some row → row.wellFormed = true)
    (fresh : s.circuits = fun _ => {}) (repeats : Repeats s ticks) :
    ∃ N, ∀ n ≥ N, ∀ id row, (processed workerId handler s ticks n).outbox.row id = some row →
      row.status = .completed := by
  have completing := processed_completing workerId waiting wellFormed fresh repeats
  have scans : ∀ n, (ticks n).order.Perm (processed workerId handler s ticks n).outbox.ids := by
    intro n
    rw [(completing n).same.ids]
    exact repeats.scans n
  obtain ⟨bound, below⟩ := exists_retry_bound s.outbox
  obtain ⟨N, late⟩ := repeats.passes bound
  have falls : ∀ n ≥ N, 0 < (pendingIds (processed workerId handler s ticks n).outbox).card →
      (pendingIds (processed workerId handler s ticks (n + 1)).outbox).card <
        (pendingIds (processed workerId handler s ticks n).outbox).card := by
    intro n after left
    obtain ⟨id, member⟩ := Finset.card_pos.mp left
    obtain ⟨row, here, waits⟩ := mem_pendingIds.mp member
    have before : s.outbox.row id = some row := by
      rcases (completing n).rows id row here with before | completed
      · exact before
      · rw [waits] at completed
        cases completed
    have claimable : row.claimable (ticks n).now = true := by
      have passed := below id row before
      have now := late n after
      have unlocked := (waiting.pending id row before).2
      cases retry : row.nextRetryAt with
      | none => simp [OutboxRow.claimable, waits, unlocked, retry]
      | some nextRetryAt =>
        rw [retry] at passed
        have reached : nextRetryAt ≤ (ticks n).now :=
          Int.le_trans (of_decide_eq_true passed) now
        simp [OutboxRow.claimable, waits, unlocked, retry, reached]
    exact pendingIds_fewer workerId waiting wellFormed (completing n) (scans n) (repeats.positive n) here
      claimable
  obtain ⟨M, done⟩ := reaches_zero falls fun n =>
    Finset.card_le_card (pendingIds_process workerId waiting wellFormed (completing n) (scans n))
  refine ⟨M, fun n after id row here => ?_⟩
  rcases (completing n).rows id row here with before | completed
  · have member : id ∈ pendingIds (processed workerId handler s ticks n).outbox :=
      mem_pendingIds.mpr ⟨row, here, (waiting.pending id row before).1⟩
    rw [Finset.card_eq_zero.mp (done n after)] at member
    cases member
  · exact completed

private theorem processed_unsettled {ticks : Nat → ProcessTick} {row : RawOutboxRow} (workerId : String)
    (handler : OutboxRow → Option String) (repeats : Repeats s ticks)
    (here : s.outbox.row id = some row) (malformed : row.wellFormed = false)
    (start : row.status = .pending ∨ row.status = .processing) (n : Nat) :
    Unsettled (processed workerId handler s ticks n).outbox id := by
  induction n with
  | zero =>
    intro other stored
    obtain rfl := Option.some.inj (here.symm.trans stored)
    exact start
  | succ n ih =>
    have same : Rewrites s.outbox (processed workerId handler s ticks n).outbox :=
      processed_rewrites workerId handler s ticks n
    apply process_unsettled
    · rw [same.ids]
      exact repeats.scans n
    · exact ih
    · intro later stored
      rw [same.wellFormed here stored]
      exact malformed

end Stays

section Runs

variable {workerId : String} {handler : OutboxRow → Option String} {s : WorkerState}
  {ticks : Nat → ProcessTick}

/-- A malformed row is never FAILED. -/
theorem malformed_not_isolated (id : Nat) {row : RawOutboxRow} (waiting : Waiting handler s.outbox)
    (repeats : Repeats s ticks) (here : s.outbox.row id = some row)
    (malformed : row.wellFormed = false) : ¬ Isolated workerId handler s ticks := by
  intro isolated
  obtain ⟨N, settled⟩ := isolated.settled
  have same : Rewrites s.outbox (processed workerId handler s ticks N).outbox :=
    processed_rewrites workerId handler s ticks N
  obtain ⟨later, after⟩ := same.after here
  have failed := settled N (Nat.le_refl N) id later after
  rw [same.wellFormed here after, malformed] at failed
  have unsettled := processed_unsettled workerId handler repeats here malformed
    (.inl (waiting.pending id row here).1) N later after
  simp [failed] at unsettled

/-- Repeated calls of `process` settle every row as they should just when there is no
malformed row among them. -/
theorem isolated_iff (waiting : Waiting handler s.outbox) (fresh : s.circuits = fun _ => {})
    (repeats : Repeats s ticks) :
    Isolated workerId handler s ticks ↔
      ∀ id row, s.outbox.row id = some row → row.wellFormed = true := by
  constructor
  · intro isolated id row here
    by_contra bad
    exact malformed_not_isolated id waiting repeats here (by simpa using bad) isolated
  · intro wellFormed
    obtain ⟨N, completed⟩ := processed_all workerId waiting wellFormed fresh repeats
    constructor
    · refine ⟨N, fun n late id row here => ?_⟩
      have same : Rewrites s.outbox (processed workerId handler s ticks n).outbox :=
        processed_rewrites workerId handler s ticks n
      obtain ⟨before, stored⟩ := same.before here
      rw [same.wellFormed stored here, wellFormed id before stored]
      exact completed n late id row here
    · intro n id row here malformed
      rw [wellFormed id row here] at malformed
      cases malformed

end Runs

namespace OutboxSample

/-- An event of the shop and another row. -/
def beside (row : RawOutboxRow) : WorkerState where
  outbox := .ofList [⟨waiting "DELIVERY_ASSIGNED_V1:order:S1", false⟩, row]

def hourly (n : Nat) : ProcessTick where
  now := n * 3600000
  limit := 50
  order := [0, 1]

theorem hourly_repeats (row : RawOutboxRow) : Repeats (beside row) hourly where
  scans := fun _ => List.Perm.refl _
  positive := fun _ => Nat.zero_lt_succ 49
  passes := by
    intro time
    refine ⟨Int.toNat time, fun n late => ?_⟩
    have below : time ≤ (n : Int) := Int.toNat_le.mp late
    have grows : (n : Int) ≤ n * 3600000 := by omega
    exact Int.le_trans below grows

theorem beside_waiting {row : RawOutboxRow} (pending : row.status = .pending ∧ row.lockedAt = none)
    (registered : row.wellFormed = true → (HandlerRegistry.getHandler row.eventType).isSome) :
    Waiting (fun _ => none) (beside row).outbox where
  pending := by
    intro id other here
    match id with
    | 0 =>
      cases here
      exact ⟨rfl, rfl⟩
    | 1 =>
      cases here
      exact pending
  succeed := by
    intro id other here wellFormed
    match id with
    | 0 =>
      cases here
      exact ⟨by decide, rfl⟩
    | 1 =>
      cases here
      exact ⟨registered wellFormed, rfl⟩

theorem isolated_events :
    Isolated "w1" (fun _ => none) (beside ⟨waiting "DELIVERY_ASSIGNED_V1:order:S2", false⟩) hourly :=
  (isolated_iff (beside_waiting ⟨rfl, rfl⟩ fun _ => by decide) rfl (hourly_repeats _)).mpr <| by
    intro id row here
    match id with
    | 0 | 1 =>
      cases here
      decide

/-- With an empty event type or with none, the row beside the event is never FAILED. -/
theorem poison_not_isolated :
    ¬ Isolated "w1" (fun _ => none)
      (beside ⟨{ waiting "DELIVERY_ASSIGNED_V1:order:S2" with eventType := "" }, false⟩) hourly ∧
    ¬ Isolated "w1" (fun _ => none)
      (beside ⟨waiting "DELIVERY_ASSIGNED_V1:order:S2", true⟩) hourly := by
  constructor
  · refine malformed_not_isolated 1 (beside_waiting ⟨rfl, rfl⟩ ?_) (hourly_repeats _) rfl rfl
    intro wellFormed
    cases wellFormed
  · refine malformed_not_isolated 1 (beside_waiting ⟨rfl, rfl⟩ ?_) (hourly_repeats _) rfl rfl
    intro wellFormed
    cases wellFormed

end OutboxSample

end DriverMicroServices
