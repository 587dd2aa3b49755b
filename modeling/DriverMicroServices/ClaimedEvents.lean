import DriverMicroServices.OutboxWorker
import DriverMicroServices.Texts.Json

/-! From the row of an event to the handler. `claimBatch` selects columns by name and builds an
object of its own from each row; what the object does not carry, `toOutboxEvent` replaces by a
default. -/
namespace DriverMicroServices.ClaimedEvents
open Texts Texts.Json Tables

variable {ν : Type} [Numerals ν]

/-- A row of `outbox` with all its columns but its id. -/
structure OutboxColumns (ν : Type) where
  eventType : String
  payload : Json ν
  status : OutboxStatus := .pending
  priority : OutboxPriority := .medium
  retryCount : Nat := 0
  lastError : Option String := none
  nextRetryAt : Option Time := none
  createdAt : Time
  processedAt : Option Time := none
  lockedAt : Option Time := none
  lockedBy : Option String := none
  idempotencyKey : String
  version : Nat := 1

/-! ## Publishing -/

/-- `generateIdempotencyKey`; there is no key where a value has no text. -/
def generateIdempotencyKey (eventType : String) (payload : Json ν) (now : Time) : Option String := do
  let sellerOrderId := peek (some payload) "sellerOrderId"
  let deliveryId := peek (some payload) "deliveryId"
  let driverId := peek (some payload) "driverId"
  let proofType := peek (some payload) "proofType"
  if Json.truthy sellerOrderId then
    return eventType ++ (":order:" ++ (← render sellerOrderId))
  if Json.truthy deliveryId && Json.truthy driverId then
    return eventType ++ (":delivery:" ++ (← render deliveryId) ++ ":driver:" ++ (← render driverId))
  if Json.truthy deliveryId && Json.truthy proofType then
    return eventType ++ (":delivery:" ++ (← render deliveryId) ++ ":proof:" ++ (← render proofType))
  if Json.truthy deliveryId then
    return eventType ++ (":delivery:" ++ (← render deliveryId))
  return eventType ++ (":ts:" ++ toString now)

/-- `publish`. The payload is not `null`, which the column does not take. -/
def publish (outbox : Table (OutboxColumns ν)) (eventType : String) (payload : Json ν) (version : Nat)
    (now : Time) : Except String (Table (OutboxColumns ν)) :=
  if !isValidVersionedEventType eventType then
    .error ("Unknown versioned event type: " ++ eventType)
  else
    match generateIdempotencyKey eventType payload now with
    | none => .error "Cannot convert object to primitive value"
    | some idempotencyKey =>
      if outbox.any (·.idempotencyKey = idempotencyKey) then .ok outbox
      else .ok (outbox.insert { eventType, payload, createdAt := now, idempotencyKey, version })

/-- A row that `publish` stored. What the workers write later may be anything, and so may the
priority, which `publish` leaves to the default of the column. -/
structure PublishedRow (ν : Type) [Numerals ν] extends OutboxColumns ν where
  valid : isValidVersionedEventType eventType = true
  publishedAt : Time
  keyed : generateIdempotencyKey eventType payload publishedAt = some idempotencyKey

/-- What `publish` adds is such a row. -/
theorem publish_stores {outbox outbox' : Table (OutboxColumns ν)} {eventType : String} {payload : Json ν}
    {version : Nat} {now : Time} (published : publish outbox eventType payload version now = .ok outbox') :
    outbox' = outbox ∨ ∃ row : PublishedRow ν, outbox' = outbox.insert row.toOutboxColumns := by
  unfold publish at published
  split at published
  · cases published
  · rename_i valid
    split at published
    · cases published
    · rename_i idempotencyKey keyed
      split at published
      · exact .inl (Except.ok.inj published).symm
      · refine .inr ⟨⟨_, ?_, now, keyed⟩, (Except.ok.inj published).symm⟩
        simpa using valid

/-! ## Claiming -/

/-- A row as the query of `claimBatch` returns it; a column may be null. -/
structure SelectedRow (ν : Type) where
  id : Option Nat
  event_type : Option String
  payload : Option (Json ν)
  status : Option OutboxStatus
  retry_count : Option Nat
  last_error : Option String
  next_retry_at : Option Time
  created_at : Option Time
  processed_at : Option Time
  locked_at : Option Time
  locked_by : Option String
  idempotency_key : Option String
  priority : Option OutboxPriority

/-- The columns that the query asks for; the version is not one of them. -/
def OutboxColumns.selected (id : Nat) (row : OutboxColumns ν) : SelectedRow ν where
  id := some id
  event_type := some row.eventType
  payload := some row.payload
  status := some row.status
  retry_count := some row.retryCount
  last_error := row.lastError
  next_retry_at := row.nextRetryAt
  created_at := some row.createdAt
  processed_at := row.processedAt
  locked_at := row.lockedAt
  locked_by := row.lockedBy
  idempotency_key := some row.idempotencyKey
  priority := some row.priority

/-- The object that `claimBatch` returns for a row. The last two properties belong to its type. -/
structure RawOutboxRow (ν : Type) where
  id : Nat
  event_type : String
  payload : Json ν
  status : OutboxStatus
  retry_count : Nat
  last_error : Option String
  next_retry_at : Option Time
  created_at : Time
  processed_at : Option Time
  locked_at : Option Time
  locked_by : Option String
  idempotency_key : Option String := none
  version : Option Nat := none

/-- `payload ?? {}` -/
def orEmpty : Value ν → Json ν
  | none | some .null => .obj []
  | some payload => payload

def toRawOutboxRow (now : Time) (row : SelectedRow ν) : Except String (RawOutboxRow ν) :=
  match row.id, row.event_type with
  | none, _ => .error "STRUCTURAL_CORRUPTION: Row missing id"
  | some id, none => .error ("STRUCTURAL_CORRUPTION: Row " ++ toString id ++ " missing event_type")
  | some id, some event_type => .ok
    { id, event_type
      payload := orEmpty row.payload
      status := row.status.getD .pending
      retry_count := row.retry_count.getD 0
      last_error := row.last_error
      next_retry_at := row.next_retry_at
      created_at := row.created_at.getD now
      processed_at := row.processed_at
      locked_at := row.locked_at
      locked_by := row.locked_by }

/-- What `claimBatch` returns of the rows that it selected. -/
def claimBatch (now : Time) (selectedRows : List (SelectedRow ν)) : Except String (List (RawOutboxRow ν)) :=
  selectedRows.mapM (toRawOutboxRow now)

/-- The event that a handler is given. -/
structure HandedEvent (ν : Type) where
  id : Nat
  eventType : String
  payload : Json ν
  status : OutboxStatus
  priority : OutboxPriority
  retryCount : Nat
  lastError : Option String
  nextRetryAt : Option Time
  createdAt : Time
  processedAt : Option Time
  lockedAt : Option Time
  lockedBy : Option String
  idempotencyKey : String
  version : Nat

/-- `row.payload || {}` -/
def orObject (payload : Json ν) : Json ν := if Json.truthy (some payload) then payload else .obj []

def toOutboxEvent (row : RawOutboxRow ν) : Except String (HandedEvent ν) :=
  if row.event_type = "" then
    .error ("STRUCTURAL_CORRUPTION: Row " ++ toString row.id ++ " missing event_type in toOutboxEvent")
  else .ok
    { id := row.id
      eventType := row.event_type
      payload := orObject row.payload
      status := row.status
      priority := .medium
      retryCount := row.retry_count
      lastError := DriverMicroServices.truthy row.last_error
      nextRetryAt := row.next_retry_at
      createdAt := row.created_at
      processedAt := row.processed_at
      lockedAt := row.locked_at
      lockedBy := DriverMicroServices.truthy row.locked_by
      idempotencyKey := (DriverMicroServices.truthy row.idempotency_key).getD ("BACKFILL_" ++ toString row.id)
      version := row.version.getD 1 }

/-- The events that the worker hands out for the rows that it selected. -/
def handOut (now : Time) (selectedRows : List (SelectedRow ν)) : Except String (List (HandedEvent ν)) := do
  let rawRows ← claimBatch now selectedRows
  rawRows.mapM toOutboxEvent

/-! ## What a handler sees of a row -/

/-- The event is the row. -/
structure Faithful (id : Nat) (row : OutboxColumns ν) (event : HandedEvent ν) : Prop where
  id : event.id = id
  eventType : event.eventType = row.eventType
  payload : event.payload = row.payload
  retryCount : event.retryCount = row.retryCount
  idempotencyKey : event.idempotencyKey = row.idempotencyKey
  version : event.version = row.version
  priority : event.priority = row.priority

/-- The event of a row: its key, its version and its priority are defaults. -/
def handedEvent (id : Nat) (row : OutboxColumns ν) : HandedEvent ν where
  id
  eventType := row.eventType
  payload := orObject (orEmpty (some row.payload))
  status := row.status
  priority := .medium
  retryCount := row.retryCount
  lastError := DriverMicroServices.truthy row.lastError
  nextRetryAt := row.nextRetryAt
  createdAt := row.createdAt
  processedAt := row.processedAt
  lockedAt := row.lockedAt
  lockedBy := DriverMicroServices.truthy row.lockedBy
  idempotencyKey := "BACKFILL_" ++ toString id
  version := 1

theorem mapM_ok {α β : Type} {f : α → Except String β} {g : α → β} {entries : List α}
    (each : ∀ entry ∈ entries, f entry = .ok (g entry)) : entries.mapM f = .ok (entries.map g) := by
  induction entries with
  | nil => rfl
  | cons entry rest ih =>
    have later := ih fun other member => each other (List.mem_cons_of_mem _ member)
    rw [List.mapM_cons, each entry List.mem_cons_self, later]
    rfl

/-- The object of a row. -/
def rawRow (entry : Nat × OutboxColumns ν) : RawOutboxRow ν where
  id := entry.1
  event_type := entry.2.eventType
  payload := orEmpty (some entry.2.payload)
  status := entry.2.status
  retry_count := entry.2.retryCount
  last_error := entry.2.lastError
  next_retry_at := entry.2.nextRetryAt
  created_at := entry.2.createdAt
  processed_at := entry.2.processedAt
  locked_at := entry.2.lockedAt
  locked_by := entry.2.lockedBy

private theorem handOut_rows (now : Time) {rows : List (Nat × OutboxColumns ν)}
    (named : ∀ entry ∈ rows, entry.2.eventType ≠ "") :
    handOut now (rows.map fun entry => entry.2.selected entry.1) =
      .ok (rows.map fun entry => handedEvent entry.1 entry.2) := by
  have claimed : claimBatch now (rows.map fun entry => entry.2.selected entry.1) = .ok (rows.map rawRow) := by
    unfold claimBatch
    rw [List.mapM_map]
    exact mapM_ok fun entry _ => rfl
  have handed : (rows.map rawRow).mapM toOutboxEvent = .ok (rows.map fun entry => handedEvent entry.1 entry.2) := by
    rw [List.mapM_map]
    refine mapM_ok fun entry member => ?_
    exact if_neg (named entry member)
  unfold handOut
  rw [claimed]
  exact handed

/-- A key that `publish` made has a colon. -/
theorem colon_of_keyed {eventType key : String} {payload : Json ν} {now : Time}
    (keyed : generateIdempotencyKey eventType payload now = some key) : ':' ∈ key.toList := by
  have joined {separator rest : String} (colon : ':' ∈ separator.toList) :
      ':' ∈ (eventType ++ (separator ++ rest)).toList := by
    simp [String.toList_append, colon]
  unfold generateIdempotencyKey at keyed
  dsimp only at keyed
  split at keyed
  · obtain ⟨order, -, made⟩ := Option.bind_eq_some_iff.mp keyed
    obtain rfl := Option.some.inj made
    exact joined (by decide)
  split at keyed
  · obtain ⟨delivery, -, keyed⟩ := Option.bind_eq_some_iff.mp keyed
    obtain ⟨driver, -, made⟩ := Option.bind_eq_some_iff.mp keyed
    obtain rfl := Option.some.inj made
    rw [String.append_assoc, String.append_assoc]
    exact joined (by decide)
  split at keyed
  · obtain ⟨delivery, -, keyed⟩ := Option.bind_eq_some_iff.mp keyed
    obtain ⟨proof, -, made⟩ := Option.bind_eq_some_iff.mp keyed
    obtain rfl := Option.some.inj made
    rw [String.append_assoc, String.append_assoc]
    exact joined (by decide)
  split at keyed
  · obtain ⟨delivery, -, made⟩ := Option.bind_eq_some_iff.mp keyed
    obtain rfl := Option.some.inj made
    exact joined (by decide)
  · obtain rfl := Option.some.inj keyed
    exact joined (by decide)

private theorem not_backfill (row : PublishedRow ν) (id : Nat) : row.idempotencyKey ≠ "BACKFILL_" ++ toString id := by
  intro same
  have colon := colon_of_keyed row.keyed
  rw [same, String.toList_append, List.mem_append] at colon
  rcases colon with front | digits
  · revert front
    decide
  · have digit := Nat.isDigit_of_mem_toDigits (b := 10) (by omega) (by omega) (by simpa using digits)
    revert digit
    decide

/-- The event type of a published row is not empty. -/
theorem PublishedRow.named (row : PublishedRow ν) : row.eventType ≠ "" := by
  intro empty
  have valid := row.valid
  rw [empty] at valid
  revert valid
  decide

/-- No event that is handed out is the row that was published. -/
theorem no_event_faithful (now : Time) (rows : List (Nat × PublishedRow ν)) :
    ∃ events, handOut now (rows.map fun entry => entry.2.selected entry.1) = .ok events ∧
      List.Forall₂ (fun entry event => ¬ Faithful entry.1 entry.2.toOutboxColumns event) rows events := by
  have handed := @handOut_rows ν _ now (rows.map fun entry => (entry.1, entry.2.toOutboxColumns)) (by
    intro entry member
    obtain ⟨row, _, rfl⟩ := List.mem_map.mp member
    exact row.2.named)
  rw [List.map_map, List.map_map] at handed
  refine ⟨_, handed, ?_⟩
  rw [List.forall₂_map_right_iff]
  refine List.forall₂_same.mpr fun entry _ faithful => ?_
  exact not_backfill entry.2 entry.1 faithful.idempotencyKey.symm

/-- The assignment of an order, published in its second version and raised to a high priority. -/
def assignedRow : OutboxColumns Nat where
  eventType := "DELIVERY_ASSIGNED_V2"
  payload := .obj [("sellerOrderId", .str "SO-1")]
  priority := .high
  createdAt := 0
  idempotencyKey := "DELIVERY_ASSIGNED_V2:order:SO-1"
  version := 2

/-- A handler is given the event under another key, in its first version and without its priority. -/
theorem assigned_row_changed :
    generateIdempotencyKey assignedRow.eventType assignedRow.payload 0 = some assignedRow.idempotencyKey ∧
    ∃ event, handOut 0 [assignedRow.selected 7] = .ok [event] ∧ ¬ Faithful 7 assignedRow event ∧
      event.idempotencyKey = "BACKFILL_7" ∧ event.version = 1 ∧ event.priority = .medium := by
  refine ⟨by decide, _, rfl, fun faithful => ?_, rfl, rfl, rfl⟩
  have same : 1 = 2 := faithful.version
  omega

end DriverMicroServices.ClaimedEvents
