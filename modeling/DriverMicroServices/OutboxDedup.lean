import DriverMicroServices.OutboxKeys
import DriverMicroServices.OutboxWorker

/-! When the duplicate check of `publish` drops an event that nothing stored stands
for. An order in the payload hides the driver from the key, and without an order or
a delivery the key is the millisecond alone. -/
namespace DriverMicroServices
open Tables

/-- One call of `publish`, at its time. -/
structure Publication where
  eventType : String
  payload : OutboxPayload
  now : Time
  deriving DecidableEq

/-- The business fact that an event reports. -/
inductive BusinessFact where
  | order (sellerOrderId : String) (driverId : Option String)
  | delivery (deliveryId : String) (driverId : Option String)
  | payload (payload : OutboxPayload)
  deriving DecidableEq

def businessFact (payload : OutboxPayload) : BusinessFact :=
  match truthy payload.sellerOrderId, truthy payload.deliveryId with
  | some sellerOrderId, _ => .order sellerOrderId (truthy payload.driverId)
  | none, some deliveryId => .delivery deliveryId (truthy payload.driverId)
  | none, none => .payload payload

namespace Publication

def key (call : Publication) : String :=
  generateIdempotencyKey call.eventType call.payload call.now

/-- The event that the call stores. -/
def row (call : Publication) : OutboxRow where
  eventType := call.eventType
  payload := call.payload
  createdAt := call.now
  idempotencyKey := call.key

/-- Both calls publish one fact under one type. -/
def SameFact (first second : Publication) : Prop :=
  first.eventType = second.eventType ∧ businessFact first.payload = businessFact second.payload

/-- Both calls have one type and one order; with no order, one delivery with what the
key adds to it; with neither, one millisecond. -/
def SameSource (first second : Publication) : Prop :=
  first.eventType = second.eventType ∧
    keySource first.payload first.now = keySource second.payload second.now

instance (first second : Publication) : Decidable (first.SameFact second) :=
  inferInstanceAs (Decidable (_ ∧ _))

instance (first second : Publication) : Decidable (first.SameSource second) :=
  inferInstanceAs (Decidable (_ ∧ _))

end Publication

namespace OutboxSystem

/-- A history of calls. -/
def publishAll (s : OutboxSystem) (history : List Publication) : OutboxSystem :=
  history.foldl (fun s call => s.publish call.eventType call.payload call.now) s

/-- The service starts with no events. -/
def empty : OutboxSystem := { outbox := .ofList [] }

/-- `publish` finds an event under the key of the call. -/
def Skips (s : OutboxSystem) (call : Publication) : Prop :=
  isValidVersionedEventType call.eventType = true ∧
    ∃ id row, s.outbox.row id = some row ∧ row.idempotencyKey = call.key

theorem publishAll_concat (s : OutboxSystem) (history : List Publication) (call : Publication) :
    s.publishAll (history ++ [call]) =
      (s.publishAll history).publish call.eventType call.payload call.now := by
  simp [publishAll]

theorem publish_skips (skips : Skips s call) :
    s.publish call.eventType call.payload call.now = s := by
  obtain ⟨_, id, row, held, same⟩ := skips
  have taken : s.outbox.any (·.idempotencyKey = call.key) = true :=
    Table.any_iff.mpr ⟨id, row, held, by simpa using same⟩
  exact if_pos (.inr taken)

theorem publish_stores (valid : isValidVersionedEventType call.eventType = true)
    (unskipped : ¬ Skips s call) :
    s.publish call.eventType call.payload call.now =
      { s with outbox := s.outbox.insert call.row } := by
  refine if_neg ?_
  rintro (invalid | taken)
  · simp [valid] at invalid
  · obtain ⟨id, row, held, same⟩ := Table.any_iff.mp taken
    exact unskipped ⟨valid, id, row, held, of_decide_eq_true same⟩

theorem publish_keeps {s : OutboxSystem} {id : Nat} (held : s.outbox.row id = some row)
    (call : Publication) :
    (s.publish call.eventType call.payload call.now).outbox.row id = some row := by
  simp only [publish]
  split
  · exact held
  · exact Table.insert_row_of_some held

/-- Every stored row is the event of a call. -/
theorem stored_from {id : Nat} (held : (empty.publishAll history).outbox.row id = some row) :
    ∃ call ∈ history, isValidVersionedEventType call.eventType = true ∧ row = call.row := by
  induction history using List.reverseRecOn generalizing id with
  | nil => simp [publishAll, empty, Table.ofList] at held
  | append_singleton history last ih =>
    rw [publishAll_concat] at held
    have earlier (held : (empty.publishAll history).outbox.row id = some row) :
        ∃ call ∈ history ++ [last], isValidVersionedEventType call.eventType = true ∧
          row = call.row := by
      obtain ⟨call, member, stores⟩ := ih held
      exact ⟨call, List.mem_append_left _ member, stores⟩
    by_cases valid : isValidVersionedEventType last.eventType = true
    · by_cases skips : Skips (empty.publishAll history) last
      · rw [publish_skips skips] at held
        exact earlier held
      · rw [publish_stores valid skips, Table.insert_row] at held
        split at held
        · cases held
          exact ⟨last, by simp, valid, rfl⟩
        · exact earlier held
    · have refused : (empty.publishAll history).publish last.eventType last.payload last.now =
          empty.publishAll history := if_pos (.inl (by simpa using valid))
      rw [refused] at held
      exact earlier held

/-- The key of a call is taken from then on. -/
theorem key_taken (member : call ∈ history)
    (valid : isValidVersionedEventType call.eventType = true) :
    Skips (empty.publishAll history) call := by
  induction history using List.reverseRecOn with
  | nil => cases member
  | append_singleton history last ih =>
    rw [publishAll_concat]
    rcases List.mem_append.mp member with before | here
    · obtain ⟨_, id, row, held, same⟩ := ih before
      exact ⟨valid, id, row, publish_keeps held last, same⟩
    · obtain rfl := List.mem_singleton.mp here
      by_cases skips : Skips (empty.publishAll history) call
      · rw [publish_skips skips]
        exact skips
      · rw [publish_stores valid skips]
        exact ⟨valid, _, _, Table.insert_row.trans (if_pos rfl), rfl⟩

/-- A call is skipped where an earlier one was made of the same type and source. -/
theorem skips_iff :
    Skips (empty.publishAll before) call ↔
      isValidVersionedEventType call.eventType = true ∧
        ∃ earlier ∈ before, earlier.SameSource call := by
  constructor
  · rintro ⟨valid, id, row, held, same⟩
    obtain ⟨earlier, member, valid', rfl⟩ := stored_from held
    exact ⟨valid, earlier, member, (key_injective valid' valid).mp same⟩
  · rintro ⟨valid, earlier, member, source⟩
    have valid' : isValidVersionedEventType earlier.eventType = true := source.1 ▸ valid
    obtain ⟨_, id, row, held, same⟩ := key_taken member valid'
    have keys : earlier.key = call.key := (key_injective valid' valid).mpr source
    exact ⟨valid, id, row, held, same.trans keys⟩

/-- An event is dropped as a duplicate only where a stored one of its type reports
its fact. -/
def DedupSound (history : List Publication) : Prop :=
  ∀ before call after, history = before ++ call :: after →
    Skips (empty.publishAll before) call →
      ∃ id row, (empty.publishAll before).outbox.row id = some row ∧
        row.eventType = call.eventType ∧ businessFact row.payload = businessFact call.payload

/-- Where a call shares type and source with an earlier one, an earlier call has
published its fact. -/
def Vouched (history : List Publication) : Prop :=
  ∀ before call after, history = before ++ call :: after →
    isValidVersionedEventType call.eventType = true →
      (∃ earlier ∈ before, earlier.SameSource call) → ∃ earlier ∈ before, earlier.SameFact call

theorem Vouched.init (vouched : Vouched (history ++ [last])) : Vouched history := by
  rintro before call after rfl
  exact vouched before call (after ++ [last]) (by simp)

/-- Along a vouched history the fact of each earlier call is stored. -/
theorem fact_stored (vouched : Vouched history) (member : call ∈ history)
    (valid : isValidVersionedEventType call.eventType = true) :
    ∃ id row, (empty.publishAll history).outbox.row id = some row ∧
      row.eventType = call.eventType ∧ businessFact row.payload = businessFact call.payload := by
  induction history using List.reverseRecOn generalizing call with
  | nil => cases member
  | append_singleton history last ih =>
    rw [publishAll_concat]
    have kept {call : Publication} (before : call ∈ history)
        (valid : isValidVersionedEventType call.eventType = true) :
        ∃ id row, ((empty.publishAll history).publish last.eventType last.payload
            last.now).outbox.row id = some row ∧
          row.eventType = call.eventType ∧ businessFact row.payload = businessFact call.payload := by
      obtain ⟨id, row, held, same⟩ := ih vouched.init before valid
      exact ⟨id, row, publish_keeps held last, same⟩
    rcases List.mem_append.mp member with before | here
    · exact kept before valid
    · obtain rfl := List.mem_singleton.mp here
      by_cases skips : Skips (empty.publishAll history) call
      · obtain ⟨earlier, before, sameType, sameFact⟩ :=
          vouched history call [] rfl valid (skips_iff.mp skips).2
        obtain ⟨id, row, held, type, fact⟩ := kept before (sameType ▸ valid)
        exact ⟨id, row, held, type.trans sameType, fact.trans sameFact⟩
      · rw [publish_stores valid skips]
        exact ⟨_, _, Table.insert_row.trans (if_pos rfl), rfl, rfl⟩

theorem DedupSound.vouched (sound : DedupSound history) : Vouched history := by
  intro before call after parts valid shared
  obtain ⟨id, row, held, sameType, sameFact⟩ :=
    sound before call after parts (skips_iff.mpr ⟨valid, shared⟩)
  obtain ⟨earlier, member, _, rfl⟩ := stored_from held
  exact ⟨earlier, member, sameType, sameFact⟩

theorem Vouched.sound (vouched : Vouched history) : DedupSound history := by
  rintro before call after rfl skips
  have vouchedBefore : Vouched before := by
    rintro first call' rest rfl
    exact vouched first call' (rest ++ call :: after) (by simp)
  obtain ⟨earlier, member, sameType, sameFact⟩ :=
    vouched before call after rfl skips.1 (skips_iff.mp skips).2
  obtain ⟨id, row, held, type, fact⟩ := fact_stored vouchedBefore member (sameType ▸ skips.1)
  exact ⟨id, row, held, type.trans sameType, fact.trans sameFact⟩

/-- The duplicate check is sound exactly along the vouched histories. -/
theorem dedup_sound_iff (history : List Publication) : DedupSound history ↔ Vouched history :=
  ⟨DedupSound.vouched, Vouched.sound⟩

/-! Two drivers who register in one millisecond, and two drivers of one order. -/
namespace DedupSample

def registered (driverId : String) : Publication where
  eventType := "DRIVER_REGISTERED_V1"
  payload := { driverId := some driverId, others := [("email", driverId ++ "@example.org")] }
  now := 5

def assigned (driverId : String) (now : Time) : Publication where
  eventType := "DELIVERY_ASSIGNED_V1"
  payload := { deliveryId := some "delivery", sellerOrderId := some "order",
               channelId := some "shop", driverId := some driverId }
  now := now

/-- The second registration and the second assignment are both dropped. -/
theorem dedup_drops :
    ¬ DedupSound [registered "ann", registered "bob"] ∧
      ¬ DedupSound [assigned "ann" 1, assigned "bob" 2] := by
  constructor
  · intro sound
    have earlier := sound.vouched [registered "ann"] (registered "bob") [] rfl
      (by decide) (by decide)
    revert earlier
    decide
  · intro sound
    have earlier := sound.vouched [assigned "ann" 1] (assigned "bob" 2) [] rfl
      (by decide) (by decide)
    revert earlier
    decide

end DedupSample

end OutboxSystem

end DriverMicroServices
