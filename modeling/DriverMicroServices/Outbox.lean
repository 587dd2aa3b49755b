import DriverMicroServices.Repository
import Mathlib.Data.List.Infix

/-! `OutboxService.publish`: one row for each idempotency key. -/
namespace DriverMicroServices
open Transactions Program

/-- The event names of the shared `ws-contracts` package. -/
structure WsEvents where
  deliveryAssigned : String
  deliveryPickupConfirmed : String
  deliveryDropoffConfirmed : String
  deliveryFailed : String
  deliveryCancelled : String

/-- `/^[A-Z_]+_V[1-3]$/`. -/
def isValidVersionedEventType (eventType : String) : Bool :=
  match eventType.toList.reverse with
  | version :: 'V' :: '_' :: rest =>
    ['1', '2', '3'].contains version && !rest.isEmpty && rest.all fun c => c.isUpper || c == '_'
  | _ => false

/-- `text.includes(part)`. -/
def includes (text part : String) : Bool := decide (part.toList <:+: text.toList)

/-- JavaScript's truth of an optional string. -/
def truthy : Option String → Option String
  | some "" => none
  | value => value

/-- A value that counts as true is the stored one. -/
theorem truthy_some (counts : truthy value = some text) : value = some text := by
  unfold truthy at counts
  split at counts
  · cases counts
  · exact counts

theorem truthy_of_ne (named : text ≠ "") : truthy (some text) = some text := by
  unfold truthy
  split
  · rename_i empty
    exact absurd (Option.some.inj empty) named
  · rfl

def generateIdempotencyKey (eventType : String) (payload : OutboxPayload) (now : Time) : String :=
  match truthy payload.sellerOrderId, truthy payload.deliveryId, truthy payload.driverId,
    truthy payload.proofType with
  | some sellerOrderId, _, _, _ => s!"{eventType}:order:{sellerOrderId}"
  | none, some deliveryId, some driverId, _ =>
    s!"{eventType}:delivery:{deliveryId}:driver:{driverId}"
  | none, some deliveryId, none, some proofType =>
    s!"{eventType}:delivery:{deliveryId}:proof:{proofType}"
  | none, some deliveryId, none, none => s!"{eventType}:delivery:{deliveryId}"
  | none, none, _, _ => s!"{eventType}:ts:{now}"

/-- `publish`. With a transaction manager the row is part of its transaction,
without one it is stored at once. -/
def publish (inTransaction : Bool) (eventType : String) (payload : OutboxPayload) (now : Time) :
    Call Unit := do
  throwIf (!isValidVersionedEventType eventType)
    (.error s!"Unknown versioned event type: {eventType}")
  let idempotencyKey := generateIdempotencyKey eventType payload now
  let existing ← find (·.row (.outbox idempotencyKey))
  if existing.isSome then
    return
  let record : OutboxEvent := { eventType, payload, createdAt := now }
  if inTransaction then
    insert (.outbox idempotencyKey) record
  else
    insertNow (.outbox idempotencyKey) record

/-- Publishing writes the outbox and nothing else. -/
theorem publish_within (inTransaction : Bool) (eventType : String) (payload : OutboxPayload)
    (now : Time) : (publish inTransaction eventType payload now).Within Key.Aside := by
  refine within_bind (throwIf_within _) fun _ => within_bind (find_within _) fun existing => ?_
  split
  · trivial
  · cases inTransaction with
    | true => exact insert_within _ trivial
    | false => exact insertNow_within _ trivial

example : isValidVersionedEventType "DELIVERY_ASSIGNED_V1" = true := by decide

end DriverMicroServices
