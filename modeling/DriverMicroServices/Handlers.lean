import DriverMicroServices.Outbox

/-! The handlers of the outbox events and their registry. What a handler does
for the shop is the webhooks it sends. Two things are assumed of the service
around them: `VENDURE_WEBHOOK_URL` is set (without it no webhook is sent, and no
error thrown), and the socket and push messages to the driver, which are left
out, do not fail (a push fails only if Redis does not remove an invalid token). -/
namespace DriverMicroServices

/-- What the worker hands to a handler of an outbox row. -/
structure Event where
  id : Nat
  eventType : String
  payload : OutboxPayload
  version : Nat := 1
  deriving DecidableEq

/-- A webhook for the shop; a field that is absent is `undefined`. -/
inductive Webhook where
  | deliveryAssigned (sellerOrderId channelId driverId assignmentId : String) (assignedAt : Time)
  | deliveryPickedUp (sellerOrderId channelId pickupProofUrl : Option String) (pickedUpAt : Time)
  | deliveryDelivered (sellerOrderId channelId deliveryProofUrl : Option String)
      (deliveredAt : Time)
  | deliveryFailed (sellerOrderId channelId : Option String) (failure : FailurePayload)
  | deliveryCancelled (sellerOrderId channelId reason : Option String)
  deriving DecidableEq

/-- The clock of a handler, and the error its webhook ends with, if it fails. -/
structure HandlerAmbient where
  now : Time
  webhookError : Option String := none
  deriving DecidableEq

/-- `sendToVendure`. -/
def sendToVendure (amb : HandlerAmbient) (webhook : Webhook) : Except String (List Webhook) :=
  match amb.webhookError with
  | none => .ok [webhook]
  | some error => .error error

/-- `if (!event.eventType) throw`. -/
def requireEventType (event : Event) : Except String Unit :=
  if event.eventType = "" then .error s!"Missing eventType for outbox event {event.id}" else .ok ()

def DeliveryAssignedHandler.validEventTypes : List String :=
  ["DELIVERY_ASSIGNED_V1", "DELIVERY_ASSIGNED_V2", "DELIVERY_ASSIGNED_V3"]

/-- `DeliveryAssignedHandler.handle`: without an order or a channel there is no
webhook, and no error either. -/
def DeliveryAssignedHandler.handle (amb : HandlerAmbient) (event : Event) :
    Except String (List Webhook) := do
  requireEventType event
  if event.eventType ∉ validEventTypes then
    let supported := ", ".intercalate validEventTypes
    throw (s!"Invalid event type for DeliveryAssignedHandler: {event.eventType}. " ++
      s!"Supported versions: {supported}")
  match truthy event.payload.driverId with
  | none => throw "DELIVERY_ASSIGNED payload missing driverId"
  | some driverId =>
    match truthy event.payload.sellerOrderId, truthy event.payload.channelId with
    | some sellerOrderId, some channelId =>
      sendToVendure amb (.deliveryAssigned sellerOrderId channelId driverId
        (event.payload.assignmentId.getD "") (event.payload.assignedAt.getD amb.now))
    | _, _ => return []

def DeliveryCancelledHandler.validEventTypes : List String :=
  ["DELIVERY_CANCELLED_V1", "DELIVERY_CANCELLED_V2", "DELIVERY_CANCELLED_V3"]

/-- `DeliveryCancelledHandler.handle`. -/
def DeliveryCancelledHandler.handle (amb : HandlerAmbient) (event : Event) :
    Except String (List Webhook) := do
  requireEventType event
  if event.eventType ∉ validEventTypes then
    let supported := ", ".intercalate validEventTypes
    throw (s!"Invalid event type for DeliveryCancelledHandler: {event.eventType}. " ++
      s!"Supported versions: {supported}")
  match truthy event.payload.sellerOrderId, truthy event.payload.channelId with
  | some sellerOrderId, some channelId =>
    sendToVendure amb (.deliveryCancelled (some sellerOrderId) (some channelId)
      (some ((truthy event.payload.reason).getD "Cancelled by driver or system")))
  | _, _ => throw "DELIVERY_CANCELLED payload missing sellerOrderId or channelId"

namespace DeliveryStatusForwardingHandler

/-- `handleDeliveryPickedUp` and `handleDeliveryPickupConfirmed`. -/
def handleDeliveryPickedUp (amb : HandlerAmbient) (payload : OutboxPayload) :
    Except String (List Webhook) :=
  sendToVendure amb (.deliveryPickedUp payload.sellerOrderId payload.channelId
    payload.pickupProofUrl (payload.pickedUpAt.getD amb.now))

/-- `handleDeliveryDroppedOff` and `handleDeliveryDropoffConfirmed`. -/
def handleDeliveryDroppedOff (amb : HandlerAmbient) (payload : OutboxPayload) :
    Except String (List Webhook) :=
  sendToVendure amb (.deliveryDelivered payload.sellerOrderId payload.channelId
    payload.deliveryProofUrl (payload.deliveredAt.getD amb.now))

/-- `handleDeliveryFailed`: it reads `reason` and `failedAt`, not `failure`. -/
def handleDeliveryFailed (amb : HandlerAmbient) (payload : OutboxPayload) :
    Except String (List Webhook) :=
  sendToVendure amb (.deliveryFailed payload.sellerOrderId payload.channelId
    { code := "DELIVERY_FAILED"
      reason := (truthy payload.reason).getD "Unknown failure"
      occurredAt := some (payload.failedAt.getD amb.now) })

def handleDeliveryCancelled (amb : HandlerAmbient) (payload : OutboxPayload) :
    Except String (List Webhook) :=
  sendToVendure amb (.deliveryCancelled payload.sellerOrderId payload.channelId payload.reason)

def handle (amb : HandlerAmbient) (event : Event) : Except String (List Webhook) :=
  match event.eventType with
  | "DELIVERY_ASSIGNED_V1" => .ok []
  | "DELIVERY_PICKED_UP_V1" => handleDeliveryPickedUp amb event.payload
  | "DELIVERY_DROPPED_OFF_V1" => handleDeliveryDroppedOff amb event.payload
  | "PROOF_ACCEPTED_V1" => .ok []
  | "DELIVERY_PICKUP_CONFIRMED_V1" => handleDeliveryPickedUp amb event.payload
  | "DELIVERY_DROPOFF_CONFIRMED_V1" => handleDeliveryDroppedOff amb event.payload
  | "DELIVERY_FAILED_V1" => handleDeliveryFailed amb event.payload
  | "DELIVERY_CANCELLED_V1" => handleDeliveryCancelled amb event.payload
  | eventType => .error s!"Unknown outbox event type: {eventType}"

end DeliveryStatusForwardingHandler

/-- The handler classes. -/
inductive EventHandler where
  | deliveryAssigned
  | deliveryCancelled
  | deliveryStatusForwarding
  | driverLocationUpdated
  | driverLifecycle
  deriving DecidableEq, Repr

def EventHandler.handle : EventHandler → HandlerAmbient → Event → Except String (List Webhook)
  | .deliveryAssigned => DeliveryAssignedHandler.handle
  | .deliveryCancelled => DeliveryCancelledHandler.handle
  | .deliveryStatusForwarding => DeliveryStatusForwardingHandler.handle
  -- It looks for `AVAILABLE` in the status of the outbox row and never finds it.
  | .driverLocationUpdated => fun _ _ => .ok []
  | .driverLifecycle => fun _ _ => .ok []

namespace HandlerRegistry

/-- `registerHandlers`; no event type is registered twice. -/
def registered : List (String × EventHandler) :=
  [("DELIVERY_ASSIGNED_V1", .deliveryAssigned), ("DELIVERY_ASSIGNED_V2", .deliveryAssigned),
   ("DELIVERY_ASSIGNED_V3", .deliveryAssigned), ("DELIVERY_CANCELLED_V1", .deliveryCancelled),
   ("DELIVERY_PICKUP_CONFIRMED_V1", .deliveryStatusForwarding),
   ("DELIVERY_PICKUP_CONFIRMED_V2", .deliveryStatusForwarding),
   ("DELIVERY_PICKUP_CONFIRMED_V3", .deliveryStatusForwarding),
   ("DELIVERY_DROPOFF_CONFIRMED_V1", .deliveryStatusForwarding),
   ("DELIVERY_DROPOFF_CONFIRMED_V2", .deliveryStatusForwarding),
   ("DELIVERY_DROPOFF_CONFIRMED_V3", .deliveryStatusForwarding),
   ("DELIVERY_FAILED_V1", .deliveryStatusForwarding),
   ("DELIVERY_FAILED_V2", .deliveryStatusForwarding),
   ("DELIVERY_FAILED_V3", .deliveryStatusForwarding),
   ("PROOF_ACCEPTED_V1", .deliveryStatusForwarding),
   ("PROOF_ACCEPTED_V2", .deliveryStatusForwarding),
   ("PROOF_ACCEPTED_V3", .deliveryStatusForwarding),
   ("DRIVER_LOCATION_UPDATED_V1", .driverLocationUpdated),
   ("DRIVER_REGISTERED_V1", .driverLifecycle), ("DRIVER_PROFILE_COMPLETED_V1", .driverLifecycle),
   ("DRIVER_APPROVAL_REQUESTED_V1", .driverLifecycle)]

def getHandler (eventType : String) : Option EventHandler := registered.lookup eventType

def handle (amb : HandlerAmbient) (event : Event) : Except String (List Webhook) :=
  match getHandler event.eventType with
  | some handler => handler.handle amb event
  | none => .error s!"No handler registered for event type: {event.eventType}"

end HandlerRegistry

/-- The event of a stored row; its `id` is of no account to a handler's webhooks. -/
def OutboxEvent.event (row : OutboxEvent) (id : Nat) : Event where
  id := id
  eventType := row.eventType
  payload := row.payload
  version := row.version

/-- The names of the shared package, as the registry and the dispatch of the
handlers spell them. -/
def WsEvents.registered : WsEvents where
  deliveryAssigned := "DELIVERY_ASSIGNED_V1"
  deliveryPickupConfirmed := "DELIVERY_PICKUP_CONFIRMED_V1"
  deliveryDropoffConfirmed := "DELIVERY_DROPOFF_CONFIRMED_V1"
  deliveryFailed := "DELIVERY_FAILED_V1"
  deliveryCancelled := "DELIVERY_CANCELLED_V1"

/-- An assignment webhook for the order. -/
def Webhook.Announces (sellerOrderId : String) : Webhook → Prop
  | .deliveryAssigned sellerOrderId' _ _ _ _ => sellerOrderId' = sellerOrderId
  | _ => False

section Webhooks

variable {amb : HandlerAmbient} {event : Event} {webhook : Webhook} {webhooks : List Webhook}

theorem sendToVendure_sent (sent : sendToVendure amb webhook = .ok webhooks) :
    webhooks = [webhook] := by
  unfold sendToVendure at sent
  split at sent <;> cases sent
  rfl

/-- An event that the handler of assignments has handled is one of a driver; its
webhook is sent where the order and the channel have a name. -/
theorem assigned_sent (sent : DeliveryAssignedHandler.handle amb event = .ok webhooks) :
    event.eventType ∈ DeliveryAssignedHandler.validEventTypes ∧
      ∃ driverId, truthy event.payload.driverId = some driverId ∧
        webhooks = match truthy event.payload.sellerOrderId, truthy event.payload.channelId with
          | some sellerOrderId, some channelId =>
            [.deliveryAssigned sellerOrderId channelId driverId
              (event.payload.assignmentId.getD "") (event.payload.assignedAt.getD amb.now)]
          | _, _ => [] := by
  unfold DeliveryAssignedHandler.handle requireEventType at sent
  by_cases named : event.eventType = ""
  · rw [if_pos named] at sent
    cases sent
  rw [if_neg named] at sent
  by_cases valid : event.eventType ∈ DeliveryAssignedHandler.validEventTypes
  · simp only [not_true_eq_false, valid, ↓reduceIte] at sent
    refine ⟨valid, ?_⟩
    cases driver : truthy event.payload.driverId with
    | none =>
      rw [driver] at sent
      cases sent
    | some driverId =>
      refine ⟨driverId, rfl, ?_⟩
      rw [driver] at sent
      cases order : truthy event.payload.sellerOrderId with
      | none =>
        rw [order] at sent
        cases sent
        rfl
      | some sellerOrderId =>
        cases channel : truthy event.payload.channelId with
        | none =>
          rw [order, channel] at sent
          cases sent
          rfl
        | some channelId =>
          rw [order, channel] at sent
          exact sendToVendure_sent sent
  · simp only [valid, not_false_eq_true, ↓reduceIte] at sent
    cases sent

private theorem cancelled_silent (sent : DeliveryCancelledHandler.handle amb event = .ok webhooks)
    (member : webhook ∈ webhooks) : ¬ webhook.Announces sellerOrderId := by
  unfold DeliveryCancelledHandler.handle requireEventType at sent
  by_cases named : event.eventType = ""
  · rw [if_pos named] at sent
    cases sent
  rw [if_neg named] at sent
  by_cases valid : event.eventType ∈ DeliveryCancelledHandler.validEventTypes
  · simp only [not_true_eq_false, valid, ↓reduceIte] at sent
    cases order : truthy event.payload.sellerOrderId with
    | none =>
      rw [order] at sent
      cases sent
    | some sellerOrderId =>
      cases channel : truthy event.payload.channelId with
      | none =>
        rw [order, channel] at sent
        cases sent
      | some channelId =>
        rw [order, channel] at sent
        have one := sendToVendure_sent sent
        rw [one, List.mem_singleton] at member
        rw [member]
        exact id
  · simp only [valid, not_false_eq_true, ↓reduceIte] at sent
    cases sent

private theorem forwarding_silent (sent : DeliveryStatusForwardingHandler.handle amb event = .ok webhooks)
    (member : webhook ∈ webhooks) : ¬ webhook.Announces sellerOrderId := by
  have silent {sendable : Webhook} (quiet : ¬ sendable.Announces sellerOrderId)
      (sent : sendToVendure amb sendable = .ok webhooks) : ¬ webhook.Announces sellerOrderId := by
    rw [sendToVendure_sent sent, List.mem_singleton] at member
    rwa [member]
  unfold DeliveryStatusForwardingHandler.handle at sent
  split at sent
  case h_9 => cases sent
  all_goals first
    | exact silent id sent
    | cases sent
      cases member

private theorem getHandler_assigned :
    HandlerRegistry.getHandler eventType = some .deliveryAssigned ↔
      eventType ∈ DeliveryAssignedHandler.validEventTypes := by
  constructor
  · intro found
    obtain ⟨before, after, parts, _⟩ := List.lookup_eq_some_iff.mp found
    have entry : (eventType, EventHandler.deliveryAssigned) ∈ HandlerRegistry.registered := by
      simp [parts]
    simpa [HandlerRegistry.registered, DeliveryAssignedHandler.validEventTypes] using entry
  · intro member
    simp only [DeliveryAssignedHandler.validEventTypes, List.mem_cons, List.not_mem_nil, or_false]
      at member
    rcases member with rfl | rfl | rfl <;> decide

/-- Only the handler of assignments announces one. -/
theorem announced_by (sent : HandlerRegistry.handle amb event = .ok webhooks)
    (member : webhook ∈ webhooks) (announces : webhook.Announces sellerOrderId) :
    DeliveryAssignedHandler.handle amb event = .ok webhooks := by
  unfold HandlerRegistry.handle at sent
  split at sent
  · rename_i handler found
    cases handler with
    | deliveryAssigned => exact sent
    | deliveryCancelled => exact absurd announces (cancelled_silent sent member)
    | deliveryStatusForwarding => exact absurd announces (forwarding_silent sent member)
    | driverLocationUpdated | driverLifecycle =>
      cases sent
      cases member
  · cases sent

/-- An assignment webhook comes from an assignment event of the order. -/
theorem announced_order (sent : HandlerRegistry.handle amb event = .ok webhooks)
    (member : webhook ∈ webhooks) (announces : webhook.Announces sellerOrderId) :
    event.eventType ∈ DeliveryAssignedHandler.validEventTypes ∧
      truthy event.payload.sellerOrderId = some sellerOrderId := by
  obtain ⟨valid, driverId, _, shape⟩ := assigned_sent (announced_by sent member announces)
  refine ⟨valid, ?_⟩
  rw [shape] at member
  split at member
  · rename_i order _
    rw [List.mem_singleton.mp member] at announces
    rw [order, ← announces]
  · cases member

/-- An assignment event of an order and a channel that was handled sent its one
webhook. -/
theorem handled_announces (sent : HandlerRegistry.handle amb event = .ok webhooks)
    (valid : event.eventType ∈ DeliveryAssignedHandler.validEventTypes)
    (order : truthy event.payload.sellerOrderId = some sellerOrderId)
    (channel : truthy event.payload.channelId = some channelId) :
    ∃ webhook, webhooks = [webhook] ∧ webhook.Announces sellerOrderId := by
  unfold HandlerRegistry.handle at sent
  rw [getHandler_assigned.mpr valid] at sent
  obtain ⟨_, driverId, _, shape⟩ := assigned_sent sent
  rw [order, channel] at shape
  exact ⟨_, shape, rfl⟩

end Webhooks

end DriverMicroServices
