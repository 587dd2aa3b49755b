import DriverMicroServices.SafeDispatch

/-! `EventsController`: the webhook by which the shop hands an order over. A
request that is answered without an HTTP error is not sent again. -/
namespace DriverMicroServices
open Transactions Program

/-- What the controller reads of its configuration, and the two functions of the
platform its signature check uses. -/
structure WebhookConfig where
  expectedSecret : Option String
  /-- `VENDURE_WEBHOOK_SIGNATURE_SECRET`. -/
  signatureSecret : Option String
  enforceWebhookSignature : Bool
  /-- The hexadecimal HMAC of a text under a secret. -/
  hmac : String → String → String
  /-- `Number(text)`, when it is finite. -/
  number : String → Option Rat

def WebhookConfig.webhookSignatureSecret (config : WebhookConfig) : Option String :=
  (truthy config.signatureSecret).or config.expectedSecret

def webhookMaxClockSkewMs : Rat := 5 * 60 * 1000

/-- The body of a request; its coordinates are as the `decimal` columns hold
them. -/
structure SellerOrderReadyPayload where
  eventId : String
  sellerOrderId : String
  channelId : String
  pickupLat : String
  pickupLon : String
  sellerName : Option String := none
  sellerAddress : Option String := none
  dropLat : String
  dropLon : String
  deriving DecidableEq, Repr

structure WebhookHeaders where
  secret : Option String
  timestamp : Option String := none
  signature : Option String := none
  deriving DecidableEq, Repr

/-- A request, what it meets outside the database, and which of its steps fail. -/
structure SellerOrderReady where
  payload : SellerOrderReadyPayload
  headers : WebhookHeaders
  ambient : Ambient
  dispatch : DispatchAmbient
  existsFault : Fault
  findFault : Fault
  createFault : Fault
  markFault : Fault
  healFault : Fault

/-- The body of an answer with a success status. -/
structure Answer where
  status : String
  message : String
  deliveryId : Option Uuid := none
  method : Option String := none
  deriving DecidableEq, Repr

def getEventIdKey (eventId : String) : String := "idempotency:vendure-event:" ++ eventId

/-- Events with one key are one event. -/
theorem getEventIdKey_inj (same : getEventIdKey eventId = getEventIdKey eventId') :
    eventId = eventId' := by
  unfold getEventIdKey at same
  exact (String.append_right_inj _).mp same

def validateSignature (config : WebhookConfig) (payload : SellerOrderReadyPayload)
    (headers : WebhookHeaders) (now : Time) : Call Unit :=
  match truthy headers.timestamp, truthy headers.signature, truthy config.webhookSignatureSecret with
  | some timestampHeader, some signatureHeader, some webhookSignatureSecret => do
    let some requestTimestamp := config.number timestampHeader
      | throw (.badRequest "Invalid webhook timestamp")
    throwIf (webhookMaxClockSkewMs < ((now : Rat) - requestTimestamp).abs)
      (.badRequest "Webhook timestamp outside accepted skew")
    let signingPayload :=
      ":".intercalate [payload.eventId, payload.sellerOrderId, payload.channelId, timestampHeader]
    throwIf (config.hmac webhookSignatureSecret signingPayload ≠ signatureHeader)
      (.badRequest "Invalid webhook signature")
  | _, _, _ =>
    throwIf config.enforceWebhookSignature (.badRequest "Missing webhook signature headers")

/-- `redis.set(key, "1", "EX", ...)`. -/
def setKey (key : String) : Call Unit :=
  .autosave (.redis key) (fun _ => some "1") fun _ => .ret (.ok ())

/-- The delivery a request asks for. -/
def SellerOrderReadyPayload.dto (payload : SellerOrderReadyPayload) : CreateDeliveryDto where
  sellerOrderId := payload.sellerOrderId
  channelId := payload.channelId
  pickupLat := payload.pickupLat
  pickupLon := payload.pickupLon
  sellerName := payload.sellerName
  sellerAddress := payload.sellerAddress
  dropLat := payload.dropLat
  dropLon := payload.dropLon

/-- The callback for the legacy dispatch: an offer to the nearest driver. -/
def legacyDispatch (deliveryId : Uuid) (amb : FallbackAmbient) : Call Answer := do
  let nearestDriver ← attempt amb.nearestFault (pure amb.nearestDriver)
  let some driverId := nearestDriver
    | throw (.serviceUnavailable "No drivers available")
  discard <| attempt amb.offerFault <|
    OffersService.createOfferForDriver amb.ambient driverId deliveryId (some 90)
  return { status := "success", deliveryId := some deliveryId
           message := "Legacy dispatch: Offer broadcasted to nearest driver" }

/-- From the delivery on: dispatch it, and only then set the key of the event. -/
def dispatchOrder (request : SellerOrderReady) (deliveryId : Uuid) : Call Answer := do
  let dispatchResult ← executeSafeDispatch request.dispatch deliveryId (legacyDispatch deliveryId)
  attempt request.markFault (setKey (getEventIdKey request.payload.eventId))
  return { status := "success", deliveryId := some deliveryId, message := "Dispatch completed"
           method := some dispatchResult.method }

/-- The statuses of a delivery that needs no dispatch. `IN_TRANSIT` is not among
them. -/
def alreadyDispatched : List DeliveryStatus := [.assigned, .pickedUp, .delivered]

/-- What `onSellerOrderReady` tries. -/
def takeOrder (request : SellerOrderReady) : Call Answer := do
  let delivery ← attempt request.findFault <|
    findBySellerOrderIdOrNull request.payload.sellerOrderId
  match delivery with
  | some (deliveryId, delivery) =>
    if delivery.status ∈ alreadyDispatched then
      attempt request.markFault (setKey (getEventIdKey request.payload.eventId))
      return { status := "success", deliveryId := some deliveryId, message := "Already dispatched" }
    dispatchOrder request deliveryId
  | none =>
    let created ← attempt request.createFault (create request.ambient request.payload.dto)
    dispatchOrder request created.1

def isUniqueViolation : Exception → Bool
  | .uniqueViolation _ => true
  | error => includes error.message "unique constraint"

/-- Its handler: an HTTP error goes back to the sender, which will try again. -/
def recoverOrder (request : SellerOrderReady) (error : Exception) : Call Answer :=
  let sellerOrderId := request.payload.sellerOrderId
  if error.isHttp then
    throw error
  else if isUniqueViolation error then do
    log s!"Idempotency: Delivery already exists for sellerOrderId={sellerOrderId}. Returning 200."
    attempt request.healFault (setKey (getEventIdKey request.payload.eventId))
    return { status := "ignored", message := "Duplicate delivery suppressed by DB constraint" }
  else do
    log s!"Failed to process seller order {sellerOrderId}:"
    return { status := "error", message := error.message }

def onSellerOrderReady (config : WebhookConfig) (request : SellerOrderReady) : Call Answer := do
  throwIf (request.headers.secret ≠ config.expectedSecret) (.badRequest "Invalid webhook secret")
  validateSignature config request.payload request.headers request.ambient.now
  let eventIdKey := getEventIdKey request.payload.eventId
  let alreadyProcessed ← attempt request.existsFault <|
    find fun db => (db.row (.redis eventIdKey)).isSome
  if alreadyProcessed then
    return { status := "ignored", message := "Duplicate event ignored" }
  tryCatch (takeOrder request) (recoverOrder request)

end DriverMicroServices
