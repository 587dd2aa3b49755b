import DriverMicroServices.Outbox
import Mathlib.Algebra.Group.Nat.Defs

/-! `DeliveriesService`: creation, assignment, the status transitions of the
driver application and the one-time password of the drop-off. Every mutator
works on the whole entity and saves it; what the projections are told is part
of the answer, because the hooks run after the transaction, on the delivery it
returned. -/
namespace DriverMicroServices
open Transactions Program

/-- What the services take from outside this repository. -/
structure Env where
  wsEvents : WsEvents
  /-- The great-circle distance, which the source computes in floating point. -/
  haversineKm : Rat → Rat → Rat → Rat → Rat

/-- What one call reads of the clock and the random generator, and the ids the
database will give to the rows it inserts. -/
structure Ambient where
  now : Time
  /-- `Math.floor(Math.random() * 900000)`. -/
  draw : Fin 900000
  deliveryId : Uuid
  eventId : Uuid
  offerId : Uuid
  assignmentId : Uuid
  deriving DecidableEq

def otpMaxAttempts : Nat := 3
def otpLockDurationMs : Time := 15 * 60 * 1000
def maxDropoffRadiusKm : Rat := 1 / 4

def allowedTransitions : DeliveryStatus → List DeliveryStatus
  | .pending => [.assigned, .cancelled]
  | .assigned => [.pickedUp, .failed, .cancelled]
  | .pickedUp => [.inTransit, .delivered, .failed]
  | .inTransit => [.delivered, .failed]
  | .delivered => []
  | .failed => []
  | .cancelled => []

/-- The statuses after which nothing more may happen. -/
def DeliveryStatus.Terminal (status : DeliveryStatus) : Prop :=
  status = .delivered ∨ status = .failed ∨ status = .cancelled

theorem terminal_transitions {status : DeliveryStatus} (terminal : status.Terminal) :
    allowedTransitions status = [] := by
  rcases terminal with rfl | rfl | rfl <;> rfl

/-- `ASSIGNED`, `PICKED_UP` or `IN_TRANSIT`, as `findActiveForDriver` has it. -/
def DeliveryStatus.isActive (status : DeliveryStatus) : Bool :=
  status = .assigned ∨ status = .pickedUp ∨ status = .inTransit

def DeliveryStatus.name : DeliveryStatus → String
  | .pending => "PENDING"
  | .assigned => "ASSIGNED"
  | .pickedUp => "PICKED_UP"
  | .inTransit => "IN_TRANSIT"
  | .delivered => "DELIVERED"
  | .failed => "FAILED"
  | .cancelled => "CANCELLED"

def mapStringToDeliveryStatus : String → DeliveryStatus
  | "ASSIGNED" => .assigned
  | "PICKED_UP" => .pickedUp
  | "DELIVERED" => .delivered
  | "FAILED" => .failed
  | "CANCELLED" => .cancelled
  | "IN_TRANSIT" => .inTransit
  | _ => .assigned

def mapDeliveryStatusToEventType : DeliveryStatus → DeliveryEventType
  | .assigned => .assigned
  | .pickedUp => .pickedUp
  | .delivered => .delivered
  | .failed => .failed
  | .cancelled => .cancelled
  | .inTransit => .inTransit
  | .pending => .assigned

/-- No status string names `PENDING`, so no update returns a delivery to it. -/
theorem mapped_status_ne_pending (status : String) : mapStringToDeliveryStatus status ≠ .pending := by
  unfold mapStringToDeliveryStatus
  split <;> simp

/-! ## Creation -/

/-- A creation request, its dates parsed and its coordinates as the `decimal`
columns hold them. -/
structure CreateDeliveryDto where
  sellerOrderId : String
  channelId : String
  pickupLat : String
  pickupLon : String
  sellerName : Option String := none
  sellerAddress : Option String := none
  dropLat : String
  dropLon : String
  expectedPickupAt : Option Time := none
  expectedDeliveryAt : Option Time := none
  deriving DecidableEq, Repr

/-- The row a creation inserts: every other column has its default. -/
def CreateDeliveryDto.row (dto : CreateDeliveryDto) (createdAt : Time) : Delivery where
  sellerOrderId := dto.sellerOrderId
  channelId := dto.channelId
  pickupLat := dto.pickupLat
  pickupLon := dto.pickupLon
  sellerName := dto.sellerName
  sellerAddress := dto.sellerAddress
  dropLat := dto.dropLat
  dropLon := dto.dropLon
  expectedPickupAt := dto.expectedPickupAt
  expectedDeliveryAt := dto.expectedDeliveryAt
  createdAt := createdAt

/-- A row as `create` leaves it. -/
def Delivery.IsNew (row : Delivery) : Prop :=
  ∃ (dto : CreateDeliveryDto) (createdAt : Time), row = dto.row createdAt

/-- `create`. The unique index on `seller_order_id` is part of the insert. -/
def create (amb : Ambient) (dto : CreateDeliveryDto) : Call (Uuid × Delivery) := do
  throwIf (dto.expectedPickupAt.any fun pickup => dto.expectedDeliveryAt.any (· ≤ pickup))
    (.badRequest "expectedDeliveryAt must be after expectedPickupAt")
  let delivery := dto.row amb.now
  transaction do
    insert (.sellerOrder dto.sellerOrderId) amb.deliveryId
    insert (.delivery amb.deliveryId) delivery
  return (amb.deliveryId, delivery)

/-! ## Reading -/

/-- `Number(text)` for the text of a `decimal` column. -/
def decimalValue (text : String) : Rat :=
  let magnitude (chars : List Char) : Rat :=
    let digits := chars.filter Char.isDigit
    let scale := (chars.dropWhile (· ≠ '.')).length - 1
    (digits.foldl (fun total c => 10 * total + (c.toNat - '0'.toNat)) 0 : Nat) / (10 ^ scale : Nat)
  match text.toList with
  | '-' :: rest => -magnitude rest
  | rest => magnitude rest

def Coordinate.toNumber : Coordinate → Coordinate
  | .text decimal => .number (decimalValue decimal)
  | .number value => .number value

def normalizeCoordinates (delivery : DeliveryEntity) : DeliveryEntity :=
  { delivery with
    pickupLat := delivery.pickupLat.toNumber
    pickupLon := delivery.pickupLon.toNumber
    dropLat := delivery.dropLat.toNumber
    dropLon := delivery.dropLon.toNumber }

/-- `findOne`: an unlocked read. -/
def findOne (id : Uuid) : Call DeliveryEntity := do
  let some delivery ← find (·.delivery id)
    | throw (.notFound s!"Delivery with ID {id} not found")
  return normalizeCoordinates delivery.entity

/-- `findOne` with the loaded relation `events`, which counts where the entity is
saved. -/
def findOneWithEvents (id : Uuid) : Call (DeliveryEntity × List Uuid) := do
  let (some delivery, events) ← find fun db => (db.delivery id, db.eventsOf id)
    | throw (.notFound s!"Delivery with ID {id} not found")
  return (normalizeCoordinates delivery.entity, events)

def findBySellerOrderIdOrNull (sellerOrderId : String) : Call (Option (Uuid × Delivery)) :=
  find fun db => (db.row (.sellerOrder sellerOrderId)).bind fun id => (db.delivery id).map (id, ·)

/-! ## Events and projections -/

def createEvent (id : Uuid) (event : DeliveryEvent) : Call DeliveryEvent := do
  insert (.deliveryEvent id) event
  return event

/-- `DeliveryEventsNotifier.notify`: a proof event for the driver, stored on a
connection of its own. -/
def notify (eventId : Uuid) (event : DeliveryEvent) (deliveryId : Uuid) (delivery : DeliveryEntity)
    (now : Time) : Call Unit := do
  let some driverId := delivery.driverId.value?
    | return
  let payload (proofType : String) : OutboxPayload :=
    { driverId := some driverId, deliveryId := some deliveryId, proofId := some eventId
      proofType := some proofType, acceptedAt := some event.createdAt }
  match event.eventType with
  | .pickedUp => publish false "PROOF_ACCEPTED_V1" (payload "PICKUP") now
  | .delivered => publish false "PROOF_ACCEPTED_V1" (payload "DROPOFF") now
  | _ => return

theorem createEvent_within (id : Uuid) (event : DeliveryEvent) :
    (createEvent id event).Within Key.Aside :=
  within_bind (insert_within _ trivial) fun _ => trivial

theorem notify_within (event : DeliveryEvent) (delivery : DeliveryEntity) :
    (notify eventId event deliveryId delivery now).Within Key.Aside := by
  unfold notify
  split
  · dsimp only
    split
    · exact publish_within ..
    · exact publish_within ..
    · trivial
  · trivial

/-- The third argument of `recordDeliveryCompleted`. -/
structure CompletionTimes where
  pickupTimeSeconds : Option Int
  totalTimeSeconds : Option Int
  deliveredAt : Option Time
  deriving DecidableEq, Repr

/-- One call of a projection service. -/
inductive Projection where
  | recordAssignment (deliveryId : Uuid)
  | recordPickup (deliveryId : Uuid)
  | recordDelivery (deliveryId : Uuid)
  | recordFailure (deliveryId : Uuid)
  | recordCancellation (deliveryId : Uuid)
  | recordDeliveryCompleted (driverId : Uuid) (times : CompletionTimes)
  | recordDeliveryFailed (driverId : Uuid)
  | recordDeliveryCancelled (driverId : Uuid)
  | recordAssignmentAccepted (driverId : Uuid)
  deriving DecidableEq, Repr

/-- A delivery a mutator returned, and the projections its hooks then called. -/
structure Settled where
  delivery : DeliveryEntity
  projections : List Projection
  deriving DecidableEq

/-- `Math.round((until - from) / 1000)`. -/
def roundedSeconds (start : Time) (finish : Time) : Int := (finish - start + 500) / 1000

def completionTimes (delivery : DeliveryEntity) : CompletionTimes :=
  let start :=
    match delivery.assignedAt.value? with
    | some assignedAt => if assignedAt = 0 then delivery.createdAt else assignedAt
    | none => delivery.createdAt
  { pickupTimeSeconds := delivery.pickedUpAt.value?.map (roundedSeconds start)
    totalTimeSeconds := delivery.deliveredAt.value?.map (roundedSeconds start)
    deliveredAt := delivery.deliveredAt.value? }

/-- The projections of a delivery: the metrics of its status, and the driver's
statistics when it has a driver. -/
def recordWith (metrics : Projection) (stats : Uuid → Projection) (delivery : DeliveryEntity) :
    List Projection :=
  match delivery.driverId.value? with
  | some driverId => [metrics, stats driverId]
  | none => [metrics]

/-- The hooks after `verifyOtp`. -/
def completionHooks (deliveryId : Uuid) (delivery : DeliveryEntity) : List Projection :=
  recordWith (.recordDelivery deliveryId)
    (.recordDeliveryCompleted · (completionTimes delivery)) delivery

/-- The hooks after `updateStatus`, by the status of the returned delivery. -/
def statusHooks (deliveryId : Uuid) (delivery : DeliveryEntity) : List Projection :=
  match delivery.status with
  | .pickedUp => [.recordPickup deliveryId]
  | .delivered => completionHooks deliveryId delivery
  | .failed => recordWith (.recordFailure deliveryId) .recordDeliveryFailed delivery
  | .cancelled => recordWith (.recordCancellation deliveryId) .recordDeliveryCancelled delivery
  | _ => []

/-! ## Assignment -/

/-- `Math.floor(100000 + Math.random() * 900000).toString()`. -/
def generateOtpCode (amb : Ambient) : String := toString (100000 + amb.draw.val)

def resetOtpState (delivery : DeliveryEntity) : DeliveryEntity :=
  { delivery with otpAttempts := 0, otpLockedUntil := .undefined }

def coordinates (lat lon : Coordinate) : Coordinate × Coordinate := (lat.toNumber, lon.toNumber)

/-- The assignment fields that `assignDriver` and `OffersService.acceptOffer`
set. -/
def assignTo (amb : Ambient) (driverId : Uuid) (delivery : DeliveryEntity) : DeliveryEntity :=
  { resetOtpState delivery with
    driverId := .value driverId
    status := .assigned
    assignedAt := .value amb.now
    deliveryOtp := .value (generateOtpCode amb) }

/-- What the assignment leaves in the row. The lock of the password, set to
`undefined`, is not written. -/
@[simp] theorem assignTo_saveOver (amb : Ambient) (driverId : Uuid) (row : Delivery) :
    (assignTo amb driverId row.entity).saveOver row =
      { row with
        driverId := some driverId, status := .assigned, assignedAt := some amb.now
        deliveryOtp := some (generateOtpCode amb), otpAttempts := 0 } := by
  simp [assignTo, resetOtpState, Delivery.entity, DeliveryEntity.saveOver]

/-- The assignment event for the shop. -/
def assignedPayload (deliveryId : Uuid) (delivery : DeliveryEntity) (driverId assignmentId : Uuid)
    (now : Time) : OutboxPayload where
  deliveryId := some deliveryId
  sellerOrderId := some delivery.sellerOrderId
  channelId := some delivery.channelId
  driverId := some driverId
  assignmentId := some assignmentId
  assignedAt := some now
  pickupLocation := some (coordinates delivery.pickupLat delivery.pickupLon)
  dropLocation := some (coordinates delivery.dropLat delivery.dropLon)

/-- `assignDriver`: nothing is asked of the status the delivery has. -/
def assignDriver (env : Env) (amb : Ambient) (deliveryId driverId assignmentId : Uuid) :
    Call Settled := do
  let delivery ← transaction do
    let some delivery ← lockDelivery deliveryId
      | throw (.notFound s!"Delivery with ID {deliveryId} not found")
    let delivery := assignTo amb driverId delivery
    saveDelivery deliveryId delivery
    discard <| createEvent amb.eventId
      { deliveryId, sellerOrderId := delivery.sellerOrderId, eventType := .assigned
        metadata := [("driverId", driverId), ("assignmentId", assignmentId)]
        createdAt := amb.now }
    publish true env.wsEvents.deliveryAssigned
      (assignedPayload deliveryId delivery driverId assignmentId amb.now) amb.now
    return delivery
  return { delivery, projections := [.recordAssignment deliveryId] }

/-! ## One-time password -/

/-- The delivery with a new code. -/
def regenerate (amb : Ambient) (delivery : DeliveryEntity) : DeliveryEntity :=
  resetOtpState { delivery with deliveryOtp := .value (generateOtpCode amb) }

/-- What the stale save leaves in the row: every column of the row as it was
read, but the coordinates and the lock, which the entity does not carry. -/
@[simp] theorem regenerate_saveOver (amb : Ambient) (read row : Delivery) :
    (regenerate amb (normalizeCoordinates read.entity)).saveOver row =
      { read with
        pickupLat := row.pickupLat, pickupLon := row.pickupLon
        dropLat := row.dropLat, dropLon := row.dropLon
        deliveryOtp := some (generateOtpCode amb), otpAttempts := 0
        otpLockedUntil := row.otpLockedUntil } := by
  simp [regenerate, resetOtpState, normalizeCoordinates, Delivery.entity, DeliveryEntity.saveOver]

/-- `generateDeliveryOtp`: the read is unlocked and the whole entity is saved. -/
def generateDeliveryOtp (amb : Ambient) (deliveryId : Uuid) : Call String := do
  let (delivery, events) ← findOneWithEvents deliveryId
  throwIf (delivery.driverId.value? = none)
    (.badRequest "Cannot generate OTP for unassigned delivery")
  throwIf (delivery.status = .delivered ∨ delivery.status = .cancelled)
    (.badRequest s!"Cannot generate OTP in terminal state {delivery.status.name}")
  saveDeliveryNow deliveryId (regenerate amb delivery) events
  insertNow (.deliveryEvent amb.eventId)
    { deliveryId, sellerOrderId := delivery.sellerOrderId, eventType := .assigned
      metadata := [("otpRegenerated", "true"), ("at", toString amb.now)], createdAt := amb.now }
  return generateOtpCode amb

/-- The distance to the drop-off, when the geofence applies. It asks for numbers
on both sides, and an entity read under a lock has text. -/
def geofenceKm (env : Env) (otp : String) (driverLat driverLon : Option Rat)
    (delivery : DeliveryEntity) : Option Rat :=
  match driverLat, driverLon, delivery.dropLat.number?, delivery.dropLon.number? with
  | some lat, some lon, some dropLat, some dropLon =>
    if otp = "BYPASS_GEO" then none else some (env.haversineKm lat lon dropLat dropLon)
  | _, _, _, _ => none

/-- `toFixed(0)`. -/
def toFixed (value : Rat) : String := toString (value + 1 / 2).floor

/-- The delivery after a wrong code. -/
def failedAttempt (now : Time) (delivery : DeliveryEntity) : DeliveryEntity :=
  let otpAttempts := delivery.otpAttempts + 1
  { delivery with
    otpAttempts
    otpLockedUntil :=
      if otpMaxAttempts ≤ otpAttempts then .value (now + otpLockDurationMs)
      else delivery.otpLockedUntil }

/-- The delivery after the right code. -/
def completed (now : Time) (proofUrl : Option String) (delivery : DeliveryEntity) : DeliveryEntity :=
  { resetOtpState delivery with
    deliveryOtp := .undefined
    status := .delivered
    deliveredAt := .value now
    deliveryProofUrl := .ofDto proofUrl
    slaBreachAt := .undefined
    lastActivityUpdateAt := .value now }

/-- What the right code leaves in the row. The used code itself stays: it is set
to `undefined`, which the save leaves out. -/
@[simp] theorem completed_saveOver (now : Time) (proofUrl : Option String) (row : Delivery) :
    (completed now proofUrl row.entity).saveOver row =
      { row with
        otpAttempts := 0, status := .delivered, deliveredAt := some now
        deliveryProofUrl := proofUrl.or row.deliveryProofUrl
        lastActivityUpdateAt := some now } := by
  cases proofUrl <;>
    simp [completed, resetOtpState, Delivery.entity, DeliveryEntity.saveOver, Column.ofDto]

/-- `url.startsWith('http')`. -/
def isHttp (url : String) : Bool := "http".toList.isPrefixOf url.toList

/-- A wrong code is counted, and the call ends with the exception. -/
def rejectCode (deliveryId : Uuid) (delivery : DeliveryEntity) : Call DeliveryEntity := do
  saveDelivery deliveryId delivery
  throw (.badRequest "Invalid OTP")

/-- The right code: the delivery is saved and the proof announced. -/
def completeDelivery (env : Env) (amb : Ambient) (deliveryId : Uuid) (proofUrl : Option String)
    (delivery : DeliveryEntity) : Call DeliveryEntity := do
  saveDelivery deliveryId delivery
  let event ← createEvent amb.eventId
    { deliveryId, sellerOrderId := delivery.sellerOrderId, eventType := .delivered, proofUrl
      createdAt := amb.now }
  notify amb.eventId event deliveryId delivery amb.now
  publish true env.wsEvents.deliveryDropoffConfirmed
    { sellerOrderId := some delivery.sellerOrderId, channelId := some delivery.channelId
      deliveryProofUrl := some ((proofUrl.filter isHttp).getD s!"proof://{deliveryId}")
      deliveredAt := delivery.deliveredAt.value? } amb.now
  return delivery

/-- `verifyOtp`. A wrong code is saved and then thrown, inside the transaction. -/
def verifyOtp (env : Env) (amb : Ambient) (deliveryId : Uuid) (otp : String)
    (proofUrl : Option String) (driverLat driverLon : Option Rat) : Call Settled := do
  let delivery ← transaction do
    let some delivery ← lockDelivery deliveryId
      | throw (.notFound s!"Delivery {deliveryId} not found")
    if delivery.status = .delivered then
      return delivery
    let some deliveryOtp := truthy delivery.deliveryOtp.value?
      | throw (.badRequest "No OTP active for this delivery")
    throwIf (delivery.otpLockedUntil.value?.any (amb.now < ·))
      (.badRequest "OTP locked due to failed attempts. Please retry later.")
    let distKm := (geofenceKm env otp driverLat driverLon delivery).getD 0
    throwIf (maxDropoffRadiusKm < distKm)
      (.badRequest s!"Driver is {toFixed (distKm * 1000)}m from drop-off. Must be within 250m.")
    if deliveryOtp ≠ otp then
      rejectCode deliveryId (failedAttempt amb.now delivery)
    else
      completeDelivery env amb deliveryId proofUrl (completed amb.now proofUrl delivery)
  return { delivery, projections := completionHooks deliveryId delivery }

/-! ## Status updates -/

structure UpdateDeliveryStatusDto where
  status : String
  proofUrl : Option String := none
  failureCode : Option String := none
  failureReason : Option String := none
  deriving DecidableEq, Repr

/-- The fields that go with a new status. -/
def transition (now : Time) (dto : UpdateDeliveryStatusDto) (statusEnum : DeliveryStatus)
    (delivery : DeliveryEntity) : DeliveryEntity :=
  let delivery := { delivery with status := statusEnum, lastActivityUpdateAt := .value now }
  match statusEnum with
  | .pickedUp => { delivery with pickedUpAt := .value now, pickupProofUrl := .ofDto dto.proofUrl }
  | .delivered =>
    { delivery with
      deliveredAt := .value now
      deliveryProofUrl := .ofDto dto.proofUrl
      slaBreachAt := .undefined }
  | .failed =>
    { delivery with
      failedAt := .value now
      failureCode := .ofDto dto.failureCode
      failureReason := .ofDto dto.failureReason }
  | .cancelled =>
    { delivery with
      failedAt := .value now
      failureCode := .value ((truthy dto.failureCode).getD "CANCELLED")
      failureReason := .value ((truthy dto.failureReason).getD "Cancelled") }
  | _ => delivery

/-- What a status update leaves in the row, as far as the later steps look. -/
theorem transition_saveOver (now : Time) (dto : UpdateDeliveryStatusDto)
    (statusEnum : DeliveryStatus) (row : Delivery) :
    let updated := (transition now dto statusEnum row.entity).saveOver row
    updated.status = statusEnum ∧ updated.driverId = row.driverId ∧
      updated.assignedAt = row.assignedAt ∧ updated.deliveryOtp = row.deliveryOtp ∧
      updated.deliveredAt = if statusEnum = .delivered then some now else row.deliveredAt := by
  cases statusEnum <;> simp [transition, Delivery.entity, DeliveryEntity.saveOver]

/-- `isVendureStatus` and `getVendureEventType`. -/
def vendureEventType (events : WsEvents) : String → Option String
  | "ASSIGNED" => some events.deliveryAssigned
  | "PICKED_UP" => some events.deliveryPickupConfirmed
  | "DELIVERED" => some events.deliveryDropoffConfirmed
  | "FAILED" => some events.deliveryFailed
  | "CANCELLED" => some events.deliveryCancelled
  | _ => none

/-- The proof address the shop is given: inline image data is left out. -/
def safeProofUrl (deliveryId : Uuid) (url : Option String) : Option String :=
  (truthy url).map fun url => if isHttp url then url else s!"proof://{deliveryId}"

/-- The status event for the shop. -/
def statusPayload (deliveryId : Uuid) (delivery : DeliveryEntity) (dto : UpdateDeliveryStatusDto) :
    OutboxPayload where
  sellerOrderId := some delivery.sellerOrderId
  channelId := some delivery.channelId
  pickupProofUrl := safeProofUrl deliveryId delivery.pickupProofUrl.value?
  deliveryProofUrl := safeProofUrl deliveryId delivery.deliveryProofUrl.value?
  pickedUpAt := delivery.pickedUpAt.value?
  deliveredAt := delivery.deliveredAt.value?
  failure :=
    if dto.status = "FAILED" then
      some
        { code := (truthy dto.failureCode).getD "UNKNOWN"
          reason := (truthy dto.failureReason).getD "Unknown failure"
          occurredAt := delivery.failedAt.value? }
    else none

/-- The outbox event of a status the shop knows; there is none for others. -/
def publishStatus (env : Env) (amb : Ambient) (deliveryId : Uuid) (delivery : DeliveryEntity)
    (dto : UpdateDeliveryStatusDto) : Call Unit :=
  match vendureEventType env.wsEvents dto.status with
  | some eventType => publish true eventType (statusPayload deliveryId delivery dto) amb.now
  | none => pure ()

theorem publishStatus_within (env : Env) (delivery : DeliveryEntity) :
    (publishStatus env amb deliveryId delivery dto).Within Key.Aside := by
  unfold publishStatus
  split
  · exact publish_within ..
  · trivial

/-- `updateStatus`, which is `updateStatusInternal`. -/
def updateStatus (env : Env) (amb : Ambient) (deliveryId : Uuid) (dto : UpdateDeliveryStatusDto) :
    Call Settled := do
  let delivery ← transaction do
    let some delivery ← lockDelivery deliveryId
      | throw (.notFound s!"Delivery with ID {deliveryId} not found")
    let statusEnum := mapStringToDeliveryStatus dto.status
    -- a repeated update returns here, and the hooks below run all the same
    if delivery.status = statusEnum then
      return delivery
    throwIf (statusEnum ∉ allowedTransitions delivery.status)
      (.conflict s!"Invalid state transition from {delivery.status.name} to {statusEnum.name}")
    let delivery := transition amb.now dto statusEnum delivery
    saveDelivery deliveryId delivery
    let event ← createEvent amb.eventId
      { deliveryId, sellerOrderId := delivery.sellerOrderId
        eventType := mapDeliveryStatusToEventType statusEnum, proofUrl := dto.proofUrl
        failureCode := dto.failureCode, failureReason := dto.failureReason, createdAt := amb.now }
    notify amb.eventId event deliveryId delivery amb.now
    publishStatus env amb deliveryId delivery dto
    return delivery
  return { delivery, projections := statusHooks deliveryId delivery }

/-- The update `cancelDelivery` asks for. -/
def cancellation (reason : Option String) : UpdateDeliveryStatusDto where
  status := "CANCELLED"
  failureCode := some "CANCELLED"
  failureReason := some ((truthy reason).getD "Cancelled by driver or system")

/-- `cancelDelivery`: an unlocked look at the status, then `updateStatus`. -/
def cancelDelivery (env : Env) (amb : Ambient) (deliveryId : Uuid) (reason : Option String) :
    Call (List Projection) := do
  let delivery ← findOne deliveryId
  if delivery.status = .cancelled ∨ delivery.status = .delivered then
    return []
  let settled ← updateStatus env amb deliveryId (cancellation reason)
  return settled.projections

/-! ## Footprints -/

section Footprints

variable {allowed : Key → Prop} {deliveryId : Uuid}

/-- A piece of a call that is within the side tables. -/
theorem touches_aside {piece : Call α} (aside : ∀ k, k.Aside → allowed k)
    (within : piece.Within Key.Aside) : piece.Touches allowed :=
  touches_of_within (within_mono within aside)

private theorem touches_lockDelivery {f : Option DeliveryEntity → Call α}
    (rest : ∀ row, (f row).Touches allowed) : ((lockDelivery deliveryId).bind f).Touches allowed :=
  touches_bind (fun _ => trivial) rest

private theorem touches_saveDelivery (own : allowed (.delivery deliveryId))
    (entity : DeliveryEntity) : (saveDelivery deliveryId entity).Touches allowed :=
  touches_of_within (saveDelivery_within entity own)

/-- Each of the mutators writes its own delivery and rows of the side tables. -/
theorem assignDriver_touches (aside : ∀ k, k.Aside → allowed k) (own : allowed (.delivery deliveryId))
    (driverId assignmentId : Uuid) :
    (assignDriver env amb deliveryId driverId assignmentId).Touches allowed := by
  refine touches_bind (touches_transaction (touches_lockDelivery fun row => ?_)) fun _ => trivial
  cases row with
  | none => trivial
  | some row =>
    refine touches_bind (touches_saveDelivery own _) fun _ => touches_bind ?_ fun _ => ?_
    · exact touches_bind (touches_aside aside (createEvent_within _ _)) fun _ => trivial
    · exact touches_bind (touches_aside aside (publish_within _ _ _ _)) fun _ => trivial

theorem updateStatus_touches (aside : ∀ k, k.Aside → allowed k) (own : allowed (.delivery deliveryId))
    (dto : UpdateDeliveryStatusDto) : (updateStatus env amb deliveryId dto).Touches allowed := by
  refine touches_bind (touches_transaction (touches_lockDelivery fun row => ?_)) fun _ => trivial
  cases row with
  | none => trivial
  | some row =>
    dsimp only
    split
    · trivial
    · refine touches_throwIf (touches_bind (touches_saveDelivery own _) fun _ => ?_)
      refine touches_bind (touches_aside aside (createEvent_within _ _)) fun event => ?_
      refine touches_bind (touches_aside aside (notify_within _ _)) fun _ => ?_
      exact touches_bind (touches_aside aside (publishStatus_within _ _)) fun _ => trivial

theorem verifyOtp_touches (aside : ∀ k, k.Aside → allowed k) (own : allowed (.delivery deliveryId))
    (otp : String) (proofUrl : Option String) (driverLat driverLon : Option Rat) :
    (verifyOtp env amb deliveryId otp proofUrl driverLat driverLon).Touches allowed := by
  refine touches_bind (touches_transaction (touches_lockDelivery fun row => ?_)) fun _ => trivial
  cases row with
  | none => trivial
  | some row =>
    dsimp only
    split
    · trivial
    · split
      · refine touches_throwIf (touches_throwIf ?_)
        split
        · exact touches_bind (touches_saveDelivery own _) fun _ => trivial
        · refine touches_bind (touches_saveDelivery own _) fun _ => ?_
          refine touches_bind (touches_aside aside (createEvent_within _ _)) fun event => ?_
          refine touches_bind (touches_aside aside (notify_within _ _)) fun _ => ?_
          exact touches_bind (touches_aside aside (publish_within _ _ _ _)) fun _ => trivial
      · trivial

end Footprints

end DriverMicroServices
