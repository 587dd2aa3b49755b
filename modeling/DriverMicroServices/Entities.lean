import DriverMicroServices.Transactions.Footprint

/-! The tables of the service as the migrations define them, and the way TypeORM
moves a row in and out of a JavaScript object: a column loaded as `null` is
written back as `null`, a property set to `undefined` is left out of the
`UPDATE` and so keeps what the row holds. -/
namespace DriverMicroServices
open Transactions

/-- A `uuid` is never the empty string, so an id that is there counts as true. -/
abbrev Uuid := String

/-- Milliseconds since the epoch, as `Date.getTime` gives them. -/
abbrev Time := Int

inductive DeliveryStatus where
  | pending | assigned | pickedUp | inTransit | delivered | failed | cancelled
  deriving DecidableEq, Repr

inductive DeliveryEventType where
  | assigned | pickedUp | inTransit | delivered | failed | cancelled
  deriving DecidableEq, Repr

inductive DriverOfferStatus where
  | pending | accepted | rejected | expired
  deriving DecidableEq, Repr

inductive DriverStatus where
  | available | busy | offline
  deriving DecidableEq, Repr

inductive DriverRegistrationStatus where
  | profileIncomplete | pendingApproval | approved | rejected
  deriving DecidableEq, Repr

inductive OutboxStatus where
  | pending | processing | completed | failed
  deriving DecidableEq, Repr

inductive DispatchCohort where
  | control | scoring | manual
  deriving DecidableEq, Repr

inductive DispatchMethod where
  | legacy | scoringBased | manualOverride
  deriving DecidableEq, Repr

inductive DispatchStatus where
  | pending | assigned | failed | timeout
  deriving DecidableEq, Repr

/-- What a service method throws. The first five are NestJS HTTP exceptions,
the others are errors of the database driver or plain errors. -/
inductive Exception where
  | notFound (message : String)
  | badRequest (message : String)
  | forbidden (message : String)
  | conflict (message : String)
  | serviceUnavailable (message : String)
  | uniqueViolation (constraint : String)
  | error (message : String)
  deriving DecidableEq, Repr

/-- `error.status`, which only HTTP exceptions carry. -/
def Exception.status : Exception → Option Nat
  | .notFound _ => some 404
  | .badRequest _ => some 400
  | .forbidden _ => some 403
  | .conflict _ => some 409
  | .serviceUnavailable _ => some 503
  | .uniqueViolation _ => none
  | .error _ => none

def Exception.message : Exception → String
  | .notFound message | .badRequest message | .forbidden message | .conflict message
  | .serviceUnavailable message => message
  | .uniqueViolation constraint =>
    s!"duplicate key value violates unique constraint {constraint}"
  | .error message => message

/-! ## Deliveries -/

/-- A row of `deliveries`. The coordinates are `decimal` columns, kept as text. -/
structure Delivery where
  sellerOrderId : String
  channelId : String
  driverId : Option Uuid := none
  status : DeliveryStatus := .pending
  pickupLat : String
  pickupLon : String
  sellerName : Option String := none
  sellerAddress : Option String := none
  dropLat : String
  dropLon : String
  pickupProofUrl : Option String := none
  deliveryProofUrl : Option String := none
  failureCode : Option String := none
  failureReason : Option String := none
  assignedAt : Option Time := none
  pickedUpAt : Option Time := none
  deliveredAt : Option Time := none
  failedAt : Option Time := none
  expectedPickupAt : Option Time := none
  expectedDeliveryAt : Option Time := none
  slaBreachAt : Option Time := none
  deliveryOtp : Option String := none
  otpAttempts : Nat := 0
  otpLockedUntil : Option Time := none
  createdAt : Time
  lastActivityUpdateAt : Option Time := none
  deriving DecidableEq, Repr

/-- A nullable column of a loaded entity. -/
inductive Column (α : Type) where
  | undefined
  | null
  | value (a : α)
  deriving DecidableEq, Repr

namespace Column

def ofRow : Option α → Column α
  | none => .null
  | some a => .value a

/-- The optional property of a request body, `undefined` when it is missing. -/
def ofDto : Option α → Column α
  | none => .undefined
  | some a => .value a

def value? : Column α → Option α
  | .value a => some a
  | _ => none

/-- What saving the property leaves in the row. -/
def saveOver : Column α → Option α → Option α
  | .undefined, stored => stored
  | .null, _ => none
  | .value a, _ => some a

@[simp] theorem ofRow_value? (stored : Option α) : (ofRow stored).value? = stored := by
  cases stored <;> rfl

@[simp] theorem ofRow_saveOver (read stored : Option α) : (ofRow read).saveOver stored = read := by
  cases read <;> rfl

@[simp] theorem undefined_saveOver (stored : Option α) :
    (undefined : Column α).saveOver stored = stored := rfl

@[simp] theorem value_saveOver (a : α) (stored : Option α) : (value a).saveOver stored = some a := rfl

end Column

/-- A coordinate at run time: TypeORM hands a `decimal` column over as a string,
and only `normalizeCoordinates` turns it into a number. -/
inductive Coordinate where
  | text (decimal : String)
  | number (value : Rat)
  deriving DecidableEq

/-- `typeof coordinate === "number"`, with the number. -/
def Coordinate.number? : Coordinate → Option Rat
  | .text _ => none
  | .number value => some value

/-- A `Delivery` object as a service method holds it. -/
structure DeliveryEntity where
  sellerOrderId : String
  channelId : String
  driverId : Column Uuid
  status : DeliveryStatus
  pickupLat : Coordinate
  pickupLon : Coordinate
  sellerName : Column String
  sellerAddress : Column String
  dropLat : Coordinate
  dropLon : Coordinate
  pickupProofUrl : Column String
  deliveryProofUrl : Column String
  failureCode : Column String
  failureReason : Column String
  assignedAt : Column Time
  pickedUpAt : Column Time
  deliveredAt : Column Time
  failedAt : Column Time
  expectedPickupAt : Column Time
  expectedDeliveryAt : Column Time
  slaBreachAt : Column Time
  deliveryOtp : Column String
  otpAttempts : Nat
  otpLockedUntil : Column Time
  createdAt : Time
  lastActivityUpdateAt : Column Time
  deriving DecidableEq

/-- The object `findOne` returns for a row. -/
def Delivery.entity (row : Delivery) : DeliveryEntity where
  sellerOrderId := row.sellerOrderId
  channelId := row.channelId
  driverId := .ofRow row.driverId
  status := row.status
  pickupLat := .text row.pickupLat
  pickupLon := .text row.pickupLon
  sellerName := .ofRow row.sellerName
  sellerAddress := .ofRow row.sellerAddress
  dropLat := .text row.dropLat
  dropLon := .text row.dropLon
  pickupProofUrl := .ofRow row.pickupProofUrl
  deliveryProofUrl := .ofRow row.deliveryProofUrl
  failureCode := .ofRow row.failureCode
  failureReason := .ofRow row.failureReason
  assignedAt := .ofRow row.assignedAt
  pickedUpAt := .ofRow row.pickedUpAt
  deliveredAt := .ofRow row.deliveredAt
  failedAt := .ofRow row.failedAt
  expectedPickupAt := .ofRow row.expectedPickupAt
  expectedDeliveryAt := .ofRow row.expectedDeliveryAt
  slaBreachAt := .ofRow row.slaBreachAt
  deliveryOtp := .ofRow row.deliveryOtp
  otpAttempts := row.otpAttempts
  otpLockedUntil := .ofRow row.otpLockedUntil
  createdAt := row.createdAt
  lastActivityUpdateAt := .ofRow row.lastActivityUpdateAt

/-- `save`: every defined property is written over the current row. No method
assigns a coordinate, so a coordinate column is only ever written with the value
it has. -/
def DeliveryEntity.saveOver (entity : DeliveryEntity) (row : Delivery) : Delivery where
  sellerOrderId := entity.sellerOrderId
  channelId := entity.channelId
  driverId := entity.driverId.saveOver row.driverId
  status := entity.status
  pickupLat := row.pickupLat
  pickupLon := row.pickupLon
  sellerName := entity.sellerName.saveOver row.sellerName
  sellerAddress := entity.sellerAddress.saveOver row.sellerAddress
  dropLat := row.dropLat
  dropLon := row.dropLon
  pickupProofUrl := entity.pickupProofUrl.saveOver row.pickupProofUrl
  deliveryProofUrl := entity.deliveryProofUrl.saveOver row.deliveryProofUrl
  failureCode := entity.failureCode.saveOver row.failureCode
  failureReason := entity.failureReason.saveOver row.failureReason
  assignedAt := entity.assignedAt.saveOver row.assignedAt
  pickedUpAt := entity.pickedUpAt.saveOver row.pickedUpAt
  deliveredAt := entity.deliveredAt.saveOver row.deliveredAt
  failedAt := entity.failedAt.saveOver row.failedAt
  expectedPickupAt := entity.expectedPickupAt.saveOver row.expectedPickupAt
  expectedDeliveryAt := entity.expectedDeliveryAt.saveOver row.expectedDeliveryAt
  slaBreachAt := entity.slaBreachAt.saveOver row.slaBreachAt
  deliveryOtp := entity.deliveryOtp.saveOver row.deliveryOtp
  otpAttempts := entity.otpAttempts
  otpLockedUntil := entity.otpLockedUntil.saveOver row.otpLockedUntil
  createdAt := entity.createdAt
  lastActivityUpdateAt := entity.lastActivityUpdateAt.saveOver row.lastActivityUpdateAt

/-- A row of `delivery_events`. -/
structure DeliveryEvent where
  deliveryId : Uuid
  sellerOrderId : String
  eventType : DeliveryEventType
  metadata : List (String × String) := []
  proofUrl : Option String := none
  failureCode : Option String := none
  failureReason : Option String := none
  createdAt : Time
  deriving DecidableEq, Repr

/-! ## Offers, drivers, assignments -/

/-- What the driver application shows for an offer. -/
structure OfferPayload where
  pickupLocation : Coordinate × Coordinate
  sellerName : String
  sellerAddress : Option String
  dropLocation : Coordinate × Coordinate
  pickupStoreName : String
  estimatedPickupTimeMin : Nat
  estimatedDeliveryTime : Time
  estimatedDistanceKm : Nat
  estimatedEarning : Nat
  deriving DecidableEq

/-- A row of `driver_offers`. No method sets one of its columns to `undefined`,
so the row also stands for the loaded object. -/
structure DriverOffer where
  deliveryId : Uuid
  driverId : Uuid
  status : DriverOfferStatus := .pending
  offerPayload : OfferPayload
  createdAt : Time
  expiresAt : Time
  acceptedAt : Option Time := none
  rejectedAt : Option Time := none
  rejectionReason : Option String := none
  driverResponseTimeMs : Option Int := none
  deriving DecidableEq

/-- A row of `drivers`; like an offer, it also stands for the loaded object. -/
structure Driver where
  isActive : Bool := true
  status : DriverStatus := .available
  registrationStatus : DriverRegistrationStatus := .profileIncomplete
  vehicleType : Option String := none
  vehicleNumber : Option String := none
  zoneId : Option Uuid := none
  currentLat : Option Rat := none
  currentLon : Option Rat := none
  lastActiveAt : Option Time := none
  lastLocationUpdateAt : Option Time := none
  lastStatusUpdateAt : Option Time := none
  deriving DecidableEq

/-- A row of `assignments`. -/
structure Assignment where
  sellerOrderId : String
  driverId : Uuid
  deriving DecidableEq, Repr

/-! ## Outbox and dispatch -/

/-- `failure` of a status event. -/
structure FailurePayload where
  code : String
  reason : String
  occurredAt : Option Time
  deriving DecidableEq, Repr

/-- The JSON payload of an outbox event: the properties that some publisher sets
or some handler reads, and the others as text. A property that is not set is
absent. -/
structure OutboxPayload where
  deliveryId : Option Uuid := none
  sellerOrderId : Option String := none
  channelId : Option String := none
  driverId : Option Uuid := none
  assignmentId : Option Uuid := none
  proofId : Option Uuid := none
  proofType : Option String := none
  assignedAt : Option Time := none
  acceptedAt : Option Time := none
  pickedUpAt : Option Time := none
  deliveredAt : Option Time := none
  pickupLocation : Option (Coordinate × Coordinate) := none
  dropLocation : Option (Coordinate × Coordinate) := none
  pickupProofUrl : Option String := none
  deliveryProofUrl : Option String := none
  failure : Option FailurePayload := none
  reason : Option String := none
  failedAt : Option Time := none
  others : List (String × String) := []
  deriving DecidableEq

/-- A row of `outbox`, keyed by its unique idempotency key. -/
structure OutboxEvent where
  eventType : String
  payload : OutboxPayload
  status : OutboxStatus := .pending
  retryCount : Nat := 0
  createdAt : Time
  version : Nat := 1
  deriving DecidableEq

/-- A row of `dispatch_decisions`. -/
structure DispatchDecision where
  deliveryId : Uuid
  cohort : DispatchCohort
  dispatchMethod : DispatchMethod
  dispatchStatus : DispatchStatus
  /-- `metadata.fallbackClaim === true`. -/
  fallbackClaim : Bool := false
  fallbackReason : Option String := none
  deriving DecidableEq, Repr

/-! ## The database -/

/-- Rows are addressed by table and primary key. `sellerOrder` is the unique
index on `deliveries.seller_order_id`, `driverStats` the Redis hash of a driver
and `redis` any other Redis string. -/
inductive Key where
  | delivery (id : Uuid)
  | sellerOrder (sellerOrderId : String)
  | deliveryEvent (id : Uuid)
  | offer (id : Uuid)
  | driver (id : Uuid)
  | assignment (id : Uuid)
  | outbox (idempotencyKey : String)
  | dispatchDecision (id : Uuid)
  | driverStats (driverId : Uuid)
  | redis (key : String)
  deriving DecidableEq

abbrev Row : Key → Type
  | .delivery _ => Delivery
  | .sellerOrder _ => Uuid
  | .deliveryEvent _ => DeliveryEvent
  | .offer _ => DriverOffer
  | .driver _ => Driver
  | .assignment _ => Assignment
  | .outbox _ => OutboxEvent
  | .dispatchDecision _ => DispatchDecision
  | .driverStats _ => String
  | .redis _ => String

abbrev Db := Store Row

/-- The rows that carry no delivery, offer or driver: audit events, the outbox
and the like. -/
def Key.Aside : Key → Prop
  | .delivery _ | .offer _ | .driver _ | .driverStats _ => False
  | _ => True

/-- A service method over the database. -/
abbrev Call (α : Type) := Program Row Exception α

namespace Db

variable {id id' deliveryId : Uuid} {k : Key}

def delivery (db : Db) (id : Uuid) : Option Delivery := db.row (.delivery id)
def offer (db : Db) (id : Uuid) : Option DriverOffer := db.row (.offer id)
def driver (db : Db) (id : Uuid) : Option Driver := db.row (.driver id)

@[simp] theorem delivery_set (db : Db) (row : Delivery) :
    delivery (db.set (.delivery id) row) id' = if id' = id then some row else db.delivery id' := by
  unfold delivery
  split
  · rename_i same
    subst same
    exact Store.set_row_self ..
  · rename_i different
    exact Store.set_row_ne _ _ (by simpa using different)

@[simp] theorem offer_set (db : Db) (row : DriverOffer) :
    offer (db.set (.offer id) row) id' = if id' = id then some row else db.offer id' := by
  unfold offer
  split
  · rename_i same
    subst same
    exact Store.set_row_self ..
  · rename_i different
    exact Store.set_row_ne _ _ (by simpa using different)

@[simp] theorem driver_set (db : Db) (row : Driver) :
    driver (db.set (.driver id) row) id' = if id' = id then some row else db.driver id' := by
  unfold driver
  split
  · rename_i same
    subst same
    exact Store.set_row_self ..
  · rename_i different
    exact Store.set_row_ne _ _ (by simpa using different)

@[simp] theorem delivery_set_other (db : Db) (row : Row k) (other : Key.delivery id ≠ k) :
    delivery (db.set k row) id = db.delivery id :=
  Store.set_row_ne _ _ other

@[simp] theorem offer_set_other (db : Db) (row : Row k) (other : Key.offer id ≠ k) :
    offer (db.set k row) id = db.offer id :=
  Store.set_row_ne _ _ other

@[simp] theorem driver_set_other (db : Db) (row : Row k) (other : Key.driver id ≠ k) :
    driver (db.set k row) id = db.driver id :=
  Store.set_row_ne _ _ other

theorem delivery_update (db : Db) (row : Delivery) :
    delivery (db.set (.delivery id) row) = Function.update db.delivery id (some row) := by
  funext id'
  simp [Function.update_apply]

theorem offer_update (db : Db) (row : DriverOffer) :
    offer (db.set (.offer id) row) = Function.update db.offer id (some row) := by
  funext id'
  simp [Function.update_apply]

/-- All deliveries with their ids, in scan order. -/
def deliveries (db : Db) : List (Uuid × Delivery) :=
  db.scan fun
    | .delivery id, row => some (id, row)
    | _, _ => none

/-- All offers with their ids, in scan order. -/
def offers (db : Db) : List (Uuid × DriverOffer) :=
  db.scan fun
    | .offer id, row => some (id, row)
    | _, _ => none

/-- The offers of one delivery with their ids, in scan order. -/
def offersOf (db : Db) (deliveryId : Uuid) : List (Uuid × DriverOffer) :=
  db.offers.filter (·.2.deliveryId = deliveryId)

/-- The ids of the events of one delivery, in scan order. -/
def eventsOf (db : Db) (deliveryId : Uuid) : List Uuid :=
  db.scan fun
    | .deliveryEvent id, row => if row.deliveryId = deliveryId then some id else none
    | _, _ => none

/-- All drivers with their ids, in scan order. -/
def drivers (db : Db) : List (Uuid × Driver) :=
  db.scan fun
    | .driver id, row => some (id, row)
    | _, _ => none

theorem mem_deliveries (db : Db) : (id, row) ∈ db.deliveries ↔ db.delivery id = some row := by
  refine Store.mem_scan.trans ⟨?_, fun held => ⟨.delivery id, row, held, rfl⟩⟩
  rintro ⟨k, v, held, selected⟩
  cases k <;> cases selected
  exact held

theorem mem_offers (db : Db) : (id, row) ∈ db.offers ↔ db.offer id = some row := by
  refine Store.mem_scan.trans ⟨?_, fun held => ⟨.offer id, row, held, rfl⟩⟩
  rintro ⟨k, v, held, selected⟩
  cases k <;> cases selected
  exact held

theorem mem_offersOf (db : Db) :
    (id, row) ∈ db.offersOf deliveryId ↔ db.offer id = some row ∧ row.deliveryId = deliveryId := by
  simp [offersOf, mem_offers]

theorem mem_drivers (db : Db) : (id, row) ∈ db.drivers ↔ db.driver id = some row := by
  refine Store.mem_scan.trans ⟨?_, fun held => ⟨.driver id, row, held, rfl⟩⟩
  rintro ⟨k, v, held, selected⟩
  cases k <;> cases selected
  exact held

end Db

end DriverMicroServices
