import DriverMicroServices.Capability
import DriverMicroServices.Deliveries

/-! The two services that hand a delivery to a driver: `OffersService`, with its
chain of offers, and the `acceptOffer` of `DeliveryStateMachine`. Both accept
under row locks; a rejection reads and saves its offer without any. -/
namespace DriverMicroServices
open Transactions Program

namespace OffersService

def calculateOfferPayload (delivery : Delivery) (now : Time) : OfferPayload where
  pickupLocation := coordinates (.text delivery.pickupLat) (.text delivery.pickupLon)
  sellerName := delivery.sellerName.getD "Store"
  sellerAddress := delivery.sellerAddress
  dropLocation := coordinates (.text delivery.dropLat) (.text delivery.dropLon)
  pickupStoreName := delivery.sellerName.getD "Store"
  estimatedPickupTimeMin := 10
  estimatedDeliveryTime := now + (10 + 10) * 60000
  estimatedDistanceKm := 5
  estimatedEarning := 100

/-- `createOfferForDriver`: three unlocked reads, then one insert. -/
def createOfferForDriver (amb : Ambient) (driverId deliveryId : Uuid)
    (expiresInSeconds : Option Nat) : Call (Uuid × DriverOffer) := do
  let some driver ← find (·.driver driverId)
    | throw (.notFound s!"Driver {driverId} not found")
  throwIf (driver.status ≠ .available) (.conflict s!"Driver {driverId} is not available")
  let capability ← checkDeliveryAcceptanceCapability driverId
  let reason := (truthy capability.reason).getD "CAPABILITY_REJECTED"
  throwIf (!capability.canAccept) (.conflict s!"Driver {driverId} cannot receive offer: {reason}")
  let some delivery ← find (·.delivery deliveryId)
    | throw (.notFound s!"Delivery {deliveryId} not found")
  throwIf (delivery.status ≠ .pending) (.conflict s!"Delivery {deliveryId} is not ready for assignment")
  let offer : DriverOffer :=
    { deliveryId, driverId, offerPayload := calculateOfferPayload delivery amb.now
      createdAt := amb.now, expiresAt := amb.now + (expiresInSeconds.getD 30 : Nat) * 1000 }
  insertNow (.offer amb.offerId) offer
  return (amb.offerId, offer)

/-- The answer of an acceptance. -/
structure Accepted where
  assignmentId : Uuid
  deliveryId : Uuid
  driverId : Uuid
  responseTimeMs : Int
  deriving DecidableEq, Repr

/-- `acceptOffer`: the delivery is locked, and its status is not looked at. -/
def acceptOffer (env : Env) (amb : Ambient) (offerId driverId : Uuid) (acceptedAt : Time) :
    Call Accepted :=
  transaction do
    let some offer ← lockOffer offerId
      | throw (.notFound "Offer not found")
    throwIf (offer.driverId ≠ driverId) (.badRequest "Invalid driver for this offer")
    throwIf (offer.status ≠ .pending) (.badRequest "Offer is no longer available")
    throwIf (offer.expiresAt < amb.now) (.badRequest "Offer has expired")
    let capability ← checkDeliveryAcceptanceCapability driverId
    let reason := (truthy capability.reason).getD "CAPABILITY_REJECTED"
    throwIf (!capability.canAccept)
      (.badRequest s!"Driver {driverId} cannot accept offer: {reason}")
    let responseTimeMs := acceptedAt - offer.createdAt
    saveOffer offerId
      { offer with
        status := .accepted, acceptedAt := some acceptedAt
        driverResponseTimeMs := some responseTimeMs }
    updateOffers
      (fun _ other => other.deliveryId = offer.deliveryId ∧ other.status = .pending)
      fun other => { other with status := .rejected }
    let some delivery ← lockDelivery offer.deliveryId
      | throw (.notFound s!"Delivery {offer.deliveryId} not found during offer acceptance")
    let delivery := assignTo amb driverId delivery
    saveDelivery offer.deliveryId delivery
    insert (.assignment amb.assignmentId) { sellerOrderId := delivery.sellerOrderId, driverId }
    updateDriver driverId fun driver => { driver with status := .busy }
    publish true env.wsEvents.deliveryAssigned
      (assignedPayload offer.deliveryId delivery driverId amb.assignmentId amb.now) amb.now
    return { assignmentId := amb.assignmentId, deliveryId := offer.deliveryId, driverId,
             responseTimeMs }

/-- `triggerNextCandidate`: the first available driver with no offer for the
delivery yet gets one. -/
def triggerNextCandidate (amb : Ambient) (deliveryId : Uuid) : Call Unit := do
  let some delivery ← find (·.delivery deliveryId)
    | return
  if delivery.status ≠ .pending then
    return
  let previousOffers ← find (·.offersOf deliveryId)
  let excludedDriverIds := previousOffers.map (·.2.driverId)
  let candidates ← find fun db => db.drivers.filter (·.2.status = .available)
  let some nextDriver := candidates.find? (·.1 ∉ excludedDriverIds)
    | return
  discard <| createOfferForDriver amb nextDriver.1 deliveryId (some 30)

/-- The offer a rejection saves. -/
def rejection (now : Time) (reason : Option String) (offer : DriverOffer) : DriverOffer :=
  { offer with
    status := .rejected, rejectedAt := some now
    rejectionReason := (truthy reason).or offer.rejectionReason }

/-- `rejectOffer`: read, check and save with no lock in between. -/
def rejectOffer (amb : Ambient) (offerId driverId : Uuid) (reason : Option String) :
    Call String := do
  let some offer ← find (·.offer offerId)
    | throw (.notFound "Offer not found")
  throwIf (offer.driverId ≠ driverId) (.badRequest "Invalid driver")
  throwIf (offer.status ≠ .pending) (.conflict "Offer already processed")
  saveOfferNow offerId (rejection amb.now reason offer)
  triggerNextCandidate amb offer.deliveryId
  return (truthy reason).getD "other"

/-- `expireOffers`, the cron job: one `UPDATE` statement. -/
def expireOffers (amb : Ambient) : Call Unit :=
  transaction <| updateOffers (fun _ offer => offer.status = .pending ∧ offer.expiresAt < amb.now)
    fun offer => { offer with status := .expired }

/-- It inserts one offer. -/
theorem createOfferForDriver_touches {allowed : Key → Prop} {amb : Ambient}
    (here : allowed (.offer amb.offerId)) (driverId deliveryId : Uuid)
    (expiresInSeconds : Option Nat) :
    (createOfferForDriver amb driverId deliveryId expiresInSeconds).Touches allowed := by
  refine touches_bind (touches_of_within (find_within _)) fun driver => ?_
  cases driver with
  | none => trivial
  | some driver =>
    refine touches_throwIf (touches_bind (touches_of_within check_within) fun _ => ?_)
    refine touches_throwIf (touches_bind (touches_of_within (find_within _)) fun delivery => ?_)
    cases delivery with
    | none => trivial
    | some delivery =>
      refine touches_throwIf ?_
      exact touches_bind (touches_of_within (insertNow_within _ here)) fun _ => trivial

/-- It writes one offer, and inserts one for the next driver. -/
theorem rejectOffer_touches {allowed : Key → Prop} {amb : Ambient}
    (offers : ∀ id, allowed (.offer id)) (offerId driverId : Uuid) (reason : Option String) :
    (rejectOffer amb offerId driverId reason).Touches allowed := by
  refine touches_bind (touches_of_within (find_within _)) fun offer => ?_
  cases offer with
  | none => trivial
  | some offer =>
    refine touches_throwIf (touches_throwIf ⟨offers offerId, fun _ => touches_bind trivial fun _ => ?_⟩)
    refine touches_bind ?_ fun _ => trivial
    refine touches_bind (touches_of_within (find_within _)) fun delivery => ?_
    cases delivery with
    | none => trivial
    | some delivery =>
      dsimp only
      split
      · trivial
      · refine touches_bind (touches_of_within (find_within _)) fun _ => ?_
        refine touches_bind (touches_of_within (find_within _)) fun _ => ?_
        split
        · exact touches_bind (createOfferForDriver_touches (offers _) _ _ _) fun _ => trivial
        · trivial

end OffersService

namespace DeliveryStateMachine

/-- `assertValidAssignment`, which only this service makes. -/
def assertValidAssignment (delivery : DeliveryEntity) : Call Unit := do
  throwIf (delivery.driverId.value? ≠ none) (.conflict "DELIVERY_ALREADY_ASSIGNED")
  throwIf (delivery.status ≠ .pending) (.conflict "INVALID_DELIVERY_STATE")

/-- The assignment fields that this service sets: it issues no OTP. -/
def assignTo (amb : Ambient) (driverId : Uuid) (delivery : DeliveryEntity) : DeliveryEntity :=
  { delivery with
    status := .assigned, driverId := .value driverId, assignedAt := .value amb.now }

@[simp] theorem assignTo_saveOver (amb : Ambient) (driverId : Uuid) (row : Delivery) :
    (assignTo amb driverId row.entity).saveOver row =
      { row with
        status := .assigned, driverId := some driverId, assignedAt := some amb.now } := by
  simp [assignTo, Delivery.entity, DeliveryEntity.saveOver]

/-- `acceptOffer`; what it answers is the projection its hook calls. -/
def acceptOffer (amb : Ambient) (offerId driverId : Uuid) : Call (List Projection) := do
  transaction do
    let some offer := (← lockOffer offerId).filter (·.driverId = driverId)
      | throw (.notFound "OFFER_NOT_FOUND")
    throwIf (offer.status ≠ .pending) (.conflict "OFFER_ALREADY_USED")
    throwIf (offer.expiresAt < amb.now) (.conflict "OFFER_EXPIRED")
    let some delivery ← lockDelivery offer.deliveryId
      | throw (.notFound "DELIVERY_NOT_FOUND")
    assertValidAssignment delivery
    throwIf (offer.driverId ≠ driverId) (.conflict "OFFER_NOT_FOR_DRIVER")
    saveOffer offerId { offer with status := .accepted, acceptedAt := some amb.now }
    saveDelivery offer.deliveryId (assignTo amb driverId delivery)
    insert (.assignment amb.assignmentId) { sellerOrderId := delivery.sellerOrderId, driverId }
    updateDriver driverId fun driver => { driver with status := .busy }
    updateOffers
      (fun id other => other.deliveryId = offer.deliveryId ∧ other.status = .pending ∧ id ≠ offerId)
      fun other => { other with status := .expired }
    publish true "DELIVERY_ASSIGNED_V1"
      { deliveryId := some offer.deliveryId, driverId := some driverId
        assignmentId := some amb.assignmentId } amb.now
  return [.recordAssignmentAccepted driverId]

end DeliveryStateMachine

end DriverMicroServices
