import DriverMicroServices.Drivers
import DriverMicroServices.Offers

/-! Every call that writes a delivery, an offer or a driver, as one label type,
so that a run can mix them in any order and at any granularity. -/
namespace DriverMicroServices
open Transactions Program

inductive Operation where
  | create (dto : CreateDeliveryDto)
  | assignDriver (deliveryId driverId assignmentId : Uuid)
  | updateStatus (deliveryId : Uuid) (dto : UpdateDeliveryStatusDto)
  | verifyOtp (deliveryId : Uuid) (otp : String) (proofUrl : Option String)
      (driverLat driverLon : Option Rat)
  | cancelDelivery (deliveryId : Uuid) (reason : Option String)
  | generateDeliveryOtp (deliveryId : Uuid)
  | createOfferForDriver (driverId deliveryId : Uuid) (expiresInSeconds : Option Nat)
  /-- `OffersService.acceptOffer`. -/
  | acceptOffer (offerId driverId : Uuid) (acceptedAt : Time)
  /-- `DeliveryStateMachine.acceptOffer`. -/
  | stateMachineAcceptOffer (offerId driverId : Uuid)
  | rejectOffer (offerId driverId : Uuid) (reason : Option String)
  | expireOffers
  | updateDriverStatus (driverId : Uuid) (status : DriverStatus)
  deriving DecidableEq

/-- One call, with what it reads of the outside world. -/
structure Request where
  operation : Operation
  ambient : Ambient
  deriving DecidableEq

/-- The program of a call; its answer is the projections the call invoked. -/
def Request.program (env : Env) (request : Request) : Call (List Projection) :=
  let amb := request.ambient
  match request.operation with
  | .create dto => (create amb dto).bind fun _ => pure []
  | .assignDriver deliveryId driverId assignmentId =>
    (assignDriver env amb deliveryId driverId assignmentId).bind fun settled =>
      pure settled.projections
  | .updateStatus deliveryId dto =>
    (updateStatus env amb deliveryId dto).bind fun settled => pure settled.projections
  | .verifyOtp deliveryId otp proofUrl driverLat driverLon =>
    (verifyOtp env amb deliveryId otp proofUrl driverLat driverLon).bind fun settled =>
      pure settled.projections
  | .cancelDelivery deliveryId reason => cancelDelivery env amb deliveryId reason
  | .generateDeliveryOtp deliveryId => (generateDeliveryOtp amb deliveryId).bind fun _ => pure []
  | .createOfferForDriver driverId deliveryId expiresInSeconds =>
    (OffersService.createOfferForDriver amb driverId deliveryId expiresInSeconds).bind fun _ =>
      pure []
  | .acceptOffer offerId driverId acceptedAt =>
    (OffersService.acceptOffer env amb offerId driverId acceptedAt).bind fun _ => pure []
  | .stateMachineAcceptOffer offerId driverId =>
    DeliveryStateMachine.acceptOffer amb offerId driverId
  | .rejectOffer offerId driverId reason =>
    (OffersService.rejectOffer amb offerId driverId reason).bind fun _ => pure []
  | .expireOffers => (OffersService.expireOffers amb).bind fun _ => pure []
  | .updateDriverStatus driverId status =>
    (DriversService.updateStatus amb driverId status).bind fun _ => pure []

/-- The service with many calls in progress. -/
abbrev Service := System Request Row Exception (List Projection)

/-! ## A small shop

The rows of the concrete runs that accompany some of the theorems. -/
namespace Sample

def env : Env where
  wsEvents :=
    { deliveryAssigned := "DELIVERY_ASSIGNED_V1"
      deliveryPickupConfirmed := "DELIVERY_PICKUP_CONFIRMED_V1"
      deliveryDropoffConfirmed := "DELIVERY_DROPOFF_CONFIRMED_V1"
      deliveryFailed := "DELIVERY_FAILED_V1"
      deliveryCancelled := "DELIVERY_CANCELLED_V1" }
  haversineKm := fun _ _ _ _ => 0

/-- The surroundings of the `n`th call, with ids of its own. -/
def ambient (n : Nat) (now : Time) : Ambient where
  now := now
  draw := 0
  deliveryId := "delivery" ++ toString n
  eventId := "event" ++ toString n
  offerId := "offer" ++ toString n
  assignmentId := "assignment" ++ toString n

def order (sellerOrderId : String) : CreateDeliveryDto where
  sellerOrderId := sellerOrderId
  channelId := "channel"
  pickupLat := "12.97"
  pickupLon := "77.59"
  dropLat := "12.93"
  dropLon := "77.62"

/-- A driver who may take deliveries. -/
def driver : Driver where
  registrationStatus := .approved

/-- Two new deliveries and two available drivers. -/
def shop : Db :=
  (Store.empty : Db).apply
    [⟨.delivery "D1", (order "S1").row 0⟩, ⟨.delivery "D2", (order "S2").row 0⟩,
     ⟨.driver "x", driver⟩, ⟨.driver "y", driver⟩]

/-- The shop once `D1` is assigned to `x`. -/
def assigned : Db :=
  shop.set (.delivery "D1")
    { (order "S1").row 0 with
      driverId := some "x", status := .assigned, assignedAt := some 5
      deliveryOtp := some "100000" }

/-- The shop has made no offer. -/
theorem shop_offer (id : Uuid) : shop.offer id = none := by
  simp only [shop, Store.apply_cons, Store.apply_nil]
  repeat rw [Db.offer_set_other _ _ (by simp)]
  rfl

/-- Its deliveries are new. -/
theorem shop_delivery {id : Uuid} (held : shop.delivery id = some row) : row.IsNew := by
  simp only [shop, Store.apply_cons, Store.apply_nil] at held
  rw [Db.delivery_set_other _ _ (by simp), Db.delivery_set_other _ _ (by simp), Db.delivery_set,
    Db.delivery_set] at held
  split at held
  · exact ⟨order "S2", 0, (Option.some.inj held).symm⟩
  · split at held
    · exact ⟨order "S1", 0, (Option.some.inj held).symm⟩
    · cases held

/-- A call started and run for some steps. -/
def alone (t : Nat) (operation : Operation) (now : Time) (steps : Nat) : List (Action Request) :=
  .start t ⟨operation, ambient t now⟩ :: List.replicate steps (.step t)

/-- The state after a run from a shop, when the run is possible. -/
def after (store : Db) (actions : List (Action Request)) : Option Service :=
  ({ store } : Service).run (Request.program env) actions

end Sample

end DriverMicroServices
