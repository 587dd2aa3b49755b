import DriverMicroServices.Handlers
import DriverMicroServices.OutboxKeys
import DriverMicroServices.Requests
import DriverMicroServices.Transactions.RowInvariant

/-! What holds of every row of the outbox, whoever wrote it: it has the key of its
event, and an assignment event that names an order names a channel too. The calls
keep this because every delivery they read names both. -/
namespace DriverMicroServices
open Transactions Program

/-- Both names of a delivery are there, as `CreateDeliveryDto` requires. -/
def Named (sellerOrderId channelId : String) : Prop := sellerOrderId ≠ "" ∧ channelId ≠ ""

/-- An assignment event is of the first version, and has no order or both names. -/
def AssignmentNamed (eventType : String) (payload : OutboxPayload) : Prop :=
  eventType ∈ DeliveryAssignedHandler.validEventTypes →
    eventType = WsEvents.registered.deliveryAssigned ∧
      ∀ sellerOrderId, payload.sellerOrderId = some sellerOrderId →
        ∃ channelId, payload.channelId = some channelId ∧ Named sellerOrderId channelId

/-- The row has the key of its event. -/
structure OutboxEvent.Keyed (key : String) (event : OutboxEvent) : Prop where
  valid : isValidVersionedEventType event.eventType = true
  key_eq : key = generateIdempotencyKey event.eventType event.payload event.createdAt
  named : AssignmentNamed event.eventType event.payload

def ValidRow : (k : Key) → Row k → Prop
  | .delivery _, row => Named row.sellerOrderId row.channelId
  | .outbox key, event => event.Keyed key
  | _, _ => True

/-- The rows that any call may write as it likes. -/
def Key.Free : Key → Prop
  | .delivery _ | .outbox _ => False
  | _ => True

/-- The creations of the run passed the validation of their request. -/
def Request.Named (request : Request) : Prop :=
  ∀ dto, request.operation = .create dto → DriverMicroServices.Named dto.sellerOrderId dto.channelId

section Rules

variable {f : α → Call β}

theorem free_valid (k : Key) (row : Row k) (free : k.Free) : ValidRow k row := by
  cases k <;> first | exact free.elim | trivial

/-- A piece that writes neither deliveries nor events. -/
theorem writes_within {piece : Call α} (within : piece.Within Key.Free) : piece.Writes ValidRow := by
  induction piece with
  | ret result => trivial
  | observe next ih => exact fun seen _ => ih seen (within seen)
  | lock k next ih => exact fun row _ => ih row (within row)
  | write k v next ih => exact ⟨free_valid k v within.1, ih within.2⟩
  | autosave k g next ih =>
    exact fun row _ => ⟨fun v _ => free_valid k v within.1, ih row (within.2 row)⟩
  | commit next => exact within.elim
  | rollback next => exact within.elim
  | log line next ih => exact ih within

theorem writes_throwIf [Decidable condition] {f : Unit → Call α}
    (rest : ¬ condition → (f ()).Writes ValidRow) :
    ((throwIf condition exception).bind f).Writes ValidRow := by
  unfold throwIf
  split
  · trivial
  · exact rest ‹_›

theorem writes_find {query : Db → α}
    (rest : ∀ seen, seen.All ValidRow → (f (query seen)).Writes ValidRow) :
    ((find query).bind f).Writes ValidRow := rest

theorem writes_lockDelivery {f : Option DeliveryEntity → Call α}
    (missing : (f none).Writes ValidRow)
    (rest : ∀ row : Delivery, Named row.sellerOrderId row.channelId →
      (f (some row.entity)).Writes ValidRow) :
    ((lockDelivery deliveryId).bind f).Writes ValidRow := by
  intro found valid
  cases found with
  | none => exact missing
  | some row => exact rest row (valid row rfl)

theorem writes_saveDelivery {entity : DeliveryEntity}
    (named : Named entity.sellerOrderId entity.channelId) :
    (saveDelivery deliveryId entity).Writes ValidRow := by
  intro found _
  cases found with
  | none => trivial
  | some row => exact ⟨named, trivial⟩

theorem writes_insert {row : Row k} (valid : ValidRow k row) :
    (DriverMicroServices.insert k row).Writes ValidRow := by
  intro found _
  cases found with
  | none => exact ⟨valid, trivial⟩
  | some held => trivial

theorem writes_insertNow {row : Row k} (valid : ValidRow k row) :
    (insertNow k row).Writes ValidRow := by
  intro found _
  cases found with
  | none =>
    refine ⟨fun v stored => ?_, trivial⟩
    cases stored
    exact valid
  | some held =>
    refine ⟨fun v stored => ?_, trivial⟩
    cases stored

/-- A publication writes a row with the key of its event. -/
theorem writes_publish (inTransaction : Bool) (now : Time)
    (named : AssignmentNamed eventType payload) :
    (publish inTransaction eventType payload now).Writes ValidRow := by
  refine writes_throwIf fun valid => writes_find fun seen _ => ?_
  split
  · trivial
  · have keyed : OutboxEvent.Keyed (generateIdempotencyKey eventType payload now)
        { eventType, payload, createdAt := now } :=
      ⟨by simpa using valid, rfl, named⟩
    cases inTransaction with
    | true => exact writes_insert keyed
    | false => exact writes_insertNow keyed

theorem writes_createEvent (id : Uuid) (event : DeliveryEvent) :
    (createEvent id event).Writes ValidRow :=
  writes_bind (writes_insert trivial) fun _ => trivial

/-- An event of another kind may name anything. -/
theorem unassigned_named (other : eventType ∉ DeliveryAssignedHandler.validEventTypes) :
    AssignmentNamed eventType payload :=
  fun assigned => absurd assigned other

/-- A proof is not an assignment. -/
theorem proof_unassigned :
    "PROOF_ACCEPTED_V1" ∉ DeliveryAssignedHandler.validEventTypes := by decide

theorem writes_notify (event : DeliveryEvent) (delivery : DeliveryEntity) :
    (notify eventId event deliveryId delivery now).Writes ValidRow := by
  have unassigned := proof_unassigned
  unfold notify
  -- The literal is kept from being checked against the pattern of the types.
  generalize "PROOF_ACCEPTED_V1" = eventType at unassigned ⊢
  split
  · dsimp only
    split
    · exact writes_publish _ _ (unassigned_named unassigned)
    · exact writes_publish _ _ (unassigned_named unassigned)
    · trivial
  · trivial

private theorem writes_findOne {f : DeliveryEntity → Call α}
    (rest : ∀ row : Delivery, Named row.sellerOrderId row.channelId →
      (f (normalizeCoordinates row.entity)).Writes ValidRow) :
    ((findOne deliveryId).bind f).Writes ValidRow := by
  intro seen valid
  cases found : Db.delivery seen deliveryId with
  | none => simp [found, onRet, Writes]
  | some row => simpa [found, onRet, Program.bind] using rest row (valid (.delivery deliveryId) row found)

private theorem writes_findOneWithEvents {f : DeliveryEntity × List Uuid → Call α}
    (rest : ∀ (row : Delivery) events, Named row.sellerOrderId row.channelId →
      (f (normalizeCoordinates row.entity, events)).Writes ValidRow) :
    ((findOneWithEvents deliveryId).bind f).Writes ValidRow := by
  intro seen valid
  cases found : Db.delivery seen deliveryId with
  | none => simp [found, onRet, Writes]
  | some row => simpa [found, onRet, Program.bind] using rest row _ (valid (.delivery deliveryId) row found)

end Rules

/-! ## Calls -/

section Calls

variable {env : Env} {amb : Ambient}

private theorem create_writes (named : Named dto.sellerOrderId dto.channelId) :
    (create amb dto).Writes ValidRow := by
  refine writes_throwIf fun _ => writes_bind (writes_transaction ?_) fun _ => trivial
  exact writes_bind (writes_insert trivial) fun _ => writes_insert named

/-- The assignment event of a delivery names what the delivery names. -/
theorem assigned_named (names : env.wsEvents = .registered)
    (named : Named delivery.sellerOrderId delivery.channelId) :
    AssignmentNamed env.wsEvents.deliveryAssigned
      (assignedPayload deliveryId delivery driverId assignmentId now) := by
  rw [names]
  refine fun _ => ⟨rfl, fun sellerOrderId same => ?_⟩
  cases same
  exact ⟨delivery.channelId, rfl, named⟩

private theorem assignDriver_writes (names : env.wsEvents = .registered) :
    (assignDriver env amb deliveryId driverId assignmentId).Writes ValidRow := by
  refine writes_bind (writes_transaction (writes_lockDelivery trivial fun row named => ?_))
    fun _ => trivial
  refine writes_bind (writes_saveDelivery named) fun _ => writes_bind ?_ fun _ => ?_
  · exact writes_bind (writes_createEvent _ _) fun _ => trivial
  · exact writes_bind (writes_publish _ _ (assigned_named names named)) fun _ => trivial

theorem transition_named (now : Time) (dto : UpdateDeliveryStatusDto) (statusEnum : DeliveryStatus)
    (delivery : DeliveryEntity) (named : Named delivery.sellerOrderId delivery.channelId) :
    Named (transition now dto statusEnum delivery).sellerOrderId
      (transition now dto statusEnum delivery).channelId := by
  cases statusEnum <;> exact named

/-- The status event of a delivery names what the delivery names, whatever its
type. -/
theorem status_named (names : env.wsEvents = .registered)
    (named : Named delivery.sellerOrderId delivery.channelId)
    (event : vendureEventType env.wsEvents dto.status = some eventType) :
    AssignmentNamed eventType (statusPayload deliveryId delivery dto) := by
  intro assigned
  refine ⟨?_, fun sellerOrderId same => ?_⟩
  · rw [names] at event
    revert assigned
    unfold vendureEventType at event
    split at event <;> cases event <;> decide
  · cases same
    exact ⟨delivery.channelId, rfl, named⟩

theorem updateStatus_writes (names : env.wsEvents = .registered) :
    (updateStatus env amb deliveryId dto).Writes ValidRow := by
  refine writes_bind (writes_transaction (writes_lockDelivery trivial fun row named => ?_))
    fun _ => trivial
  dsimp only
  split
  · trivial
  refine writes_throwIf fun _ => ?_
  have named' := transition_named amb.now dto (mapStringToDeliveryStatus dto.status) row.entity named
  refine writes_bind (writes_saveDelivery named') fun _ => ?_
  refine writes_bind (writes_createEvent _ _) fun event => ?_
  refine writes_bind (writes_notify _ _) fun _ => writes_bind ?_ fun _ => trivial
  unfold publishStatus
  split
  · exact writes_publish _ _ (status_named names named' ‹_›)
  · trivial

private theorem cancelDelivery_writes (names : env.wsEvents = .registered) :
    (cancelDelivery env amb deliveryId reason).Writes ValidRow := by
  refine writes_findOne fun row _ => ?_
  split
  · trivial
  · exact writes_bind (updateStatus_writes names) fun _ => trivial

private theorem verifyOtp_writes (names : env.wsEvents = .registered) :
    (verifyOtp env amb deliveryId otp proofUrl driverLat driverLon).Writes ValidRow := by
  refine writes_bind (writes_transaction (writes_lockDelivery trivial fun row named => ?_))
    fun _ => trivial
  dsimp only
  split
  · trivial
  cases truthy row.entity.deliveryOtp.value? with
  | none => trivial
  | some deliveryOtp =>
    refine writes_throwIf fun _ => writes_throwIf fun _ => ?_
    split
    · exact writes_bind (writes_saveDelivery named) fun _ => trivial
    · refine writes_bind (writes_saveDelivery named) fun _ => ?_
      refine writes_bind (writes_createEvent _ _) fun event => ?_
      refine writes_bind (writes_notify _ _) fun _ => writes_bind ?_ fun _ => trivial
      refine writes_publish _ _ (unassigned_named ?_)
      rw [names]
      decide

private theorem generateDeliveryOtp_writes : (generateDeliveryOtp amb deliveryId).Writes ValidRow := by
  refine writes_findOneWithEvents fun row events named => writes_throwIf fun _ => writes_throwIf fun _ => ?_
  rw [bind_eq, saveDeliveryNow_bind]
  refine writes_find fun _ _ => writes_throwIf fun _ found _ => ?_
  refine ⟨fun stored saved => ?_, writes_bind (writes_insertNow trivial) fun _ => trivial⟩
  obtain ⟨before, _, rfl⟩ := Option.map_eq_some_iff.mp saved
  exact named

theorem createOfferForDriver_writes :
    (OffersService.createOfferForDriver amb driverId deliveryId expiresInSeconds).Writes
      ValidRow := by
  refine writes_find fun seen _ => ?_
  cases Db.driver seen driverId with
  | none => trivial
  | some driver =>
    refine writes_throwIf fun _ => writes_bind (writes_within check_within) fun capability => ?_
    refine writes_throwIf fun _ => writes_find fun seen _ => ?_
    cases Db.delivery seen deliveryId with
    | none => trivial
    | some delivery =>
      refine writes_throwIf fun _ => ?_
      exact writes_bind (writes_insertNow trivial) fun _ => trivial

private theorem acceptOffer_writes (names : env.wsEvents = .registered) :
    (OffersService.acceptOffer env amb offerId driverId acceptedAt).Writes ValidRow := by
  refine writes_transaction (writes_bind (fun _ _ => trivial) fun found => ?_)
  cases found with
  | none => trivial
  | some offer =>
    refine writes_throwIf fun _ => writes_throwIf fun _ => writes_throwIf fun _ => ?_
    refine writes_bind (writes_within check_within) fun capability => writes_throwIf fun _ => ?_
    refine writes_bind (writes_within (saveOffer_within _ trivial)) fun _ => ?_
    refine writes_bind (writes_within (updateOffers_within _ _ fun _ => trivial)) fun _ => ?_
    refine writes_lockDelivery trivial fun row named => ?_
    refine writes_bind (writes_saveDelivery named) fun _ => ?_
    refine writes_bind (writes_insert trivial) fun _ => ?_
    refine writes_bind (writes_within (updateDriver_within _ trivial)) fun _ => ?_
    exact writes_bind (writes_publish _ _ (assigned_named names named)) fun _ => trivial

/-- The event of this acceptance names no order. -/
theorem stateMachine_named :
    AssignmentNamed "DELIVERY_ASSIGNED_V1"
      { deliveryId := some deliveryId, driverId := some driverId
        assignmentId := some assignmentId } :=
  fun _ => ⟨rfl, fun sellerOrderId absent => by cases absent⟩

private theorem stateMachineAcceptOffer_writes :
    (DeliveryStateMachine.acceptOffer amb offerId driverId).Writes ValidRow := by
  refine writes_bind (writes_transaction (writes_bind (fun _ _ => trivial) fun found => ?_))
    fun _ => trivial
  split
  · refine writes_throwIf fun _ => writes_throwIf fun _ => ?_
    refine writes_lockDelivery trivial fun row named => ?_
    refine writes_bind (writes_throwIf fun _ => writes_within (throwIf_within _)) fun _ => ?_
    refine writes_throwIf fun _ => ?_
    refine writes_bind (writes_within (saveOffer_within _ trivial)) fun _ => ?_
    refine writes_bind (writes_saveDelivery named) fun _ => ?_
    refine writes_bind (writes_insert trivial) fun _ => ?_
    refine writes_bind (writes_within (updateDriver_within _ trivial)) fun _ => ?_
    refine writes_bind (writes_within (updateOffers_within _ _ fun _ => trivial)) fun _ => ?_
    have payload := @stateMachine_named
    generalize "DELIVERY_ASSIGNED_V1" = eventType at payload ⊢
    exact writes_publish _ _ payload
  · trivial

private theorem rejectOffer_writes :
    (OffersService.rejectOffer amb offerId driverId reason).Writes ValidRow := by
  refine writes_find fun seen _ => ?_
  cases Db.offer seen offerId with
  | none => trivial
  | some offer =>
    refine writes_throwIf fun _ => writes_throwIf fun _ => ?_
    refine writes_bind (fun _ _ => ⟨fun _ _ => trivial, trivial⟩) fun _ => ?_
    refine writes_bind (writes_find fun seen _ => ?_) fun _ => trivial
    cases Db.delivery seen offer.deliveryId with
    | none => trivial
    | some delivery =>
      dsimp only
      split
      · trivial
      · refine writes_find fun _ _ => writes_find fun _ _ => ?_
        split
        · exact writes_bind createOfferForDriver_writes fun _ => trivial
        · trivial

private theorem expireOffers_writes : (OffersService.expireOffers amb).Writes ValidRow :=
  writes_transaction (writes_within (updateOffers_within _ _ fun _ => trivial))

private theorem updateDriverStatus_writes :
    (DriversService.updateStatus amb driverId status).Writes ValidRow := by
  refine writes_bind (writes_find fun seen _ => ?_) fun driver => ?_
  · cases Db.driver seen driverId <;> trivial
  · exact writes_bind (fun _ _ => ⟨fun _ _ => trivial, trivial⟩) fun _ => trivial

/-- Every call writes valid rows as long as it reads valid rows. -/
theorem request_writes (names : env.wsEvents = .registered) {request : Request}
    (named : request.Named) : (request.program env).Writes ValidRow := by
  obtain ⟨operation, amb⟩ := request
  cases operation with
  | create dto => exact writes_bind (create_writes (named dto rfl)) fun _ => trivial
  | assignDriver deliveryId driverId assignmentId =>
    exact writes_bind (assignDriver_writes names) fun _ => trivial
  | updateStatus deliveryId dto => exact writes_bind (updateStatus_writes names) fun _ => trivial
  | verifyOtp deliveryId otp proofUrl driverLat driverLon =>
    exact writes_bind (verifyOtp_writes names) fun _ => trivial
  | cancelDelivery deliveryId reason => exact cancelDelivery_writes names
  | generateDeliveryOtp deliveryId => exact writes_bind generateDeliveryOtp_writes fun _ => trivial
  | createOfferForDriver driverId deliveryId expiresInSeconds =>
    exact writes_bind createOfferForDriver_writes fun _ => trivial
  | acceptOffer offerId driverId acceptedAt =>
    exact writes_bind (acceptOffer_writes names) fun _ => trivial
  | stateMachineAcceptOffer offerId driverId => exact stateMachineAcceptOffer_writes
  | rejectOffer offerId driverId reason => exact writes_bind rejectOffer_writes fun _ => trivial
  | expireOffers => exact writes_bind expireOffers_writes fun _ => trivial
  | updateDriverStatus driverId status =>
    exact writes_bind updateDriverStatus_writes fun _ => trivial

/-- Every row stays valid in every run whose creations are validated. -/
theorem rows_valid {store : Db} {s' : Service} {actions : List (Action Request)}
    (names : env.wsEvents = .registered) (valid : store.All ValidRow)
    (named : ∀ t request, .start t request ∈ actions → request.Named)
    (ran : ({ store } : Service).run (Request.program env) actions = some s') :
    s'.store.All ValidRow :=
  (System.valid_run (System.valid_initial valid)
    (fun t request member => request_writes names (named t request member)) ran).rows

end Calls

end DriverMicroServices
