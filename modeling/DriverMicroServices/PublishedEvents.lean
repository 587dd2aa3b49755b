import DriverMicroServices.Lifecycle
import DriverMicroServices.OutboxRows

/-! The events that the calls publish, against the handlers that the worker hands them to.
Every published event has a registered handler, which asks of its payload no more than the
publisher says, and so it fails only with the webhook it sends. The exception is the
status `ASSIGNED`: its event goes to the handler of assignments but names no driver. -/
namespace DriverMicroServices
open Transactions Program

/-- The handler of the event accepts it when the shop accepts the webhook. -/
def Accepted (eventType : String) (payload : OutboxPayload) : Prop :=
  ∀ id version amb, amb.webhookError = none → ∃ webhooks,
    HandlerRegistry.handle amb { id, eventType, payload, version } = .ok webhooks

/-- Whatever the shop answers, the handler of assignments throws. -/
def Driverless (eventType : String) (payload : OutboxPayload) : Prop :=
  ∀ id version amb, HandlerRegistry.handle amb { id, eventType, payload, version } =
    .error "DELIVERY_ASSIGNED payload missing driverId"

/-- What an event of a call meets: `spoiled` says that some call assigns by status. -/
def Contracted (spoiled : Prop) (eventType : String) (payload : OutboxPayload) : Prop :=
  Accepted eventType payload ∨ spoiled ∧ Driverless eventType payload

def ContractRow (spoiled : Prop) : (k : Key) → Row k → Prop
  | .delivery _, row => Named row.sellerOrderId row.channelId
  | .outbox _, event => Contracted spoiled event.eventType event.payload
  | _, _ => True

/-- The request names what its route and its DTO require. -/
def Request.Validated (request : Request) : Prop :=
  match request.operation with
  | .create dto => DriverMicroServices.Named dto.sellerOrderId dto.channelId
  | .assignDriver _ driverId _ | .acceptOffer _ driverId _ | .stateMachineAcceptOffer _ driverId =>
    driverId ≠ ""
  | _ => True

def Request.AssignsByStatus (request : Request) : Prop :=
  ∃ deliveryId dto, request.operation = .updateStatus deliveryId dto ∧ dto.status = "ASSIGNED"

/-! ## Handlers -/

section Handlers

variable {payload : OutboxPayload} {amb : HandlerAmbient}

theorem sendToVendure_answered (answered : amb.webhookError = none) (webhook : Webhook) :
    sendToVendure amb webhook = .ok [webhook] := by
  rw [sendToVendure, answered]

theorem accepted_assigned (driver : payload.driverId = some driverId) (present : driverId ≠ "") :
    Accepted "DELIVERY_ASSIGNED_V1" payload := by
  intro id version amb answered
  have found : HandlerRegistry.getHandler "DELIVERY_ASSIGNED_V1" = some .deliveryAssigned := by decide
  simp only [HandlerRegistry.handle, found, EventHandler.handle, DeliveryAssignedHandler.handle]
  have version1 : "DELIVERY_ASSIGNED_V1" ∈ DeliveryAssignedHandler.validEventTypes := by decide
  have spoken : truthy payload.driverId = some driverId := by simp [driver, truthy, present]
  simp only [requireEventType, version1, spoken]
  cases truthy payload.sellerOrderId with
  | none => exact ⟨_, rfl⟩
  | some order =>
    cases truthy payload.channelId with
    | none => exact ⟨_, rfl⟩
    | some channel => exact ⟨_, sendToVendure_answered answered _⟩

private theorem driverless_assigned (driver : payload.driverId = none) :
    Driverless "DELIVERY_ASSIGNED_V1" payload := by
  intro id version amb
  have found : HandlerRegistry.getHandler "DELIVERY_ASSIGNED_V1" = some .deliveryAssigned := by decide
  simp only [HandlerRegistry.handle, found, EventHandler.handle, DeliveryAssignedHandler.handle]
  have version1 : "DELIVERY_ASSIGNED_V1" ∈ DeliveryAssignedHandler.validEventTypes := by decide
  have silent : truthy payload.driverId = none := by simp [driver, truthy]
  simp only [requireEventType, version1, silent]
  rfl

private theorem accepted_cancelled (order : payload.sellerOrderId = some sellerOrderId)
    (channel : payload.channelId = some channelId) (named : Named sellerOrderId channelId) :
    Accepted "DELIVERY_CANCELLED_V1" payload := by
  intro id version amb answered
  have found : HandlerRegistry.getHandler "DELIVERY_CANCELLED_V1" = some .deliveryCancelled := by decide
  simp only [HandlerRegistry.handle, found, EventHandler.handle, DeliveryCancelledHandler.handle]
  have version1 : "DELIVERY_CANCELLED_V1" ∈ DeliveryCancelledHandler.validEventTypes := by decide
  have order : truthy payload.sellerOrderId = some sellerOrderId := by simp [order, truthy, named.1]
  have channel : truthy payload.channelId = some channelId := by simp [channel, truthy, named.2]
  simp only [requireEventType, version1, order, channel]
  exact ⟨_, sendToVendure_answered answered _⟩

theorem accepted_forwarded (forwarded : eventType ∈ ["DELIVERY_PICKUP_CONFIRMED_V1",
    "DELIVERY_DROPOFF_CONFIRMED_V1", "DELIVERY_FAILED_V1", "PROOF_ACCEPTED_V1"]) :
    Accepted eventType payload := by
  intro id version amb answered
  have found : HandlerRegistry.getHandler eventType = some .deliveryStatusForwarding := by
    simp only [List.mem_cons, List.not_mem_nil, or_false] at forwarded
    rcases forwarded with rfl | rfl | rfl | rfl <;> decide
  simp only [HandlerRegistry.handle, found, EventHandler.handle]
  simp only [List.mem_cons, List.not_mem_nil, or_false] at forwarded
  rcases forwarded with rfl | rfl | rfl | rfl
  · exact ⟨_, sendToVendure_answered answered _⟩
  · exact ⟨_, sendToVendure_answered answered _⟩
  · exact ⟨_, sendToVendure_answered answered _⟩
  · exact ⟨_, rfl⟩

end Handlers

/-! ## Rules -/

section Rules

variable {spoiled : Prop} {f : α → Call β} {eventType : String} {payload : OutboxPayload}

theorem Accepted.contracted (accepted : Accepted eventType payload) :
    Contracted spoiled eventType payload := .inl accepted

theorem contracts_of_touches {piece : Call α} (touches : piece.Touches Key.Free) :
    piece.Writes (ContractRow spoiled) := by
  have free (k : Key) (row : Row k) (free : k.Free) : ContractRow spoiled k row := by
    cases k <;> first | exact free.elim | trivial
  induction piece with
  | ret result => trivial
  | observe next ih => exact fun seen _ => ih seen (touches seen)
  | lock k next ih => exact fun row _ => ih row (touches row)
  | write k v next ih => exact ⟨free k v touches.1, ih touches.2⟩
  | autosave k g next ih =>
    exact fun row _ => ⟨fun v _ => free k v touches.1, ih row (touches.2 row)⟩
  | commit next ih => exact ih touches
  | rollback next ih => exact ih touches
  | log line next ih => exact ih touches

theorem contracts_of_within {piece : Call α} (within : piece.Within Key.Free) :
    piece.Writes (ContractRow spoiled) := contracts_of_touches (touches_of_within within)

theorem contracts_throwIf [Decidable condition] {f : Unit → Call α}
    (rest : (f ()).Writes (ContractRow spoiled)) :
    ((throwIf condition exception).bind f).Writes (ContractRow spoiled) := by
  unfold throwIf
  split
  · trivial
  · exact rest

theorem contracts_find {query : Db → α}
    (rest : ∀ seen, seen.All (ContractRow spoiled) → (f (query seen)).Writes (ContractRow spoiled)) :
    ((find query).bind f).Writes (ContractRow spoiled) := rest

theorem contracts_lockDelivery {f : Option DeliveryEntity → Call α}
    (missing : (f none).Writes (ContractRow spoiled))
    (rest : ∀ row : Delivery, Named row.sellerOrderId row.channelId →
      (f (some row.entity)).Writes (ContractRow spoiled)) :
    ((lockDelivery deliveryId).bind f).Writes (ContractRow spoiled) := by
  intro found valid
  cases found with
  | none => exact missing
  | some row => exact rest row (valid row rfl)

theorem contracts_saveDelivery {entity : DeliveryEntity} {f : Unit → Call α}
    (named : Named entity.sellerOrderId entity.channelId)
    (rest : (f ()).Writes (ContractRow spoiled)) :
    ((saveDelivery deliveryId entity).bind f).Writes (ContractRow spoiled) := by
  intro found _
  cases found with
  | none => trivial
  | some row => exact ⟨named, rest⟩

theorem contracts_insert {row : Row k} (valid : ContractRow spoiled k row) :
    (DriverMicroServices.insert k row).Writes (ContractRow spoiled) := by
  intro found _
  cases found with
  | none => exact ⟨valid, trivial⟩
  | some held => trivial

/-- A publication stores the event as it is. -/
theorem contracts_publish (inTransaction : Bool) (now : Time)
    (contracted : Contracted spoiled eventType payload) :
    (publish inTransaction eventType payload now).Writes (ContractRow spoiled) := by
  refine contracts_throwIf (contracts_find fun seen _ => ?_)
  split
  · trivial
  · cases inTransaction with
    | true => exact contracts_insert contracted
    | false =>
      intro found _
      refine ⟨fun row stored => ?_, ?_⟩
      · cases found <;> cases stored
        exact contracted
      · cases found <;> trivial

theorem contracts_createEvent (id : Uuid) (event : DeliveryEvent) :
    (createEvent id event).Writes (ContractRow spoiled) :=
  writes_bind (contracts_insert trivial) fun _ => trivial

theorem contracts_notify (event : DeliveryEvent) (delivery : DeliveryEntity) :
    (notify eventId event deliveryId delivery now).Writes (ContractRow spoiled) := by
  have accepted (payload : OutboxPayload) : Accepted "PROOF_ACCEPTED_V1" payload :=
    accepted_forwarded (by decide)
  unfold notify
  -- The literal is kept from being checked against the pattern of the types.
  generalize "PROOF_ACCEPTED_V1" = eventType at accepted ⊢
  split
  · dsimp only
    split
    · exact contracts_publish _ _ (accepted _).contracted
    · exact contracts_publish _ _ (accepted _).contracted
    · trivial
  · trivial

private theorem contracts_findOne {f : DeliveryEntity → Call α}
    (rest : ∀ row : Delivery, Named row.sellerOrderId row.channelId →
      (f (normalizeCoordinates row.entity)).Writes (ContractRow spoiled)) :
    ((findOne deliveryId).bind f).Writes (ContractRow spoiled) := by
  intro seen valid
  cases found : Db.delivery seen deliveryId with
  | none => simp [found, onRet, Writes]
  | some row =>
    simpa [found, onRet, Program.bind] using rest row (valid (.delivery deliveryId) row found)

private theorem contracts_findOneWithEvents {f : DeliveryEntity × List Uuid → Call α}
    (rest : ∀ (row : Delivery) events, Named row.sellerOrderId row.channelId →
      (f (normalizeCoordinates row.entity, events)).Writes (ContractRow spoiled)) :
    ((findOneWithEvents deliveryId).bind f).Writes (ContractRow spoiled) := by
  intro seen valid
  cases found : Db.delivery seen deliveryId with
  | none => simp [found, onRet, Writes]
  | some row =>
    simpa [found, onRet, Program.bind] using rest row _ (valid (.delivery deliveryId) row found)

end Rules

/-! ## Calls -/

section Calls

variable {spoiled : Prop} {env : Env} {amb : Ambient} {deliveryId driverId offerId : Uuid}

/-- The assignment event of a delivery names the driver. -/
theorem assigned_contracted (names : env.wsEvents = .registered) (present : driverId ≠ "") :
    Contracted spoiled env.wsEvents.deliveryAssigned
      (assignedPayload deliveryId delivery driverId assignmentId now) := by
  rw [names]
  exact (accepted_assigned rfl present).contracted

/-- The event of a status, of which one is spoiled. -/
theorem status_contracted (names : env.wsEvents = .registered) {dto : UpdateDeliveryStatusDto}
    (named : Named delivery.sellerOrderId delivery.channelId)
    (event : vendureEventType env.wsEvents dto.status = some eventType)
    (spoils : dto.status = "ASSIGNED" → spoiled) :
    Contracted spoiled eventType (statusPayload deliveryId delivery dto) := by
  rw [names] at event
  unfold vendureEventType at event
  split at event
  · rename_i assigned
    cases event
    exact .inr ⟨spoils assigned, driverless_assigned rfl⟩
  · cases event
    exact (accepted_forwarded (by decide)).contracted
  · cases event
    exact (accepted_forwarded (by decide)).contracted
  · cases event
    exact (accepted_forwarded (by decide)).contracted
  · cases event
    exact (accepted_cancelled rfl rfl named).contracted
  · cases event

private theorem assignDriver_contracts (names : env.wsEvents = .registered) (present : driverId ≠ "") :
    (assignDriver env amb deliveryId driverId assignmentId).Writes (ContractRow spoiled) := by
  refine writes_bind (writes_transaction (contracts_lockDelivery trivial fun row named => ?_))
    fun _ => trivial
  refine contracts_saveDelivery named ?_
  refine writes_bind (writes_bind (contracts_createEvent _ _) fun _ => trivial) fun _ => ?_
  exact writes_bind (contracts_publish _ _ (assigned_contracted names present)) fun _ => trivial

theorem updateStatus_contracts (names : env.wsEvents = .registered) {dto : UpdateDeliveryStatusDto}
    (spoils : dto.status = "ASSIGNED" → spoiled) :
    (updateStatus env amb deliveryId dto).Writes (ContractRow spoiled) := by
  refine writes_bind (writes_transaction (contracts_lockDelivery trivial fun row named => ?_))
    fun _ => trivial
  dsimp only
  split
  · trivial
  have named' := transition_named amb.now dto (mapStringToDeliveryStatus dto.status) row.entity named
  refine contracts_throwIf (contracts_saveDelivery named' ?_)
  refine writes_bind (contracts_createEvent _ _) fun event => ?_
  refine writes_bind (contracts_notify _ _) fun _ => writes_bind ?_ fun _ => trivial
  unfold publishStatus
  split
  · exact contracts_publish _ _ (status_contracted names named' ‹_› spoils)
  · trivial

private theorem verifyOtp_contracts (names : env.wsEvents = .registered) :
    (verifyOtp env amb deliveryId otp proofUrl driverLat driverLon).Writes (ContractRow spoiled) := by
  refine writes_bind (writes_transaction (contracts_lockDelivery trivial fun row named => ?_))
    fun _ => trivial
  dsimp only
  split
  · trivial
  cases truthy row.entity.deliveryOtp.value? with
  | none => trivial
  | some deliveryOtp =>
    refine contracts_throwIf (contracts_throwIf ?_)
    split
    · exact contracts_saveDelivery named trivial
    · refine contracts_saveDelivery named ?_
      refine writes_bind (contracts_createEvent _ _) fun event => ?_
      refine writes_bind (contracts_notify _ _) fun _ => writes_bind ?_ fun _ => trivial
      refine contracts_publish _ _ (accepted_forwarded ?_).contracted
      rw [names]
      decide

private theorem acceptOffer_contracts (names : env.wsEvents = .registered) (present : driverId ≠ "") :
    (OffersService.acceptOffer env amb offerId driverId acceptedAt).Writes (ContractRow spoiled) := by
  refine writes_transaction (writes_bind (fun _ _ => trivial) fun found => ?_)
  cases found with
  | none => trivial
  | some offer =>
    refine contracts_throwIf (contracts_throwIf (contracts_throwIf ?_))
    refine writes_bind (contracts_of_within check_within) fun capability => contracts_throwIf ?_
    refine writes_bind (contracts_of_within (saveOffer_within _ trivial)) fun _ => ?_
    refine writes_bind (contracts_of_within (updateOffers_within _ _ fun _ => trivial)) fun _ => ?_
    refine contracts_lockDelivery trivial fun row named => contracts_saveDelivery named ?_
    refine writes_bind (contracts_insert trivial) fun _ => ?_
    refine writes_bind (contracts_of_within (updateDriver_within _ trivial)) fun _ => ?_
    exact writes_bind (contracts_publish _ _ (assigned_contracted names present)) fun _ => trivial

private theorem stateMachineAcceptOffer_contracts (present : driverId ≠ "") :
    (DeliveryStateMachine.acceptOffer amb offerId driverId).Writes (ContractRow spoiled) := by
  refine writes_bind (writes_transaction (writes_bind (fun _ _ => trivial) fun found => ?_))
    fun _ => trivial
  split
  · refine contracts_throwIf (contracts_throwIf (contracts_lockDelivery trivial fun row named => ?_))
    refine writes_bind (contracts_throwIf (contracts_of_within (throwIf_within _))) fun _ => ?_
    refine contracts_throwIf (writes_bind (contracts_of_within (saveOffer_within _ trivial)) fun _ => ?_)
    refine contracts_saveDelivery named (writes_bind (contracts_insert trivial) fun _ => ?_)
    refine writes_bind (contracts_of_within (updateDriver_within _ trivial)) fun _ => ?_
    refine writes_bind (contracts_of_within (updateOffers_within _ _ fun _ => trivial)) fun _ => ?_
    have accepted {payload : OutboxPayload} (driver : payload.driverId = some driverId) :
        Accepted "DELIVERY_ASSIGNED_V1" payload := accepted_assigned driver present
    generalize "DELIVERY_ASSIGNED_V1" = eventType at accepted ⊢
    exact contracts_publish _ _ (accepted rfl).contracted
  · trivial

private theorem generateDeliveryOtp_contracts :
    (generateDeliveryOtp amb deliveryId).Writes (ContractRow spoiled) := by
  refine contracts_findOneWithEvents fun row events named => contracts_throwIf (contracts_throwIf ?_)
  rw [bind_eq, saveDeliveryNow_bind]
  refine contracts_find fun _ _ => contracts_throwIf fun found _ => ⟨fun stored saved => ?_, ?_⟩
  · obtain ⟨before, _, rfl⟩ := Option.map_eq_some_iff.mp saved
    exact named
  · refine writes_bind (contracts_of_touches ⟨trivial, fun found => ?_⟩) fun _ => trivial
    cases found <;> trivial

/-- Every call keeps the contract. -/
theorem request_contracts (names : env.wsEvents = .registered) {request : Request}
    (validated : request.Validated) (spoils : request.AssignsByStatus → spoiled) :
    (request.program env).Writes (ContractRow spoiled) := by
  obtain ⟨operation, amb⟩ := request
  cases operation with
  | create dto =>
    refine writes_bind (contracts_throwIf (writes_bind (writes_transaction ?_) fun _ => trivial))
      fun _ => trivial
    exact writes_bind (contracts_insert trivial) fun _ => contracts_insert validated
  | assignDriver deliveryId driverId assignmentId =>
    exact writes_bind (assignDriver_contracts names validated) fun _ => trivial
  | updateStatus deliveryId dto =>
    have spoils : dto.status = "ASSIGNED" → spoiled := fun assigned =>
      spoils ⟨deliveryId, dto, rfl, assigned⟩
    exact writes_bind (updateStatus_contracts names spoils) fun _ => trivial
  | verifyOtp deliveryId otp proofUrl driverLat driverLon =>
    exact writes_bind (verifyOtp_contracts names) fun _ => trivial
  | cancelDelivery deliveryId reason =>
    refine contracts_findOne fun row _ => ?_
    split
    · trivial
    · have other : (cancellation reason).status ≠ "ASSIGNED" := show "CANCELLED" ≠ "ASSIGNED" by decide
      exact writes_bind (updateStatus_contracts names fun same => absurd same other) fun _ => trivial
  | generateDeliveryOtp deliveryId => exact writes_bind generateDeliveryOtp_contracts fun _ => trivial
  | createOfferForDriver driverId deliveryId expiresInSeconds =>
    have offers : Key.Free (.offer amb.offerId) := trivial
    refine contracts_of_touches (touches_bind ?_ fun _ => trivial)
    exact OffersService.createOfferForDriver_touches offers driverId deliveryId expiresInSeconds
  | acceptOffer offerId driverId acceptedAt =>
    exact writes_bind (acceptOffer_contracts names validated) fun _ => trivial
  | stateMachineAcceptOffer offerId driverId => exact stateMachineAcceptOffer_contracts validated
  | rejectOffer offerId driverId reason =>
    refine contracts_of_touches (touches_bind ?_ fun _ => trivial)
    exact OffersService.rejectOffer_touches (fun _ => trivial) offerId driverId reason
  | expireOffers =>
    refine writes_bind (writes_transaction (contracts_of_within ?_)) fun _ => trivial
    exact updateOffers_within _ _ fun _ => trivial
  | updateDriverStatus driverId status =>
    refine writes_bind (writes_bind (contracts_find fun seen _ => ?_) fun driver => ?_) fun _ => trivial
    · cases Db.driver seen driverId <;> trivial
    · exact writes_bind (fun _ _ => ⟨fun _ _ => trivial, trivial⟩) fun _ => trivial

end Calls

section Runs
open Sample

variable {env : Env} {store : Db} {actions : List (Action Request)} {s' : Service}

/-- In any interleaving of validated calls, whatever stands in the outbox is accepted by its
handler, unless some call assigned a delivery by its status: the event of that always
fails. -/
theorem published_events_accepted (names : env.wsEvents = .registered)
    (start : store.All (ContractRow False))
    (validated : ∀ t request, .start t request ∈ actions → request.Validated)
    (ran : ({ store } : Service).run (Request.program env) actions = some s')
    (key : String) (event : OutboxEvent) (stored : s'.store.row (.outbox key) = some event) :
    Accepted event.eventType event.payload ∨ Driverless event.eventType event.payload ∧
      ∃ t request, .start t request ∈ actions ∧ request.AssignsByStatus := by
  have weaker : store.All (ContractRow (∃ t request, .start t request ∈ actions ∧
      Request.AssignsByStatus request)) := by
    intro k row held
    cases k with
    | delivery id => exact start (.delivery id) row held
    | outbox key => exact (start (.outbox key) row held).imp_right fun never => never.1.elim
    | _ => trivial
  have kept := System.valid_run (System.valid_initial weaker) (fun t request member =>
    request_contracts names (validated t request member) fun assigns => ⟨t, request, member, assigns⟩) ran
  rcases kept.rows (.outbox key) event stored with accepted | ⟨assigned, driverless⟩
  · exact .inl accepted
  · exact .inr ⟨driverless, assigned⟩

private theorem shop_contracted : Sample.shop.All (ContractRow False) := by
  refine Store.apply_all (fun k row held => by simp at held) fun write member => ?_
  simp only [List.mem_cons, List.not_mem_nil, or_false] at member
  rcases member with rfl | rfl | rfl | rfl
  · exact ⟨by decide, by decide⟩
  · exact ⟨by decide, by decide⟩
  · trivial
  · trivial

theorem published_events_accepted_shop : ∃ s', Sample.after Sample.shop handover = some s' ∧
    ∀ key event, s'.store.row (.outbox key) = some event → Accepted event.eventType event.payload := by
  obtain ⟨s', ran⟩ := Option.isSome_iff_exists.mp
    (show (Sample.after Sample.shop handover).isSome from by decide +kernel)
  have calls : ∀ t request, .start t request ∈ handover →
      request.Validated ∧ ¬ request.AssignsByStatus := by
    intro t request started
    simp only [handover, alone, List.replicate, List.cons_append, List.nil_append, List.mem_cons,
      List.not_mem_nil, or_false, Action.start.injEq, reduceCtorEq, false_or] at started
    rcases started with ⟨_, rfl⟩ | ⟨_, rfl⟩ | ⟨_, rfl⟩
    · exact ⟨by simp [Request.Validated], by simp [Request.AssignsByStatus]⟩
    · exact ⟨trivial, by simp [Request.AssignsByStatus]⟩
    · exact ⟨trivial, by simp [Request.AssignsByStatus]⟩
  refine ⟨s', ran, fun key event stored => ?_⟩
  rcases published_events_accepted rfl shop_contracted (fun t request started => (calls t request started).1)
    ran key event stored with accepted | ⟨_, t, request, started, assigns⟩
  · exact accepted
  · exact absurd assigns (calls t request started).2

end Runs

end DriverMicroServices
