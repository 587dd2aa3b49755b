import DriverMicroServices.Handlers
import DriverMicroServices.Sequential

/-! What the shop is told of a failed or cancelled delivery. `updateStatus` puts
the failure under `failure`, and the handlers read `reason` and `failedAt`. -/
namespace DriverMicroServices
open Transactions Program

/-- The row of the outbox is the call's own. -/
def Published (before after : Db) (key : String) (event : OutboxEvent) : Prop :=
  before.row (.outbox key) = none ∧ after.row (.outbox key) = some event

/-- The one webhook carries the code, the reason and the time that are stored. -/
def FailureIntact (webhooks : List Webhook) (stored : Delivery) : Prop :=
  ∃ sellerOrderId channelId failure, webhooks = [.deliveryFailed sellerOrderId channelId failure] ∧
    stored.failureCode = some failure.code ∧ stored.failureReason = some failure.reason ∧
    stored.failedAt = failure.occurredAt

/-- The one webhook carries the reason that is stored. -/
def CancellationIntact (webhooks : List Webhook) (stored : Delivery) : Prop :=
  ∃ sellerOrderId channelId reason, webhooks = [.deliveryCancelled sellerOrderId channelId reason] ∧
    stored.failureReason = reason

section Forwarding

variable {env : Env} {amb : Ambient} {deliveryId : Uuid} {dto : UpdateDeliveryStatusDto}

/-- A call in sequence with another, run alone: where the first returned, the
second ran. -/
theorem exec_bind {program : Call α} {f : α → Call β} {session left : Session Row} {value : β}
    (ran : (program.bind f).exec session = some (.ok value, left)) :
    ∃ first middle, program.exec session = some (.ok first, middle) ∧
      (f first).exec middle = some (.ok value, left) := by
  rw [Program.bind, exec_onRet] at ran
  obtain ⟨⟨result, middle⟩, began, went⟩ := Option.bind_eq_some_iff.mp ran
  cases result with
  | error error => cases went
  | ok first => exact ⟨first, middle, began, went⟩

/-- A transaction that returned leaves what its body saw. -/
theorem exec_returned {body : Call α} {session left : Session Row} {value : α}
    (ran : body.transaction.exec session = some (.ok value, left)) :
    ∃ middle, body.exec session = some (.ok value, middle) ∧ left = { store := middle.seen } := by
  rw [exec_transaction] at ran
  obtain ⟨⟨result, middle⟩, began, went⟩ := Option.map_eq_some_iff.mp ran
  cases result with
  | error error => cases went
  | ok value =>
    cases went
    exact ⟨middle, began, rfl⟩

/-- A publication inside a transaction leaves the outbox, or adds its event. -/
theorem publish_seen {session left : Session Row} {eventType : String} {payload : OutboxPayload}
    {now : Time} (ran : (publish true eventType payload now).exec session = some (.ok (), left)) :
    left.seen = session.seen ∨ left.seen = session.seen.set
      (.outbox (generateIdempotencyKey eventType payload now)) { eventType, payload, createdAt := now } := by
  unfold publish throwIf at ran
  split at ran
  · cases ran
  · simp only [find, bind_eq, pure_eq, Program.bind, onRet, exec, ↓reduceIte] at ran
    split at ran
    · cases ran
      exact .inl rfl
    · unfold DriverMicroServices.insert at ran
      simp only [exec] at ran
      split at ran
      · cases ran
      · simp only [exec, List.mem_cons, true_or, ↓reduceIte, Option.some.injEq, Prod.mk.injEq] at ran
        rw [← ran.2]
        exact .inr (by simp [Session.seen])

private theorem throwIf_seen [Decidable condition] {session left : Session Row} {value : Unit}
    (ran : (throwIf condition exception).exec session = some (.ok value, left)) :
    left.seen = session.seen := by
  unfold throwIf at ran
  split at ran <;> cases ran
  rfl

private theorem saveDelivery_seen {session left : Session Row} {value : Unit} {row : Delivery}
    (found : Db.delivery session.seen deliveryId = some row)
    (ran : (saveDelivery deliveryId entity).exec session = some (.ok value, left)) :
    left.seen = session.seen.set (.delivery deliveryId) (entity.saveOver row) := by
  have view : session.view (.delivery deliveryId) = some row := found
  unfold saveDelivery at ran
  simp only [exec, view, List.mem_cons, true_or, ↓reduceIte, Option.some.injEq, Prod.mk.injEq] at ran
  rw [← ran.2]
  simp [Session.seen]

private theorem createEvent_seen {session left : Session Row} {created : DeliveryEvent}
    (ran : (createEvent eventId event).exec session = some (.ok created, left)) :
    created = event ∧ left.seen = session.seen.set (.deliveryEvent eventId) event := by
  obtain ⟨_, middle, inserted, ended⟩ := exec_bind ran
  cases ended
  unfold DriverMicroServices.insert at inserted
  simp only [exec] at inserted
  split at inserted
  · cases inserted
  · simp only [exec, List.mem_cons, true_or, ↓reduceIte, Option.some.injEq, Prod.mk.injEq] at inserted
    rw [← inserted.2]
    exact ⟨rfl, by simp [Session.seen]⟩

/-- The events of these statuses are not announced as proofs. -/
theorem notify_silent {event : DeliveryEvent} {delivery : DeliveryEntity} {now : Time}
    (ends : event.eventType = .failed ∨ event.eventType = .cancelled) :
    notify eventId event deliveryId delivery now = .ret (.ok ()) := by
  unfold notify
  cases delivery.driverId.value? with
  | none => rfl
  | some driverId => rcases ends with ends | ends <;> simp [ends]

/-- A failure or a cancellation that published an event: the row it found and
stored, and the event. -/
theorem updateStatus_publishes {db db' : Db} {settled : Settled}
    (ends : dto.status = "FAILED" ∨ dto.status = "CANCELLED")
    (called : (updateStatus env amb deliveryId dto).call db = some (.ok settled, db'))
    (published : Published db db' key event) :
    ∃ row eventType, db.delivery deliveryId = some row ∧
      vendureEventType env.wsEvents dto.status = some eventType ∧
      Db.delivery db' deliveryId = some ((transition amb.now dto
        (mapStringToDeliveryStatus dto.status) row.entity).saveOver row) ∧
      event =
        { eventType, createdAt := amb.now
          payload := statusPayload deliveryId (transition amb.now dto
            (mapStringToDeliveryStatus dto.status) row.entity) dto } := by
  obtain ⟨⟨result, left⟩, ran, shape⟩ := Option.map_eq_some_iff.mp called
  cases shape
  obtain ⟨delivery, middle, whole, ended⟩ := exec_bind ran
  cases ended
  obtain ⟨middle, body, rfl⟩ := exec_returned whole
  obtain ⟨absent, stored⟩ := published
  obtain ⟨found?, locked, lock, body⟩ := exec_bind body
  cases lock
  cases found : Db.delivery db deliveryId with
  | none =>
    have view : Session.view { store := db } (.delivery deliveryId) = none := found
    rw [view] at body
    cases body
  | some row =>
    have view : Session.view { store := db } (.delivery deliveryId) = some row := found
    rw [view] at body
    dsimp only [Option.map_some] at body
    split at body
    · cases body
      exact absurd stored (by simp [Session.seen, absent])
    · obtain ⟨_, _, allowed, body⟩ := exec_bind body
      obtain ⟨_, _, saved, body⟩ := exec_bind body
      obtain ⟨created, logged, event, body⟩ := exec_bind body
      obtain ⟨_, _, notified, body⟩ := exec_bind body
      obtain ⟨_, _, published, body⟩ := exec_bind body
      cases body
      have silent : mapDeliveryStatusToEventType (mapStringToDeliveryStatus dto.status) = .failed ∨
          mapDeliveryStatusToEventType (mapStringToDeliveryStatus dto.status) = .cancelled := by
        rcases ends with ends | ends <;>
          simp [ends, mapStringToDeliveryStatus, mapDeliveryStatusToEventType]
      have before := throwIf_seen allowed
      have after := saveDelivery_seen (by rw [before]; exact found) saved
      obtain ⟨rfl, evented⟩ := createEvent_seen event
      rw [notify_silent silent] at notified
      cases notified
      rw [after, before] at evented
      have kept : ∀ key, logged.seen.row (.outbox key) = db.row (.outbox key) :=
        fun key => by rw [evented, Store.set_row_ne _ _ (by simp), Store.set_row_ne _ _ (by simp)]; rfl
      have saved : Db.delivery logged.seen deliveryId = some ((transition amb.now dto
          (mapStringToDeliveryStatus dto.status) row.entity).saveOver row) := by
        rw [evented, Db.delivery_set_other _ _ (by simp), Db.delivery_set, if_pos rfl]
      unfold publishStatus at published
      split at published
      · rename_i eventType named
        rcases publish_seen published with same | added
        · rw [same, kept, absent] at stored
          cases stored
        · rw [added] at stored
          refine ⟨row, eventType, rfl, named, ?_, ?_⟩
          · rw [added, Db.delivery_set_other _ _ (by simp), saved]
          · by_cases own : key = generateIdempotencyKey eventType
                (statusPayload deliveryId (transition amb.now dto
                  (mapStringToDeliveryStatus dto.status) row.entity) dto) amb.now
            · rw [own, Store.set_row_self, Option.some.injEq] at stored
              exact stored.symm
            · rw [Store.set_row_ne _ _ (by simpa using own), kept, absent] at stored
              cases stored
      · cases published
        rw [kept, absent] at stored
        cases stored

/-- A property that is missing keeps what the row holds. -/
theorem ofDto_saveOver (given stored : Option α) :
    (Column.ofDto given).saveOver stored = given.or stored := by
  cases given <;> rfl

/-- What the failure handler sends: a fixed code, a fixed reason and its own
clock. -/
theorem handle_failed {hamb : HandlerAmbient} {event : Event}
    (named : event.eventType = "DELIVERY_FAILED_V1") (reason : event.payload.reason = none)
    (failedAt : event.payload.failedAt = none)
    (sent : HandlerRegistry.handle hamb event = .ok webhooks) :
    webhooks = [.deliveryFailed event.payload.sellerOrderId event.payload.channelId
      { code := "DELIVERY_FAILED", reason := "Unknown failure", occurredAt := some hamb.now }] := by
  obtain ⟨id, eventType, payload, version⟩ := event
  subst named
  simp only at reason failedAt
  have routed : HandlerRegistry.getHandler "DELIVERY_FAILED_V1" = some .deliveryStatusForwarding := by
    decide
  simp only [HandlerRegistry.handle, routed, EventHandler.handle,
    DeliveryStatusForwardingHandler.handle, DeliveryStatusForwardingHandler.handleDeliveryFailed,
    sendToVendure, reason, failedAt] at sent
  split at sent <;> cases sent
  rfl

/-- What the cancellation handler sends: a fixed reason. -/
theorem handle_cancelled {hamb : HandlerAmbient} {event : Event}
    (named : event.eventType = "DELIVERY_CANCELLED_V1") (reason : event.payload.reason = none)
    (sent : HandlerRegistry.handle hamb event = .ok webhooks) :
    ∃ sellerOrderId channelId, webhooks =
      [.deliveryCancelled sellerOrderId channelId (some "Cancelled by driver or system")] := by
  obtain ⟨id, eventType, payload, version⟩ := event
  subst named
  simp only at reason
  have routed : HandlerRegistry.getHandler "DELIVERY_CANCELLED_V1" = some .deliveryCancelled := by
    decide
  simp only [HandlerRegistry.handle, routed, EventHandler.handle] at sent
  unfold DeliveryCancelledHandler.handle at sent
  have valid : ¬ "DELIVERY_CANCELLED_V1" ∉ DeliveryCancelledHandler.validEventTypes := by decide
  have given : requireEventType ⟨id, "DELIVERY_CANCELLED_V1", payload, version⟩ = .ok () := by
    simp [requireEventType]
  rw [given] at sent
  simp only [if_neg valid] at sent
  cases order : truthy payload.sellerOrderId with
  | none =>
    rw [order] at sent
    cases sent
  | some sellerOrderId =>
    cases channel : truthy payload.channelId with
    | none =>
      rw [order, channel] at sent
      cases sent
    | some channelId =>
      refine ⟨some sellerOrderId, some channelId, ?_⟩
      rw [order, channel, reason] at sent
      change sendToVendure hamb _ = .ok webhooks at sent
      unfold sendToVendure at sent
      split at sent <;> cases sent
      rfl

/-- The handlers see neither the failure's code nor its reason nor its time: what
is stored reaches the shop exactly when it is what they send in any case. -/
theorem failure_information (names : env.wsEvents = .registered) {db db' : Db} {settled : Settled}
    {row stored : Delivery}
    (called : (updateStatus env amb deliveryId dto).call db = some (.ok settled, db'))
    (found : db.delivery deliveryId = some row) (left : db'.delivery deliveryId = some stored)
    (published : Published db db' key event) {hamb : HandlerAmbient} {id : Nat}
    (sent : HandlerRegistry.handle hamb (event.event id) = .ok webhooks) :
    (dto.status = "FAILED" → (FailureIntact webhooks stored ↔
      dto.failureCode.or row.failureCode = some "DELIVERY_FAILED" ∧
      dto.failureReason.or row.failureReason = some "Unknown failure" ∧ hamb.now = amb.now)) ∧
    (dto.status = "CANCELLED" → (CancellationIntact webhooks stored ↔
      dto.failureReason = some "Cancelled by driver or system")) := by
  constructor
  · intro failed
    obtain ⟨row', eventType, found', named, saved, rfl⟩ :=
      updateStatus_publishes (.inl failed) called published
    rw [found] at found'
    cases found'
    rw [left, Option.some.injEq] at saved
    have type : eventType = "DELIVERY_FAILED_V1" := by
      simpa [failed, names, vendureEventType, WsEvents.registered] using named.symm
    subst type
    rw [handle_failed rfl rfl rfl sent]
    have code : stored.failureCode = dto.failureCode.or row.failureCode := by
      rw [saved, failed, ← ofDto_saveOver]
      rfl
    have reason : stored.failureReason = dto.failureReason.or row.failureReason := by
      rw [saved, failed, ← ofDto_saveOver]
      rfl
    have failedAt : stored.failedAt = some amb.now := by
      rw [saved, failed]
      rfl
    constructor
    · rintro ⟨_, _, failure, same, intact⟩
      cases same
      rw [code, reason, failedAt, Option.some.injEq] at intact
      exact ⟨intact.1, intact.2.1, intact.2.2.symm⟩
    · rintro ⟨sameCode, sameReason, sameTime⟩
      refine ⟨_, _, _, rfl, code.trans sameCode, reason.trans sameReason, ?_⟩
      rw [failedAt, sameTime]
  · intro cancelled
    obtain ⟨row', eventType, found', named, saved, rfl⟩ :=
      updateStatus_publishes (.inr cancelled) called published
    rw [found] at found'
    cases found'
    rw [left, Option.some.injEq] at saved
    have type : eventType = "DELIVERY_CANCELLED_V1" := by
      simpa [cancelled, names, vendureEventType, WsEvents.registered] using named.symm
    subst type
    obtain ⟨sellerOrderId, channelId, rfl⟩ := handle_cancelled rfl rfl sent
    have reason : stored.failureReason = some ((truthy dto.failureReason).getD "Cancelled") := by
      rw [saved, cancelled]
      rfl
    constructor
    · rintro ⟨_, _, told, same, intact⟩
      cases same
      rw [reason, Option.some.injEq] at intact
      cases given : truthy dto.failureReason with
      | none => simp [given] at intact
      | some text =>
        rw [given] at intact
        exact (truthy_some given).trans (congrArg some intact)
    · intro given
      refine ⟨_, _, _, rfl, reason.trans ?_⟩
      rw [given]
      rfl

end Forwarding

section Samples
open Sample

/-- A failed delivery attempt and the handling of its event at time 7. -/
structure Reported (code reason : String) (settled : Settled) (after : Db) (stored : Delivery)
    (event : OutboxEvent) (webhooks : List Webhook) : Prop where
  called : (updateStatus env (ambient 0 7) "D1"
    { status := "FAILED", failureCode := some code, failureReason := some reason }).call assigned =
      some (.ok settled, after)
  left : after.delivery "D1" = some stored
  published : Published assigned after "DELIVERY_FAILED_V1:order:S1" event
  sent : HandlerRegistry.handle { now := 7 } (event.event 1) = .ok webhooks

/-- The same, to be computed. -/
def report (code reason : String) : Option (Delivery × List Webhook) := do
  let (answer, after) ← (updateStatus env (ambient 0 7) "D1"
    { status := "FAILED", failureCode := some code, failureReason := some reason }).call assigned
  let _ ← answer.toOption
  let stored ← Db.delivery after "D1"
  let event ← after.row (.outbox "DELIVERY_FAILED_V1:order:S1")
  let webhooks ← (HandlerRegistry.handle { now := 7 } (event.event 1)).toOption
  return (stored, webhooks)

theorem report_reported (computed : report code reason = some (stored, webhooks)) :
    ∃ settled after event, Reported code reason settled after stored event webhooks := by
  unfold report at computed
  obtain ⟨⟨answer, after⟩, called, computed⟩ := Option.bind_eq_some_iff.mp computed
  obtain ⟨settled, ok, computed⟩ := Option.bind_eq_some_iff.mp computed
  obtain ⟨stored', left, computed⟩ := Option.bind_eq_some_iff.mp computed
  obtain ⟨event, published, computed⟩ := Option.bind_eq_some_iff.mp computed
  obtain ⟨webhooks', sent, computed⟩ := Option.bind_eq_some_iff.mp computed
  cases computed
  cases answer with
  | error error => cases ok
  | ok settled' =>
    refine ⟨settled', after, event, called, left, ⟨by decide, published⟩, ?_⟩
    revert sent
    cases HandlerRegistry.handle { now := 7 } (event.event 1) with
    | error error => exact fun sent => by cases sent
    | ok webhooks => exact fun sent => by cases sent; rfl

theorem failure_information_shop :
    ∃ settled after stored event webhooks,
      Reported "DELIVERY_FAILED" "Unknown failure" settled after stored event webhooks ∧
      FailureIntact webhooks stored := by
  have computes : (report "DELIVERY_FAILED" "Unknown failure").isSome = true := by decide
  obtain ⟨⟨stored, webhooks⟩, computed⟩ := Option.isSome_iff_exists.mp computes
  obtain ⟨settled, after, event, reported⟩ := report_reported computed
  refine ⟨settled, after, stored, event, webhooks, reported, ?_⟩
  have found : Db.delivery assigned "D1" = some { (order "S1").row 0 with
      driverId := some "x", status := .assigned, assignedAt := some 5
      deliveryOtp := some "100000" } := by decide
  exact ((failure_information rfl reported.called found reported.left reported.published
    reported.sent).1 rfl).mpr ⟨rfl, rfl, rfl⟩

/-- A timeout is reported to the shop as a failed delivery with no known
reason. -/
theorem timeout_reported_as_unknown :
    ∃ settled after stored event webhooks,
      Reported "TIMEOUT" "Customer absent" settled after stored event webhooks ∧
      stored.failureCode = some "TIMEOUT" ∧ stored.failureReason = some "Customer absent" ∧
      ¬ FailureIntact webhooks stored := by
  have computes : (report "TIMEOUT" "Customer absent").map (fun done =>
      (done.1.failureCode, done.1.failureReason, done.2)) =
      some (some "TIMEOUT", some "Customer absent",
        [.deliveryFailed (some "S1") (some "channel")
          { code := "DELIVERY_FAILED", reason := "Unknown failure", occurredAt := some 7 }]) := by
    decide
  obtain ⟨⟨stored, webhooks⟩, computed, shape⟩ := Option.map_eq_some_iff.mp computes
  obtain ⟨settled, after, event, reported⟩ := report_reported computed
  obtain ⟨code, reason, rfl⟩ := by simpa only [Prod.mk.injEq] using shape
  refine ⟨settled, after, stored, event, _, reported, code, reason, ?_⟩
  rintro ⟨_, _, failure, same, intact, _⟩
  cases same
  rw [code] at intact
  exact absurd intact (by decide)

end Samples

end DriverMicroServices
