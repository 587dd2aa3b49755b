import DriverMicroServices.SafeDispatch
import DriverMicroServices.Sequential

/-! The three mutators of a delivery when a step of theirs fails. The transaction
takes back what it has written, but two things are not part of it: the proof event
is stored on a connection of its own, and the projection hooks run when the
transaction has committed, in the promise that the caller waits for. -/
namespace DriverMicroServices
open Transactions Program

/-- Which steps of a call fail. -/
structure StepFaults where
  save : Fault := .none
  event : Fault := .none
  notification : Fault := .none
  publish : Fault := .none
  hook : Projection → Fault := fun _ => .none

/-! ## The calls -/

/-- The payload that `notify` publishes, when it publishes one. -/
def proofPayload (eventId : Uuid) (event : DeliveryEvent) (deliveryId : Uuid)
    (delivery : DeliveryEntity) : Option OutboxPayload :=
  match delivery.driverId.value? with
  | none => none
  | some driverId =>
    let payload (proofType : String) : OutboxPayload :=
      { driverId := some driverId, deliveryId := some deliveryId, proofId := some eventId
        proofType := some proofType, acceptedAt := some event.createdAt }
    match event.eventType with
    | .pickedUp => some (payload "PICKUP")
    | .delivered => some (payload "DROPOFF")
    | _ => none

/-- What a mutator does with the delivery that it has locked. -/
inductive Plan where
  | refuse (exception : Exception)
  /-- Nothing is left to do. -/
  | settled (delivery : DeliveryEntity)
  /-- A wrong password: the attempt is saved, and then the call throws. -/
  | miss (delivery : DeliveryEntity) (exception : Exception)
  | change (delivery : DeliveryEntity) (event : DeliveryEvent) (proof : Option OutboxPayload)
      (published : Option (String × OutboxPayload))

/-- A publication that may fail; there may be none. -/
def attemptPublish (inTransaction : Bool) (fault : Fault) (now : Time) :
    Option (String × OutboxPayload) → Call Unit
  | some (eventType, payload) => attempt fault (publish inTransaction eventType payload now)
  | none => pure ()

def proofAccepted (proof : Option OutboxPayload) : Option (String × OutboxPayload) :=
  proof.map ("PROOF_ACCEPTED_V1", ·)

def carryOut (faults : StepFaults) (amb : Ambient) (deliveryId : Uuid) : Plan → Call DeliveryEntity
  | .refuse exception => throw exception
  | .settled delivery => return delivery
  | .miss delivery exception => do
    attempt faults.save (saveDelivery deliveryId delivery)
    throw exception
  | .change delivery event proof published => do
    attempt faults.save (saveDelivery deliveryId delivery)
    discard <| attempt faults.event (createEvent amb.eventId event)
    attemptPublish false faults.notification amb.now (proofAccepted proof)
    attemptPublish true faults.publish amb.now published
    return delivery

/-- A mutator: the plan is carried out in a transaction, then the hooks run. -/
def mutate (faults : StepFaults) (amb : Ambient) (deliveryId : Uuid)
    (plan : Option DeliveryEntity → Plan) (hooks : DeliveryEntity → List Projection) :
    Call Settled := do
  let delivery ← transaction do
    let delivery ← lockDelivery deliveryId
    carryOut faults amb deliveryId (plan delivery)
  forEach (hooks delivery) fun projection => attempt (faults.hook projection) (pure ())
  return { delivery, projections := hooks delivery }

def assignPlan (env : Env) (amb : Ambient) (deliveryId driverId assignmentId : Uuid) :
    Option DeliveryEntity → Plan
  | none => .refuse (.notFound s!"Delivery with ID {deliveryId} not found")
  | some delivery =>
    let delivery := assignTo amb driverId delivery
    .change delivery
      { deliveryId, sellerOrderId := delivery.sellerOrderId, eventType := .assigned
        metadata := [("driverId", driverId), ("assignmentId", assignmentId)]
        createdAt := amb.now }
      none
      (some (env.wsEvents.deliveryAssigned,
        assignedPayload deliveryId delivery driverId assignmentId amb.now))

def statusPlan (env : Env) (amb : Ambient) (deliveryId : Uuid) (dto : UpdateDeliveryStatusDto) :
    Option DeliveryEntity → Plan
  | none => .refuse (.notFound s!"Delivery with ID {deliveryId} not found")
  | some delivery =>
    let statusEnum := mapStringToDeliveryStatus dto.status
    if delivery.status = statusEnum then .settled delivery
    else if statusEnum ∉ allowedTransitions delivery.status then
      .refuse (.conflict
        s!"Invalid state transition from {delivery.status.name} to {statusEnum.name}")
    else
      let delivery := transition amb.now dto statusEnum delivery
      let event : DeliveryEvent :=
        { deliveryId, sellerOrderId := delivery.sellerOrderId
          eventType := mapDeliveryStatusToEventType statusEnum, proofUrl := dto.proofUrl
          failureCode := dto.failureCode, failureReason := dto.failureReason
          createdAt := amb.now }
      .change delivery event (proofPayload amb.eventId event deliveryId delivery)
        ((vendureEventType env.wsEvents dto.status).map (·, statusPayload deliveryId delivery dto))

def otpPlan (env : Env) (amb : Ambient) (deliveryId : Uuid) (otp : String)
    (proofUrl : Option String) (driverLat driverLon : Option Rat) : Option DeliveryEntity → Plan
  | none => .refuse (.notFound s!"Delivery {deliveryId} not found")
  | some delivery =>
    if delivery.status = .delivered then .settled delivery
    else
      match truthy delivery.deliveryOtp.value? with
      | none => .refuse (.badRequest "No OTP active for this delivery")
      | some deliveryOtp =>
        let distKm := (geofenceKm env otp driverLat driverLon delivery).getD 0
        if delivery.otpLockedUntil.value?.any (amb.now < ·) then
          .refuse (.badRequest "OTP locked due to failed attempts. Please retry later.")
        else if maxDropoffRadiusKm < distKm then
          .refuse (.badRequest
            s!"Driver is {toFixed (distKm * 1000)}m from drop-off. Must be within 250m.")
        else if deliveryOtp ≠ otp then
          .miss (failedAttempt amb.now delivery) (.badRequest "Invalid OTP")
        else
          let delivery := completed amb.now proofUrl delivery
          let event : DeliveryEvent :=
            { deliveryId, sellerOrderId := delivery.sellerOrderId, eventType := .delivered, proofUrl
              createdAt := amb.now }
          .change delivery event (proofPayload amb.eventId event deliveryId delivery)
            (some (env.wsEvents.deliveryDropoffConfirmed,
              { sellerOrderId := some delivery.sellerOrderId, channelId := some delivery.channelId
                deliveryProofUrl := some ((proofUrl.filter isHttp).getD s!"proof://{deliveryId}")
                deliveredAt := delivery.deliveredAt.value? }))

/-- The three mutators. -/
inductive Mutator where
  | assignDriver (driverId assignmentId : Uuid)
  | updateStatus (dto : UpdateDeliveryStatusDto)
  | verifyOtp (otp : String) (proofUrl : Option String) (driverLat driverLon : Option Rat)

namespace Mutator

/-- The call with no step failing. -/
def call (env : Env) (amb : Ambient) (deliveryId : Uuid) : Mutator → Call Settled
  | .assignDriver driverId assignmentId =>
    DriverMicroServices.assignDriver env amb deliveryId driverId assignmentId
  | .updateStatus dto => DriverMicroServices.updateStatus env amb deliveryId dto
  | .verifyOtp otp proofUrl driverLat driverLon =>
    DriverMicroServices.verifyOtp env amb deliveryId otp proofUrl driverLat driverLon

def plan (env : Env) (amb : Ambient) (deliveryId : Uuid) :
    Mutator → Option DeliveryEntity → Plan
  | .assignDriver driverId assignmentId => assignPlan env amb deliveryId driverId assignmentId
  | .updateStatus dto => statusPlan env amb deliveryId dto
  | .verifyOtp otp proofUrl driverLat driverLon =>
    otpPlan env amb deliveryId otp proofUrl driverLat driverLon

def hooks (deliveryId : Uuid) : Mutator → DeliveryEntity → List Projection
  | .assignDriver _ _ => fun _ => [.recordAssignment deliveryId]
  | .updateStatus _ => statusHooks deliveryId
  | .verifyOtp _ _ _ _ => completionHooks deliveryId

/-- The call with the steps that fail. -/
def attempted (env : Env) (faults : StepFaults) (amb : Ambient) (deliveryId : Uuid)
    (mutator : Mutator) : Call Settled :=
  mutate faults amb deliveryId (mutator.plan env amb deliveryId) (mutator.hooks deliveryId)

end Mutator

/-! ### Without faults -/

@[simp] theorem attempt_none (step : Call α) : attempt .none step = step := rfl

private theorem notify_eq (eventId : Uuid) (event : DeliveryEvent) (deliveryId : Uuid)
    (delivery : DeliveryEntity) (now : Time) :
    notify eventId event deliveryId delivery now =
      attemptPublish false .none now (proofAccepted (proofPayload eventId event deliveryId delivery)) := by
  unfold notify proofPayload
  cases delivery.driverId.value? with
  | none => rfl
  | some driverId => cases event.eventType <;> rfl

private theorem publishStatus_eq (env : Env) (amb : Ambient) (deliveryId : Uuid) (delivery : DeliveryEntity)
    (dto : UpdateDeliveryStatusDto) :
    publishStatus env amb deliveryId delivery dto =
      attemptPublish true .none amb.now
        ((vendureEventType env.wsEvents dto.status).map (·, statusPayload deliveryId delivery dto)) := by
  unfold publishStatus
  cases vendureEventType env.wsEvents dto.status <;> rfl

private theorem forEach_pure (items : List β) :
    (forEach items fun _ => (pure () : Call Unit)) = .ret (.ok ()) := by
  induction items with
  | nil => rfl
  | cons item rest ih => exact ih

/-- A mutator is its plan, carried out. -/
private theorem mutate_eq {amb : Ambient} {deliveryId : Uuid} {plan : Option DeliveryEntity → Plan}
    {hooks : DeliveryEntity → List Projection} {body : Option DeliveryEntity → Call DeliveryEntity}
    (same : ∀ delivery, carryOut {} amb deliveryId (plan delivery) = body delivery) :
    mutate {} amb deliveryId plan hooks =
      (transaction ((lockDelivery deliveryId).bind body)).bind fun delivery =>
        .ret (.ok { delivery, projections := hooks delivery }) := by
  unfold mutate
  have hooked : ∀ delivery : DeliveryEntity,
      (forEach (hooks delivery) fun projection =>
        attempt (({} : StepFaults).hook projection) (pure () : Call Unit)) = .ret (.ok ()) :=
    fun delivery => forEach_pure (hooks delivery)
  simp only [bind_eq, hooked, funext same]
  rfl

/-- The event that is inserted is the one that is returned. -/
theorem discard_createEvent (id : Uuid) (event : DeliveryEvent) (f : DeliveryEvent → Call α) :
    ((discard (createEvent id event) : Call Unit).bind fun _ => f event) =
      (createEvent id event).bind f := by
  show ((createEvent id event).bind fun _ => .ret (.ok ())).bind (fun _ => f event) = _
  rw [bind_assoc, createEvent, bind_eq, bind_assoc, bind_assoc]
  rfl

/-- A change that announces its proof, without faults. -/
private theorem carryOut_change (amb : Ambient) (deliveryId : Uuid) (delivery : DeliveryEntity)
    (event : DeliveryEvent) (published : Option (String × OutboxPayload)) :
    carryOut {} amb deliveryId
        (.change delivery event (proofPayload amb.eventId event deliveryId delivery) published) =
      (saveDelivery deliveryId delivery).bind fun _ => (createEvent amb.eventId event).bind fun event =>
        (notify amb.eventId event deliveryId delivery amb.now).bind fun _ =>
          (attemptPublish true .none amb.now published).bind fun _ => .ret (.ok delivery) := by
  simp only [carryOut, attempt_none, bind_eq, notify_eq]
  refine congrArg (saveDelivery deliveryId delivery).bind (funext fun _ => ?_)
  exact discard_createEvent amb.eventId event fun event =>
    (attemptPublish false .none amb.now
      (proofAccepted (proofPayload amb.eventId event deliveryId delivery))).bind fun _ =>
        (attemptPublish true .none amb.now published).bind fun _ => .ret (.ok delivery)

/-- The calls with no step failing are the calls. -/
theorem attempted_faultless (env : Env) (amb : Ambient) (deliveryId : Uuid) (mutator : Mutator) :
    mutator.attempted env {} amb deliveryId = mutator.call env amb deliveryId := by
  cases mutator with
  | assignDriver driverId assignmentId =>
    refine mutate_eq fun delivery => ?_
    cases delivery <;> rfl
  | updateStatus dto =>
    refine mutate_eq fun delivery => ?_
    cases delivery with
    | none => rfl
    | some delivery =>
      simp only [Mutator.plan, statusPlan]
      by_cases repeated : delivery.status = mapStringToDeliveryStatus dto.status
      · rw [if_pos repeated, if_pos repeated]
        rfl
      rw [if_neg repeated, if_neg repeated]
      by_cases refused : mapStringToDeliveryStatus dto.status ∉ allowedTransitions delivery.status
      · rw [if_pos refused, throwIf, if_pos refused]
        rfl
      rw [if_neg refused, throwIf, if_neg refused, carryOut_change, publishStatus_eq]
      rfl
  | verifyOtp otp proofUrl driverLat driverLon =>
    refine mutate_eq fun delivery => ?_
    cases delivery with
    | none => rfl
    | some delivery =>
      simp only [Mutator.plan, otpPlan]
      by_cases delivered : delivery.status = .delivered
      · rw [if_pos delivered, if_pos delivered]
        rfl
      rw [if_neg delivered, if_neg delivered]
      cases truthy delivery.deliveryOtp.value? with
      | none => rfl
      | some deliveryOtp =>
        dsimp only
        by_cases locked : delivery.otpLockedUntil.value?.any (amb.now < ·) = true
        · rw [if_pos locked, throwIf, if_pos locked]
          rfl
        rw [if_neg locked, throwIf, if_neg locked]
        by_cases far : maxDropoffRadiusKm < (geofenceKm env otp driverLat driverLon delivery).getD 0
        · rw [if_pos far, throwIf, if_pos far]
          rfl
        rw [if_neg far, throwIf, if_neg far]
        by_cases wrong : deliveryOtp ≠ otp
        · rw [if_pos wrong, if_pos wrong]
          rfl
        · rw [if_neg wrong, if_neg wrong, carryOut_change]
          rfl

/-! ## The steps alone -/

section Steps

variable {base : Db} {session : Session Row} {deliveryId eventId : Uuid}

/-- The delivery has been written at most. -/
structure Saved (base : Db) (deliveryId : Uuid) (session : Session Row) : Prop where
  stored : session.store = base
  unheld : ∀ key, Key.outbox key ∉ session.held
  own : ∀ write ∈ session.buf, write.1 = .delivery deliveryId

/-- The event has been written, and nothing to the outbox. -/
structure Logged (base : Db) (eventId : Uuid) (session : Session Row) : Prop where
  stored : session.store = base
  unheld : ∀ key, Key.outbox key ∉ session.held
  unpublished : ∀ write ∈ session.buf, ∀ key, write.1 ≠ .outbox key
  logged : (session.seen.row (.deliveryEvent eventId)).isSome

theorem returns_attempt {fault : Fault} {step : Call α} {f : α → Call β}
    {post : Except Exception β → Session Row → Prop}
    (lost : ∀ message, fault = .before message → post (.error (.error message)) session)
    (ends : step.Returns (fun result left =>
      match result with
      | .ok value => (fault = .none → (f value).Returns post left) ∧
          ∀ message, fault = .after message → post (.error (.error message)) left
      | .error error => post (.error error) left) session) :
    ((attempt fault step).bind f).Returns post session := by
  cases fault with
  | none =>
    refine returns_bind (returns_mono ends fun result left held => ?_)
    cases result with
    | ok value => exact held.1 rfl
    | error error => exact held
  | before message => exact lost message rfl
  | after message =>
    refine returns_bind (returns_bind (returns_mono ends fun result left held => ?_))
    cases result with
    | ok value => exact held.2 message rfl
    | error error => exact held

theorem saveDelivery_ends (here : Saved base deliveryId session) (entity : DeliveryEntity) :
    (saveDelivery deliveryId entity).Returns (fun result left =>
      result = .ok () ∧ Saved base deliveryId left) session := by
  have unheld : ∀ key, Key.outbox key ∉ Key.delivery deliveryId :: session.held := by
    simpa using here.unheld
  unfold saveDelivery
  simp only [Returns]
  cases session.view (.delivery deliveryId) with
  | none => exact ⟨rfl, here.stored, unheld, here.own⟩
  | some row =>
    refine ⟨by simp, rfl, here.stored, unheld, fun write member => ?_⟩
    rcases List.mem_append.mp member with member | member
    · exact here.own write member
    · rw [List.mem_singleton.mp member]

private theorem createEvent_ends (here : Saved base deliveryId session) (eventId : Uuid)
    (event : DeliveryEvent) :
    (createEvent eventId event).Returns (fun result left =>
      match result with
      | .ok _ => base.row (.deliveryEvent eventId) = none ∧ Logged base eventId left
      | .error _ => base.row (.deliveryEvent eventId) ≠ none ∧ left.store = base) session := by
  have view : session.view (.deliveryEvent eventId) = base.row (.deliveryEvent eventId) := by
    rw [Session.view, here.stored]
    exact Store.apply_row_untouched _ _ fun write member => by simp [here.own write member]
  have unheld : ∀ key, Key.outbox key ∉ Key.deliveryEvent eventId :: session.held := by
    simpa using here.unheld
  unfold createEvent DriverMicroServices.insert
  simp only [bind_eq, Program.bind, onRet, Returns, view]
  cases free : base.row (.deliveryEvent eventId) with
  | some row => exact ⟨by simp, here.stored⟩
  | none =>
    refine ⟨by simp, rfl, here.stored, unheld, fun write member => ?_, ?_⟩
    · rcases List.mem_append.mp member with member | member
      · simp [here.own write member]
      · simp [List.mem_singleton.mp member]
    · simp [Session.seen]

/-- The rows once the publication on a connection of its own has run. -/
def announced (eventType : String) (payload : OutboxPayload) (now : Time) (store : Db) : Db :=
  store.autosave (.outbox (generateIdempotencyKey eventType payload now))
    (ifAbsent { eventType, payload, createdAt := now })

private theorem publishNow_ends (here : Logged base eventId session) (eventType : String)
    (payload : OutboxPayload) (now : Time) (valid : isValidVersionedEventType eventType = true) :
    (publish false eventType payload now).Returns (fun result left =>
      result = .ok () ∧ Logged (announced eventType payload now base) eventId left) session := by
  have elsewhere : ∀ db : Db, (announced eventType payload now db).row (.deliveryEvent eventId) =
      db.row (.deliveryEvent eventId) := fun db => Store.autosave_row_ne _ _ (by simp)
  have stored := here.stored
  unfold publish throwIf
  rw [if_neg (by simp [valid])]
  simp only [find, bind_eq, pure_eq, Program.bind, onRet, Returns]
  cases taken : session.store.row (.outbox (generateIdempotencyKey eventType payload now)) with
  | some row =>
    have same : announced eventType payload now base = base := by
      rw [announced, Store.autosave, ← stored, taken]
      rfl
    rw [same]
    exact ⟨rfl, here⟩
  | none =>
    refine ⟨here.unheld _, ?_⟩
    rw [taken]
    refine ⟨rfl, by rw [announced, stored], here.unheld, here.unpublished, ?_⟩
    have row : (session.store.apply session.buf).row (.deliveryEvent eventId) =
        ((announced eventType payload now session.store).apply session.buf).row
          (.deliveryEvent eventId) :=
      Store.apply_row_congr _ _ _ (elsewhere session.store).symm
    have logged := here.logged
    rw [Session.seen, row] at logged
    exact logged

private theorem publish_ends (here : Logged base eventId session) (eventType : String)
    (payload : OutboxPayload) (now : Time) :
    (publish true eventType payload now).Returns (fun result left =>
      left.store = base ∧ (left.seen.row (.deliveryEvent eventId)).isSome ∧
        (result = .ok () ↔ isValidVersionedEventType eventType = true)) session := by
  have logged := here.logged
  unfold publish throwIf
  cases valid : isValidVersionedEventType eventType with
  | false => exact ⟨here.stored, logged, by simp⟩
  | true =>
    simp only [find, bind_eq, pure_eq, Program.bind, onRet, Returns, Bool.not_true,
      Bool.false_eq_true, if_false, if_true]
    cases taken : session.store.row (.outbox (generateIdempotencyKey eventType payload now)) with
    | some row => exact ⟨here.stored, logged, by simp⟩
    | none =>
      have view : session.view (.outbox (generateIdempotencyKey eventType payload now)) = none := by
        rw [Session.view, Store.apply_row_untouched _ _ fun write member => here.unpublished write member _]
        exact taken
      simp only [Option.isSome_none, Bool.false_eq_true, if_false, DriverMicroServices.insert, Returns]
      rw [view]
      refine ⟨by simp, here.stored, ?_, by simp⟩
      simp only [Session.seen, Store.apply_append]
      exact Store.apply_isSome _ _ logged

end Steps

/-! ## A whole call -/

/-- The rows that the caller may look at after an error. -/
def Key.OfRecord : Key → Prop
  | .delivery _ | .deliveryEvent _ | .outbox _ => True
  | _ => False

/-- The deliveries, their events and the outbox are as before. -/
def SameRecords (before after : Db) : Prop := ∀ k, k.OfRecord → after.row k = before.row k

/-- A step that is not attempted does not fail. -/
def Fault.spares (fault : Fault) (step : Option α) : Bool := step.isNone || fault = .none

@[simp] theorem Fault.spares_nothing (fault : Fault) :
    fault.spares (Option.none : Option α) = true := rfl

@[simp] theorem Fault.spares_step (fault : Fault) (step : α) :
    fault.spares (Option.some step) = decide (fault = .none) := rfl

namespace Plan

variable (faults : StepFaults) (amb : Ambient) (store : Db)

/-- The delivery and its event are written. -/
def logs : Plan → Bool
  | .change _ _ _ _ => faults.save = .none && faults.event = .none &&
      (store.row (.deliveryEvent amb.eventId)).isNone
  | _ => false

/-- The proof is stored: there is one, the statement is not lost, and the outbox
has no row with its key. -/
def announces : Plan → Bool
  | .change _ _ (some payload) _ =>
    (store.row (.outbox (generateIdempotencyKey "PROOF_ACCEPTED_V1" payload amb.now))).isNone &&
      match faults.notification with
      | .before _ => false
      | _ => true
  | _ => false

/-- The notification and the publication do not fail. -/
def publishes : Plan → Bool
  | .change _ _ proof published => faults.notification.spares proof &&
      faults.publish.spares published && published.all fun event => isValidVersionedEventType event.1
  | _ => false

/-- The transaction commits a change. -/
def commits (plan : Plan) : Bool := plan.logs faults amb store && plan.publishes faults

/-- The transaction is rolled back, and the proof stays. -/
def leaks (plan : Plan) : Bool :=
  plan.logs faults amb store && plan.announces faults amb store && !plan.publishes faults

/-- A hook of the change fails. -/
def hookFails (hooks : DeliveryEntity → List Projection) : Plan → Bool
  | .change delivery _ _ _ => (hooks delivery).any fun projection => faults.hook projection ≠ .none
  | _ => false

end Plan

/-- The call, no step of which fails, commits what it does to the delivery as the database
has it. -/
def Mutator.commits (env : Env) (amb : Ambient) (deliveryId : Uuid) (db : Db) (mutator : Mutator) :
    Bool :=
  (mutator.plan env amb deliveryId ((db.delivery deliveryId).map Delivery.entity)).commits {} amb db

/-- No step fails that the transaction cannot take back: no hook after a change
that has been committed, and neither the notification nor the publication once the
proof is stored. -/
def Contained (faults : StepFaults) (amb : Ambient) (store : Db) (plan : Plan)
    (hooks : DeliveryEntity → List Projection) : Prop :=
  plan.leaks faults amb store = false ∧
    (plan.commits faults amb store = true → plan.hookFails faults hooks = false)

/-- How the body of the transaction ends. -/
def Ends (faults : StepFaults) (amb : Ambient) (store : Db) (plan : Plan)
    (result : Except Exception DeliveryEntity) (left : Session Row) : Prop :=
  match result with
  | .ok delivery => (plan = .settled delivery ∧ SameRecords store left.seen) ∨
      (∃ event proof published, plan = .change delivery event proof published ∧
        plan.commits faults amb store = true ∧
        (left.seen.row (.deliveryEvent amb.eventId)).isSome)
  | .error _ => plan.commits faults amb store = false ∧
      (SameRecords store left.store ↔ plan.leaks faults amb store = false)

section Whole

variable {faults : StepFaults} {amb : Ambient} {store : Db} {deliveryId : Uuid}

theorem sameRecords_refl (store : Db) : SameRecords store store := fun _ _ => rfl

/-- The proof leaves a row that was not there, or nothing. -/
theorem sameRecords_announced (eventType : String) (payload : OutboxPayload) (now : Time) :
    SameRecords store (announced eventType payload now store) ↔
      (store.row (.outbox (generateIdempotencyKey eventType payload now))).isNone = false := by
  cases taken : store.row (.outbox (generateIdempotencyKey eventType payload now)) with
  | some row =>
    have same : announced eventType payload now store = store := by
      rw [announced, Store.autosave, taken]
      rfl
    simp [same, sameRecords_refl]
  | none =>
    refine iff_of_false (fun same => ?_) (by simp)
    have row := same (.outbox (generateIdempotencyKey eventType payload now)) trivial
    rw [announced, Store.autosave_row_self, taken] at row
    cases row

/-- Before the event is written nothing is stored. -/
theorem ends_unlogged {plan : Plan} {error : Exception} {left : Session Row}
    (unlogged : plan.logs faults amb store = false) (same : left.store = store) :
    Ends faults amb store plan (.error error) left := by
  refine ⟨by simp [Plan.commits, unlogged], ?_⟩
  rw [same]
  simp [sameRecords_refl, Plan.leaks, unlogged]

/-- Where a step after the event fails, what is left is the proof. -/
theorem ends_unpublished {plan : Plan} {error : Exception} {left : Session Row}
    (logged : plan.logs faults amb store = true) (failed : plan.publishes faults = false)
    (rows : SameRecords store left.store ↔ plan.announces faults amb store = false) :
    Ends faults amb store plan (.error error) left := by
  refine ⟨by simp [Plan.commits, failed], ?_⟩
  rw [rows]
  simp [Plan.leaks, logged, failed]

theorem publication_ends {base : Db} {session : Session Row} {delivery : DeliveryEntity}
    {event : DeliveryEvent} {proof : Option OutboxPayload}
    {published : Option (String × OutboxPayload)}
    (logged : (Plan.change delivery event proof published).logs faults amb store = true)
    (notified : faults.notification.spares proof = true)
    (rows : SameRecords store base ↔
      (Plan.change delivery event proof published).announces faults amb store = false)
    (here : Logged base amb.eventId session) :
    ((attemptPublish true faults.publish amb.now published).bind fun _ => .ret (.ok delivery)).Returns
      (Ends faults amb store (.change delivery event proof published)) session := by
  have failed : ∀ {left : Session Row} {error : Exception}, left.store = base →
      (Plan.change delivery event proof published).publishes faults = false →
      Ends faults amb store (.change delivery event proof published) (.error error) left := by
    intro left error same unpublished
    exact ends_unpublished logged unpublished (by rw [same, rows])
  have done : ∀ {left : Session Row}, (left.seen.row (.deliveryEvent amb.eventId)).isSome →
      (Plan.change delivery event proof published).publishes faults = true →
      Ends faults amb store (.change delivery event proof published) (.ok delivery) left := by
    intro left recorded publishes
    exact .inr ⟨event, proof, published, rfl, by simp [Plan.commits, logged, publishes], recorded⟩
  cases published with
  | none => exact done here.logged (by simp [Plan.publishes, notified])
  | some entry =>
    obtain ⟨eventType, payload⟩ := entry
    refine returns_attempt (fun message lost => ?_)
      (returns_mono (publish_ends here eventType payload amb.now) fun result left held => ?_)
    · exact failed here.stored (by simp [Plan.publishes, lost])
    · obtain ⟨same, recorded, valid⟩ := held
      cases result with
      | error error =>
        have invalid : isValidVersionedEventType eventType = false := by simpa using valid
        exact failed same (by simp [Plan.publishes, invalid])
      | ok value =>
        have named : isValidVersionedEventType eventType = true := valid.mp rfl
        refine ⟨fun spared => ?_, fun message struck => ?_⟩
        · exact done recorded (by simp [Plan.publishes, notified, spared, named])
        · exact failed same (by simp [Plan.publishes, struck])

/-- The notification, and what follows it. -/
theorem notification_ends {session : Session Row} {delivery : DeliveryEntity}
    {event : DeliveryEvent} {proof : Option OutboxPayload}
    {published : Option (String × OutboxPayload)}
    (logged : (Plan.change delivery event proof published).logs faults amb store = true)
    (here : Logged store amb.eventId session) :
    ((attemptPublish false faults.notification amb.now (proofAccepted proof)).bind fun _ =>
      (attemptPublish true faults.publish amb.now published).bind fun _ =>
        .ret (.ok delivery)).Returns
      (Ends faults amb store (.change delivery event proof published)) session := by
  cases proof with
  | none =>
    refine publication_ends logged rfl ?_ here
    simp [sameRecords_refl, Plan.announces]
  | some payload =>
    have ends := publishNow_ends here "PROOF_ACCEPTED_V1" payload amb.now (by decide)
    have rows : SameRecords store (announced "PROOF_ACCEPTED_V1" payload amb.now store) ↔ _ :=
      sameRecords_announced "PROOF_ACCEPTED_V1" payload amb.now
    refine returns_attempt (fun message lost => ?_) (returns_mono ends fun result left held => ?_)
    · refine ends_unpublished logged (by simp [Plan.publishes, lost]) ?_
      rw [here.stored]
      simp [sameRecords_refl, Plan.announces, lost]
    · obtain ⟨rfl, held⟩ := held
      have stays : (∀ message, faults.notification ≠ .before message) →
          (SameRecords store (announced "PROOF_ACCEPTED_V1" payload amb.now store) ↔
            (Plan.change delivery event (some payload) published).announces faults amb store = false) := by
        intro sent
        rw [rows]
        cases struck : faults.notification with
        | before message => exact absurd struck (sent message)
        | none | after message => simp [Plan.announces, struck]
      refine ⟨fun spared => ?_, fun message struck => ?_⟩
      · exact publication_ends logged (by simp [spared]) (stays (by simp [spared])) held
      · refine ends_unpublished logged (by simp [Plan.publishes, struck]) ?_
        rw [held.stored]
        exact stays (by simp [struck])

theorem carryOut_ends (plan : Plan) :
    (carryOut faults amb deliveryId plan).Returns (Ends faults amb store plan)
      { store, held := [.delivery deliveryId] } := by
  have saved : Saved store deliveryId { store, held := [.delivery deliveryId] } :=
    ⟨rfl, by simp, by simp⟩
  cases plan with
  | refuse exception => exact ends_unlogged rfl rfl
  | settled delivery => exact .inl ⟨rfl, sameRecords_refl store⟩
  | miss delivery exception =>
    refine returns_attempt (fun message lost => ends_unlogged rfl rfl)
      (returns_mono (saveDelivery_ends saved delivery) fun result left held => ?_)
    obtain ⟨rfl, held⟩ := held
    exact ⟨fun _ => ends_unlogged rfl held.stored, fun _ _ => ends_unlogged rfl held.stored⟩
  | change delivery event proof published =>
    have struck : ∀ {left : Session Row} {error : Exception}, left.store = store →
        (faults.save = .none → faults.event = .none →
          store.row (.deliveryEvent amb.eventId) ≠ none) →
        Ends faults amb store (.change delivery event proof published) (.error error) left := by
      intro left error same fails
      refine ends_unlogged ?_ same
      by_contra logged
      simp only [Plan.logs, Bool.not_eq_false, Bool.and_eq_true, decide_eq_true_eq,
        Option.isNone_iff_eq_none] at logged
      exact fails logged.1.1 logged.1.2 logged.2
    refine returns_attempt (fun message lost => ?_)
      (returns_mono (saveDelivery_ends saved delivery) fun result left held => ?_)
    · exact struck rfl (by simp [lost])
    obtain ⟨rfl, held⟩ := held
    refine ⟨fun spared => ?_, fun message lost => struck held.stored (by simp [lost])⟩
    show (((attempt _ _).bind fun _ => .ret (.ok ())).bind _).Returns _ _
    rw [bind_assoc]
    refine returns_attempt (fun message lost => ?_)
      (returns_mono (createEvent_ends held amb.eventId event) fun result left held' => ?_)
    · exact struck held.stored (by simp [lost])
    cases result with
    | error error => exact struck held'.2 fun _ _ => held'.1
    | ok value =>
      obtain ⟨free, logged⟩ := held'
      refine ⟨fun spared' => ?_, fun message lost => ?_⟩
      · exact notification_ends (by simp [Plan.logs, spared, spared', free]) logged
      · exact struck logged.stored (by simp [lost])

/-- The hooks run one after another, up to the first that fails. -/
theorem hooks_end {session : Session Row} (projections : List Projection) :
    (forEach projections fun projection =>
        attempt (faults.hook projection) (pure () : Call Unit)).Returns
      (fun result left => left = session ∧ (result = .ok () ↔
        (projections.any fun projection => faults.hook projection ≠ .none) = false)) session := by
  induction projections with
  | nil => exact ⟨rfl, by simp⟩
  | cons projection rest ih =>
    refine returns_attempt (fun message struck => ⟨rfl, by simp [struck]⟩)
      ⟨fun spared => ?_, fun message struck => ⟨rfl, by simp [struck]⟩⟩
    refine returns_mono ih fun result left held => ⟨held.1, ?_⟩
    rw [held.2]
    simp [spared]

/-- An error leaves the records as they were just while every failure is contained. -/
theorem mutate_ends (faults : StepFaults) (amb : Ambient) (deliveryId : Uuid)
    (plan : Option DeliveryEntity → Plan) (hooks : DeliveryEntity → List Projection) (store : Db) :
    (mutate faults amb deliveryId plan hooks).Returns (fun result left =>
      (∀ error, result = .error error → SameRecords store left.store) ↔
        Contained faults amb store (plan ((store.delivery deliveryId).map Delivery.entity)) hooks)
      { store } := by
  unfold mutate
  refine returns_bind (returns_transaction (returns_mono
    (carryOut_ends (plan ((store.delivery deliveryId).map Delivery.entity)))
    fun result left held => ?_))
  cases result with
  | error error =>
    obtain ⟨uncommitted, rows⟩ := held
    simp [Contained, uncommitted, rows]
  | ok delivery =>
    refine returns_bind (returns_mono (hooks_end (hooks delivery)) fun result' left' ran => ?_)
    obtain ⟨rfl, hooked⟩ := ran
    rcases held with ⟨settled, same⟩ | ⟨event, proof, published, shape, commits, logged⟩
    · -- nothing was left to do, so nothing a hook does can be left behind
      rw [settled]
      have contained : Contained faults amb store (.settled delivery) hooks := ⟨rfl, fun none => by cases none⟩
      cases result' with
      | ok value => exact iff_of_true (fun _ _ => same) contained
      | error error => exact iff_of_true (fun _ _ => same) contained
    · rw [shape] at commits ⊢
      obtain ⟨logs, publishes⟩ := Bool.and_eq_true_iff.mp commits
      have changed : ¬ SameRecords store left.seen := by
        intro same
        have row := same (.deliveryEvent amb.eventId) trivial
        simp only [Plan.logs, Bool.and_eq_true, Option.isNone_iff_eq_none] at logs
        rw [row, logs.2] at logged
        cases logged
      have contained : Contained faults amb store (.change delivery event proof published) hooks ↔
          ((hooks delivery).any fun projection => faults.hook projection ≠ .none) = false := by
        simp [Contained, Plan.leaks, commits, logs, publishes, Plan.hookFails]
      cases result' with
      | ok value => exact iff_of_true (fun _ none => by cases none) (contained.mpr (hooked.mp rfl))
      | error error =>
        refine iff_of_false (fun same => changed (same error rfl)) fun held => ?_
        have done := hooked.mpr (contained.mp held)
        cases done

/-- A mutator returns a delivery that it found settled or whose change it commits. -/
theorem call_ends (env : Env) (amb : Ambient) (deliveryId : Uuid) (mutator : Mutator) (store : Db) :
    (mutator.call env amb deliveryId).Returns (fun result _ =>
      match result with
      | .ok _ => (∃ delivery, mutator.plan env amb deliveryId
            ((store.delivery deliveryId).map Delivery.entity) = .settled delivery) ∨
          mutator.commits env amb deliveryId store = true
      | .error _ => mutator.commits env amb deliveryId store = false) { store } := by
  rw [← attempted_faultless env amb deliveryId mutator]
  unfold Mutator.attempted mutate
  refine returns_bind (returns_transaction (returns_mono
    (carryOut_ends (mutator.plan env amb deliveryId ((store.delivery deliveryId).map Delivery.entity)))
    fun result left held => ?_))
  cases result with
  | error error => exact held.1
  | ok delivery =>
    refine returns_bind (returns_mono (hooks_end (mutator.hooks deliveryId delivery))
      fun result' left' ran => ?_)
    obtain ⟨-, hooked⟩ := ran
    rw [hooked.mpr (by simp)]
    rcases held with ⟨settled, -⟩ | ⟨_, _, _, -, committed, -⟩
    · exact .inl ⟨delivery, settled⟩
    · exact .inr committed

/-- An assignment is never settled before it is made. -/
theorem assignPlan_ne_settled (env : Env) (amb : Ambient) (deliveryId driverId assignmentId : Uuid)
    (found : Option DeliveryEntity) (delivery : DeliveryEntity) :
    assignPlan env amb deliveryId driverId assignmentId found ≠ .settled delivery := by
  intro settled
  cases found <;> cases settled

/-- A verification is settled where the delivery is delivered already. -/
theorem otpPlan_settled {env : Env} {amb : Ambient} {deliveryId : Uuid} {row : Delivery}
    {delivery : DeliveryEntity}
    (settled : otpPlan env amb deliveryId otp proofUrl driverLat driverLon (some row.entity) =
      .settled delivery) : row.status = .delivered := by
  by_contra undelivered
  unfold otpPlan at settled
  dsimp only at settled
  rw [if_neg (show ¬ row.entity.status = .delivered from undelivered)] at settled
  cases stored : truthy row.entity.deliveryOtp.value? with
  | none =>
    rw [stored] at settled
    cases settled
  | some deliveryOtp =>
    rw [stored] at settled
    dsimp only at settled
    split at settled
    · cases settled
    split at settled
    · cases settled
    split at settled <;> cases settled

end Whole

/-- A mutator that rejects has changed nothing just while every failure is
contained. -/
theorem rejected_unchanged_iff (env : Env) (faults : StepFaults) (amb : Ambient) (deliveryId : Uuid)
    (mutator : Mutator) (store : Db) :
    ∃ result after, (mutator.attempted env faults amb deliveryId).call store = some (result, after) ∧
      ((∀ error, result = .error error → SameRecords store after) ↔
        Contained faults amb store
          (mutator.plan env amb deliveryId ((store.delivery deliveryId).map Delivery.entity))
          (mutator.hooks deliveryId)) := by
  obtain ⟨result, left, ran, held⟩ := (returns_iff _).mp
    (mutate_ends faults amb deliveryId (mutator.plan env amb deliveryId) (mutator.hooks deliveryId)
      store)
  exact ⟨result, left.store, by simp [Program.call, Mutator.attempted, ran], held⟩

section Runs
open Sample

/-- What the caller of a rejected call finds: the status of the delivery, and whether
the outbox has the proof of its pickup. -/
def findsRejected (ran : Option (Except Exception Settled × Db)) :
    Option (Option DeliveryStatus × Bool) :=
  ran.bind fun ended =>
    match ended.1 with
    | .ok _ => none
    | .error _ => some ((ended.2.delivery "D1").map Delivery.status,
        (ended.2.row (.outbox "PROOF_ACCEPTED_V1:delivery:D1:driver:x")).isSome)

private theorem rejected_of_finds {store : Db} {ran : Option (Except Exception Settled × Db)}
    {status : Option DeliveryStatus} {proof : Bool}
    (finds : findsRejected ran = some (status, proof))
    (differs : (store.delivery "D1").map Delivery.status ≠ status ∨
      (store.row (.outbox "PROOF_ACCEPTED_V1:delivery:D1:driver:x")).isSome ≠ proof) :
    ∃ error after, ran = some (.error error, after) ∧ ¬ SameRecords store after := by
  obtain ⟨⟨result, after⟩, rfl, seen⟩ := Option.bind_eq_some_iff.mp finds
  cases result with
  | ok settled => cases seen
  | error error =>
    refine ⟨error, after, rfl, fun same => ?_⟩
    simp only [Option.some.injEq, Prod.mk.injEq] at seen
    have delivery : after.delivery "D1" = store.delivery "D1" := same (.delivery "D1") trivial
    rw [delivery, same (.outbox "PROOF_ACCEPTED_V1:delivery:D1:driver:x") trivial] at seen
    rcases differs with other | other
    · exact other seen.1
    · exact other seen.2

/-- The metrics of an assignment fail to save, and the caller is told of an error
although the delivery is assigned. The publication after a pickup fails, and the
proof of the pickup, which was taken back, goes out. -/
theorem rejected_and_changed :
    (∃ error after, (Mutator.attempted env { hook := fun _ => .before "timeout" } (ambient 1 5) "D1"
        (.assignDriver "x" "A1")).call shop = some (.error error, after) ∧
      ¬ SameRecords shop after) ∧
    ∃ error after, (Mutator.attempted env { publish := .before "timeout" } (ambient 1 9) "D1"
        (.updateStatus { status := "PICKED_UP" })).call assigned = some (.error error, after) ∧
      ¬ SameRecords assigned after := by
  have assigns : findsRejected ((Mutator.attempted env { hook := fun _ => .before "timeout" }
      (ambient 1 5) "D1" (.assignDriver "x" "A1")).call shop) = some (some .assigned, false) := by
    decide +kernel
  have announces : findsRejected ((Mutator.attempted env { publish := .before "timeout" }
      (ambient 1 9) "D1" (.updateStatus { status := "PICKED_UP" })).call assigned) =
      some (some .assigned, true) := by
    decide +kernel
  exact ⟨rejected_of_finds assigns (.inl (by decide)), rejected_of_finds announces (.inr (by decide))⟩

end Runs

end DriverMicroServices
