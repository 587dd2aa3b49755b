import DriverMicroServices.Effects
import DriverMicroServices.Lifecycle
import DriverMicroServices.OrderIntake

/-! The audit trail. `updateStatus` and `verifyOtp` insert a row of `delivery_events` in
the transaction that changes the status, and no call changes or removes such a row. So
whatever the calls do at the same time, a delivery that was picked up, and one that is
over, has an event that says so; the stale save of `generateDeliveryOtp` fails over a new
event, and else can only bring back a status that was recorded before. -/
namespace DriverMicroServices
open Transactions Program

/-- A status beyond the assignment has an event of the delivery and its order. -/
def Recorded (db : Db) (id : Uuid) (row : Delivery) : Prop :=
  row.status ≠ .pending → row.status ≠ .assigned → ∃ eventId event,
    db.row (.deliveryEvent eventId) = some event ∧ event.deliveryId = id ∧
      event.sellerOrderId = row.sellerOrderId ∧
      event.eventType = mapDeliveryStatusToEventType row.status

def AuditComplete (db : Db) : Prop := ∀ id row, db.delivery id = some row → Recorded db id row

/-- No event is changed or removed. -/
def EventsKept (before after : Db) : Prop :=
  ∀ eventId event, before.row (.deliveryEvent eventId) = some event →
    after.row (.deliveryEvent eventId) = some event

theorem Recorded.later {before after : Db} {id : Uuid} {row : Delivery} (recorded : Recorded before id row)
    (kept : EventsKept before after) : Recorded after id row := by
  intro pending assigned
  obtain ⟨eventId, event, held, tells⟩ := recorded pending assigned
  exact ⟨eventId, event, kept eventId event held, tells⟩

/-- Events are only added, and a delivery that changes is recorded by the same commit. -/
def auditing : Discipline Request Row where
  inv := AuditComplete
  rely := EventsKept
  cond := fun _ _ _ => True
  guar := fun _ _ before after => EventsKept before after ∧ ∀ id row,
    Db.delivery after id = some row → Db.delivery before id = some row ∨ Recorded after id row
  refl := fun _ _ _ held => held
  trans := fun first second eventId event held => second eventId event (first eventId event held)
  keeps := fun complete _ promised => by
    refine ⟨fun id row held => ?_, promised.1⟩
    rcases promised.2 id row held with before | recorded
    · exact (complete id row before).later promised.1
    · exact recorded

/-! ## Rules -/

/-- Rows of the other tables. -/
def Key.Beside : Key → Prop
  | .delivery _ | .deliveryEvent _ => False
  | _ => True

/-- The deliveries and the events that a transaction sees. -/
structure Trail (db : Db) (deliveries : Uuid → Option Delivery)
    (events : Uuid → Option DeliveryEvent) : Prop where
  delivery : db.delivery = deliveries
  event : ∀ eventId, db.row (.deliveryEvent eventId) = events eventId

section Rules

variable {request : Request} {effect : Effect Key} {id : Uuid} {past st : Db} {buf : List (Write Row)}
  {deliveries : Uuid → Option Delivery} {events : Uuid → Option DeliveryEvent}

theorem trail_start (st : Db) :
    Trail (st.apply []) st.delivery fun eventId => st.row (.deliveryEvent eventId) :=
  ⟨rfl, fun _ => rfl⟩

private theorem auditing_beside {now : Db} {k : Key} (f : Option (Row k) → Option (Row k)) (beside : k.Beside) :
    auditing.guar request effect now (now.autosave k f) := by
  refine ⟨fun eventId event held => ?_, fun id row held => .inl ?_⟩
  · rw [Store.autosave_row_ne _ _ (by rintro rfl; exact beside)]
    exact held
  · rwa [Db.delivery, Store.autosave_row_ne _ _ (by rintro rfl; exact beside)] at held

/-- A piece that writes other tables only. -/
theorem trails_beside {piece : Call α} {f : α → Call β} (trail : Trail (st.apply buf) deliveries events)
    (within : piece.Within Key.Beside)
    (rest : ∀ value past buf, Trail (st.apply buf) deliveries events →
      (f value).wp auditing request (Settles goal) past st buf) :
    (piece.bind f).wp auditing request (Settles goal) past st buf := by
  rw [wp_bind]
  refine wp_within piece within (fun k f now beside _ _ => auditing_beside f beside) ?_
  intro result past writes named _
  have untouched (k : Key) (other : ¬ k.Beside) :
      (st.apply (buf ++ writes)).row k = (st.apply buf).row k := by
    rw [Store.apply_append]
    exact Store.apply_row_untouched _ _ fun write member same => other (same ▸ named write member)
  cases result with
  | error error => trivial
  | ok value =>
    refine rest value past (buf ++ writes) ⟨?_, fun eventId => ?_⟩
    · rw [← trail.delivery]
      exact funext fun id => untouched (.delivery id) not_false
    · rw [← trail.event]
      exact untouched (.deliveryEvent eventId) not_false

theorem trails_lockDelivery {f : Option DeliveryEntity → Call α}
    (trail : Trail (st.apply buf) deliveries events)
    (rest : ∀ past, (f ((deliveries id).map Delivery.entity)).wp auditing request (Settles goal) past st buf) :
    ((lockDelivery id).bind f).wp auditing request (Settles goal) past st buf := by
  intro now _ _ _ _
  have row : (st.apply buf).row (.delivery id) = deliveries id := congrFun trail.delivery id
  rw [row]
  exact rest now

theorem trails_saveDelivery {f : Unit → Call α} (trail : Trail (st.apply buf) deliveries events)
    (found : deliveries id = some row)
    (rest : ∀ past buf,
      Trail (st.apply buf) (Function.update deliveries id (some (entity.saveOver row))) events →
      (f ()).wp auditing request (Settles goal) past st buf) :
    ((saveDelivery id entity).bind f).wp auditing request (Settles goal) past st buf := by
  intro now _ _ _ _
  have held : (st.apply buf).row (.delivery id) = some row := (congrFun trail.delivery id).trans found
  rw [held]
  refine rest now (buf ++ [⟨.delivery id, entity.saveOver row⟩]) ⟨?_, fun eventId => ?_⟩
  · rw [Store.apply_append, ← trail.delivery]
    exact Db.delivery_update ..
  · rw [Store.apply_append, ← trail.event]
    exact Store.set_row_ne _ _ (by simp)

/-- An event is inserted under an id that no event has. -/
theorem trails_createEvent {f : DeliveryEvent → Call α} (trail : Trail (st.apply buf) deliveries events)
    (rest : ∀ past buf, events id = none →
      Trail (st.apply buf) deliveries (Function.update events id (some event)) →
      (f event).wp auditing request (Settles goal) past st buf) :
    ((createEvent id event).bind f).wp auditing request (Settles goal) past st buf := by
  intro now _ _ _ _
  rw [trail.event]
  cases fresh : events id with
  | some taken => trivial
  | none =>
    refine rest now (buf ++ [⟨.deliveryEvent id, event⟩]) fresh ⟨?_, fun eventId => ?_⟩
    · rw [Store.apply_append, ← trail.delivery]
      exact funext fun id => Db.delivery_set_other _ _ (by simp)
    · rw [Store.apply_append, Function.update_apply, ← trail.event]
      split
      · rename_i same
        subst same
        exact Store.set_row_self ..
      · exact Store.set_row_ne _ _ (by simpa)

/-- The commit of one changed delivery. -/
theorem auditing_commit {row : Delivery}
    (trail : Trail (st.apply buf) (Function.update st.delivery id (some row)) events)
    (kept : ∀ eventId event, st.row (.deliveryEvent eventId) = some event → events eventId = some event)
    (recorded : Recorded (st.apply buf) id row) :
    auditing.guar request .commit st (st.apply buf) := by
  refine ⟨fun eventId event held => (trail.event eventId).trans (kept eventId event held), ?_⟩
  intro other row' held
  rw [trail.delivery, Function.update_apply] at held
  split at held
  · rename_i same
    cases held
    exact .inr (same ▸ recorded)
  · exact .inl held

/-- A commit that records the new status with its event. -/
theorem auditing_recorded {row : Delivery} {eventId : Uuid} {event : DeliveryEvent}
    (trail : Trail (st.apply buf) (Function.update st.delivery id (some row))
      (Function.update (fun eventId => st.row (.deliveryEvent eventId)) eventId (some event)))
    (fresh : st.row (.deliveryEvent eventId) = none) (own : event.deliveryId = id)
    (order : event.sellerOrderId = row.sellerOrderId)
    (type : event.eventType = mapDeliveryStatusToEventType row.status) :
    auditing.guar request .commit st (st.apply buf) := by
  refine auditing_commit trail (fun other kept held => ?_) fun _ _ => ?_
  · rw [Function.update_of_ne]
    · exact held
    · rintro rfl
      rw [fresh] at held
      cases held
  · exact ⟨eventId, event, (trail.event eventId).trans (Function.update_self ..), own, order, type⟩

theorem beside_publish : (publish inTransaction eventType payload now).Within Key.Beside := by
  refine within_bind (throwIf_within _) fun _ => within_bind (find_within _) fun existing => ?_
  split
  · trivial
  · cases inTransaction with
    | true => exact insert_within _ trivial
    | false => exact insertNow_within _ trivial

theorem beside_notify : (notify eventId event deliveryId delivery now).Within Key.Beside := by
  unfold notify
  split
  · dsimp only
    split
    · exact beside_publish
    · exact beside_publish
    · trivial
  · trivial

end Rules

/-! ## Calls -/

section Calls

variable {request : Request} {env : Env} {amb : Ambient} {deliveryId driverId offerId : Uuid}

private theorem assignDriver_audits (assignmentId : Uuid) :
    Honours auditing request (assignDriver env amb deliveryId driverId assignmentId) := by
  refine honours_bind (honours_transaction fun past st => ?_) fun _ => honours_ret _
  refine trails_lockDelivery (trail_start st) fun past => ?_
  cases found : Db.delivery st deliveryId with
  | none => trivial
  | some row =>
    refine trails_saveDelivery (trail_start st) found fun past buf trail => ?_
    change (((createEvent _ _).bind fun _ => .ret (.ok ())).bind _).wp _ _ _ _ _ _
    rw [bind_assoc]
    refine trails_createEvent trail fun past buf fresh trail => ?_
    change ((publish _ _ _ _).bind _).wp _ _ _ _ _ _
    refine trails_beside trail beside_publish fun _ past buf trail => ?_
    exact auditing_recorded trail fresh rfl rfl rfl

theorem updateStatus_audits (dto : UpdateDeliveryStatusDto) :
    Honours auditing request (updateStatus env amb deliveryId dto) := by
  refine honours_bind (honours_transaction fun past st => ?_) fun _ => honours_ret _
  refine trails_lockDelivery (trail_start st) fun past => ?_
  cases found : Db.delivery st deliveryId with
  | none => trivial
  | some row =>
    dsimp only [Option.map_some]
    split
    · exact ⟨fun _ _ held => held, fun _ _ held => .inl held⟩
    refine settles_throwIf fun _ => ?_
    refine trails_saveDelivery (trail_start st) found fun past buf trail => ?_
    refine trails_createEvent trail fun past buf fresh trail => ?_
    refine trails_beside trail beside_notify fun _ past buf trail => ?_
    have published : (publishStatus env amb deliveryId
        (transition amb.now dto (mapStringToDeliveryStatus dto.status) row.entity) dto).Within
          Key.Beside := by
      unfold publishStatus
      split
      · exact beside_publish
      · trivial
    refine trails_beside trail published fun _ past buf trail => ?_
    refine auditing_recorded trail fresh rfl rfl ?_
    rw [(transition_saveOver ..).1]

private theorem verifyOtp_audits (otp : String) (proofUrl : Option String) (driverLat driverLon : Option Rat) :
    Honours auditing request (verifyOtp env amb deliveryId otp proofUrl driverLat driverLon) := by
  refine honours_bind (honours_transaction fun past st => ?_) fun _ => honours_ret _
  refine trails_lockDelivery (trail_start st) fun past => ?_
  cases found : Db.delivery st deliveryId with
  | none => trivial
  | some row =>
    dsimp only [Option.map_some]
    split
    · exact ⟨fun _ _ held => held, fun _ _ held => .inl held⟩
    cases stored : truthy row.entity.deliveryOtp.value? with
    | none => trivial
    | some deliveryOtp =>
      refine settles_throwIf fun _ => settles_throwIf fun _ => ?_
      split
      · exact trails_saveDelivery (trail_start st) found fun _ _ _ => trivial
      · refine trails_saveDelivery (trail_start st) found fun past buf trail => ?_
        refine trails_createEvent trail fun past buf fresh trail => ?_
        refine trails_beside trail beside_notify fun _ past buf trail => ?_
        refine trails_beside trail beside_publish fun _ past buf trail => ?_
        exact auditing_recorded trail fresh rfl rfl rfl

/-- An assignment without an event: `ASSIGNED` asks for none. -/
theorem auditing_assigned {st : Db} {buf : List (Write Row)} {row : Delivery} {id : Uuid}
    (trail : Trail (st.apply buf) (Function.update st.delivery id (some row))
      fun eventId => st.row (.deliveryEvent eventId)) (assigned : row.status = .assigned) :
    auditing.guar request .commit st (st.apply buf) :=
  auditing_commit trail (fun _ _ held => held) fun _ other => absurd assigned other

private theorem acceptOffer_audits (acceptedAt : Time) :
    Honours auditing request (OffersService.acceptOffer env amb offerId driverId acceptedAt) := by
  refine honours_transaction fun past st => ?_
  refine trails_beside (trail_start st) (fun _ => trivial) fun offer past buf trail => ?_
  cases offer with
  | none => trivial
  | some offer =>
    refine settles_throwIf fun _ => settles_throwIf fun _ => settles_throwIf fun _ => ?_
    refine trails_beside trail check_within fun _ past buf trail => settles_throwIf fun _ => ?_
    refine trails_beside trail (saveOffer_within _ trivial) fun _ past buf trail => ?_
    refine trails_beside trail (updateOffers_within _ _ fun _ => trivial) fun _ past buf trail => ?_
    refine trails_lockDelivery trail fun past => ?_
    cases found : Db.delivery st offer.deliveryId with
    | none => trivial
    | some row =>
      refine trails_saveDelivery trail found fun past buf trail => ?_
      refine trails_beside trail (insert_within _ trivial) fun _ past buf trail => ?_
      refine trails_beside trail (updateDriver_within _ trivial) fun _ past buf trail => ?_
      refine trails_beside trail beside_publish fun _ past buf trail => ?_
      exact auditing_assigned trail rfl

private theorem stateMachineAcceptOffer_audits :
    Honours auditing request (DeliveryStateMachine.acceptOffer amb offerId driverId) := by
  refine honours_bind (honours_transaction fun past st => ?_) fun _ => honours_ret _
  refine trails_beside (trail_start st) (fun _ => trivial) fun offer past buf trail => ?_
  cases offer.filter (·.driverId = driverId) with
  | none => trivial
  | some offer =>
    refine settles_throwIf fun _ => settles_throwIf fun _ => trails_lockDelivery trail fun past => ?_
    cases found : Db.delivery st offer.deliveryId with
    | none => trivial
    | some row =>
      refine settles_assertValidAssignment fun _ _ => settles_throwIf fun _ => ?_
      refine trails_beside trail (saveOffer_within _ trivial) fun _ past buf trail => ?_
      refine trails_saveDelivery trail found fun past buf trail => ?_
      refine trails_beside trail (insert_within _ trivial) fun _ past buf trail => ?_
      refine trails_beside trail (updateDriver_within _ trivial) fun _ past buf trail => ?_
      refine trails_beside trail (updateOffers_within _ _ fun _ => trivial) fun _ past buf trail => ?_
      rw [← bind_ret (publish _ _ _ _)]
      exact trails_beside trail beside_publish fun _ past buf trail => auditing_assigned trail rfl

private theorem create_audits (dto : CreateDeliveryDto) : Honours auditing request (create amb dto) := by
  refine honours_throwIf fun _ => honours_bind (honours_transaction fun past st => ?_) fun _ =>
    honours_ret _
  refine trails_beside (trail_start st) (insert_within _ trivial) fun _ past buf trail => ?_
  intro now _ _ _ _
  cases taken : (st.apply buf).row (.delivery amb.deliveryId) with
  | some row => trivial
  | none =>
    refine ⟨fun eventId event held => ?_, fun id row held => ?_⟩
    · rw [Store.apply_append]
      exact (Store.set_row_ne _ _ (by simp)).trans ((trail.event eventId).trans held)
    · rw [Store.apply_append] at held
      simp only [Store.apply_cons, Store.apply_nil, Db.delivery_set, trail.delivery] at held
      split at held
      · cases held
        exact .inr fun other => absurd rfl other
      · exact .inl held

/-- The stale save: the status that it brings back was read after its event. -/
theorem generateDeliveryOtp_audits {seen : Db} :
    (generateDeliveryOtp amb deliveryId).Ensures auditing request seen fun _ _ => True := by
  refine ensures_observe fun now complete _ => ?_
  cases found : Db.delivery now deliveryId with
  | none => simpa [found, onRet] using ensures_throw
  | some read =>
    simp only [found, onRet]
    refine ensures_throwIf fun _ => ensures_throwIf fun _ => ?_
    rw [bind_eq, saveDeliveryNow_bind]
    refine ensures_find fun _ _ still => ensures_throwIf fun _ => ensures_autosave fun later _ grown _ => ?_
    have kept : EventsKept later (later.autosave (.delivery deliveryId)
        (·.map (regenerate amb (normalizeCoordinates read.entity)).saveOver)) :=
      fun eventId event held => (Store.autosave_row_ne _ _ (by simp)).trans held
    refine ⟨⟨kept, fun id row held => ?_⟩, ?_⟩
    · by_cases same : id = deliveryId
      · subst same
        rw [Db.delivery, Store.autosave_row_self] at held
        cases present : later.row (.delivery id) with
        | none => simp [present] at held
        | some current =>
          obtain rfl : (regenerate amb (normalizeCoordinates read.entity)).saveOver current = row := by
            simpa only [present, Option.map_some, Option.some_or, Option.some.injEq] using held
          rw [regenerate_saveOver]
          exact .inr ((((complete id read found).later still).later grown).later kept)
      · exact .inl ((Store.autosave_row_ne _ _ (by simpa using same)).symm.trans held)
    · refine ensures_autosave fun last _ _ _ => ⟨⟨fun eventId event held => ?_, fun id row held => ?_⟩, ?_⟩
      · by_cases same : eventId = amb.eventId
        · rw [same, Store.autosave_row_self, ← same, held]
          rfl
        · exact (Store.autosave_row_ne _ _ (by simpa using same)).trans held
      · exact .inl ((Store.autosave_row_ne _ _ (by simp)).symm.trans held)
      · cases last.row (.deliveryEvent amb.eventId) with
        | some taken => exact ensures_throw
        | none => exact ensures_return fun _ _ => trivial

theorem beside_audits {piece : Call (List Projection)} (touches : piece.Touches Key.Beside) :
    piece.Meets auditing request fun _ _ => True := by
  refine fun past st _ => wp_touches piece touches (fun effect before after same => ?_)
    (fun _ _ _ _ _ _ _ _ => trivial) (by simp)
  refine ⟨fun eventId event held => (same (.deliveryEvent eventId) not_false).trans held, fun id row held => .inl ?_⟩
  exact (same (.delivery id) not_false).symm.trans held

/-- Every call adds the event of the status that it writes. -/
theorem request_audits (request : Request) :
    (request.program env).Meets auditing request fun _ _ => True := by
  obtain ⟨operation, amb⟩ := request
  cases operation with
  | create dto => exact (honours_bind (create_audits dto) fun _ => honours_ret _).meets
  | assignDriver deliveryId driverId assignmentId =>
    exact (honours_bind (assignDriver_audits assignmentId) fun _ => honours_ret _).meets
  | updateStatus deliveryId dto =>
    exact (honours_bind (updateStatus_audits dto) fun _ => honours_ret _).meets
  | verifyOtp deliveryId otp proofUrl driverLat driverLon =>
    exact (honours_bind (verifyOtp_audits otp proofUrl driverLat driverLon) fun _ => honours_ret _).meets
  | cancelDelivery deliveryId reason =>
    refine (honours_bind (honours_reads (within_bind (find_within _) fun found => ?_))
      fun delivery => ?_).meets
    · cases found <;> trivial
    split
    · exact honours_ret _
    · exact honours_bind (updateStatus_audits _) fun _ => honours_ret _
  | generateDeliveryOtp deliveryId =>
    have regenerated (seen : Db) :
        (Request.program env ⟨.generateDeliveryOtp deliveryId, amb⟩).Ensures auditing
          ⟨.generateDeliveryOtp deliveryId, amb⟩ seen fun _ _ => True :=
      ensures_bind generateDeliveryOtp_audits fun _ _ _ _ => ensures_return fun _ _ => trivial
    exact fun past st _ => wp_mono (fun _ _ _ _ _ _ _ _ => trivial) _ (regenerated past past st fun _ _ held => held)
  | createOfferForDriver driverId deliveryId expiresInSeconds =>
    have offers : Key.Beside (.offer amb.offerId) := trivial
    refine beside_audits (touches_bind ?_ fun _ => trivial)
    exact OffersService.createOfferForDriver_touches offers driverId deliveryId expiresInSeconds
  | acceptOffer offerId driverId acceptedAt =>
    exact (honours_bind (acceptOffer_audits acceptedAt) fun _ => honours_ret _).meets
  | stateMachineAcceptOffer offerId driverId => exact stateMachineAcceptOffer_audits.meets
  | rejectOffer offerId driverId reason =>
    have offers (id : Uuid) : Key.Beside (.offer id) := trivial
    refine beside_audits (touches_bind ?_ fun _ => trivial)
    exact OffersService.rejectOffer_touches offers offerId driverId reason
  | expireOffers =>
    refine beside_audits (touches_bind (touches_transaction (touches_of_within ?_)) fun _ => trivial)
    exact updateOffers_within _ _ fun _ => trivial
  | updateDriverStatus driverId status =>
    refine beside_audits (touches_bind (touches_bind (touches_of_within ?_) fun driver => ?_) fun _ => trivial)
    · refine within_bind (find_within _) fun found => ?_
      cases found <;> trivial
    · exact ⟨trivial, fun _ => trivial⟩

end Calls

section Runs

variable {env : Env} {store : Db} {actions : List (Action Request)} {s' : Service}

/-- The calls may overlap in any way: no event is lost, and every delivery that was picked
up, or is over, has the event of its status. -/
theorem audit_trail_complete (start : AuditComplete store)
    (ran : ({ store } : Service).run (Request.program env) actions = some s') :
    AuditComplete s'.store ∧ EventsKept store s'.store := by
  obtain ⟨sound, kept⟩ := System.sound_run (System.sound_initial store start) request_audits
    (System.admits_always (fun _ _ _ => trivial) _ _) ran
  exact ⟨sound.inv, kept⟩

theorem audit_trail_complete_shop : ∃ s', Sample.after Sample.shop handover = some s' ∧
    AuditComplete s'.store ∧ EventsKept Sample.shop s'.store := by
  have start : AuditComplete Sample.shop := fun id row held pending => by
    obtain ⟨dto, now, rfl⟩ := Sample.shop_delivery held
    exact absurd rfl pending
  obtain ⟨s', ran⟩ := Option.isSome_iff_exists.mp
    (show (Sample.after Sample.shop handover).isSome from by decide +kernel)
  exact ⟨s', ran, audit_trail_complete start ran⟩

end Runs

end DriverMicroServices
