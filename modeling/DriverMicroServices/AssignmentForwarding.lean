import DriverMicroServices.Effects
import DriverMicroServices.OutboxRows

/-! How the shop learns of an assignment. `OffersService.acceptOffer` and
`assignDriver` leave an event under the key of the order, whichever of them comes
first; the event of `DeliveryStateMachine.acceptOffer` names no order, and its
handler sends nothing. -/
namespace DriverMicroServices
open Transactions Program

/-- The delivery that a commit of the call gives to a driver. -/
def Request.accepted (request : Request) (db : Db) : Option Uuid :=
  match request.operation with
  | .assignDriver deliveryId _ _ => some deliveryId
  | .acceptOffer offerId _ _ | .stateMachineAcceptOffer offerId _ =>
    (db.offer offerId).map (·.deliveryId)
  | _ => none

/-- The call is not the acceptance that names no order. -/
def Request.NamesOrder (request : Request) : Prop :=
  ∀ offerId driverId, request.operation ≠ .stateMachineAcceptOffer offerId driverId

/-- In the run, a call of this kind commits the assignment of the delivery, whose
order is then the given one. -/
def AssignedIn (env : Env) (kind : Request → Prop) (s : Service) (actions : List (Action Request))
    (deliveryId : Uuid) (sellerOrderId : String) : Prop :=
  ∃ first t rest before after request row,
    actions = first ++ .step t :: rest ∧
    s.run (Request.program env) first = some before ∧
    before.act (Request.program env) (.step t) = some after ∧
    before.effect? (.step t) = some (request, .commit) ∧
    kind request ∧ request.accepted before.store = some deliveryId ∧
    Db.delivery after.store deliveryId = some row ∧ row.sellerOrderId = sellerOrderId

/-- The handler has completed every event of the outbox; what it sent for each. -/
def Processed (db : Db) (sent : String → List Webhook) : Prop :=
  ∀ key event, db.row (.outbox key) = some event →
    ∃ amb id, HandlerRegistry.handle amb (event.event id) = .ok (sent key)

/-- One event sent one assignment webhook for the order, and no other event sent
one. -/
def ForwardedOnce (db : Db) (sent : String → List Webhook) (sellerOrderId : String) : Prop :=
  ∃ key event webhook, db.row (.outbox key) = some event ∧ sent key = [webhook] ∧
    webhook.Announces sellerOrderId ∧
    ∀ key' event', key' ≠ key → db.row (.outbox key') = some event' →
      ∀ webhook' ∈ sent key', ¬ webhook'.Announces sellerOrderId

/-! ## What the outbox holds of an order -/

/-- An assignment event of an order is the one under the order's key. -/
theorem assignment_key (keyed : OutboxEvent.Keyed key event)
    (assigned : event.eventType ∈ DeliveryAssignedHandler.validEventTypes)
    (order : truthy event.payload.sellerOrderId = some sellerOrderId) :
    key = WsEvents.registered.deliveryAssigned ++
      (":" ++ (KeySource.order sellerOrderId).text) := by
  obtain ⟨valid, same, named⟩ := keyed
  rw [same, generateIdempotencyKey_eq, (named assigned).1, keySource_order.mpr order]

/-- The event under the key of an order is an assignment event of the order. -/
theorem order_event {payload : OutboxPayload}
    (keyed : OutboxEvent.Keyed
      (generateIdempotencyKey WsEvents.registered.deliveryAssigned payload now) event)
    (order : truthy payload.sellerOrderId = some sellerOrderId) :
    event.eventType ∈ DeliveryAssignedHandler.validEventTypes ∧
      truthy event.payload.sellerOrderId = some sellerOrderId ∧
      ∃ channelId, truthy event.payload.channelId = some channelId := by
  obtain ⟨valid, same, named⟩ := keyed
  have version : isValidVersionedEventType WsEvents.registered.deliveryAssigned = true := by decide
  obtain ⟨type, source⟩ := (key_injective version valid).mp same
  have assigned : event.eventType ∈ DeliveryAssignedHandler.validEventTypes := by
    rw [← type]
    decide
  have order' : truthy event.payload.sellerOrderId = some sellerOrderId :=
    keySource_order.mp (source.symm.trans (keySource_order.mpr order))
  obtain ⟨channelId, channel, _, present⟩ := (named assigned).2 _ (truthy_some order')
  exact ⟨assigned, order', channelId, channel ▸ truthy_of_ne present⟩

/-- The outbox holds an event under the key of the delivery's order. -/
def Announced (env : Env) (db : Db) (deliveryId : Uuid) : Prop :=
  ∃ row payload now, db.delivery deliveryId = some row ∧
    payload.sellerOrderId = some row.sellerOrderId ∧
    (db.row (.outbox (generateIdempotencyKey env.wsEvents.deliveryAssigned payload now))).isSome

/-- An order with an event under its key is announced once. -/
theorem forwarded_once {db : Db} (valid : db.All ValidRow) (processed : Processed db sent)
    {payload : OutboxPayload} (order : truthy payload.sellerOrderId = some sellerOrderId)
    (held : db.row (.outbox
      (generateIdempotencyKey WsEvents.registered.deliveryAssigned payload now)) = some event) :
    ForwardedOnce db sent sellerOrderId := by
  obtain ⟨assigned, order', channelId, channel⟩ := order_event (valid _ _ held) order
  obtain ⟨amb, id, handled⟩ := processed _ _ held
  obtain ⟨webhook, one, announces⟩ := handled_announces handled assigned order' channel
  refine ⟨_, event, webhook, held, one, announces, ?_⟩
  intro key' event' other held' webhook' member announces'
  obtain ⟨amb', id', handled'⟩ := processed _ _ held'
  obtain ⟨assigned', order''⟩ := announced_order handled' member announces'
  have here := assignment_key (valid _ _ held) assigned order'
  have there := assignment_key (valid _ _ held') assigned' order''
  exact other (there.trans here.symm)

/-! ## The commits that announce -/

/-- No row is removed, and a commit that assigns a delivery announces it. -/
def announcing (env : Env) : Discipline Request Row where
  inv := fun _ => True
  rely := fun before after => ∀ k, (before.row k).isSome → (after.row k).isSome
  cond := fun _ _ _ => True
  guar := fun request effect before after =>
    (∀ k, (before.row k).isSome → (after.row k).isSome) ∧
      (effect = .commit → request.NamesOrder → ∀ deliveryId,
        request.accepted before = some deliveryId → Announced env after deliveryId)
  refl := fun _ _ held => held
  trans := fun first second k held => second k (first k held)
  keeps := fun _ _ promised => ⟨trivial, promised.1⟩

section Commits

variable {env : Env} {amb : Ambient} {request : Request}

theorem announcing_aside : StoresAside (announcing env) request :=
  fun _ _ _ _ => ⟨fun _ held => Store.autosave_isSome _ _ held, fun commit => by cases commit⟩

/-- After a publication the transaction sees an event under its key, its own or an
earlier one. -/
theorem settles_publish {goal : Db → Db → Prop} {payload : OutboxPayload} {f : Unit → Call α}
    (sees : Sees (st.apply buf) deliveries offers)
    (rest : ∀ past buf, Sees (st.apply buf) deliveries offers →
      ((st.apply buf).row (.outbox (generateIdempotencyKey eventType payload now))).isSome →
        (f ()).wp (announcing env) request (Settles goal) past st buf) :
    ((publish true eventType payload now).bind f).wp (announcing env) request (Settles goal)
      past st buf := by
  unfold publish
  rw [bind_eq, bind_assoc]
  refine settles_throwIf fun _ => ?_
  intro seen _ _ later
  cases found : seen.row (.outbox (generateIdempotencyKey eventType payload now)) with
  | some event =>
    have held : ((st.apply buf).row
        (.outbox (generateIdempotencyKey eventType payload now))).isSome :=
      Store.apply_isSome _ _ (later _ (by simp [found]))
    simpa [found, onRet, Program.bind, wp] using rest seen buf sees held
  | none =>
    simp only [found, onRet, Option.isSome_none, Bool.false_eq_true, ↓reduceIte]
    intro locked _ _ _ _
    cases taken : (st.apply buf).row (.outbox (generateIdempotencyKey eventType payload now)) with
    | some event => trivial
    | none =>
      refine rest locked (buf ++ [⟨.outbox (generateIdempotencyKey eventType payload now),
        { eventType, payload, createdAt := now }⟩]) (sees.write_others (by simp)) ?_
      simp [Store.apply_append]

/-- What an assignment has to leave when it commits. -/
theorem announcing_commit {row : Delivery} {payload : OutboxPayload}
    (assigns : request.accepted st = some deliveryId)
    (left : Db.delivery (st.apply buf) deliveryId = some row)
    (order : payload.sellerOrderId = some row.sellerOrderId)
    (held : ((st.apply buf).row
      (.outbox (generateIdempotencyKey env.wsEvents.deliveryAssigned payload now))).isSome) :
    (announcing env).guar request .commit st (st.apply buf) := by
  refine ⟨fun _ before => Store.apply_isSome _ _ before, fun _ _ id accepts => ?_⟩
  rw [assigns, Option.some.injEq] at accepts
  subst accepts
  exact ⟨row, payload, now, left, order, held⟩

private theorem assignDriver_announces :
    Honours (announcing env) ⟨.assignDriver deliveryId driverId assignmentId, amb⟩
      (assignDriver env amb deliveryId driverId assignmentId) := by
  refine honours_bind (honours_transaction fun past st => ?_) fun _ => honours_ret _
  refine settles_lockDelivery (sees_start st) fun past => ?_
  cases found : Db.delivery st deliveryId with
  | none => trivial
  | some row =>
    refine settles_saveDelivery (sees_start st) found fun past buf sees => ?_
    refine settles_aside announcing_aside sees (within_bind (createEvent_within _ _) fun _ => trivial)
      fun _ past buf sees => ?_
    refine settles_publish sees fun past buf sees held => ?_
    have left := congrFun sees.delivery deliveryId
    rw [Function.update_self] at left
    exact announcing_commit rfl left rfl held

private theorem acceptOffer_announces :
    Honours (announcing env) ⟨.acceptOffer offerId driverId acceptedAt, amb⟩
      (OffersService.acceptOffer env amb offerId driverId acceptedAt) := by
  refine honours_transaction fun past st => ?_
  refine settles_lockOffer (sees_start st) fun past => ?_
  cases held : Db.offer st offerId with
  | none => trivial
  | some offer =>
    refine settles_throwIf fun _ => settles_throwIf fun _ => settles_throwIf fun _ => ?_
    refine settles_aside announcing_aside (sees_start st) check_within fun _ past buf sees => ?_
    refine settles_throwIf fun _ => ?_
    refine settles_saveOffer sees held fun past buf sees => ?_
    refine settles_updateOffers sees (by simp) fun past buf offers sees others => ?_
    refine settles_lockDelivery sees fun past => ?_
    cases found : Db.delivery st offer.deliveryId with
    | none => trivial
    | some row =>
      refine settles_saveDelivery sees found fun past buf sees => ?_
      refine settles_aside announcing_aside sees (insert_within _ trivial) fun _ past buf sees => ?_
      refine settles_updateDriver sees fun past buf sees => ?_
      refine settles_publish sees fun past buf sees published => ?_
      have left := congrFun sees.delivery offer.deliveryId
      rw [Function.update_self] at left
      refine announcing_commit ?_ left rfl published
      simp [Request.accepted, held]

/-- Every call announces what it assigns, but for the acceptance that names no
order. -/
theorem request_announces (request : Request) :
    (request.program env).Meets (announcing env) request fun _ _ => True := by
  obtain ⟨operation, amb⟩ := request
  have silent (program : Call (List Projection))
      (none : Request.NamesOrder ⟨operation, amb⟩ →
        ∀ db, Request.accepted ⟨operation, amb⟩ db = none) :
      program.Meets (announcing env) ⟨operation, amb⟩ fun _ _ => True := by
    refine fun past st _ => wp_always program (fun k f now => ?_) (fun st writes => ?_) ?_
    · exact ⟨fun _ held => Store.autosave_isSome _ _ held, fun commit => by cases commit⟩
    · exact ⟨fun _ held => Store.apply_isSome _ _ held,
        fun _ names id accepts => by rw [none names] at accepts; cases accepts⟩
    · exact fun _ _ _ _ _ _ _ => trivial
  cases operation with
  | assignDriver deliveryId driverId assignmentId =>
    exact (honours_bind assignDriver_announces fun _ => honours_ret _).meets
  | acceptOffer offerId driverId acceptedAt =>
    exact (honours_bind acceptOffer_announces fun _ => honours_ret _).meets
  | stateMachineAcceptOffer offerId driverId =>
    exact silent _ fun names => (names offerId driverId rfl).elim
  | _ => exact silent _ fun _ _ => rfl

end Commits

section Runs

variable {env : Env} {store : Db} {actions : List (Action Request)} {s' : Service}
  {sent : String → List Webhook}

/-- The event that announces an assignment is there for the rest of the run. -/
theorem assigned_announced
    (ran : ({ store } : Service).run (Request.program env) actions = some s')
    (assigned : AssignedIn env Request.NamesOrder { store } actions deliveryId sellerOrderId) :
    ∃ (middle rest : List (Action Request)) (after : Service) (row : Delivery)
      (payload : OutboxPayload) (now : Time), actions = middle ++ rest ∧
      ({ store } : Service).run (Request.program env) middle = some after ∧
      Db.delivery after.store deliveryId = some row ∧ row.sellerOrderId = sellerOrderId ∧
      payload.sellerOrderId = some sellerOrderId ∧ (s'.store.row
        (.outbox (generateIdempotencyKey env.wsEvents.deliveryAssigned payload now))).isSome := by
  obtain ⟨first, t, rest, before, after, request, row, rfl, reached, stepped, made, names, accepts,
    held, rfl⟩ := assigned
  have start : ({ store } : Service).Sound (announcing env) fun _ _ _ => True :=
    System.sound_initial store trivial
  have admitted (s : Service) (actions : List (Action Request)) :
      s.Admits (Request.program env) (announcing env).cond actions :=
    System.admits_always (fun _ _ _ => trivial) s actions
  have sound := (System.sound_run start request_announces (admitted _ _) reached).1
  have sound' := (System.sound_act sound request_announces (fun _ _ _ => trivial) stepped).1
  rw [List.append_cons, System.run_append, System.run_append, reached] at ran
  simp only [Option.bind_some, System.run, stepped] at ran
  rcases System.sound_effect sound made trivial stepped with ⟨⟨line, other⟩, _⟩ | promised
  · cases other
  · obtain ⟨row', payload, now, held', order, published⟩ := promised.2 rfl names deliveryId accepts
    rw [held, Option.some.injEq] at held'
    subst held'
    have kept := (System.sound_run sound' request_announces (admitted _ _) ran).2
    refine ⟨first ++ [.step t], rest, after, row, payload, now, by simp, ?_, held, rfl, order,
      kept _ published⟩
    simp [System.run_append, reached, System.run, stepped]

/-- Along a run whose creations are validated, the order of a delivery that
`OffersService.acceptOffer` or `assignDriver` assigns is announced exactly once, by
the events that the run leaves. -/
theorem acceptance_forwarded (names : env.wsEvents = .registered) (valid : store.All ValidRow)
    (validated : ∀ t request, .start t request ∈ actions → request.Named)
    (ran : ({ store } : Service).run (Request.program env) actions = some s')
    (assigned : AssignedIn env Request.NamesOrder { store } actions deliveryId sellerOrderId)
    (processed : Processed s'.store sent) : ForwardedOnce s'.store sent sellerOrderId := by
  obtain ⟨middle, rest, after, row, payload, now, rfl, reached, held, rfl, order, published⟩ :=
    assigned_announced ran assigned
  have before : after.store.All ValidRow :=
    rows_valid names valid (fun t request member => validated t request (by simp [member])) reached
  have there : truthy payload.sellerOrderId = some row.sellerOrderId := by
    rw [order]
    exact truthy_of_ne (before (.delivery deliveryId) row held).1
  obtain ⟨event, published⟩ := Option.isSome_iff_exists.mp published
  rw [names] at published
  exact forwarded_once (rows_valid names valid validated ran) processed there published

end Runs

section Samples
open Sample

/-- What the handlers send at this moment for the event under a key. -/
def sentFor (db : Db) (amb : HandlerAmbient) (key : String) : List Webhook :=
  match (db.row (.outbox key)).map fun event => HandlerRegistry.handle amb (event.event 0) with
  | some (.ok webhooks) => webhooks
  | _ => []

/-- No event of the outbox ends with an error. -/
def handlesAll (db : Db) (amb : HandlerAmbient) : Bool :=
  db.keys.all fun
    | .outbox key =>
      (db.row (.outbox key)).all fun event => (HandlerRegistry.handle amb (event.event 0)).isOk
    | _ => true

theorem handles_processed (all : handlesAll db amb = true) : Processed db (sentFor db amb) := by
  intro key event held
  have listed : Key.outbox key ∈ db.keys := (db.mem_keys _).mpr (by simp [held])
  have handled := List.all_eq_true.mp all _ listed
  simp only [held, Option.all_some] at handled
  refine ⟨amb, 0, ?_⟩
  unfold sentFor
  rw [held]
  cases result : HandlerRegistry.handle amb (event.event 0) with
  | error error =>
    rw [result] at handled
    cases handled
  | ok webhooks => simp [result]

/-- The assignment that the next step of a call commits, to be computed. -/
def assignedAt (store : Db) (first : List (Action Request)) (t : Nat) :
    Option (Request × Uuid × String) :=
  (Sample.after store first).bind fun before =>
    (before.effect? (.step t)).bind fun made =>
      if made.2 = .commit then
        (made.1.accepted before.store).bind fun deliveryId =>
          (before.act (Request.program env) (.step t)).bind fun next =>
            (Db.delivery next.store deliveryId).map fun row =>
              (made.1, deliveryId, row.sellerOrderId)
      else none

theorem assignedAt_assigned {store : Db} {kind : Request → Prop} {request : Request}
    (computed : assignedAt store first t = some (request, deliveryId, sellerOrderId))
    (here : kind request) (rest : List (Action Request)) :
    AssignedIn env kind { store } (first ++ .step t :: rest) deliveryId sellerOrderId := by
  obtain ⟨before, reached, computed⟩ := Option.bind_eq_some_iff.mp computed
  obtain ⟨⟨request', effect⟩, made, computed⟩ := Option.bind_eq_some_iff.mp computed
  split at computed
  · rename_i commit
    obtain ⟨deliveryId', accepts, computed⟩ := Option.bind_eq_some_iff.mp computed
    obtain ⟨next, stepped, computed⟩ := Option.bind_eq_some_iff.mp computed
    obtain ⟨row, held, shape⟩ := Option.map_eq_some_iff.mp computed
    simp only [Prod.mk.injEq] at shape
    obtain ⟨rfl, rfl, rfl⟩ := shape
    exact ⟨first, t, rest, before, next, request', row, rfl, reached, stepped,
      by rw [made, show effect = .commit from commit], here, accepts, held, rfl⟩
  · cases computed

/-- The rows of the shop are valid. -/
theorem shop_valid : shop.All ValidRow := by
  refine Store.apply_all (fun k row held => by simp at held) fun write member => ?_
  simp only [List.mem_cons, List.not_mem_nil, or_false] at member
  rcases member with rfl | rfl | rfl | rfl
  · exact ⟨by decide, by decide⟩
  · exact ⟨by decide, by decide⟩
  · trivial
  · trivial

/-- A driver is offered the delivery. -/
def offered : List (Action Request) := alone 0 (.createOfferForDriver "x" "D1" none) 5 5

/-- He accepts, up to the commit. -/
def accepting : List (Action Request) := offered ++ alone 1 (.acceptOffer "offer0" "x" 7) 7 17

/-- The acceptance commits, and `assignDriver` confirms it. -/
def confirmed : List (Action Request) :=
  accepting ++ .step 1 :: alone 2 (.assignDriver "D1" "x" "A1") 8 7

theorem acceptance_forwarded_shop :
    ∃ s', Sample.after shop confirmed = some s' ∧
      ForwardedOnce s'.store (sentFor s'.store { now := 9 }) "S1" := by
  have computes : (Sample.after shop confirmed).map (fun s => handlesAll s.store { now := 9 }) =
      some true := by decide
  obtain ⟨s', ran, all⟩ := Option.map_eq_some_iff.mp computes
  have accepted : assignedAt shop accepting 1 =
      some (⟨.acceptOffer "offer0" "x" 7, ambient 1 7⟩, "D1", "S1") := by decide
  have assigned : AssignedIn env Request.NamesOrder { store := shop } confirmed "D1" "S1" :=
    assignedAt_assigned accepted (fun offerId driverId other => by cases other) _
  refine ⟨s', ran, acceptance_forwarded rfl shop_valid ?_ ran assigned (handles_processed all)⟩
  intro t request started dto created
  simp only [confirmed, accepting, offered, alone, List.replicate, List.cons_append, List.nil_append,
    List.mem_cons, List.not_mem_nil, or_false, Action.start.injEq, reduceCtorEq, false_or] at started
  rcases started with ⟨_, rfl⟩ | ⟨_, rfl⟩ | ⟨_, rfl⟩ <;> cases created

/-- He accepts at the other service, up to the commit. -/
def acceptingElsewhere : List (Action Request) :=
  offered ++ alone 1 (.stateMachineAcceptOffer "offer0" "x") 7 14

/-- The delivery is assigned, its event completed, and the shop told nothing. -/
theorem acceptance_unannounced :
    ∃ s', Sample.after shop (acceptingElsewhere ++ [.step 1]) = some s' ∧
      AssignedIn env (fun _ => True) { store := shop } (acceptingElsewhere ++ [.step 1]) "D1" "S1" ∧
      Processed s'.store (sentFor s'.store { now := 9 }) ∧
      ∀ key webhook, webhook ∈ sentFor s'.store { now := 9 } key → ¬ webhook.Announces "S1" := by
  have computes : (Sample.after shop (acceptingElsewhere ++ [.step 1])).map (fun s =>
      (handlesAll s.store { now := 9 }, s.store.keys.all fun
        | .outbox key => sentFor s.store { now := 9 } key = []
        | _ => true)) = some (true, true) := by decide
  obtain ⟨s', ran, checks⟩ := Option.map_eq_some_iff.mp computes
  obtain ⟨all, silent⟩ := Prod.mk.inj checks
  have accepted : assignedAt shop acceptingElsewhere 1 =
      some (⟨.stateMachineAcceptOffer "offer0" "x", ambient 1 7⟩, "D1", "S1") := by decide
  refine ⟨s', ran, assignedAt_assigned accepted trivial [], handles_processed all, ?_⟩
  intro key webhook member
  cases held : s'.store.row (.outbox key) with
  | none =>
    unfold sentFor at member
    rw [held] at member
    cases member
  | some event =>
    have listed : Key.outbox key ∈ s'.store.keys := (s'.store.mem_keys _).mpr (by simp [held])
    have nothing : sentFor s'.store { now := 9 } key = [] := by
      simpa using List.all_eq_true.mp silent _ listed
    rw [nothing] at member
    cases member

end Samples

end DriverMicroServices
