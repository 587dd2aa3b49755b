import DriverMicroServices.Events
import DriverMicroServices.Requests
import DriverMicroServices.Transactions.Assertions

/-! No order is lost on its way in. A request is answered with success only when
its order is handled: its delivery has an offer or is past `PENDING`. Four
branches of the source take that for granted and note it in the log; every other
branch establishes it, at any interleaving and whichever steps fail. -/
namespace DriverMicroServices
open Transactions Program

/-- The order has a delivery with an offer, or one past `PENDING`. -/
def handled (db : Db) (sellerOrderId : String) : Bool :=
  db.deliveries.any fun entry =>
    entry.2.sellerOrderId = sellerOrderId ∧
      (entry.2.status ≠ .pending ∨ db.offers.any (·.2.deliveryId = entry.1))

theorem handled_iff {db : Db} : handled db sellerOrderId ↔
    ∃ id row, db.delivery id = some row ∧ row.sellerOrderId = sellerOrderId ∧
      (row.status ≠ .pending ∨ ∃ offerId offer, db.offer offerId = some offer ∧
        offer.deliveryId = id) := by
  simp only [handled, List.any_eq_true, Prod.exists, Db.mem_deliveries, Db.mem_offers,
    decide_eq_true_eq]

/-- A delivery of the order is stored under this id. -/
def Belongs (db : Db) (deliveryId : Uuid) (sellerOrderId : String) : Prop :=
  ∃ row, db.delivery deliveryId = some row ∧ row.sellerOrderId = sellerOrderId

/-- A decision about the delivery is stored under this id. -/
def Decided (db : Db) (id deliveryId : Uuid) (method : DispatchMethod) : Prop :=
  ∃ decision, db.decision id = some decision ∧ decision.deliveryId = deliveryId ∧
    decision.dispatchMethod = method

/-- The delivery is there, and its order is handled. -/
def DeliveryHandled (db : Db) (deliveryId : Uuid) : Prop :=
  ∃ row, db.delivery deliveryId = some row ∧ handled db row.sellerOrderId

/-- What the requests keep of the rows they find. -/
structure Retains (before after : Db) : Prop where
  delivery : ∀ id row, before.delivery id = some row → after.delivery id = some row
  offer : ∀ id row, before.offer id = some row → after.offer id = some row
  decision : ∀ id deliveryId method, Decided before id deliveryId method →
    Decided after id deliveryId method

namespace Retains

variable {before middle after : Db} {deliveryId : Uuid}

theorem refl (db : Db) : Retains db db :=
  ⟨fun _ _ held => held, fun _ _ held => held, fun _ _ _ held => held⟩

theorem trans (first : Retains before middle) (second : Retains middle after) : Retains before after :=
  ⟨fun id row held => second.delivery id row (first.delivery id row held),
    fun id row held => second.offer id row (first.offer id row held),
    fun id _ _ held => second.decision id _ _ (first.decision id _ _ held)⟩

theorem handled (grows : Retains before after) (held : handled before sellerOrderId) :
    handled after sellerOrderId := by
  obtain ⟨id, row, present, same, state⟩ := handled_iff.mp held
  refine handled_iff.mpr ⟨id, row, grows.delivery id row present, same, state.imp_right ?_⟩
  rintro ⟨offerId, offer, made, about⟩
  exact ⟨offerId, offer, grows.offer offerId offer made, about⟩

theorem belongs (grows : Retains before after) (held : Belongs before deliveryId sellerOrderId) :
    Belongs after deliveryId sellerOrderId := by
  obtain ⟨row, present, same⟩ := held
  exact ⟨row, grows.delivery _ row present, same⟩

theorem delivery_handled (grows : Retains before after) (held : DeliveryHandled before deliveryId) :
    DeliveryHandled after deliveryId := by
  obtain ⟨row, present, same⟩ := held
  exact ⟨row, grows.delivery _ row present, grows.handled same⟩

end Retains

/-- The handled delivery of an order makes the order handled. -/
theorem DeliveryHandled.order {db : Db} (held : DeliveryHandled db deliveryId)
    (belongs : Belongs db deliveryId sellerOrderId) : handled db sellerOrderId := by
  obtain ⟨row, present, held⟩ := held
  obtain ⟨row', present', rfl⟩ := belongs
  rw [present, Option.some.injEq] at present'
  exact present' ▸ held

theorem Belongs.delivery_handled {db : Db} (belongs : Belongs db deliveryId sellerOrderId)
    (held : handled db sellerOrderId) : DeliveryHandled db deliveryId := by
  obtain ⟨row, present, rfl⟩ := belongs
  exact ⟨row, present, held⟩

/-- Every key and every finished legacy decision stands for a handled order. -/
structure Accounted (orderOf : String → String) (db : Db) : Prop where
  indexed : ∀ sellerOrderId id, db.row (.sellerOrder sellerOrderId) = some id →
    Belongs db id sellerOrderId
  marked : ∀ eventId, (db.row (.redis (getEventIdKey eventId))).isSome → handled db (orderOf eventId)
  dispatched : ∀ id decision, db.decision id = some decision → decision.dispatchMethod = .legacy →
    decision.dispatchStatus = .assigned → DeliveryHandled db decision.deliveryId

/-- What a row must be to be stored without breaking the account. -/
def Fits (orderOf : String → String) (db : Db) : (k : Key) → Row k → Prop
  | .delivery id, _ => db.delivery id = none
  | .offer id, _ => db.offer id = none
  | .sellerOrder sellerOrderId, id => Belongs db id sellerOrderId
  | .redis key, _ => ∀ eventId, key = getEventIdKey eventId → handled db (orderOf eventId)
  | .dispatchDecision id, decision =>
    (∀ deliveryId method, Decided db id deliveryId method →
      decision.deliveryId = deliveryId ∧ decision.dispatchMethod = method) ∧
    (decision.dispatchMethod = .legacy → decision.dispatchStatus = .assigned →
      DeliveryHandled db decision.deliveryId)
  | _, _ => True

section Stores

variable {orderOf : String → String} {db : Db} {k : Key} {row : Row k}

theorem set_retains (fits : Fits orderOf db k row) : Retains db (db.set k row) := by
  refine ⟨fun id stored held => ?_, fun id stored held => ?_, fun id deliveryId method held => ?_⟩
  · by_cases same : k = .delivery id
    · subst same
      rw [show db.delivery id = none from fits] at held
      cases held
    · rwa [Db.delivery_set_other _ _ (Ne.symm same)]
  · by_cases same : k = .offer id
    · subst same
      rw [show db.offer id = none from fits] at held
      cases held
    · rwa [Db.offer_set_other _ _ (Ne.symm same)]
  · by_cases same : k = .dispatchDecision id
    · subst same
      exact ⟨row, Store.set_row_self .., fits.1 deliveryId method held⟩
    · obtain ⟨decision, present, about⟩ := held
      exact ⟨decision, (Store.set_row_ne _ _ (Ne.symm same)).trans present, about⟩

theorem set_accounted (accounted : Accounted orderOf db) (fits : Fits orderOf db k row) :
    Accounted orderOf (db.set k row) := by
  have retains := set_retains fits
  refine ⟨fun sellerOrderId id held => ?_, fun eventId held => ?_, fun id decision held => ?_⟩
  · by_cases same : k = .sellerOrder sellerOrderId
    · subst same
      rw [Store.set_row_self, Option.some.injEq] at held
      exact retains.belongs (held ▸ fits)
    · rw [Store.set_row_ne _ _ (Ne.symm same)] at held
      exact retains.belongs (accounted.indexed _ _ held)
  · by_cases same : k = .redis (getEventIdKey eventId)
    · subst same
      exact retains.handled (fits eventId rfl)
    · rw [Store.set_row_ne _ _ (Ne.symm same)] at held
      exact retains.handled (accounted.marked _ held)
  · by_cases same : k = .dispatchDecision id
    · subst same
      have stored : row = decision := Option.some.inj ((Store.set_row_self ..).symm.trans held)
      exact fun legacy assigned =>
        retains.delivery_handled (stored ▸ fits.2 (stored ▸ legacy) (stored ▸ assigned))
    · have before : db.decision id = some decision :=
        (Store.set_row_ne _ _ (Ne.symm same)).symm.trans held
      exact fun legacy assigned =>
        retains.delivery_handled (accounted.dispatched _ _ before legacy assigned)

theorem retains_of_rows {before after : Db} (same : after.row = before.row) : Retains before after :=
  ⟨fun _ _ held => (congrFun same _).trans held, fun _ _ held => (congrFun same _).trans held,
    fun _ _ _ ⟨decision, held, about⟩ => ⟨decision, (congrFun same _).trans held, about⟩⟩

private theorem accounted_of_rows {before after : Db} (same : after.row = before.row)
    (accounted : Accounted orderOf before) : Accounted orderOf after := by
  have retains := retains_of_rows same
  refine ⟨fun sellerOrderId id held => ?_, fun eventId held => ?_, fun id decision held => ?_⟩
  · rw [same] at held
    exact retains.belongs (accounted.indexed _ _ held)
  · rw [same] at held
    exact retains.handled (accounted.marked _ held)
  · have before : before.decision id = some decision := (congrFun same _).symm.trans held
    exact fun legacy assigned =>
      retains.delivery_handled (accounted.dispatched _ _ before legacy assigned)

end Stores

/-- A request for an order. Every event is about one order. -/
structure Intake (orderOf : String → String) where
  request : SellerOrderReady
  ofOrder : request.payload.sellerOrderId = orderOf request.payload.eventId

def Intake.order {orderOf : String → String} (intake : Intake orderOf) : String :=
  intake.request.payload.sellerOrderId

/-- Where a request leaves its order to somebody else, which it notes in the
log, the order is handled. -/
def leftInGoodHands {orderOf : String → String} (intake : Intake orderOf) (effect : Effect Key)
    (db : Db) : Bool :=
  match effect with
  | .log _ => handled db intake.order
  | _ => true

/-- What the requests promise each other. -/
def intakes (orderOf : String → String) : Discipline (Intake orderOf) Row where
  inv := Accounted orderOf
  rely := Retains
  cond := fun intake effect db => leftInGoodHands intake effect db
  guar := fun _ _ before after => Accounted orderOf after ∧ Retains before after
  refl := .refl
  trans := .trans
  keeps := fun _ _ promised => promised

section Rules

variable {orderOf : String → String} {intake : Intake orderOf} {seen : Db} {id : Uuid}
variable {post : α → Db → Prop}

theorem ensures_attempt {d : Discipline L Row} {label : L} {step : Call α}
    (holds : step.Ensures d label seen post) : (attempt fault step).Ensures d label seen post := by
  cases fault with
  | none => exact holds
  | before message => exact ensures_throw
  | after message => exact ensures_bind holds fun _ _ _ _ => ensures_throw

theorem ensures_throwIf {d : Discipline L Row} {label : L} [Decidable condition] {f : Unit → Call α}
    (holds : ¬ condition → (f ()).Ensures d label seen post) :
    ((throwIf condition exception).bind f).Ensures d label seen post := by
  unfold throwIf
  split
  · exact ensures_throw
  · exact holds ‹_›

theorem ensures_find {d : Discipline L Row} {label : L} {query : Db → β} {f : β → Call α}
    (holds : ∀ now, d.inv now → d.rely seen now → (f (query now)).Ensures d label now post) :
    ((find query).bind f).Ensures d label seen post :=
  ensures_observe holds

/-- A step whose result nobody reads. -/
theorem ensures_discard {d : Discipline L Row} {label : L} {middle : β → Db → Prop} {step : Call β}
    {f : Unit → Call α} (first : step.Ensures d label seen middle)
    (rest : ∀ later, d.rely seen later → (f ()).Ensures d label later post) :
    ((discard step : Call Unit).bind f).Ensures d label seen post := by
  have dropped : (discard step : Call Unit).Ensures d label seen fun _ _ => True :=
    ensures_bind first fun _ _ _ _ => ensures_return fun _ _ => trivial
  exact ensures_bind dropped fun _ later growth _ => rest later growth

/-- A handler that leaves the order handled as well. -/
theorem tryCatch_ensures {program : Call α} {handler : Exception → Call α}
    (body : program.Ensures (intakes orderOf) intake seen fun _ later => handled later intake.order)
    (caught : ∀ error later, Retains seen later →
      (handler error).Ensures (intakes orderOf) intake later
        fun _ last => handled last intake.order) :
    (tryCatch program handler).Ensures (intakes orderOf) intake seen
      fun _ later => handled later intake.order :=
  ensures_tryCatch body (fun _ _ _ growth held => Retains.handled growth held) caught

/-- Noting that the order is left to somebody else. -/
theorem log_ensures {line : String} :
    (log line).Ensures (intakes orderOf) intake seen fun _ later => handled later intake.order :=
  ensures_log fun _ _ _ admitted => ensures_return fun _ later => later.handled admitted

/-- A statement that stores one row. -/
theorem autosave_ensures {f : Option (Row k) → Option (Row k)} {next : Option (Row k) → Call α}
    (holds : ∀ now, Accounted orderOf now → Retains seen now →
      (∀ row, f (now.row k) = some row → Fits orderOf now k row) ∧
        ∀ later, later = now.autosave k f → Retains now later →
          (next (now.row k)).Ensures (intakes orderOf) intake later post) :
    (Program.autosave k f next).Ensures (intakes orderOf) intake seen post := by
  refine ensures_autosave fun now accounted growth _ => ?_
  obtain ⟨fits, rest⟩ := holds now accounted growth
  have kept : Accounted orderOf (now.autosave k f) ∧ Retains now (now.autosave k f) := by
    unfold Store.autosave
    cases stored : f (now.row k) with
    | none => exact ⟨accounted, .refl now⟩
    | some row => exact ⟨set_accounted accounted (fits row stored), set_retains (fits row stored)⟩
  exact ⟨kept, rest _ rfl kept.2⟩

/-- An `INSERT` of its own finds the key free, or throws. -/
theorem insertNow_ensures {row : Row k} {f : Unit → Call α}
    (fits : ∀ now, Retains seen now → now.row k = none → Fits orderOf now k row)
    (rest : ∀ later, Retains seen later → later.row k = some row →
      (f ()).Ensures (intakes orderOf) intake later post) :
    ((insertNow k row).bind f).Ensures (intakes orderOf) intake seen post := by
  refine autosave_ensures fun now _ growth => ⟨fun stored inserted => ?_, ?_⟩
  · cases taken : now.row k with
    | some row => simp [taken, ifAbsent] at inserted
    | none =>
      have same : row = stored := by simpa [taken, ifAbsent] using inserted
      exact same ▸ fits now growth taken
  · rintro later rfl growth'
    have left := Store.autosave_row_self now (ifAbsent row)
    cases taken : now.row k with
    | some row => exact ensures_throw
    | none =>
      rw [taken] at left
      exact rest _ (growth.trans growth') left

/-- An `INSERT` in a transaction likewise. -/
theorem wp_insert {row : Row k} {f : Unit → Call α} {d : Discipline L Row} {label : L}
    {goal : α → Db → Db → List (Write Row) → Prop} {past st : Db} {buf : List (Write Row)}
    (rest : ∀ now, d.rely past now → (st.apply buf).row k = none →
      (f ()).wp d label (fun result past st buf => ∀ value, result = .ok value →
        goal value past st buf) now st (buf ++ [⟨k, row⟩])) :
    ((insert k row).bind f).wp d label (fun result past st buf => ∀ value, result = .ok value →
      goal value past st buf) past st buf := by
  intro now _ growth _ _
  cases taken : (st.apply buf).row k with
  | some row => exact fun _ same => by cases same
  | none => exact rest now growth taken

/-- Setting the key of the event. -/
theorem setKey_ensures (held : handled seen intake.order) :
    (setKey (getEventIdKey intake.request.payload.eventId)).Ensures (intakes orderOf) intake seen
      fun _ later => handled later intake.order := by
  refine autosave_ensures fun now _ growth => ⟨?_, fun later _ growth' => ?_⟩
  · rintro row - eventId same
    have event : intake.request.payload.eventId = eventId := getEventIdKey_inj same
    rw [← event, ← intake.ofOrder]
    exact growth.handled held
  · exact ensures_return fun _ last => ((growth.trans growth').trans last).handled held

end Rules

/-! ## The methods -/

section Methods

variable {orderOf : String → String} {intake : Intake orderOf} {seen : Db} {deliveryId : Uuid}

/-- The two rows of a new delivery. -/
theorem delivery_stored {orderOf : String → String} {st : Db} {id : Uuid} {row : Delivery}
    (accounted : Accounted orderOf st) (free : st.delivery id = none) :
    let after := (st.set (.sellerOrder row.sellerOrderId) id).set (.delivery id) row
    Accounted orderOf after ∧ Retains st after ∧ Belongs after id row.sellerOrderId := by
  intro after
  have absent : Fits orderOf st (.delivery id) row := free
  have middle := set_accounted accounted absent
  have grown := set_retains absent
  have there : Belongs (st.set (.delivery id) row) id row.sellerOrderId :=
    ⟨row, Store.set_row_self .., rfl⟩
  have fits : Fits orderOf (st.set (.delivery id) row) (.sellerOrder row.sellerOrderId) id := there
  have swap : after.row =
      ((st.set (.delivery id) row).set (.sellerOrder row.sellerOrderId) id).row :=
    Store.set_comm_row _ _ _ (by simp)
  have last := set_retains fits
  exact ⟨accounted_of_rows swap (set_accounted middle fits),
    (grown.trans last).trans (retains_of_rows swap),
    (last.trans (retains_of_rows swap)).belongs there⟩

private theorem create_ensures (amb : Ambient) :
    (create amb intake.request.payload.dto).Ensures (intakes orderOf) intake seen
      fun created later => Belongs later created.1 intake.order := by
  have inserts : (transaction do
      insert (.sellerOrder intake.order) amb.deliveryId
      insert (.delivery amb.deliveryId) (intake.request.payload.dto.row amb.now)).Ensures
      (intakes orderOf) intake seen fun _ later => Belongs later amb.deliveryId intake.order := by
    refine ensures_transaction fun past st _ => wp_insert fun now _ _ => ?_
    rw [← bind_ret (insert (.delivery amb.deliveryId) _)]
    refine wp_insert fun now _ free value _ accounted _ _ => ?_
    have absent : Db.delivery st amb.deliveryId = none := by
      rwa [List.nil_append, Store.apply_cons, Store.apply_nil, Store.set_row_ne _ _ (by simp)] at free
    let row := intake.request.payload.dto.row amb.now
    have stored : _ ∧ _ ∧ Belongs _ amb.deliveryId row.sellerOrderId :=
      delivery_stored accounted absent
    exact ⟨⟨stored.1, stored.2.1⟩, stored.2.2⟩
  exact ensures_throwIf fun _ => ensures_bind inserts fun _ later _ belongs =>
    ensures_return fun last growth => growth.belongs belongs

private theorem createOfferForDriver_ensures {amb : Ambient} (belongs : Belongs seen deliveryId intake.order) :
    (OffersService.createOfferForDriver amb driverId deliveryId expiresInSeconds).Ensures
      (intakes orderOf) intake seen fun _ later => handled later intake.order := by
  refine ensures_find fun now _ growth => ?_
  cases Db.driver now driverId with
  | none => exact ensures_throw
  | some driver =>
    refine ensures_throwIf fun _ => ensures_bind (ensures_reads check_within)
      fun capability later growth' _ => ?_
    refine ensures_throwIf fun _ => ensures_find fun last _ growth'' => ?_
    have belongs := ((growth.trans growth').trans growth'').belongs belongs
    cases Db.delivery last deliveryId with
    | none => exact ensures_throw
    | some delivery =>
      refine ensures_throwIf fun _ => insertNow_ensures (fun _ _ free => free) ?_
      intro later growth made
      obtain ⟨row, present, same⟩ := growth.belongs belongs
      refine ensures_return fun last growth => growth.handled (handled_iff.mpr ?_)
      exact ⟨deliveryId, row, present, same, .inr ⟨amb.offerId, _, made, rfl⟩⟩

theorem updateDispatchDecision_ensures {id : Uuid} {updates : DecisionUpdates}
    (decided : Decided seen id deliveryId method)
    (sameMethod : ∀ other, updates.dispatchMethod = some other → other = method)
    (finished : method = .legacy → updates.dispatchStatus = .assigned →
      DeliveryHandled seen deliveryId) :
    (updateDispatchDecision id updates).Ensures (intakes orderOf) intake seen fun _ _ => True := by
  refine ensures_find fun past _ growth => ?_
  obtain ⟨decision, found, about, made⟩ := growth.decision id _ _ decided
  rw [found]
  have kept : (decision.assign updates).dispatchMethod = method := by
    cases given : updates.dispatchMethod with
    | none => simpa [DispatchDecision.assign, given] using made
    | some other => simpa [DispatchDecision.assign, given] using sameMethod other given
  refine autosave_ensures fun now _ growth' => ⟨fun row stored => ?_, fun later _ _ => ?_⟩
  · have same : decision.assign updates = row := by
      cases held : now.row (.dispatchDecision id) <;> simp [held] at stored
      exact stored
    subst same
    refine ⟨fun deliveryId' method' held => ?_, fun legacy assigned => ?_⟩
    · obtain ⟨stored', present, rfl, rfl⟩ := held
      obtain ⟨stored, present', about', made'⟩ :=
        growth'.decision id _ _ (growth.decision id _ _ decided)
      rw [present, Option.some.injEq] at present'
      subst present'
      exact ⟨about.trans about'.symm, kept.trans made'.symm⟩
    · have handled := (growth.trans growth').delivery_handled (finished (kept ▸ legacy) assigned)
      exact (show (decision.assign updates).deliveryId = deliveryId from about) ▸ handled
  · exact ensures_return fun _ _ => trivial

/-- What is known of decisions locked by `claimFallback`. -/
def Finished (deliveryId : Uuid) (db : Db) (decision : DispatchDecision) : Prop :=
  decision.dispatchStatus = .assigned → DeliveryHandled db deliveryId

/-- The locked rows are those of the commit. -/
theorem lockDecisions_wp {goal : Post Row Exception α} {f : List DispatchDecision → Call α}
    {past st : Db} {buf : List (Write Row)} (ids : List Uuid) (clean : buf = [])
    (rest : ∀ now locked, Retains past now → (∀ decision ∈ locked, Finished deliveryId now decision) →
      (f locked).wp (intakes orderOf) intake goal now st buf) :
    ((lockDecisions deliveryId ids).bind f).wp (intakes orderOf) intake goal past st buf := by
  subst clean
  induction ids generalizing past f with
  | nil => exact rest past [] (.refl past) (by simp)
  | cons id others ih =>
    intro now accounted growth _ same
    let matching := ((st.apply []).row (.dispatchDecision id)).filter fun decision =>
      decision.deliveryId = deliveryId ∧ decision.dispatchMethod = .legacy
    have found : ∀ decision ∈ matching.toList, Finished deliveryId now decision := by
      intro decision member assigned
      obtain ⟨held, test⟩ := Option.filter_eq_some_iff.mp (Option.mem_toList.mp member)
      obtain ⟨rfl, legacy⟩ := of_decide_eq_true test
      exact accounted.dispatched id decision (same.trans held) legacy assigned
    show (((lockDecisions deliveryId others).bind fun locked =>
      .ret (.ok (matching.toList ++ locked))).bind f).wp (intakes orderOf) intake goal now st []
    rw [bind_assoc]
    refine ih fun later locked growth' finished => rest later _ (growth.trans growth') ?_
    intro decision member assigned
    rcases List.mem_append.mp member with member | member
    · exact growth'.delivery_handled (found decision member assigned)
    · exact finished decision member assigned

/-- What the claim answers about the delivery. -/
def ClaimResult.Holds (deliveryId : Uuid) (db : Db) : ClaimResult → Prop
  | .alreadyExecuted => DeliveryHandled db deliveryId
  | .inProgress => True
  | .claimed claimId => Decided db claimId deliveryId .legacy

private theorem claimFallback_ensures {amb : FallbackAmbient} :
    (claimFallback amb deliveryId).Ensures (intakes orderOf) intake seen
      fun result later => result.Holds deliveryId later := by
  refine ensures_transaction fun past st _ now _ _ _ => ?_
  refine lockDecisions_wp _ rfl fun past locked _ finished => ?_
  have first : ∀ decision, locked[amb.first % locked.length]? = some decision →
      Finished deliveryId past decision :=
    fun decision held => finished decision (List.mem_of_getElem? held)
  dsimp only
  split
  · rename_i assigned
    obtain ⟨decision, held, status⟩ := (Option.any_eq_true _ _).mp assigned
    rintro result same accounted growth _
    cases same
    exact ⟨⟨accounted, .refl st⟩,
      growth.delivery_handled (first decision held (of_decide_eq_true status))⟩
  · split
    · rintro result same accounted growth _
      cases same
      exact ⟨⟨accounted, .refl st⟩, trivial⟩
    · refine wp_insert fun now _ free result same accounted growth _ => ?_
      cases same
      have fits : Fits orderOf st (.dispatchDecision amb.claimId)
          { deliveryId, cohort := .control, dispatchMethod := .legacy, dispatchStatus := .pending
            fallbackClaim := true } := by
        refine ⟨?_, by simp⟩
        rintro _ _ ⟨decision, held, _⟩
        have taken : (st.apply []).row (.dispatchDecision amb.claimId) = some decision := held
        rw [taken] at free
        cases free
      exact ⟨⟨set_accounted accounted fits, set_retains fits⟩, _, Store.set_row_self .., rfl, rfl⟩

theorem executeIdempotentFallback_ensures {amb : FallbackAmbient} {reason : String}
    {callback : FallbackAmbient → Call ρ} (belongs : Belongs seen deliveryId intake.order)
    (offers : ∀ amb later, Belongs later deliveryId intake.order →
      (callback amb).Ensures (intakes orderOf) intake later fun _ last => handled last intake.order) :
    (executeIdempotentFallback amb deliveryId reason callback).Ensures (intakes orderOf) intake seen
      fun _ later => handled later intake.order := by
  refine ensures_bind (ensures_attempt claimFallback_ensures) fun result later growth claim => ?_
  have belongs := growth.belongs belongs
  cases result with
  | alreadyExecuted =>
    exact ensures_return fun last growth => growth.handled (DeliveryHandled.order claim belongs)
  | inProgress =>
    exact ensures_bind log_ensures fun _ _ _ held =>
      ensures_return fun last growth => growth.handled held
  | claimed claimId =>
    refine tryCatch_ensures ?_ fun error last growth => ?_
    · refine ensures_bind (offers amb later belongs) fun result last growth held => ?_
      have decided : Decided last claimId deliveryId .legacy := growth.decision _ _ _ claim
      refine ensures_discard (ensures_attempt (updateDispatchDecision_ensures decided (by simp)
        fun _ _ => (growth.belongs belongs).delivery_handled held)) fun final growth => ?_
      exact ensures_return fun _ growth' => growth'.handled (growth.handled held)
    · have decided : Decided last claimId deliveryId .legacy := growth.decision _ _ _ claim
      exact ensures_discard (ensures_attempt (updateDispatchDecision_ensures decided (by simp)
        (by simp))) fun _ _ => ensures_throw

private theorem createDecision_ensures {amb : DispatchAmbient} :
    (createDecision amb deliveryId cohort).Ensures (intakes orderOf) intake seen fun _ later =>
      Decided later amb.decisionId deliveryId
        (if cohort = .scoring then .scoringBased else .legacy) := by
  refine ensures_transaction fun past st _ => ?_
  rw [← bind_ret (insert _ _)]
  refine wp_insert fun now _ free result same accounted growth _ => ?_
  let decision : DispatchDecision :=
    { deliveryId, cohort, dispatchStatus := .pending
      dispatchMethod := if cohort = .scoring then .scoringBased else .legacy }
  have fits : Fits orderOf st (.dispatchDecision amb.decisionId) decision := by
    refine ⟨?_, by simp [decision]⟩
    rintro _ _ ⟨decision, held, _⟩
    have taken : (st.apply []).row (.dispatchDecision amb.decisionId) = some decision := held
    rw [taken] at free
    cases free
  exact ⟨⟨set_accounted accounted fits, set_retains fits⟩, decision, Store.set_row_self .., rfl, rfl⟩

private theorem executeScoringDispatch_ensures {eligibleDrivers : List EligibleDriver} :
    (executeScoringDispatch deliveryId eligibleDrivers : Call (DispatchResult ρ)).Ensures
      (intakes orderOf) intake seen fun _ later => handled later intake.order := by
  unfold executeScoringDispatch
  dsimp only
  split
  · exact ensures_bind log_ensures fun _ _ _ held =>
      ensures_return fun _ growth => growth.handled held
  · exact ensures_throw

section Dispatch

variable {callback : FallbackAmbient → Call ρ} {amb : DispatchAmbient}
variable (offers : ∀ amb later, Belongs later deliveryId intake.order →
  (callback amb).Ensures (intakes orderOf) intake later fun _ last => handled last intake.order)

include offers

private theorem dispatchCohort_ensures (belongs : Belongs seen deliveryId intake.order)
    (decided : Decided seen amb.decisionId deliveryId
      (if cohort = .scoring then .scoringBased else .legacy)) :
    (dispatchCohort amb deliveryId cohort callback).Ensures (intakes orderOf) intake seen
      fun _ later => handled later intake.order := by
  unfold dispatchCohort
  by_cases scoring : cohort = .scoring
  · rw [if_pos scoring] at decided ⊢
    split
    · refine ensures_discard (ensures_attempt (updateDispatchDecision_ensures decided (by simp)
        (by simp))) fun later growth => ?_
      exact executeIdempotentFallback_ensures (growth.belongs belongs) offers
    · refine ensures_bind executeScoringDispatch_ensures fun result later growth held => ?_
      refine ensures_discard (ensures_attempt (updateDispatchDecision_ensures
        (growth.decision _ _ _ decided) (by simp) (by simp))) fun last growth => ?_
      exact ensures_return fun _ growth' => growth'.handled (growth.handled held)
  · rw [if_neg scoring] at decided ⊢
    refine ensures_bind (executeIdempotentFallback_ensures belongs offers)
      fun result later growth held => ?_
    refine ensures_discard (ensures_attempt (updateDispatchDecision_ensures
      (growth.decision _ _ _ decided) (by simp)
      fun _ _ => (growth.belongs belongs).delivery_handled held)) fun last growth => ?_
    exact ensures_return fun _ growth' => growth'.handled (growth.handled held)

private theorem executeSafeDispatch_ensures (belongs : Belongs seen deliveryId intake.order) :
    (executeSafeDispatch amb deliveryId callback).Ensures (intakes orderOf) intake seen
      fun _ later => handled later intake.order := by
  refine ensures_bind (ensures_attempt createDecision_ensures) fun _ later growth decided => ?_
  have belongs := growth.belongs belongs
  refine tryCatch_ensures (dispatchCohort_ensures offers belongs decided) fun error last growth => ?_
  split
  · exact ensures_throw
  · refine ensures_discard (ensures_attempt (updateDispatchDecision_ensures
      (growth.decision _ _ _ decided) (by simp) (by simp))) fun final growth' => ?_
    exact executeIdempotentFallback_ensures ((growth.trans growth').belongs belongs) offers

end Dispatch

private theorem legacyDispatch_ensures (amb : FallbackAmbient)
    (belongs : Belongs seen deliveryId intake.order) :
    (legacyDispatch deliveryId amb).Ensures (intakes orderOf) intake seen
      fun _ later => handled later intake.order := by
  have asked : (pure amb.nearestDriver : Call (Option Uuid)).Ensures (intakes orderOf) intake seen
      fun _ _ => True := ensures_return fun _ _ => trivial
  refine ensures_bind (ensures_attempt asked) fun nearest later growth _ => ?_
  split
  · exact ensures_bind (ensures_bind (ensures_attempt
      (createOfferForDriver_ensures (growth.belongs belongs))) fun _ _ _ held =>
        ensures_return fun _ growth => growth.handled held) fun _ _ _ held =>
          ensures_return fun _ growth => growth.handled held
  · exact ensures_throw

theorem dispatchOrder_ensures (belongs : Belongs seen deliveryId intake.order) :
    (dispatchOrder intake.request deliveryId).Ensures (intakes orderOf) intake seen
      fun _ later => handled later intake.order := by
  refine ensures_bind (executeSafeDispatch_ensures (fun amb _ => legacyDispatch_ensures amb) belongs)
    fun result later growth held => ?_
  exact ensures_bind (ensures_attempt (setKey_ensures held)) fun _ _ _ held =>
    ensures_return fun _ growth => growth.handled held

private theorem takeOrder_ensures :
    (takeOrder intake.request).Ensures (intakes orderOf) intake seen
      fun _ later => handled later intake.order := by
  have found : (findBySellerOrderIdOrNull intake.order).Ensures (intakes orderOf) intake seen
      fun delivery later => ∀ id row, delivery = some (id, row) →
        Db.delivery later id = some row ∧ row.sellerOrderId = intake.order := by
    refine ensures_observe fun now accounted _ => ensures_return fun later growth id row same => ?_
    obtain ⟨id', listed, same⟩ := Option.bind_eq_some_iff.mp same
    obtain ⟨row', stored, same⟩ := Option.map_eq_some_iff.mp same
    cases same
    obtain ⟨_, stored', order⟩ := accounted.indexed _ _ listed
    rw [stored, Option.some.injEq] at stored'
    exact ⟨Retains.delivery growth id row stored, stored' ▸ order⟩
  refine ensures_bind (ensures_attempt found) fun delivery later growth held => ?_
  cases delivery with
  | none =>
    exact ensures_bind (ensures_attempt (create_ensures _)) fun created last _ belongs =>
      dispatchOrder_ensures belongs
  | some entry =>
    obtain ⟨id, row⟩ := entry
    obtain ⟨stored, order⟩ := held id row rfl
    dsimp only
    split
    · rename_i dispatched
      have past : row.status ≠ .pending := by
        rintro pending
        simp [pending, alreadyDispatched] at dispatched
      have held : handled later intake.order :=
        handled_iff.mpr ⟨id, row, stored, order, .inl past⟩
      exact ensures_bind (ensures_attempt (setKey_ensures held)) fun _ _ _ held =>
        ensures_return fun _ growth => growth.handled held
    · exact dispatchOrder_ensures ⟨row, stored, order⟩

private theorem recoverOrder_ensures (error : Exception) :
    (recoverOrder intake.request error).Ensures (intakes orderOf) intake seen
      fun _ later => handled later intake.order := by
  unfold recoverOrder
  dsimp only
  split
  · exact ensures_throw
  · split
    · refine ensures_bind log_ensures fun _ later _ held => ?_
      exact ensures_bind (ensures_attempt (setKey_ensures held)) fun _ _ _ held =>
        ensures_return fun _ growth => growth.handled held
    · exact ensures_bind log_ensures fun _ _ _ held =>
        ensures_return fun _ growth => growth.handled held

private theorem validateSignature_ensures {config : WebhookConfig} {payload : SellerOrderReadyPayload} :
    (validateSignature config payload headers now).Ensures (intakes orderOf) intake seen
      fun _ _ => True := by
  have checked (condition : Prop) [Decidable condition] (exception : Exception) :
      (throwIf condition exception).Ensures (intakes orderOf) intake seen fun _ _ => True :=
    ensures_reads (throwIf_within exception)
  unfold validateSignature
  split
  · dsimp only
    split
    · exact ensures_throwIf fun _ => checked _ _
    · exact ensures_throw
  · exact checked _ _

/-- A request that is answered with success leaves its order handled. -/
theorem onSellerOrderReady_ensures (config : WebhookConfig) (intake : Intake orderOf) (seen : Db) :
    (onSellerOrderReady config intake.request).Ensures (intakes orderOf) intake seen
      fun _ later => handled later intake.order := by
  refine ensures_throwIf fun _ => ensures_bind validateSignature_ensures fun _ later _ _ => ?_
  have known : (find fun db =>
      (db.row (.redis (getEventIdKey intake.request.payload.eventId))).isSome : Call Bool).Ensures
      (intakes orderOf) intake later
      fun present last => present = true → handled last intake.order := by
    refine ensures_observe fun now accounted _ => ensures_return fun last growth present => ?_
    have held : handled now intake.order := by
      rw [Intake.order, intake.ofOrder]
      exact accounted.marked _ present
    exact Retains.handled growth held
  refine ensures_bind (ensures_attempt known) fun present last _ held => ?_
  split
  · exact ensures_return fun _ growth => growth.handled (held ‹_›)
  · exact tryCatch_ensures takeOrder_ensures fun error _ _ => recoverOrder_ensures error

end Methods

/-- In every run of requests, from rows that are accounted for, that leaves an
order to somebody else only when it is handled: what is answered without an HTTP
error is about a handled order, and so is every key of an event. -/
theorem no_order_lost (orderOf : String → String) (config : WebhookConfig) (store : Db)
    (actions : List (Action (Intake orderOf))) (s : System (Intake orderOf) Row Exception Answer)
    (start : Accounted orderOf store)
    (admitted : ({ store } : System (Intake orderOf) Row Exception Answer).Admits
      (fun intake => onSellerOrderReady config intake.request)
      (fun intake effect db => leftInGoodHands intake effect db) actions)
    (ran : ({ store } : System (Intake orderOf) Row Exception Answer).run
      (fun intake => onSellerOrderReady config intake.request) actions = some s) :
    (∀ t intake answer, s.answer? t = some (intake, .ok answer) → handled s.store intake.order) ∧
      ∀ eventId, (s.store.row (.redis (getEventIdKey eventId))).isSome →
        handled s.store (orderOf eventId) := by
  have meets : ∀ intake : Intake orderOf, (onSellerOrderReady config intake.request).Meets
      (intakes orderOf) intake fun result store =>
        ∀ answer, result = .ok answer → handled store intake.order :=
    fun intake => ensures_meets (fun _ _ _ growth held => Retains.handled growth held)
      (onSellerOrderReady_ensures config intake)
  obtain ⟨sound, _⟩ := System.sound_run (System.sound_initial store start) meets admitted ran
  exact ⟨fun t intake answer found => System.sound_answer sound found answer rfl, sound.inv.marked⟩

section Runs
open Sample

def webhook : WebhookConfig where
  expectedSecret := some "secret"
  signatureSecret := none
  enforceWebhookSignature := false
  hmac := fun _ _ => ""
  number := fun _ => none

def fallback (n : Nat) (now : Time) (nearestDriver : Option Uuid) : FallbackAmbient where
  ambient := ambient n now
  claimId := "claim" ++ toString n
  first := 0
  nearestDriver := nearestDriver
  claimFault := .none
  nearestFault := .none
  offerFault := .none
  assignedFault := .none
  failedFault := .none

/-- The `n`th request, for the order `S9`, of which no step fails. -/
def ready (n : Nat) (now : Time) (nearestDriver : Option Uuid) : Intake fun _ => "S9" where
  request :=
    { payload :=
        { eventId := "event" ++ toString n, sellerOrderId := "S9", channelId := "channel"
          pickupLat := "12.97", pickupLon := "77.59", dropLat := "12.93", dropLon := "77.62" }
      headers := { secret := some "secret" }
      ambient := ambient n now
      dispatch :=
        { decisionId := "decision" ++ toString n, rolloutPercentage := 0, shouldFallback := none
          eligibleDrivers := [], decisionFault := .none, updateFault := .none, failedFault := .none
          inTry := fallback n now nearestDriver, inCatch := fallback n now nearestDriver }
      existsFault := .none, findFault := .none, createFault := .none, markFault := .none
      healFault := .none }
  ofOrder := rfl

abbrev Webhooks := System (Intake fun _ => "S9") Row Exception Answer

def webhooks (actions : List (Action (Intake fun _ => "S9"))) : Option Webhooks :=
  ({ store := shop } : Webhooks).run (fun intake => onSellerOrderReady webhook intake.request) actions

/-- A request started and run for some steps. -/
def handOver (t : Nat) (nearestDriver : Option Uuid) (steps : Nat) :
    List (Action (Intake fun _ => "S9")) :=
  .start t (ready t 5 nearestDriver) :: List.replicate steps (.step t)

private theorem shop_accounted : Accounted (fun _ => "S9") shop := by
  have absent : ∀ k, k.Aside → shop.row k = none := by
    intro k aside
    refine Store.apply_row_untouched _ _ fun write member => ?_
    rintro rfl
    simp only [List.mem_cons, List.not_mem_nil, or_false] at member
    rcases member with rfl | rfl | rfl | rfl <;> exact aside
  refine ⟨fun sellerOrderId _ held => ?_, fun eventId held => ?_, fun id _ held => ?_⟩
  · rw [absent (.sellerOrder sellerOrderId) trivial] at held
    cases held
  · rw [absent (.redis (getEventIdKey eventId)) trivial] at held
    cases held
  · have none : shop.row (.dispatchDecision id) = none := absent _ trivial
    rw [show shop.row (.dispatchDecision id) = some _ from held] at none
    cases none

/-- A request that finds a driver, and one more for the order. -/
def twoEvents : List (Action (Intake fun _ => "S9")) :=
  handOver 0 (some "x") 25 ++ handOver 1 (some "x") 13

theorem no_order_lost_shop :
    ∃ s, webhooks twoEvents = some s ∧ (s.answer? 0).isSome ∧ (s.answer? 1).isSome ∧
      (∀ t intake answer, s.answer? t = some (intake, .ok answer) → handled s.store intake.order) ∧
      ∀ eventId, (s.store.row (.redis (getEventIdKey eventId))).isSome → handled s.store "S9" := by
  have both : (webhooks twoEvents).map (fun s => ((s.answer? 0).isSome, (s.answer? 1).isSome)) =
      some (true, true) := by
    decide +kernel
  obtain ⟨s, ran, answered⟩ := Option.map_eq_some_iff.mp both
  obtain ⟨first, second⟩ := Prod.mk.inj answered
  have lost := no_order_lost (fun _ => "S9") webhook shop twoEvents s shop_accounted
    (by decide +kernel) ran
  exact ⟨s, ran, first, second, lost⟩

/-- Two events of one order, neither of which finds its delivery. The first
creates it, which the second takes for a duplicate. -/
def suppressed : List (Action (Intake fun _ => "S9")) :=
  handOver 0 none 2 ++ handOver 1 none 2 ++ List.replicate 5 (.step 0) ++ List.replicate 4 (.step 1)

/-- The first then finds no driver. -/
theorem order_lost :
    ∃ s, webhooks (suppressed ++ List.replicate 10 (.step 0)) = some s ∧
      ((s.answer? 0).map fun answered => answered.2) =
        some (.error (.serviceUnavailable "No drivers available")) ∧
      (∃ answer, (s.answer? 1).map (fun answered => answered.2) = some (.ok answer)) ∧
      (s.store.row (.redis (getEventIdKey "event1"))).isSome = true ∧ handled s.store "S9" = false := by
  have shape : (webhooks (suppressed ++ List.replicate 10 (.step 0))).map (fun s =>
      ((s.answer? 0).map fun answered => answered.2, (s.answer? 1).map fun answered => answered.2,
        (s.store.row (.redis (getEventIdKey "event1"))).isSome, handled s.store "S9")) =
      some (some (.error (.serviceUnavailable "No drivers available")),
        some (.ok
          { status := "ignored", message := "Duplicate delivery suppressed by DB constraint" }),
        true, false) := by
    decide +kernel
  obtain ⟨s, ran, shape⟩ := Option.map_eq_some_iff.mp shape
  obtain ⟨first, shape⟩ := Prod.mk.inj shape
  obtain ⟨second, shape⟩ := Prod.mk.inj shape
  obtain ⟨key, lost⟩ := Prod.mk.inj shape
  exact ⟨s, ran, first, ⟨_, second⟩, key, lost⟩

end Runs

end DriverMicroServices
