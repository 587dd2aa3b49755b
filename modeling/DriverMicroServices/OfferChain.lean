import DriverMicroServices.Sequential

/-! The chain of offers. A rejected offer is followed by one to the next driver;
an offer that expires is followed by nothing, and the successor of a rejected
one is chosen by a weaker test than the one it must then pass. -/
namespace DriverMicroServices
open Transactions Program

/-! ## What the offers cover -/

/-- The driver could be offered a delivery: available, and accepted by the
capability check. -/
def eligible (db : Db) (driverId : Uuid) : Bool :=
  (db.driver driverId).any fun driver => driver.status = .available &&
    (capabilityOf (some driver) (db.row (.driverStats driverId))).canAccept

/-- The driver has had an offer for the delivery. -/
def offeredTo (db : Db) (deliveryId driverId : Uuid) : Bool :=
  (db.offersOf deliveryId).any (·.2.driverId = driverId)

/-- Every driver who could be offered the delivery has already had an offer for
it. -/
def exhausted (db : Db) (deliveryId : Uuid) : Bool :=
  db.drivers.all fun entry => !eligible db entry.1 || offeredTo db deliveryId entry.1

def DriverOffer.isLive (now : Time) (offer : DriverOffer) : Bool :=
  offer.status = .pending && !decide (offer.expiresAt < now)

/-- The delivery has a pending offer that has not expired. -/
def covered (now : Time) (db : Db) (deliveryId : Uuid) : Bool :=
  (db.offersOf deliveryId).any (·.2.isLive now)

def isPending (db : Db) (deliveryId : Uuid) : Bool :=
  (db.delivery deliveryId).any (·.status = .pending)

/-- Every pending delivery that has had an offer has a live one, unless it is
exhausted. -/
def Unbroken (now : Time) (db : Db) : Prop :=
  ∀ deliveryId, isPending db deliveryId = true → db.offersOf deliveryId ≠ [] →
    covered now db deliveryId = true ∨ exhausted db deliveryId = true

/-- The driver whom `triggerNextCandidate` picks. -/
def successor (db : Db) (deliveryId : Uuid) : Option (Uuid × Driver) :=
  (db.drivers.filter (·.2.status = .available)).find?
    (·.1 ∉ (db.offersOf deliveryId).map (·.2.driverId))

/-! ## The calls -/

/-- The offer `createOfferForDriver` inserts. -/
def newOffer (amb : Ambient) (driverId deliveryId : Uuid) (expiresInSeconds : Option Nat)
    (delivery : Delivery) : DriverOffer where
  deliveryId := deliveryId
  driverId := driverId
  offerPayload := OffersService.calculateOfferPayload delivery amb.now
  createdAt := amb.now
  expiresAt := amb.now + (expiresInSeconds.getD 30 : Nat) * 1000

/-- A creation that found an eligible driver, a pending delivery and a free id. -/
def Creates (amb : Ambient) (driverId deliveryId : Uuid) (expiresInSeconds : Option Nat)
    (before after : Db) : Prop :=
  ∃ delivery, eligible before driverId = true ∧ before.delivery deliveryId = some delivery ∧
    delivery.status = .pending ∧ before.offer amb.offerId = none ∧
    after = before.set (.offer amb.offerId)
      (newOffer amb driverId deliveryId expiresInSeconds delivery)

theorem createOfferForDriver_returns {session : Session Row} (alone : session.held = []) :
    (OffersService.createOfferForDriver amb driverId deliveryId expiresInSeconds).Returns
      (fun _ left => left.held = [] ∧
        (Creates amb driverId deliveryId expiresInSeconds session.store left.store ∨
          left.store = session.store ∧ (eligible session.store driverId = true →
            isPending session.store deliveryId = true →
            (Db.offer session.store amb.offerId).isSome))) session := by
  unfold OffersService.createOfferForDriver checkDeliveryAcceptanceCapability throwIf
  simp only [find, bind_eq, pure_eq, throw_eq, Program.bind, onRet, Returns]
  cases driverFound : Db.driver session.store driverId with
  | none => exact ⟨alone, .inr ⟨rfl, by simp [eligible, driverFound]⟩⟩
  | some driver =>
    dsimp only
    split
    · rename_i busy
      exact ⟨alone, .inr ⟨rfl, by simp [eligible, driverFound, busy]⟩⟩
    rename_i available
    simp only [onRet, Returns, driverFound]
    split
    · rename_i rejected
      exact ⟨alone, .inr ⟨rfl, by simp_all [eligible]⟩⟩
    rename_i capable
    simp only [onRet, Returns]
    cases deliveryFound : Db.delivery session.store deliveryId with
    | none => exact ⟨alone, .inr ⟨rfl, by simp [isPending, deliveryFound]⟩⟩
    | some delivery =>
      dsimp only
      split
      · rename_i taken
        exact ⟨alone, .inr ⟨rfl, by simp [isPending, deliveryFound, taken]⟩⟩
      rename_i pending
      simp only [insertNow, onRet, Returns]
      refine ⟨by simp [alone], ?_⟩
      cases held : session.store.row (.offer amb.offerId) with
      | some row =>
        refine ⟨alone, .inr ⟨by simp [Store.autosave, held, ifAbsent], fun _ _ => ?_⟩⟩
        exact Option.isSome_of_eq_some held
      | none =>
        refine ⟨alone, .inl ⟨delivery, ?_, deliveryFound, not_not.mp pending, held, ?_⟩⟩
        · simp_all [eligible]
        · simp [Store.autosave, held, ifAbsent, newOffer]

/-- The successor of an offer: created for the driver picked, unless there is no
such driver or the creation refuses him. -/
def Follows (amb : Ambient) (deliveryId : Uuid) (before after : Db) : Prop :=
  (∃ entry, isPending before deliveryId = true ∧ successor before deliveryId = some entry ∧
    Creates amb entry.1 deliveryId (some 30) before after) ∨
  after = before ∧ (isPending before deliveryId = true → before.offer amb.offerId = none →
    ∀ entry, successor before deliveryId = some entry → eligible before entry.1 = false)

private theorem triggerNextCandidate_returns {session : Session Row} (alone : session.held = []) :
    (OffersService.triggerNextCandidate amb deliveryId).Returns
      (fun _ left => left.held = [] ∧ Follows amb deliveryId session.store left.store) session := by
  unfold OffersService.triggerNextCandidate
  simp only [find, bind_eq, pure_eq, Program.bind, onRet, Returns]
  cases deliveryFound : Db.delivery session.store deliveryId with
  | none => exact ⟨alone, .inr ⟨rfl, by simp [isPending, deliveryFound]⟩⟩
  | some delivery =>
    dsimp only
    split
    · rename_i taken
      exact ⟨alone, .inr ⟨rfl, by simp [isPending, deliveryFound, taken]⟩⟩
    rename_i pending
    have open_ : isPending session.store deliveryId = true := by
      simpa [isPending, deliveryFound] using pending
    simp only [Returns]
    cases picked : successor session.store deliveryId with
    | none =>
      have chosen := picked
      unfold successor at chosen
      rw [chosen]
      refine ⟨alone, .inr ⟨rfl, fun _ _ entry picked' => ?_⟩⟩
      rw [picked] at picked'
      cases picked'
    | some entry =>
      have chosen := picked
      unfold successor at chosen
      rw [chosen]
      refine (returns_onRet _ _).mpr ?_
      refine returns_mono (createOfferForDriver_returns alone) fun result left held => ?_
      obtain ⟨alone', created | ⟨same, refused⟩⟩ := held
      · cases result <;> exact ⟨alone', .inl ⟨entry, open_, picked, created⟩⟩
      · have follows : Follows amb deliveryId session.store left.store := by
          refine .inr ⟨same, fun _ free other picked' => ?_⟩
          obtain rfl : entry = other := Option.some.inj (picked.symm.trans picked')
          by_contra chosen
          have held := refused ((Bool.not_eq_false _).mp chosen) open_
          rw [free] at held
          cases held
        cases result <;> exact ⟨alone', follows⟩

/-- A rejection that passed its checks: the offer is stored as rejected and its
successor follows. -/
def Rejects (amb : Ambient) (offerId driverId : Uuid) (reason : Option String)
    (before after : Db) : Prop :=
  ∃ offer, before.offer offerId = some offer ∧ offer.driverId = driverId ∧
    offer.status = .pending ∧ Follows amb offer.deliveryId
      (before.set (.offer offerId) (OffersService.rejection amb.now reason offer)) after

/-- The rejection passes the checks of `rejectOffer`. -/
def mayReject (db : Db) (offerId driverId : Uuid) : Bool :=
  (db.offer offerId).any fun offer => offer.driverId = driverId && offer.status = .pending

private theorem rejectOffer_returns :
    (OffersService.rejectOffer amb offerId driverId reason).Returns (fun _ left =>
      Rejects amb offerId driverId reason store left.store ∨
        left.store = store ∧ mayReject store offerId driverId = false) { store } := by
  unfold OffersService.rejectOffer throwIf
  simp only [find, bind_eq, pure_eq, throw_eq, Program.bind, onRet, Returns]
  cases found : Db.offer store offerId with
  | none => exact .inr ⟨rfl, by simp [mayReject, found]⟩
  | some offer =>
    dsimp only
    split
    · rename_i other
      exact .inr ⟨rfl, by simp [mayReject, found, other]⟩
    rename_i own
    simp only [onRet]
    split
    · rename_i processed
      exact .inr ⟨rfl, by simp [mayReject, found, processed]⟩
    rename_i pending
    have stored : store.autosave (.offer offerId)
        (·.map fun _ => OffersService.rejection amb.now reason offer) =
        store.set (.offer offerId) (OffersService.rejection amb.now reason offer) := by
      have row : store.row (.offer offerId) = some offer := found
      simp [Store.autosave, row]
    simp only [saveOfferNow, onRet]
    refine ⟨by simp, (returns_onRet _ _).mpr ?_⟩
    refine returns_mono (triggerNextCandidate_returns rfl) fun result left held => ?_
    have follows : Follows amb offer.deliveryId
        (store.autosave (.offer offerId) (·.map fun _ => OffersService.rejection amb.now reason offer))
        left.store := held.2
    rw [stored] at follows
    have rejects : Rejects amb offerId driverId reason store left.store :=
      ⟨offer, found, not_not.mp own, not_not.mp pending, follows⟩
    cases result <;> exact .inl rejects

/-- Nothing but offers and side tables changes. -/
def OnlyOffers (before after : Db) : Prop :=
  ∀ k, ¬ k.Aside → (∀ id, k ≠ .offer id) → after.row k = before.row k

private theorem expireOffers_returns :
    (OffersService.expireOffers amb).Returns (fun _ left =>
      OffersLapse amb.now store left.store ∧ OnlyOffers store left.store) { store } := by
  refine returns_mono (transaction_returns
    (fun _ after => OffersLapse amb.now store after ∧ OnlyOffers store after)
    fun session here => ?_) ?_
  · rw [← bind_ret (updateOffers _ _)]
    refine returns_updateOffers here (by simp) fun db' session here others lapsed => ?_
    refine ⟨here.stored, ⟨?_, fun id => ?_⟩, fun k main other => ?_⟩
    · rw [here.seen.delivery]
      exact funext fun id => others (.delivery id) (by simp)
    · rw [here.seen.offer]
      refine (lapsed id).imp_right ?_
      rintro ⟨offer, held, matched, expired⟩
      obtain ⟨live, late⟩ := of_decide_eq_true matched
      exact ⟨offer, held, live, late, expired⟩
    · rw [here.seen k main]
      exact others k other
  · intro result left held
    cases result with
    | ok _ => exact held
    | error error =>
      exact ⟨⟨held.delivery, fun id => .inl (congrFun held.offer id)⟩, fun k main _ => held k main⟩

/-- The driver of an accepted offer becomes busy; nothing else about the drivers
changes. -/
def Busied (before after : Db) : Prop :=
  (∀ id, after.driver id = before.driver id ∨ ∃ driver, before.driver id = some driver ∧
    after.driver id = some { driver with status := .busy }) ∧
  ∀ id, after.row (.driverStats id) = before.row (.driverStats id)

theorem acceptOffer_returns (env : Env) :
    (OffersService.acceptOffer env amb offerId driverId acceptedAt).Returns (fun _ left =>
      SameTables store left.store ∨ Busied store left.store ∧ ∃ offer row,
        Acceptance amb offerId driverId
          (fun offer =>
            { offer with
              status := .accepted, acceptedAt := some acceptedAt
              driverResponseTimeMs := some (acceptedAt - offer.createdAt) })
          .rejected (assignTo amb driverId) store left.store offer row) { store } := by
  refine returns_mono (transaction_returns (fun _ after => Busied store after ∧ ∃ offer row,
    Acceptance amb offerId driverId
      (fun offer =>
        { offer with
          status := .accepted, acceptedAt := some acceptedAt
          driverResponseTimeMs := some (acceptedAt - offer.createdAt) })
      .rejected (assignTo amb driverId) store after offer row) fun session here => ?_) ?_
  · refine returns_lockOffer here fun session here => ?_
    cases held : store.offer offerId with
    | none => exact returns_throw here
    | some offer =>
      refine returns_throwIf here fun own => returns_throwIf here fun live =>
        returns_throwIf here fun fresh => ?_
      refine returns_check here fun capability session here => returns_throwIf here fun _ => ?_
      refine returns_saveOffer here held fun session here => ?_
      refine returns_updateOffers here (by simp) fun db session here others changed => ?_
      refine returns_lockDelivery here fun session here => ?_
      have sameDelivery : ∀ id, db.delivery id = store.delivery id := fun id =>
        (others (.delivery id) (by simp)).trans (Db.delivery_set_other _ _ (by simp))
      have sameDriver : ∀ id, db.driver id = store.driver id := fun id =>
        (others (.driver id) (by simp)).trans (Db.driver_set_other _ _ (by simp))
      have sameStats : ∀ id, db.row (.driverStats id) = store.row (.driverStats id) := fun id =>
        (others (.driverStats id) (by simp)).trans (Store.set_row_ne _ _ (by simp))
      rw [sameDelivery]
      cases found : store.delivery offer.deliveryId with
      | none => exact returns_throw here
      | some row =>
        refine returns_saveDelivery here ((sameDelivery _).trans found) fun session here => ?_
        refine returns_insert here trivial (by simp) fun session here => ?_
        refine returns_updateDriver here fun db' session here driver => ?_
        refine returns_publish here fun after same => ?_
        have offers : after.offer = db.offer := by
          rw [same.offer]
          rcases driver with rfl | ⟨_, _, rfl⟩ <;> exact funext fun id => by simp
        have deliveries : after.delivery = Function.update store.delivery offer.deliveryId
            (some ((assignTo amb driverId row.entity).saveOver row)) := by
          rw [same.delivery, ← funext sameDelivery, ← Db.delivery_update]
          rcases driver with rfl | ⟨_, _, rfl⟩
          · rfl
          · exact funext fun id => by simp
        have busied : Busied store after := by
          refine ⟨fun id => ?_, fun id => ?_⟩
          · rw [same.driver, ← sameDriver]
            rcases driver with rfl | ⟨driver, held', rfl⟩
            · exact .inl (by simp)
            · rw [Db.driver_set_other _ _ (by simp)] at held'
              by_cases here : id = driverId
              · subst here
                exact .inr ⟨driver, held', by simp⟩
              · exact .inl (by simp [here])
          · rw [same (.driverStats id) not_false, ← sameStats]
            rcases driver with rfl | ⟨_, _, rfl⟩
            · exact Store.set_row_ne _ _ (by simp)
            · rw [Store.set_row_ne _ _ (by simp), Store.set_row_ne _ _ (by simp)]
        rw [← offers] at changed
        rw [Db.offer_update] at changed
        obtain ⟨won, lost⟩ := won_and_lost rfl (fun _ _ matched => of_decide_eq_true matched) changed
        exact ⟨busied, offer, row, ⟨held, not_not.mp own, not_not.mp live, fresh, found, deliveries,
          won, lost⟩⟩
  · intro result left held
    cases result with
    | ok _ => exact .inr held
    | error error => exact .inl held

/-! ## Facts about the tables -/

section Tables

variable {db before after : Db} {deliveryId driverId : Uuid} {now : Time}

theorem offeredTo_iff : offeredTo db deliveryId driverId = true ↔
    ∃ id offer, db.offer id = some offer ∧ offer.deliveryId = deliveryId ∧
      offer.driverId = driverId := by
  simp [offeredTo, Db.mem_offersOf, and_assoc]

theorem covered_iff : covered now db deliveryId = true ↔
    ∃ id offer, db.offer id = some offer ∧ offer.deliveryId = deliveryId ∧
      offer.isLive now = true := by
  simp [covered, Db.mem_offersOf, and_assoc]

theorem offersOf_ne_nil : db.offersOf deliveryId ≠ [] ↔
    ∃ id offer, db.offer id = some offer ∧ offer.deliveryId = deliveryId := by
  constructor
  · intro some_
    obtain ⟨⟨id, offer⟩, member⟩ := List.exists_mem_of_ne_nil _ some_
    exact ⟨id, offer, (Db.mem_offersOf db).mp member⟩
  · rintro ⟨id, offer, found⟩
    exact List.ne_nil_of_mem ((Db.mem_offersOf db).mpr found)

theorem eligible_iff : eligible db driverId = true ↔ ∃ driver, db.driver driverId = some driver ∧
    driver.status = .available ∧
    (capabilityOf (some driver) (db.row (.driverStats driverId))).canAccept = true := by
  simp only [eligible, Option.any_eq_true, Bool.and_eq_true, decide_eq_true_eq]

theorem exhausted_iff : exhausted db deliveryId = true ↔
    ∀ driverId, eligible db driverId = true → offeredTo db deliveryId driverId = true := by
  simp only [exhausted, List.all_eq_true, Bool.or_eq_true, Bool.not_eq_true']
  constructor
  · intro all driverId could
    obtain ⟨driver, found, _⟩ := eligible_iff.mp could
    have listed := (Db.mem_drivers db).mpr found
    exact (all _ listed).resolve_left (by simp [could])
  · intro all entry _
    by_cases could : eligible db entry.1 = true
    · exact .inr (all entry.1 could)
    · exact .inl (Bool.eq_false_iff.mpr could)

/-- The driver picked is available and has had no offer for the delivery. -/
theorem successor_some (picked : successor db deliveryId = some entry) :
    db.driver entry.1 = some entry.2 ∧ offeredTo db deliveryId entry.1 = false := by
  have member := List.mem_of_find?_eq_some picked
  have fresh := List.find?_some picked
  obtain ⟨driverId, driver⟩ := entry
  refine ⟨(Db.mem_drivers db).mp (List.mem_of_mem_filter member), ?_⟩
  simpa [offeredTo] using fresh

/-- When no driver is picked, none who could be offered the delivery is left. -/
theorem successor_none (picked : successor db deliveryId = none) :
    exhausted db deliveryId = true := by
  refine exhausted_iff.mpr fun driverId could => ?_
  obtain ⟨driver, found, available, _⟩ := eligible_iff.mp could
  have listed := (Db.mem_drivers db).mpr found
  have excluded := List.find?_eq_none.mp picked (driverId, driver) (by simp [listed, available])
  simpa [offeredTo] using excluded

/-- What every step keeps: offers stay with their delivery and driver, and no
driver comes to be eligible. -/
structure Later (before after : Db) : Prop where
  offers : ∀ id offer, before.offer id = some offer → ∃ offer', after.offer id = some offer' ∧
    offer'.deliveryId = offer.deliveryId ∧ offer'.driverId = offer.driverId
  eligible : ∀ driverId, eligible after driverId = true → eligible before driverId = true

theorem Later.offeredTo (later : Later before after)
    (offered : offeredTo before deliveryId driverId = true) :
    DriverMicroServices.offeredTo after deliveryId driverId = true := by
  obtain ⟨id, offer, found, rfl, rfl⟩ := offeredTo_iff.mp offered
  obtain ⟨offer', found', delivery, driver⟩ := later.offers id offer found
  exact offeredTo_iff.mpr ⟨id, offer', found', delivery, driver⟩

/-- An exhausted delivery stays exhausted. -/
theorem Later.exhausted (later : Later before after)
    (done : exhausted before deliveryId = true) :
    DriverMicroServices.exhausted after deliveryId = true :=
  exhausted_iff.mpr fun driverId could =>
    later.offeredTo (exhausted_iff.mp done driverId (later.eligible driverId could))

/-- Eligibility depends on the row of the driver and on his hash. -/
theorem eligible_congr (driver : after.driver driverId = before.driver driverId)
    (stats : after.row (.driverStats driverId) = before.row (.driverStats driverId)) :
    DriverMicroServices.eligible after driverId = DriverMicroServices.eligible before driverId := by
  unfold DriverMicroServices.eligible
  rw [driver, stats]

end Tables

/-! ## Turns -/

/-- A call on the offers. -/
inductive OfferCall where
  | createOfferForDriver (driverId deliveryId : Uuid) (expiresInSeconds : Option Nat)
  | acceptOffer (offerId driverId : Uuid) (acceptedAt : Time)
  | rejectOffer (offerId driverId : Uuid) (reason : Option String)
  | expireOffers
  deriving DecidableEq

def OfferCall.request (call : OfferCall) (ambient : Ambient) : Request where
  operation :=
    match call with
    | .createOfferForDriver driverId deliveryId expiresInSeconds =>
      .createOfferForDriver driverId deliveryId expiresInSeconds
    | .acceptOffer offerId driverId acceptedAt => .acceptOffer offerId driverId acceptedAt
    | .rejectOffer offerId driverId reason => .rejectOffer offerId driverId reason
    | .expireOffers => .expireOffers
  ambient := ambient

/-- What a call on the offers does, run alone. -/
inductive OfferTurn (turn : ServiceTurn) : Prop
  | idle (same : SameTables turn.before turn.after)
      (idle : ∀ offerId driverId reason,
        turn.label.operation = .rejectOffer offerId driverId reason →
        mayReject turn.before offerId driverId = false)
      (unswept : turn.label.operation ≠ .expireOffers)
  | created (asked : turn.label.operation = .createOfferForDriver driverId deliveryId expiresInSeconds)
      (creates : Creates turn.label.ambient driverId deliveryId expiresInSeconds turn.before turn.after)
  | accepted (asked : turn.label.operation = .acceptOffer offerId driverId acceptedAt)
      (busied : Busied turn.before turn.after)
      (accepts : Acceptance turn.label.ambient offerId driverId
        (fun offer =>
          { offer with
            status := .accepted, acceptedAt := some acceptedAt
            driverResponseTimeMs := some (acceptedAt - offer.createdAt) })
        .rejected (assignTo turn.label.ambient driverId) turn.before turn.after offer row)
  | rejected (asked : turn.label.operation = .rejectOffer offerId driverId reason)
      (rejects : Rejects turn.label.ambient offerId driverId reason turn.before turn.after)
  | expired (asked : turn.label.operation = .expireOffers)
      (lapse : OffersLapse turn.label.ambient.now turn.before turn.after)
      (only : OnlyOffers turn.before turn.after)

private theorem offer_turn (env : Env) (call : OfferCall) (amb : Ambient) (store : Db) :
    ((call.request amb).program env).Returns
      (fun answer left => OfferTurn ⟨store, call.request amb, answer, left.store⟩) { store } := by
  cases call with
  | createOfferForDriver driverId deliveryId expiresInSeconds =>
    refine returns_bind (returns_mono (createOfferForDriver_returns rfl) fun result left held => ?_)
    have turn : ∀ answer, OfferTurn ⟨store, OfferCall.request
        (.createOfferForDriver driverId deliveryId expiresInSeconds) amb, answer, left.store⟩ := by
      intro answer
      rcases held.2 with creates | ⟨same, _⟩
      · exact .created rfl creates
      · exact .idle (same ▸ .refl _) nofun nofun
    cases result <;> exact turn _
  | acceptOffer offerId driverId acceptedAt =>
    refine returns_bind (returns_mono (acceptOffer_returns env) fun result left held => ?_)
    have turn : ∀ answer, OfferTurn ⟨store, OfferCall.request
        (.acceptOffer offerId driverId acceptedAt) amb, answer, left.store⟩ := by
      intro answer
      rcases held with same | ⟨busied, offer, row, accepts⟩
      · exact .idle same nofun nofun
      · exact .accepted rfl busied accepts
    cases result <;> exact turn _
  | rejectOffer offerId driverId reason =>
    refine returns_bind (returns_mono rejectOffer_returns fun result left held => ?_)
    have turn : ∀ answer, OfferTurn ⟨store, OfferCall.request
        (.rejectOffer offerId driverId reason) amb, answer, left.store⟩ := by
      intro answer
      rcases held with rejects | ⟨same, idle⟩
      · exact .rejected rfl rejects
      · refine .idle (same ▸ .refl _) ?_ nofun
        rintro _ _ _ ⟨⟩
        exact idle
    cases result <;> exact turn _
  | expireOffers =>
    refine returns_bind (returns_mono expireOffers_returns fun result left held => ?_)
    have turn : ∀ answer, OfferTurn ⟨store, OfferCall.request .expireOffers amb, answer,
        left.store⟩ := fun answer => .expired rfl held.1 held.2
    cases result <;> exact turn _

/-- The delivery and the driver of an offer, which never change. -/
def parties (db : Db) (id : Uuid) : Option (Uuid × Uuid) :=
  (db.offer id).map fun offer => (offer.deliveryId, offer.driverId)

theorem parties_some {id : Uuid} (found : Db.offer db id = some offer) :
    parties db id = some (offer.deliveryId, offer.driverId) := by
  simp [parties, found]

theorem of_parties {id : Uuid} (same : parties db id = some (deliveryId, driverId)) :
    ∃ offer, Db.offer db id = some offer ∧ offer.deliveryId = deliveryId ∧
      offer.driverId = driverId := by
  simpa [parties] using same

/-- The offer a call makes, if it makes one: the one it was asked for, or that of
a driver without an offer for the delivery. -/
def Makes (turn : ServiceTurn) (deliveryId driverId : Uuid) : Prop :=
  match turn.label.operation with
  | .createOfferForDriver driver delivery _ => driver = driverId ∧ delivery = deliveryId
  | .rejectOffer _ _ _ => offeredTo turn.before deliveryId driverId = false
  | _ => False

/-- An offer is as old as its call found it, or new. -/
def Grows (turn : ServiceTurn) : Prop :=
  ∀ id, parties turn.after id = parties turn.before id ∨
    id = turn.label.ambient.offerId ∧ parties turn.before id = none ∧
      ∃ deliveryId driverId, parties turn.after id = some (deliveryId, driverId) ∧
        Makes turn deliveryId driverId

/-- A rejected offer keeps its delivery and driver. -/
theorem parties_rejected (found : before.offer offerId = some offer) (id : Uuid) :
    parties (before.set (.offer offerId) (OffersService.rejection now reason offer)) id =
      parties before id := by
  by_cases same : id = offerId
  · subst same
    simp [parties, found, OffersService.rejection]
  · simp [parties, same]

theorem offeredTo_congr (same : ∀ id, parties after id = parties before id) :
    offeredTo after deliveryId driverId = offeredTo before deliveryId driverId := by
  have transfer : ∀ first second : Db, (∀ id, parties first id = parties second id) →
      offeredTo first deliveryId driverId = true → offeredTo second deliveryId driverId = true := by
    intro first second same offered
    obtain ⟨id, offer, found, rfl, rfl⟩ := offeredTo_iff.mp offered
    have kept := parties_some found
    rw [same] at kept
    obtain ⟨offer', found', delivery, driver⟩ := of_parties kept
    exact offeredTo_iff.mpr ⟨id, offer', found', delivery, driver⟩
  exact Bool.eq_iff_iff.mpr ⟨transfer after before same, transfer before after fun id => (same id).symm⟩

theorem creates_parties (creates : Creates amb driverId deliveryId expiresInSeconds before after)
    (id : Uuid) : parties after id = parties before id ∨
      id = amb.offerId ∧ parties before id = none ∧ parties after id = some (deliveryId, driverId) := by
  obtain ⟨delivery, _, _, _, free, rfl⟩ := creates
  by_cases same : id = amb.offerId
  · subst same
    exact .inr ⟨rfl, by simp [parties, free], by simp [parties, newOffer]⟩
  · exact .inl (by simp [parties, same])

theorem grows_turn (held : OfferTurn turn) : Grows turn := by
  intro id
  cases held with
  | idle same => exact .inl (by simp [parties, same.offer])
  | created asked creates =>
    refine (creates_parties creates id).imp_right ?_
    rintro ⟨same, free, result⟩
    exact ⟨same, free, _, _, result, by simp [Makes, asked]⟩
  | @accepted offerId driverId acceptedAt offer row asked busied accepts =>
    refine .inl ?_
    by_cases same : id = offerId
    · subst same
      simp [parties, accepts.won, accepts.held]
    · rcases accepts.others id same with kept | ⟨other, found, _, _, result⟩
      · simp [parties, kept]
      · simp [parties, found, result]
  | @rejected offerId driverId reason asked rejects =>
    obtain ⟨offer, found, _, _, ⟨entry, _, picked, creates⟩ | ⟨same, _⟩⟩ := rejects
    · have fresh := (successor_some picked).2
      rw [offeredTo_congr (parties_rejected found)] at fresh
      rw [← parties_rejected found]
      refine (creates_parties creates id).imp_right ?_
      rintro ⟨same, free, result⟩
      exact ⟨same, free, _, _, result, by simpa [Makes, asked] using fresh⟩
    · rw [same]
      exact .inl (parties_rejected found id)
  | expired asked lapse only =>
    refine .inl ?_
    rcases lapse.2 id with kept | ⟨offer, found, _, _, result⟩
    · simp [parties, kept]
    · simp [parties, found, result]

/-- A rejection leaves the drivers. -/
theorem eligible_rejected : eligible (before.set (.offer offerId) offer) driverId =
    eligible before driverId :=
  eligible_congr (Db.driver_set_other _ _ (by simp)) (Store.set_row_ne _ _ (by simp))

private theorem later_turn (held : OfferTurn turn) : Later turn.before turn.after := by
  refine ⟨fun id offer found => ?_, fun driverId could => ?_⟩
  · have old := parties_some found
    rcases grows_turn held id with kept | ⟨_, free, _⟩
    · rw [← kept] at old
      exact of_parties old
    · rw [free] at old
      cases old
  · cases held with
    | idle same => rwa [eligible_congr (congrFun same.driver _) (same _ not_false)] at could
    | created asked creates =>
      obtain ⟨delivery, _, _, _, _, same⟩ := creates
      rwa [same, eligible_rejected] at could
    | accepted asked busied accepts =>
      rcases busied.1 driverId with kept | ⟨driver, _, busy⟩
      · rwa [eligible_congr kept (busied.2 driverId)] at could
      · -- a busy driver is not available
        obtain ⟨driver', found, available, _⟩ := eligible_iff.mp could
        rw [busy] at found
        cases found
        cases available
    | rejected asked rejects =>
      obtain ⟨offer, found, _, _, ⟨entry, _, picked, delivery, _, _, _, _, same⟩ | ⟨same, _⟩⟩ := rejects
      · rwa [same, eligible_rejected, eligible_rejected] at could
      · rwa [same, eligible_rejected] at could
    | expired asked lapse only =>
      rwa [eligible_congr (only (.driver driverId) not_false (by simp))
        (only (.driverStats driverId) not_false (by simp))] at could

/-! ## Where the chain breaks -/

/-- The call ended an offer: a rejection that passed its checks, or the sweep of
expired offers. -/
def isCompleted (turn : ServiceTurn) : Bool :=
  match turn.label.operation with
  | .rejectOffer offerId driverId _ => mayReject turn.before offerId driverId
  | .expireOffers => true
  | _ => false

/-- No pending offer of a pending delivery has expired unanswered, unless another
one is live or the delivery is exhausted. -/
def noLapse (now : Time) (db : Db) (spared : Uuid → Bool) : Bool :=
  db.offers.all fun entry =>
    !(entry.2.status = .pending && entry.2.expiresAt < now && isPending db entry.2.deliveryId &&
      !spared entry.2.deliveryId) ||
    (covered now db entry.2.deliveryId || exhausted db entry.2.deliveryId)

/-- The driver picked to follow a rejected offer is eligible, if the delivery
needs one. -/
def hasSuccessor (now : Time) (db : Db) (offerId deliveryId : Uuid) : Bool :=
  !isPending db deliveryId || (successor db deliveryId).all (fun entry => eligible db entry.1) ||
    (db.offersOf deliveryId).any (fun entry => entry.1 ≠ offerId && entry.2.isLive now) ||
    exhausted db deliveryId

/-- What an ending offer needs to find. -/
def isCareful (turn : ServiceTurn) : Bool :=
  let now := turn.label.ambient.now
  match turn.label.operation with
  | .rejectOffer offerId driverId _ => !mayReject turn.before offerId driverId ||
      (Db.offer turn.before offerId).all fun offer =>
        noLapse now turn.before (· = offer.deliveryId) &&
          hasSuccessor now turn.before offerId offer.deliveryId
  | .expireOffers => noLapse now turn.before fun _ => false
  | _ => true

/-- Every pending delivery that has had an offer has a pending one, expired or
not, unless it is exhausted. -/
def Linked (db : Db) : Prop :=
  ∀ deliveryId, isPending db deliveryId = true → db.offersOf deliveryId ≠ [] →
    (∃ id offer, db.offer id = some offer ∧ offer.deliveryId = deliveryId ∧
      offer.status = .pending) ∨ exhausted db deliveryId = true

theorem noLapse_iff {spared : Uuid → Bool} : noLapse now db spared = true ↔
    ∀ id offer, Db.offer db id = some offer → offer.status = .pending → offer.expiresAt < now →
      isPending db offer.deliveryId = true → spared offer.deliveryId = false →
      covered now db offer.deliveryId = true ∨ exhausted db offer.deliveryId = true := by
  simp only [noLapse, List.all_eq_true, Bool.or_eq_true, Bool.not_eq_true', Prod.forall,
    Db.mem_offers]
  constructor
  · intro all id offer found pending late open_ unspared
    refine (all id offer found).resolve_left ?_
    simp [pending, late, open_, unspared]
  · intro safe id offer found
    by_cases lapsed : (decide (offer.status = .pending) && decide (offer.expiresAt < now) &&
        isPending db offer.deliveryId && !spared offer.deliveryId) = true
    · simp only [Bool.and_eq_true, decide_eq_true_eq, Bool.not_eq_true'] at lapsed
      obtain ⟨⟨⟨pending, late⟩, open_⟩, unspared⟩ := lapsed
      exact .inr (safe id offer found pending late open_ unspared)
    · exact .inl (Bool.eq_false_iff.mpr lapsed)

theorem live_iff {offer : DriverOffer} : offer.isLive now = true ↔
    offer.status = .pending ∧ ¬ offer.expiresAt < now := by
  simp [DriverOffer.isLive]

theorem unbroken_linked (unbroken : Unbroken now db) : Linked db := by
  intro deliveryId pending some_
  refine (unbroken deliveryId pending some_).imp_left fun live => ?_
  obtain ⟨id, offer, found, same, live⟩ := covered_iff.mp live
  exact ⟨id, offer, found, same, (live_iff.mp live).1⟩

/-- A delivery whose live offers stay is covered or exhausted after a step when
none of its offers had lapsed before. -/
private theorem still_covered {spared : Uuid → Bool} (linked : Linked before)
    (safe : noLapse now before spared = true) (unspared : spared deliveryId = false)
    (later : Later before after) (pending : isPending before deliveryId = true)
    (some_ : before.offersOf deliveryId ≠ [])
    (kept : ∀ id offer, Db.offer before id = some offer → offer.deliveryId = deliveryId →
      offer.isLive now = true → Db.offer after id = some offer) :
    covered now after deliveryId = true ∨ exhausted after deliveryId = true := by
  have stays : covered now before deliveryId = true → covered now after deliveryId = true := by
    intro live
    obtain ⟨id, offer, found, same, live⟩ := covered_iff.mp live
    exact covered_iff.mpr ⟨id, offer, kept id offer found same live, same, live⟩
  rcases linked deliveryId pending some_ with ⟨id, offer, found, same, open_⟩ | done
  · by_cases late : offer.expiresAt < now
    · subst same
      exact (noLapse_iff.mp safe id offer found open_ late pending unspared).imp stays later.exhausted
    · refine .inl (stays (covered_iff.mpr ⟨id, offer, found, same, ?_⟩))
      exact live_iff.mpr ⟨open_, late⟩
  · exact .inr (later.exhausted done)

theorem offersOf_parties : Db.offersOf db deliveryId ≠ [] ↔
    ∃ id driverId, parties db id = some (deliveryId, driverId) := by
  rw [offersOf_ne_nil]
  constructor
  · rintro ⟨id, offer, found, rfl⟩
    exact ⟨id, _, parties_some found⟩
  · rintro ⟨id, driverId, same⟩
    obtain ⟨offer, found, delivery, _⟩ := of_parties same
    exact ⟨id, offer, found, delivery⟩

theorem exhausted_of_later (eligible' : ∀ driverId, eligible before driverId = true →
      eligible after driverId = true)
    (offered : ∀ driverId, offeredTo after deliveryId driverId = true →
      offeredTo before deliveryId driverId = true)
    (done : exhausted after deliveryId = true) : exhausted before deliveryId = true :=
  exhausted_iff.mpr fun driverId could =>
    offered driverId (exhausted_iff.mp done driverId (eligible' driverId could))

theorem isPending_congr (same : Db.delivery after = Db.delivery before) :
    isPending after deliveryId = isPending before deliveryId := by
  unfold isPending
  rw [same]

/-- The sweep leaves the chain unbroken exactly when no offer had lapsed. -/
theorem unbroken_of_expired (linked : Linked before) (later : Later before after)
    (lapse : OffersLapse now before after) (only : OnlyOffers before after) :
    Unbroken now after ↔ noLapse now before (fun _ => false) = true := by
  have samePending : ∀ deliveryId, isPending after deliveryId = isPending before deliveryId :=
    fun _ => isPending_congr lapse.1
  have sameParties : ∀ id, parties after id = parties before id := by
    intro id
    rcases lapse.2 id with kept | ⟨offer, found, _, _, result⟩
    · simp [parties, kept]
    · simp [parties, found, result]
  constructor
  · intro unbroken
    refine noLapse_iff.mpr fun id offer found open_ late pending _ => ?_
    have some_ : Db.offersOf after offer.deliveryId ≠ [] :=
      offersOf_parties.mpr ⟨id, _, (sameParties id).trans (parties_some found)⟩
    refine (unbroken _ ((samePending _).trans pending) some_).imp ?_ ?_
    · intro live
      obtain ⟨id', offer', found', same, live⟩ := covered_iff.mp live
      refine covered_iff.mpr ⟨id', offer', ?_, same, live⟩
      rcases lapse.2 id' with kept | ⟨_, _, _, _, result⟩
      · rwa [← kept]
      · rw [found'] at result
        cases result
        cases (live_iff.mp live).1
    · refine exhausted_of_later (fun driverId could => ?_) fun driverId offered => ?_
      · rwa [eligible_congr (only (.driver driverId) not_false (by simp))
          (only (.driverStats driverId) not_false (by simp))]
      · rwa [← offeredTo_congr sameParties]
  · intro safe deliveryId pending some_
    rw [samePending] at pending
    rw [offersOf_parties] at some_
    simp only [sameParties] at some_
    refine still_covered linked safe rfl later pending (offersOf_parties.mpr some_) ?_
    intro id offer found _ live
    rcases lapse.2 id with kept | ⟨offer', found', _, late, _⟩
    · rwa [kept]
    · obtain rfl : offer = offer' := Option.some.inj (found.symm.trans found')
      exact absurd late (live_iff.mp live).2

/-- A rejection touches the offers of its own delivery only. -/
theorem rejected_elsewhere (found : Db.offer before offerId = some offer)
    (follows : Follows amb offer.deliveryId
      (before.set (.offer offerId) (OffersService.rejection amb.now reason offer)) after)
    (elsewhere : other.deliveryId ≠ offer.deliveryId) :
    Db.offer after otherId = some other ↔ Db.offer before otherId = some other := by
  have kept : Db.offer (before.set (.offer offerId) (OffersService.rejection amb.now reason offer))
      otherId = some other ↔ Db.offer before otherId = some other := by
    by_cases same : otherId = offerId
    · subst same
      rw [Db.offer_set, if_pos rfl, found, Option.some.injEq, Option.some.injEq]
      constructor
      · rintro rfl
        exact absurd rfl elsewhere
      · rintro rfl
        exact absurd rfl elsewhere
    · rw [Db.offer_set, if_neg same]
  rcases follows with ⟨entry, _, _, delivery, _, _, _, free, result⟩ | ⟨same, _⟩
  · rw [result, ← kept, Db.offer_set]
    split
    · rename_i new
      rw [new, free]
      constructor
      · rintro ⟨⟩
        exact absurd rfl elsewhere
      · nofun
    · rfl
  · rw [same, kept]

theorem successor_rejected (found : Db.offer before offerId = some offer) :
    successor (before.set (.offer offerId) (OffersService.rejection now reason offer)) deliveryId =
      successor before deliveryId := by
  have picks : ∀ db, successor db deliveryId =
      ((Db.drivers db).filter (·.2.status = .available)).find?
        fun entry => !offeredTo db deliveryId entry.1 := by
    intro db
    unfold successor
    congr 1
    funext entry
    refine Bool.eq_iff_iff.mpr ?_
    simp [offeredTo]
  have drivers : Db.drivers (before.set (.offer offerId)
      (OffersService.rejection now reason offer)) = Db.drivers before :=
    Store.scan_set_other _ _ (Option.isSome_of_eq_some found) fun _ => rfl
  rw [picks, picks, drivers]
  congr 1
  funext entry
  rw [offeredTo_congr (parties_rejected found)]

private theorem hasSuccessor_iff (pending : isPending db deliveryId = true) :
    hasSuccessor now db offerId deliveryId = true ↔
      (∀ entry, successor db deliveryId = some entry → eligible db entry.1 = true) ∨
      (∃ id offer, id ≠ offerId ∧ Db.offer db id = some offer ∧ offer.deliveryId = deliveryId ∧
        offer.isLive now = true) ∨ exhausted db deliveryId = true := by
  simp only [hasSuccessor, pending, Bool.not_true, Bool.false_or, Bool.or_eq_true,
    Option.all_eq_true, List.any_eq_true, Prod.exists, Db.mem_offersOf, Bool.and_eq_true,
    decide_eq_true_eq, or_assoc]
  refine or_congr Iff.rfl (or_congr ?_ Iff.rfl)
  constructor
  · rintro ⟨id, offer, ⟨found, same⟩, other, live⟩
    exact ⟨id, offer, other, found, same, live⟩
  · rintro ⟨id, offer, other, found, same, live⟩
    exact ⟨id, offer, ⟨found, same⟩, other, live⟩

/-- The delivery of a rejected offer is covered or exhausted exactly when it has a
successor. -/
private theorem own_covered (later : Later before after)
    (found : Db.offer before offerId = some offer) (free : Db.offer before amb.offerId = none)
    (pending : isPending before offer.deliveryId = true)
    (follows : Follows amb offer.deliveryId
      (before.set (.offer offerId) (OffersService.rejection amb.now reason offer)) after) :
    (covered amb.now after offer.deliveryId = true ∨ exhausted after offer.deliveryId = true) ↔
      hasSuccessor amb.now before offerId offer.deliveryId = true := by
  rw [hasSuccessor_iff pending]
  rcases follows with ⟨entry, _, picked, delivery, could, _, _, _, result⟩ | ⟨same, refused⟩
  · constructor
    · refine fun _ => .inl fun entry' picked' => ?_
      rw [successor_rejected found, picked'] at picked
      cases picked
      rwa [eligible_rejected] at could
    · have live : (newOffer amb entry.1 offer.deliveryId (some 30) delivery).isLive amb.now = true := by
        have ahead : amb.now ≤ amb.now + (30 : Int) * 1000 := Int.le_add_of_nonneg_right (by decide)
        exact live_iff.mpr ⟨rfl, Int.not_lt.mpr ahead⟩
      refine fun _ => .inl (covered_iff.mpr
        ⟨amb.offerId, newOffer amb entry.1 offer.deliveryId (some 30) delivery, ?_, rfl, live⟩)
      rw [result, Db.offer_set, if_pos rfl]
  · have different : amb.offerId ≠ offerId := by
      rintro rfl
      rw [free] at found
      cases found
    have fresh : Db.offer (before.set (.offer offerId)
        (OffersService.rejection amb.now reason offer)) amb.offerId = none := by
      rw [Db.offer_set, if_neg different, free]
    have open_ : isPending (before.set (.offer offerId)
        (OffersService.rejection amb.now reason offer)) offer.deliveryId = true := by
      rw [isPending_congr (funext fun id => Db.delivery_set_other _ _ (by simp)), pending]
    subst same
    constructor
    · rintro (live | done)
      · obtain ⟨id, other, found', same, live⟩ := covered_iff.mp live
        rw [Db.offer_set] at found'
        split at found'
        · cases found'
          cases (live_iff.mp live).1
        · rename_i other'
          exact .inr (.inl ⟨id, other, other', found', same, live⟩)
      · refine .inr (.inr (exhausted_of_later (fun driverId could => ?_) (fun driverId => ?_) done))
        · rwa [eligible_rejected]
        · rw [offeredTo_congr (parties_rejected found)]
          exact fun offered => offered
    · rintro (eligible' | ⟨id, other, different', found', same, live⟩ | done)
      · cases picked : successor before offer.deliveryId with
        | none => exact .inr (later.exhausted (successor_none picked))
        | some entry =>
          have could := eligible' entry picked
          rw [← eligible_rejected, refused open_ fresh entry (by rw [successor_rejected found, picked])]
            at could
          cases could
      · refine .inl (covered_iff.mpr ⟨id, other, ?_, same, live⟩)
        rw [Db.offer_set, if_neg different', found']
      · exact .inr (later.exhausted done)

/-- A rejection leaves the chain unbroken exactly when no offer of another
delivery had lapsed and its own delivery has a successor. -/
theorem unbroken_of_rejected (linked : Linked before) (later : Later before after)
    (found : Db.offer before offerId = some offer) (free : Db.offer before amb.offerId = none)
    (follows : Follows amb offer.deliveryId
      (before.set (.offer offerId) (OffersService.rejection amb.now reason offer)) after) :
    Unbroken amb.now after ↔ noLapse amb.now before (· = offer.deliveryId) = true ∧
      hasSuccessor amb.now before offerId offer.deliveryId = true := by
  have sameDelivery : Db.delivery after = Db.delivery before := by
    have kept : Db.delivery (before.set (.offer offerId)
        (OffersService.rejection amb.now reason offer)) = Db.delivery before :=
      funext fun id => Db.delivery_set_other _ _ (by simp)
    rcases follows with ⟨entry, _, _, delivery, _, _, _, _, result⟩ | ⟨same, _⟩
    · rw [result, ← kept]
      exact funext fun id => Db.delivery_set_other _ _ (by simp)
    · rw [same, kept]
  have samePending : ∀ deliveryId, isPending after deliveryId = isPending before deliveryId :=
    fun _ => isPending_congr sameDelivery
  have sameEligible : ∀ driverId, eligible after driverId = eligible before driverId := by
    intro driverId
    rcases follows with ⟨entry, _, _, delivery, _, _, _, _, result⟩ | ⟨same, _⟩
    · rw [result, eligible_rejected, eligible_rejected]
    · rw [same, eligible_rejected]
  have elsewhere : ∀ id other, other.deliveryId ≠ offer.deliveryId →
      (Db.offer after id = some other ↔ Db.offer before id = some other) :=
    fun _ _ => rejected_elsewhere found follows
  constructor
  · intro unbroken
    refine ⟨noLapse_iff.mpr fun id other found' open' late pending unspared => ?_, ?_⟩
    · have different : other.deliveryId ≠ offer.deliveryId := by simpa using unspared
      have some_ : Db.offersOf after other.deliveryId ≠ [] :=
        offersOf_ne_nil.mpr ⟨id, other, (elsewhere _ _ different).mpr found', rfl⟩
      refine (unbroken _ ((samePending _).trans pending) some_).imp ?_ ?_
      · intro live
        obtain ⟨id', other', found', same, live⟩ := covered_iff.mp live
        exact covered_iff.mpr ⟨id', other', (elsewhere _ _ (same ▸ different)).mp found', same, live⟩
      · refine exhausted_of_later (fun driverId could => ?_) fun driverId offered => ?_
        · rwa [sameEligible]
        · obtain ⟨id', other', found', same, driver⟩ := offeredTo_iff.mp offered
          exact offeredTo_iff.mpr
            ⟨id', other', (elsewhere _ _ (same ▸ different)).mp found', same, driver⟩
    · by_cases pending : isPending before offer.deliveryId = true
      · refine (own_covered later found free pending follows).mp (unbroken _ ?_ ?_)
        · rwa [samePending]
        · obtain ⟨offer', found', delivery, _⟩ := later.offers offerId offer found
          exact offersOf_ne_nil.mpr ⟨offerId, offer', found', delivery⟩
      · simp [hasSuccessor, pending]
  · rintro ⟨safe, successor⟩ deliveryId pending some_
    rw [samePending] at pending
    by_cases here : deliveryId = offer.deliveryId
    · subst here
      exact (own_covered later found free pending follows).mpr successor
    · obtain ⟨id, other, found', same⟩ := offersOf_ne_nil.mp some_
      have held := (elsewhere id other (same ▸ here)).mp found'
      refine still_covered linked safe (by simpa using here) later pending
        (offersOf_ne_nil.mpr ⟨id, other, held, same⟩) ?_
      intro id' other' found' same' _
      exact (elsewhere _ _ (same' ▸ here)).mpr found'

/-- A pending offer that stays keeps its delivery linked. -/
private theorem still_linked (linked : Linked before) (later : Later before after)
    (pending : isPending before deliveryId = true) (some_ : Db.offersOf before deliveryId ≠ [])
    (kept : ∀ id offer, Db.offer before id = some offer → offer.deliveryId = deliveryId →
      Db.offer after id = some offer) :
    (∃ id offer, Db.offer after id = some offer ∧ offer.deliveryId = deliveryId ∧
      offer.status = .pending) ∨ exhausted after deliveryId = true := by
  refine (linked deliveryId pending some_).imp ?_ later.exhausted
  rintro ⟨id, offer, found, same, open_⟩
  exact ⟨id, offer, kept id offer found same, same, open_⟩

private theorem linked_created (linked : Linked before) (later : Later before after)
    (creates : Creates amb driverId deliveryId expiresInSeconds before after) : Linked after := by
  intro otherId pending some_
  obtain ⟨delivery, _, _, _, free, result⟩ := creates
  by_cases here : otherId = deliveryId
  · subst here
    refine .inl ⟨amb.offerId, newOffer amb driverId otherId expiresInSeconds delivery, ?_, rfl, rfl⟩
    rw [result, Db.offer_set, if_pos rfl]
  · have kept : ∀ id, id ≠ amb.offerId → Db.offer after id = Db.offer before id := by
      intro id different
      rw [result, Db.offer_set, if_neg different]
    have delivery_ : Db.delivery after = Db.delivery before := by
      rw [result]
      exact funext fun id => Db.delivery_set_other _ _ (by simp)
    rw [isPending_congr delivery_] at pending
    refine still_linked linked later pending ?_ fun id offer found _ => ?_
    · obtain ⟨id, offer, found, same⟩ := offersOf_ne_nil.mp some_
      by_cases new : id = amb.offerId
      · rw [new, result, Db.offer_set, if_pos rfl] at found
        cases found
        exact absurd same.symm here
      · exact offersOf_ne_nil.mpr ⟨id, offer, (kept id new).symm.trans found, same⟩
    · rw [kept id (fun new => by simp [new, free] at found), found]

private theorem linked_accepted (linked : Linked before) (later : Later before after)
    (accepts : Acceptance amb offerId driverId accepted lost (assignTo amb driverId) before after
      offer row) (same : (accepted offer).deliveryId = offer.deliveryId) : Linked after := by
  intro deliveryId pending some_
  have elsewhere : deliveryId ≠ offer.deliveryId := by
    rintro rfl
    rw [isPending, accepts.assigned, Function.update_self, assignTo_saveOver] at pending
    cases pending
  have open_ : isPending before deliveryId = true := by
    rwa [isPending, accepts.assigned, Function.update_of_ne elsewhere] at pending
  refine still_linked linked later open_ ?_ fun id other found named => ?_
  · obtain ⟨id, other, found, named⟩ := offersOf_ne_nil.mp some_
    by_cases won : id = offerId
    · rw [won, accepts.won] at found
      cases found
      exact absurd (named.symm.trans same) elsewhere
    · rcases accepts.others id won with kept | ⟨other', found', delivery, _, result⟩
      · exact offersOf_ne_nil.mpr ⟨id, other, kept.symm.trans found, named⟩
      · rw [found] at result
        cases result
        exact absurd (named.symm.trans delivery) elsewhere
  · by_cases won : id = offerId
    · rw [won, accepts.held] at found
      cases found
      exact absurd named.symm elsewhere
    · rcases accepts.others id won with kept | ⟨other', found', delivery, _, _⟩
      · exact kept.trans found
      · rw [found] at found'
        cases found'
        exact absurd (named.symm.trans delivery) elsewhere

/-- An ending offer leaves the chain unbroken exactly when it is careful, and the
other calls cannot break it. -/
theorem chain_turn (held : OfferTurn turn) (linked : Linked turn.before)
    (free : Db.offer turn.before turn.label.ambient.offerId = none) :
    (isCompleted turn = true →
      (Unbroken turn.label.ambient.now turn.after ↔ isCareful turn = true)) ∧
    (isCompleted turn = false → isCareful turn = true ∧ Linked turn.after) := by
  have later := later_turn held
  cases held with
  | idle same idle unswept =>
    have linked' : Linked turn.after := by
      intro deliveryId pending some_
      rw [isPending_congr same.delivery] at pending
      refine still_linked linked later pending ?_ fun id offer found _ => ?_
      · rw [offersOf_ne_nil] at some_ ⊢
        rwa [same.offer] at some_
      · rwa [same.offer]
    unfold isCompleted isCareful
    cases asked : turn.label.operation with
    | rejectOffer offerId driverId reason =>
      have refused := idle offerId driverId reason asked
      exact ⟨fun completed => absurd completed (by simp [refused]),
        fun _ => ⟨by simp [refused], linked'⟩⟩
    | expireOffers => exact absurd asked unswept
    | _ => exact ⟨nofun, fun _ => ⟨rfl, linked'⟩⟩
  | created asked creates =>
    simp only [isCompleted, isCareful, asked]
    exact ⟨nofun, fun _ => ⟨trivial, linked_created linked later creates⟩⟩
  | accepted asked busied accepts =>
    simp only [isCompleted, isCareful, asked]
    exact ⟨nofun, fun _ => ⟨trivial, linked_accepted linked later accepts rfl⟩⟩
  | @rejected offerId driverId reason asked rejects =>
    obtain ⟨offer, found, own, open_, follows⟩ := rejects
    have may : mayReject turn.before offerId driverId = true := by
      simp [mayReject, found, own, open_]
    simp only [isCompleted, isCareful, asked, may]
    refine ⟨fun _ => ?_, nofun⟩
    rw [unbroken_of_rejected linked later found free follows]
    simp [found]
  | expired asked lapse only =>
    simp only [isCompleted, isCareful, asked]
    exact ⟨fun _ => unbroken_of_expired linked later lapse only, nofun⟩

/-- A run leaves every pending delivery with a live offer, after each offer that
ends, exactly when each of these finds what it needs. -/
theorem chain_run (chain : Chain OfferTurn store turns) (linked : Linked store)
    (free : ∀ turn ∈ turns, Db.offer turn.before turn.label.ambient.offerId = none) :
    (∀ turn ∈ turns, isCompleted turn = true → Unbroken turn.label.ambient.now turn.after) ↔
      ∀ turn ∈ turns, isCareful turn = true := by
  induction chain with
  | nil => simp
  | cons turn held chain ih =>
    obtain ⟨ends, others⟩ := chain_turn held linked (free turn (by simp))
    have rest := fun linked' => ih linked' fun later member => free later (by simp [member])
    rw [List.forall_mem_cons, List.forall_mem_cons]
    cases completed : isCompleted turn with
    | false =>
      obtain ⟨careful, linked'⟩ := others completed
      rw [rest linked']
      simp [careful]
    | true =>
      have here := ends completed
      constructor
      · rintro ⟨unbroken, later⟩
        exact ⟨here.mp (unbroken rfl), (rest (unbroken_linked (unbroken rfl))).mp later⟩
      · rintro ⟨careful, later⟩
        have unbroken := here.mpr careful
        exact ⟨fun _ => unbroken, (rest (unbroken_linked unbroken)).mpr later⟩

/-! ## No driver twice -/

/-- No delivery is offered twice to the same driver. -/
def NeverTwice (db : Db) : Prop :=
  ∀ id id' pair, parties db id = some pair → parties db id' = some pair → id = id'

/-- The call was asked for an offer that its driver has already had. -/
def reoffers (turn : ServiceTurn) : Bool :=
  match turn.label.operation with
  | .createOfferForDriver driverId deliveryId _ => offeredTo turn.before deliveryId driverId
  | _ => false

/-- An offer that a call makes on its own account goes to a driver who has had
none for the delivery. -/
theorem makes_fresh (makes : Makes turn deliveryId driverId) (once : reoffers turn = false) :
    offeredTo turn.before deliveryId driverId = false := by
  unfold Makes at makes
  unfold reoffers at once
  split at makes
  · rename_i asked
    obtain ⟨rfl, rfl⟩ := makes
    simpa [asked] using once
  · exact makes
  · exact makes.elim

private theorem never_twice_turn (grows : Grows turn) (once : reoffers turn = false)
    (never : NeverTwice turn.before) : NeverTwice turn.after := by
  have fresh : ∀ id pair, parties turn.before id = some pair →
      offeredTo turn.before pair.1 pair.2 = true := by
    intro id pair old
    obtain ⟨offer, found, delivery, driver⟩ := of_parties old
    exact offeredTo_iff.mpr ⟨id, offer, found, delivery, driver⟩
  intro id id' pair first second
  rcases grows id with same | ⟨new, _, deliveryId, driverId, made, makes⟩
  · rcases grows id' with same' | ⟨_, _, deliveryId, driverId, made', makes'⟩
    · exact never id id' pair (same ▸ first) (same' ▸ second)
    · rw [made'] at second
      cases second
      have offered := fresh id _ (same ▸ first)
      rw [makes_fresh makes' once] at offered
      cases offered
  · rcases grows id' with same' | ⟨new', _⟩
    · rw [made] at first
      cases first
      have offered := fresh id' _ (same' ▸ second)
      rw [makes_fresh makes once] at offered
      cases offered
    · rw [new, new']

private theorem never_twice_run (chain : Chain OfferTurn store turns) (never : NeverTwice store)
    (once : ∀ turn ∈ turns, reoffers turn = false) : ∀ turn ∈ turns, NeverTwice turn.after := by
  induction chain with
  | nil => simp
  | cons turn held chain ih =>
    have here := never_twice_turn (grows_turn held) (once turn (by simp)) never
    exact List.forall_mem_cons.mpr ⟨here, ih here fun later member => once later (by simp [member])⟩

/-- From tables without offers, a history of calls on the offers leaves every
pending delivery that has had an offer with a live one, or exhausted, after each
rejection and each sweep, exactly when each of these is careful: no offer of
another delivery has lapsed, and the driver picked to follow a rejected offer is
eligible. An offer that a rejection makes goes to a driver who has had none for
the delivery; so no driver is offered a delivery twice, unless
`createOfferForDriver` is asked for it. -/
theorem offer_chain (env : Env) (store : Db) (calls : List (OfferCall × Ambient))
    (noOffers : ∀ id, store.offer id = none) :
    ∃ turns, history (Request.program env) store
        (calls.map fun called => called.1.request called.2) = some turns ∧
      ((∀ turn ∈ turns, Db.offer turn.before turn.label.ambient.offerId = none) →
        ((∀ turn ∈ turns, isCompleted turn = true →
            Unbroken turn.label.ambient.now turn.after) ↔
          ∀ turn ∈ turns, isCareful turn = true)) ∧
      (∀ turn ∈ turns, Grows turn) ∧
      ((∀ turn ∈ turns, reoffers turn = false) → ∀ turn ∈ turns, NeverTwice turn.after) := by
  obtain ⟨turns, ran, chain, _⟩ := history_chain
    (calls.map fun called => called.1.request called.2)
    (fun label member store => by
      obtain ⟨called, _, rfl⟩ := List.mem_map.mp member
      exact offer_turn env called.1 called.2 store) store
  have linked : Linked store := by
    intro deliveryId _ some_
    obtain ⟨id, offer, found, _⟩ := offersOf_ne_nil.mp some_
    rw [noOffers] at found
    cases found
  have never : NeverTwice store := by
    intro id _ pair first
    simp [parties, noOffers] at first
  exact ⟨turns, ran, chain_run chain linked, fun turn member => grows_turn (chain.forall turn member),
    never_twice_run chain never⟩

section Runs
open Sample

/-- Driver `x` rejects an offer, which driver `y` then gets. -/
def handedOn : List (OfferCall × Ambient) :=
  [(.createOfferForDriver "x" "D1" none, ambient 1 0), (.rejectOffer "offer1" "x" none, ambient 2 10),
   (.expireOffers, ambient 3 20)]

theorem offer_chain_shop :
    ∃ turns, history (Request.program env) shop
        (handedOn.map fun called => called.1.request called.2) = some turns ∧
      turns.map isCompleted = [false, true, true] ∧
      (∀ turn ∈ turns, isCompleted turn = true → Unbroken turn.label.ambient.now turn.after) ∧
      ∀ turn ∈ turns, NeverTwice turn.after := by
  obtain ⟨turns, ran, unbroken, _, never⟩ := offer_chain env shop handedOn shop_offer
  have seen : (history (Request.program env) shop
      (handedOn.map fun called => called.1.request called.2)).map (fun turns =>
        (turns.map isCompleted, turns.all fun turn =>
          (Db.offer turn.before turn.label.ambient.offerId).isNone && isCareful turn &&
            !reoffers turn)) = some ([false, true, true], true) := by
    decide +kernel
  rw [ran] at seen
  simp only [Option.map_some, Option.some.injEq, Prod.mk.injEq, List.all_eq_true, Bool.and_eq_true,
    Option.isNone_iff_eq_none, Bool.not_eq_true'] at seen
  obtain ⟨completed, held⟩ := seen
  exact ⟨turns, ran, completed,
    (unbroken fun turn member => (held turn member).1.1).mpr fun turn member => (held turn member).1.2,
    never fun turn member => (held turn member).2⟩

/-- Driver `x` does not answer, and his offer expires. -/
def unanswered : List (OfferCall × Ambient) :=
  [(.createOfferForDriver "x" "D1" none, ambient 1 0), (.expireOffers, ambient 2 31000)]

/-- No offer follows the one that expired, though `y` has had none. -/
theorem chain_broken_off :
    ∃ first last, history (Request.program env) shop
        (unanswered.map fun called => called.1.request called.2) = some [first, last] ∧
      isCompleted last = true ∧ ¬ Unbroken last.label.ambient.now last.after := by
  have seen : (history (Request.program env) shop
      (unanswered.map fun called => called.1.request called.2)).map (fun turns =>
        turns.map fun turn => (isCompleted turn, isPending turn.after "D1",
          (Db.offersOf turn.after "D1").isEmpty, covered turn.label.ambient.now turn.after "D1",
          exhausted turn.after "D1")) =
      some [(false, true, false, true, false), (true, true, false, false, false)] := by
    decide +kernel
  obtain ⟨turns, ran, columns⟩ := Option.map_eq_some_iff.mp seen
  obtain ⟨first, rest, rfl, _, columns⟩ := List.map_eq_cons_iff.mp columns
  obtain ⟨last, rest, rfl, column, columns⟩ := List.map_eq_cons_iff.mp columns
  obtain rfl := List.map_eq_nil_iff.mp columns
  simp only [Prod.mk.injEq, List.isEmpty_eq_false_iff] at column
  obtain ⟨completed, pending, some_, uncovered, left⟩ := column
  refine ⟨first, last, ran, completed, fun unbroken => ?_⟩
  rcases unbroken "D1" pending some_ with live | done
  · rw [uncovered] at live
    cases live
  · rw [left] at done
    cases done

end Runs

end DriverMicroServices
