import DriverMicroServices.Effects
import DriverMicroServices.Transactions.Alone

/-! What the calls do when each has the database to itself. A transaction is
followed as the tables it sees; events and the outbox, which no call reads back
to decide anything about a delivery, an offer or a driver, are left open. -/
namespace DriverMicroServices
open Transactions Program

/-- One call that had the database to itself. -/
abbrev ServiceTurn := Turn Request Row Exception (List Projection)

/-- Every row is the same but for those of the side tables. -/
def SameTables (before after : Db) : Prop :=
  ∀ k, ¬ k.Aside → after.row k = before.row k

namespace SameTables

variable {before middle after : Db}

theorem refl (db : Db) : SameTables db db := fun _ _ => rfl

theorem trans (first : SameTables before middle) (second : SameTables middle after) :
    SameTables before after :=
  fun k main => (second k main).trans (first k main)

theorem delivery (same : SameTables before after) : after.delivery = before.delivery :=
  funext fun id => same (.delivery id) not_false

theorem offer (same : SameTables before after) : after.offer = before.offer :=
  funext fun id => same (.offer id) not_false

theorem driver (same : SameTables before after) : after.driver = before.driver :=
  funext fun id => same (.driver id) not_false

theorem set (same : SameTables before after) (k : Key) (row : Row k) :
    SameTables (before.set k row) (after.set k row) := by
  intro k' main
  by_cases here : k' = k
  · subst here
    rw [Store.set_row_self, Store.set_row_self]
  · rw [Store.set_row_ne _ _ here, Store.set_row_ne _ _ here]
    exact same k' main

end SameTables

/-- A transaction that began on `store` has written so much that it sees `db`. -/
structure At (store db : Db) (session : Session Row) : Prop where
  stored : SameTables store session.store
  seen : SameTables db session.seen
  /-- What it has locked would not make a statement of the outbox wait. -/
  unheld : ∀ key, Key.outbox key ∉ session.held

/-- The end of a transaction's body: when it returns, the commit meets `goal`;
when it throws, no table has changed. -/
def Commits (store : Db) (goal : α → Db → Prop) (result : Except Exception α)
    (left : Session Row) : Prop :=
  SameTables store left.store ∧
    match result with
    | .ok value => goal value left.seen
    | .error _ => True

theorem transaction_returns {body : Call α} {store : Db} (goal : α → Db → Prop)
    (holds : ∀ session, At store store session → body.Returns (Commits store goal) session) :
    body.transaction.Returns (fun result left =>
      match result with
      | .ok value => goal value left.store
      | .error _ => SameTables store left.store) { store } := by
  have start : At store store { store } := ⟨.refl _, .refl _, by simp⟩
  refine returns_transaction (returns_mono (holds _ start) fun result left held => ?_)
  cases result with
  | ok value => exact held.2
  | error error => exact held.1

section Rules

variable {store db : Db} {session : Session Row} {goal : α → Db → Prop} {id : Uuid}

theorem returns_throw (here : At store db session) :
    (throw exception : Call α).Returns (Commits store goal) session :=
  ⟨here.stored, trivial⟩

theorem returns_throwIf [Decidable condition] {f : Unit → Call α} (here : At store db session)
    (rest : ¬ condition → (f ()).Returns (Commits store goal) session) :
    ((throwIf condition exception).bind f).Returns (Commits store goal) session := by
  unfold throwIf
  split
  · exact returns_throw here
  · exact rest ‹_›

theorem At.lock (here : At store db session) (k : Key) (main : ∀ key, k ≠ .outbox key) :
    At store db { session with held := k :: session.held } := by
  refine ⟨here.stored, here.seen, fun key member => ?_⟩
  rcases List.mem_cons.mp member with same | member
  · exact main key same.symm
  · exact here.unheld key member

theorem At.write (here : At store db session) (k : Key) (row : Row k) :
    At store (db.set k row) { session with buf := session.buf ++ [⟨k, row⟩] } := by
  refine ⟨here.stored, ?_, here.unheld⟩
  have seen := here.seen.set k row
  simpa [Session.seen] using seen

theorem returns_lockDelivery {f : Option DeliveryEntity → Call α} (here : At store db session)
    (rest : ∀ session, At store db session →
      (f ((db.delivery id).map Delivery.entity)).Returns (Commits store goal) session) :
    ((lockDelivery id).bind f).Returns (Commits store goal) session := by
  have row : session.view (.delivery id) = db.delivery id := here.seen (.delivery id) not_false
  simp only [lockDelivery, Program.bind, onRet, Returns, row]
  exact rest _ (here.lock _ (by simp))

theorem returns_lockOffer {f : Option DriverOffer → Call α} (here : At store db session)
    (rest : ∀ session, At store db session →
      (f (db.offer id)).Returns (Commits store goal) session) :
    ((lockOffer id).bind f).Returns (Commits store goal) session := by
  have row : session.view (.offer id) = db.offer id := here.seen (.offer id) not_false
  simp only [lockOffer, Program.bind, onRet, Returns, row]
  exact rest _ (here.lock _ (by simp))

theorem returns_saveDelivery {f : Unit → Call α} (here : At store db session)
    (found : db.delivery id = some row)
    (rest : ∀ session, At store (db.set (.delivery id) (entity.saveOver row)) session →
      (f ()).Returns (Commits store goal) session) :
    ((saveDelivery id entity).bind f).Returns (Commits store goal) session := by
  have held : session.view (.delivery id) = some row := (here.seen (.delivery id) not_false).trans found
  simp only [saveDelivery, Program.bind, onRet, Returns, held]
  exact ⟨by simp, rest _ ((here.lock _ (by simp)).write _ _)⟩

theorem returns_saveOffer {f : Unit → Call α} (here : At store db session)
    (found : db.offer id = some row)
    (rest : ∀ session, At store (db.set (.offer id) offer) session →
      (f ()).Returns (Commits store goal) session) :
    ((saveOffer id offer).bind f).Returns (Commits store goal) session := by
  have held : session.view (.offer id) = some row := (here.seen (.offer id) not_false).trans found
  simp only [saveOffer, Program.bind, onRet, Returns, held]
  exact ⟨by simp, rest _ ((here.lock _ (by simp)).write _ _)⟩

/-- A piece that writes only side tables, and locks no row of the outbox, may be
skipped. -/
theorem returns_aside {piece : Call α} {f : α → Call β} {goal : β → Db → Prop}
    (here : At store db session) (within : piece.Within Key.Aside)
    (ends : piece.Returns (fun _ left => ∀ key, Key.outbox key ∉ left.held) session)
    (rest : ∀ value session, At store db session →
      (f value).Returns (Commits store goal) session) :
    (piece.bind f).Returns (Commits store goal) session := by
  refine returns_bind (returns_mono (returns_within within ends) fun result left held => ?_)
  obtain ⟨unheld, rows⟩ := held
  have there : At store db left := by
    refine ⟨here.stored.trans fun k main => (rows k main).1,
      here.seen.trans fun k main => (rows k main).2, unheld⟩
  cases result with
  | ok value => exact rest value left there
  | error error => exact returns_throw there

theorem returns_insert {f : Unit → Call α} {k : Key} {row : Row k} (here : At store db session)
    (aside : k.Aside) (main : ∀ key, k ≠ .outbox key)
    (rest : ∀ session, At store db session → (f ()).Returns (Commits store goal) session) :
    ((DriverMicroServices.insert k row).bind f).Returns (Commits store goal) session := by
  refine returns_aside here (insert_within _ aside) ?_ fun _ => rest
  have locked := (here.lock k main).unheld
  unfold DriverMicroServices.insert
  dsimp only [Returns]
  cases session.view k with
  | some row => exact locked
  | none => exact ⟨by simp, locked⟩

theorem returns_createEvent {f : DeliveryEvent → Call α} (here : At store db session)
    (rest : ∀ session, At store db session → (f event).Returns (Commits store goal) session) :
    ((createEvent id event).bind f).Returns (Commits store goal) session := by
  rw [createEvent, bind_eq, bind_assoc]
  exact returns_insert here trivial (by simp) fun session there => rest session there

theorem returns_check {f : CapabilityCheck → Call α} (here : At store db session)
    (rest : ∀ value session, At store db session →
      (f value).Returns (Commits store goal) session) :
    ((checkDeliveryAcceptanceCapability driverId).bind f).Returns (Commits store goal) session := by
  refine returns_aside here check_within ?_ rest
  simp only [checkDeliveryAcceptanceCapability, find, bind_eq, pure_eq, Program.bind, onRet, Returns]
  cases Db.driver session.store driverId with
  | none => exact here.unheld
  | some driver => exact here.unheld

/-- The bulk update: each offer is as it was, or matched and was set. -/
theorem returns_updateOffers {test : Uuid → DriverOffer → Bool} {set : DriverOffer → DriverOffer}
    {f : Unit → Call α} (here : At store db session) (once : ∀ id row, test id (set row) = false)
    (rest : ∀ db' session, At store db' session →
      (∀ k, (∀ id, k ≠ .offer id) → db'.row k = db.row k) →
      (∀ id, db'.offer id = db.offer id ∨ ∃ row, db.offer id = some row ∧ test id row = true ∧
        db'.offer id = some (set row)) →
      (f ()).Returns (Commits store goal) session) :
    ((updateOffers test set).bind f).Returns (Commits store goal) session := by
  refine returns_bind (returns_forEach (fun session => ∃ db', At store db' session ∧
    (∀ k, (∀ id, k ≠ .offer id) → db'.row k = db.row k) ∧
    ∀ id, db'.offer id = db.offer id ∨ ∃ row, db.offer id = some row ∧ test id row = true ∧
      db'.offer id = some (set row)) _ _ ?_ ?_ ⟨db, here, fun _ _ => rfl, fun _ => .inl rfl⟩)
  · rintro id _ session ⟨db', here, others, changed⟩
    have view : session.view (.offer id) = db'.offer id := here.seen (.offer id) not_false
    simp only [Returns, view]
    cases found : db'.offer id with
    | none => exact ⟨db', here.lock _ (by simp), others, changed⟩
    | some offer =>
      dsimp only
      split
      · rename_i matched
        refine ⟨by simp, db'.set (.offer id) (set offer), (here.lock _ (by simp)).write _ _, ?_, ?_⟩
        · intro k other
          rw [Store.set_row_ne _ _ (other id)]
          exact others k other
        · intro other
          rw [Db.offer_set]
          split
          · rename_i same
            subst same
            -- an offer set before no longer matches
            rcases changed other with kept | ⟨row, _, _, result⟩
            · exact .inr ⟨offer, kept ▸ found, matched, rfl⟩
            · rw [found, Option.some.injEq] at result
              rw [result, once] at matched
              cases matched
          · exact changed other
      · exact ⟨db', here.lock _ (by simp), others, changed⟩
  · rintro left ⟨db', here, others, changed⟩
    exact rest db' left here others changed

theorem returns_updateDriver {f : Unit → Call α} {set : Driver → Driver} (here : At store db session)
    (rest : ∀ db' session, At store db' session →
      (db' = db ∨ ∃ driver, db.driver id = some driver ∧ db' = db.set (.driver id) (set driver)) →
      (f ()).Returns (Commits store goal) session) :
    ((updateDriver id set).bind f).Returns (Commits store goal) session := by
  have view : session.view (.driver id) = db.driver id := here.seen (.driver id) not_false
  simp only [updateDriver, Program.bind, onRet, Returns, view]
  cases found : db.driver id with
  | none => exact rest db _ (here.lock _ (by simp)) (.inl rfl)
  | some driver =>
    exact ⟨by simp, rest _ _ ((here.lock _ (by simp)).write _ _) (.inr ⟨driver, found, rfl⟩)⟩

/-- A publication inside the transaction locks its row of the outbox and waits
for nothing. -/
private theorem publish_returns (eventType : String) (payload : OutboxPayload) (now : Time) :
    (publish true eventType payload now).Returns (fun _ _ => True) session := by
  unfold publish throwIf
  split
  · trivial
  · simp only [find, bind_eq, pure_eq, Program.bind, onRet, Returns, ↓reduceIte]
    split
    · trivial
    · unfold DriverMicroServices.insert
      dsimp only [Returns]
      cases session.view (Key.outbox (generateIdempotencyKey eventType payload now)) with
      | some row => trivial
      | none => exact ⟨by simp, trivial⟩

/-- A publication of its own locks nothing. -/
private theorem publishNow_returns (eventType : String) (payload : OutboxPayload) (now : Time)
    (unheld : ∀ key, Key.outbox key ∉ session.held) :
    (publish false eventType payload now).Returns
      (fun _ left => ∀ key, Key.outbox key ∉ left.held) session := by
  unfold publish throwIf
  split
  · exact unheld
  · simp only [find, bind_eq, pure_eq, Program.bind, onRet, Returns]
    split
    · exact unheld
    · refine ⟨unheld _, ?_⟩
      cases session.store.row (Key.outbox (generateIdempotencyKey eventType payload now)) with
      | some row => exact unheld
      | none => exact unheld

theorem returns_notify {f : Unit → Call α} (here : At store db session)
    (rest : ∀ session, At store db session → (f ()).Returns (Commits store goal) session) :
    ((notify eventId event deliveryId delivery now).bind f).Returns (Commits store goal) session := by
  refine returns_aside here (notify_within _ _) ?_ fun _ => rest
  unfold notify
  split
  · dsimp only
    split
    · apply publishNow_returns
      exact here.unheld
    · apply publishNow_returns
      exact here.unheld
    · exact here.unheld
  · exact here.unheld

/-- A transaction that ends with a publication. -/
theorem returns_publish {value : α} (here : At store db session)
    (met : ∀ after, SameTables db after → goal value after) :
    ((publish true eventType payload now).bind fun _ => .ret (.ok value)).Returns
      (Commits store goal) session := by
  have ends : (publish true eventType payload now).Returns (fun _ _ => True) session :=
    publish_returns eventType payload now
  refine returns_bind (returns_mono (returns_within (publish_within ..) ends) fun result left held => ?_)
  obtain ⟨_, rows⟩ := held
  have stored := here.stored.trans fun k main => (rows k main).1
  cases result with
  | ok _ => exact ⟨stored, met _ (here.seen.trans fun k main => (rows k main).2)⟩
  | error error => exact ⟨stored, trivial⟩

theorem returns_lastPublish {goal : Unit → Db → Prop} (here : At store db session)
    (met : ∀ after, SameTables db after → goal () after) :
    (publish true eventType payload now).Returns (Commits store goal) session := by
  rw [← bind_ret (publish true eventType payload now)]
  exact returns_publish here met

private theorem returns_publishStatus {value : α} (here : At store db session)
    (met : ∀ after, SameTables db after → goal value after) :
    ((publishStatus env amb deliveryId delivery dto).bind fun _ => .ret (.ok value)).Returns
      (Commits store goal) session := by
  unfold publishStatus
  split
  · exact returns_publish here met
  · exact ⟨here.stored, met _ here.seen⟩

end Rules

/-! ## Deliveries -/

variable {store : Db}

theorem returns_findOne {f : DeliveryEntity → Call α} {id : Uuid} {session : Session Row}
    {post : Except Exception α → Session Row → Prop}
    (absent : session.store.row (.delivery id) = none → ∀ exception, post (.error exception) session)
    (present : ∀ row, session.store.row (.delivery id) = some row →
      (f (normalizeCoordinates row.entity)).Returns post session) :
    ((findOne id).bind f).Returns post session := by
  unfold findOne
  simp only [find, bind_eq, pure_eq, Program.bind, onRet, Returns, Db.delivery]
  cases found : session.store.row (.delivery id) with
  | none => exact absent found _
  | some row => exact present row found

/-- What a mutator answers and the row it leaves: the delivery as it was, when it
returns early, or the changed one. -/
def Answers (deliveryId : Uuid) (early : Delivery → Prop) (change : Delivery → Delivery → Prop)
    (entity : Delivery → DeliveryEntity) (store : Db) (delivery : DeliveryEntity) (after : Db) :
    Prop :=
  ∃ row, store.delivery deliveryId = some row ∧
    ((early row ∧ after.delivery deliveryId = some row ∧ delivery = row.entity) ∨
      ∃ row', ¬ early row ∧ change row row' ∧ after.delivery deliveryId = some row' ∧
        delivery = entity row)

/-- What the whole call of a mutator comes to. -/
def Mutates (deliveryId : Uuid) (early : Delivery → Prop) (change : Delivery → Delivery → Prop)
    (entity : Delivery → DeliveryEntity) (hooks : DeliveryEntity → List Projection) (store : Db)
    (result : Except Exception Settled) (left : Session Row) : Prop :=
  match result with
  | .ok settled => settled.projections = hooks settled.delivery ∧
      Answers deliveryId early change entity store settled.delivery left.store
  | .error _ => SameTables store left.store ∧
      ∀ row, store.delivery deliveryId = some row → ¬ early row

/-- A mutator locks its delivery, and returns it at once or changes it. -/
private theorem mutates {deliveryId : Uuid} {early : Delivery → Prop}
    {change : Delivery → Delivery → Prop} {entity : Delivery → DeliveryEntity}
    {hooks : DeliveryEntity → List Projection} {f : Option DeliveryEntity → Call DeliveryEntity}
    (returns : ∀ row, early row → f (some row.entity) = .ret (.ok row.entity))
    (absent : ∃ exception, f none = throw exception)
    (changes : ∀ row session, store.delivery deliveryId = some row → ¬ early row →
      At store store session →
      (f (some row.entity)).Returns
        (Commits store (Answers deliveryId early change entity store)) session) :
    ((transaction ((lockDelivery deliveryId).bind f)).bind fun delivery =>
      .ret (.ok { delivery, projections := hooks delivery })).Returns
      (Mutates deliveryId early change entity hooks store) { store } := by
  by_cases at_once : ∃ row, store.delivery deliveryId = some row ∧ early row
  · obtain ⟨row, found, ends⟩ := at_once
    have view : Session.view { store } (.delivery deliveryId) = some row := found
    refine returns_bind (returns_transaction ?_)
    simp only [lockDelivery, Program.bind, onRet, Returns, view, Option.map_some,
      returns row ends]
    exact ⟨rfl, row, found, .inl ⟨ends, found, rfl⟩⟩
  · have later : ∀ row, store.delivery deliveryId = some row → ¬ early row :=
      fun row found ends => at_once ⟨row, found, ends⟩
    refine returns_bind (returns_mono (transaction_returns
      (Answers deliveryId early change entity store) fun session here => ?_) ?_)
    · refine returns_lockDelivery here fun session here => ?_
      cases found : store.delivery deliveryId with
      | none =>
        obtain ⟨exception, throws⟩ := absent
        rw [Option.map_none, throws]
        exact returns_throw here
      | some row => exact changes row session found (later row found) here
    · intro result left held
      cases result with
      | ok delivery => exact ⟨rfl, held⟩
      | error error => exact ⟨held, later⟩

theorem verifyOtp_returns (env : Env) :
    (verifyOtp env amb deliveryId otp proofUrl driverLat driverLon).Returns
      (Mutates deliveryId (·.status = .delivered) (CodeAccepted amb otp proofUrl)
        (fun row => completed amb.now proofUrl row.entity) (completionHooks deliveryId) store)
      { store } := by
  refine mutates (fun row delivered => if_pos delivered) ⟨_, rfl⟩ ?_
  intro row session found undelivered here
  dsimp only
  rw [if_neg (show ¬ row.entity.status = .delivered from undelivered)]
  cases stored : truthy row.entity.deliveryOtp.value? with
  | none => exact returns_throw here
  | some deliveryOtp =>
    refine returns_throwIf here fun unlocked => returns_throwIf here fun _ => ?_
    split
    · exact returns_saveDelivery here found fun session here => returns_throw here
    · rename_i right
      refine returns_saveDelivery here found fun session here => ?_
      refine returns_createEvent here fun session here => ?_
      refine returns_notify here fun session here => ?_
      refine returns_publish here fun after same => ?_
      refine ⟨row, found, .inr ⟨_, undelivered, ⟨undelivered, ?_, ?_, rfl⟩, ?_, rfl⟩⟩
      · have code := truthy_some stored
        simpa [Delivery.entity, not_not.mp right] using code
      · intro until_ locked
        simpa [Delivery.entity, locked] using unlocked
      · rw [same.delivery, Db.delivery_set, if_pos rfl]

theorem updateStatus_returns (env : Env) :
    (updateStatus env amb deliveryId dto).Returns
      (Mutates deliveryId (·.status = mapStringToDeliveryStatus dto.status) (StatusChange amb dto)
        (fun row => transition amb.now dto (mapStringToDeliveryStatus dto.status) row.entity)
        (statusHooks deliveryId) store)
      { store } := by
  refine mutates (fun row repeated => if_pos repeated) ⟨_, rfl⟩ ?_
  intro row session found changed here
  dsimp only
  rw [if_neg (show ¬ row.entity.status = mapStringToDeliveryStatus dto.status from changed)]
  refine returns_throwIf here fun allowed => ?_
  refine returns_saveDelivery here found fun session here => ?_
  refine returns_createEvent here fun session here => ?_
  refine returns_notify here fun session here => ?_
  refine returns_publishStatus here fun after same => ?_
  refine ⟨row, found, .inr ⟨_, changed, ⟨changed, not_not.mp allowed, rfl⟩, ?_, rfl⟩⟩
  rw [same.delivery, Db.delivery_set, if_pos rfl]

end DriverMicroServices
