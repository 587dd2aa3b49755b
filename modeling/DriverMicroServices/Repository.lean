import DriverMicroServices.Entities

/-! The TypeORM calls of the services, as programs over the database. A method
of `manager` works inside the open transaction, a method of a repository runs as
a statement of its own. -/
namespace DriverMicroServices
open Transactions Program

/-- `if (condition) throw new ...`. -/
def throwIf (condition : Prop) [Decidable condition] (exception : Exception) : Call Unit :=
  if condition then throw exception else pure ()

/-- A query without a lock. -/
def find (query : Db → α) : Call α := .observe fun db => .ret (.ok (query db))

/-- `manager.findOne(Delivery, { lock: pessimistic_write })`. -/
def lockDelivery (id : Uuid) : Call (Option DeliveryEntity) :=
  .lock (.delivery id) fun row => .ret (.ok (row.map Delivery.entity))

/-- `manager.findOne(DriverOffer, { lock: pessimistic_write })`. -/
def lockOffer (id : Uuid) : Call (Option DriverOffer) :=
  .lock (.offer id) fun row => .ret (.ok row)

/-- `manager.save` of a loaded delivery. Deliveries are never deleted, so the
row is there. -/
def saveDelivery (id : Uuid) (entity : DeliveryEntity) : Call Unit :=
  .lock (.delivery id) fun
    | some row => .write (.delivery id) (entity.saveOver row) (.ret (.ok ()))
    | none => .ret (.ok ())

/-- What the database answers when an event would lose its delivery. -/
def notNullViolation : Exception :=
  .error "null value in column \"delivery_id\" violates not-null constraint"

/-- `deliveryRepository.save` of a delivery that was loaded with its `events`. A
`SELECT` comes first: an event that is not among the loaded ones would lose its
delivery, and since `delivery_id` is `NOT NULL` the whole save is rolled back. -/
def saveDeliveryNow (id : Uuid) (entity : DeliveryEntity) (events : List Uuid) : Call Unit := do
  let stored ← find (·.eventsOf id)
  throwIf (∃ event ∈ stored, event ∉ events) notNullViolation
  .autosave (.delivery id) (·.map entity.saveOver) fun _ => .ret (.ok ())

theorem saveDeliveryNow_bind (id : Uuid) (entity : DeliveryEntity) (events : List Uuid) (f : Unit → Call α) :
    (saveDeliveryNow id entity events).bind f =
      (find (·.eventsOf id)).bind fun stored =>
        (throwIf (∃ event ∈ stored, event ∉ events) notNullViolation).bind fun _ =>
          .autosave (.delivery id) (·.map entity.saveOver) fun _ => f () := by
  rw [saveDeliveryNow, bind_eq, bind_assoc]
  refine congrArg _ (funext fun stored => ?_)
  rw [bind_eq, bind_assoc]
  rfl

/-- `manager.save` of a loaded offer. -/
def saveOffer (id : Uuid) (offer : DriverOffer) : Call Unit :=
  .lock (.offer id) fun
    | some _ => .write (.offer id) offer (.ret (.ok ()))
    | none => .ret (.ok ())

/-- `driverOfferRepository.save` of a loaded offer. -/
def saveOfferNow (id : Uuid) (offer : DriverOffer) : Call Unit :=
  .autosave (.offer id) (·.map fun _ => offer) fun _ => .ret (.ok ())

/-- `INSERT` inside the open transaction. The lock stands for the wait on a
concurrent insert of the same key. -/
def insert (k : Key) (row : Row k) : Call Unit :=
  .lock k fun
    | some _ => .ret (.error (.uniqueViolation "23505"))
    | none => .write k row (.ret (.ok ()))

/-- What an `INSERT` makes of a key: a taken one stays as it is. -/
def ifAbsent (row : α) : Option α → Option α
  | some _ => none
  | none => some row

/-- `INSERT` as a statement of its own. -/
def insertNow (k : Key) (row : Row k) : Call Unit :=
  .autosave k (ifAbsent row) fun
    | some _ => .ret (.error (.uniqueViolation "23505"))
    | none => .ret (.ok ())

/-- `driverRepository.save` of a loaded driver. -/
def saveDriverNow (id : Uuid) (driver : Driver) : Call Unit :=
  .autosave (.driver id) (·.map fun _ => driver) fun _ => .ret (.ok ())

/-- `manager.update(Driver, id, ...)`. -/
def updateDriver (id : Uuid) (set : Driver → Driver) : Call Unit :=
  .lock (.driver id) fun
    | some row => .write (.driver id) (set row) (.ret (.ok ()))
    | none => .ret (.ok ())

/-- `UPDATE driver_offers SET ... WHERE ...`. The statement picks the rows that
match when it starts, then locks them one by one and tests each again. -/
def updateOffers (test : Uuid → DriverOffer → Bool) (set : DriverOffer → DriverOffer) :
    Call Unit := do
  let matched ← find fun db => (db.offers.filter fun entry => test entry.1 entry.2).map Prod.fst
  forEach matched fun id => .lock (.offer id) fun
    | some row =>
      if test id row then .write (.offer id) (set row) (.ret (.ok ())) else .ret (.ok ())
    | none => .ret (.ok ())

/-! ## Footprints -/

variable {allowed : Key → Prop} {id : Uuid}

theorem throwIf_within [Decidable condition] (exception : Exception) :
    (throwIf condition exception).Within allowed := by
  unfold throwIf
  split <;> trivial

theorem touches_throwIf [Decidable condition] {f : Unit → Call α}
    (rest : (f ()).Touches allowed) : ((throwIf condition exception).bind f).Touches allowed :=
  touches_bind (touches_of_within (throwIf_within _)) fun _ => rest

theorem find_within (query : Db → α) : (find query).Within allowed := fun _ => trivial

theorem insert_within (row : Row k) (here : allowed k) :
    (DriverMicroServices.insert k row).Within allowed := by
  intro found
  cases found with
  | none => exact ⟨here, trivial⟩
  | some row => trivial

theorem insertNow_within (row : Row k) (here : allowed k) : (insertNow k row).Within allowed := by
  refine ⟨here, fun found => ?_⟩
  cases found <;> trivial

theorem saveDelivery_within (entity : DeliveryEntity) (here : allowed (.delivery id)) :
    (saveDelivery id entity).Within allowed := by
  intro found
  cases found with
  | none => trivial
  | some row => exact ⟨here, trivial⟩

theorem saveOffer_within (offer : DriverOffer) (here : allowed (.offer id)) :
    (saveOffer id offer).Within allowed := by
  intro found
  cases found with
  | none => trivial
  | some row => exact ⟨here, trivial⟩

theorem updateOffers_within (test : Uuid → DriverOffer → Bool) (set : DriverOffer → DriverOffer)
    (here : ∀ id, allowed (.offer id)) : (updateOffers test set).Within allowed := by
  refine within_bind (find_within _) fun matched => within_forEach _ fun id row => ?_
  cases row with
  | none => trivial
  | some offer =>
    dsimp only
    split
    · exact ⟨here id, trivial⟩
    · trivial

theorem updateDriver_within (set : Driver → Driver) (here : allowed (.driver id)) :
    (updateDriver id set).Within allowed := by
  intro found
  cases found with
  | none => trivial
  | some row => exact ⟨here, trivial⟩

end DriverMicroServices
