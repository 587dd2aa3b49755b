import DriverMicroServices.Handlers
import DriverMicroServices.Requests
import DriverMicroServices.Sequential
import Mathlib.Data.Fintype.EquivFin

/-! Proofs that a driver uploads over his socket. The handler reads the delivery without
a lock, acknowledges at once where the status is past the target, and otherwise has
the deliveries service make the transition. Nothing asks whose delivery it is. -/
namespace DriverMicroServices
open Transactions Program

/-- A message `PROOF_UPLOADED`, as far as the handler reads it. -/
structure ProofUploaded where
  deliveryId : Uuid
  proofType : String
  imageUrl : Option String
  deriving DecidableEq, Repr

/-- What the handler emits to the socket. -/
inductive ProofReply where
  | error (code : String) (deliveryId : Uuid)
  | accepted (deliveryId : Uuid) (proofId proofType : String) (acceptedAt : Time)
  deriving DecidableEq, Repr

namespace ProofUploaded

variable (data : ProofUploaded)

def status : String := if data.proofType = "PICKUP" then "PICKED_UP" else "DELIVERED"

/-- `alreadyPickedUp || alreadyDelivered`. -/
def Already (status : DeliveryStatus) : Prop :=
  let terminalOrPast := [.delivered, .cancelled, .failed]
  data.status = "PICKED_UP" ∧ status ∈ .pickedUp :: .inTransit :: terminalOrPast ∨
    data.status = "DELIVERED" ∧ status ∈ terminalOrPast

instance (status : DeliveryStatus) : Decidable (data.Already status) :=
  inferInstanceAs (Decidable (_ ∨ _))

/-- The status that the update asks for. -/
def target : DeliveryStatus := mapStringToDeliveryStatus data.status

/-- The delivery is where the proof says, or has gone on from there. -/
def Reached (status : DeliveryStatus) : Prop :=
  status = .delivered ∨ data.proofType = "PICKUP" ∧ (status = .pickedUp ∨ status = .inTransit)

/-- The update that the handler asks for. -/
def update : UpdateDeliveryStatusDto := { status := data.status, proofUrl := data.imageUrl }

private theorem target_eq : data.target = if data.proofType = "PICKUP" then .pickedUp else .delivered := by
  unfold target status
  split <;> rfl

private theorem reached_target : data.Reached data.target := by
  rw [target_eq, Reached]
  split
  · rename_i pickup
    exact .inr ⟨pickup, .inl rfl⟩
  · exact .inl rfl

end ProofUploaded

/-- `handleProofUploaded` once it has looked for the delivery. An exception of the
update is not caught. -/
def handleFound (env : Env) (amb : Ambient) (data : ProofUploaded) :
    Option DeliveryEntity → Call (ProofReply × List Projection)
  | none => return (.error "DELIVERY_NOT_FOUND" data.deliveryId, [])
  | some delivery => do
    let accepted : ProofReply :=
      .accepted data.deliveryId s!"proof_{amb.now}" data.proofType amb.now
    if data.Already delivery.status then
      return (accepted, [])
    else
      let settled ← updateStatus env amb data.deliveryId data.update
      return (accepted, settled.projections)

/-- `handleProofUploaded`, for the socket of a driver. -/
def handleProofUploaded (env : Env) (amb : Ambient) (_client : Uuid) (data : ProofUploaded) :
    Call (ProofReply × List Projection) := do
  let found ← tryCatch (do return some (← findOne data.deliveryId)) fun _ => return none
  handleFound env amb data found

/-- The rest of a call whose first statement, a read, has found this database. -/
def afterRead (seen : Db) : Call α → Call α
  | .observe next => next seen
  | call => call

/-- The rows that a proof may change: the delivery, events and the outbox. -/
def Key.OfProof (deliveryId : Uuid) : Key → Prop
  | .delivery id => id = deliveryId
  | .deliveryEvent _ => True
  | .outbox _ => True
  | _ => False

/-- Between the read and the update the database may have become another one. Whatever
the ids and the clock, the message changes a row only if the delivery is the driver's,
and an acknowledged proof finds the delivery where it says. -/
def RespectsOwner (env : Env) (client : Uuid) (data : ProofUploaded) (seen now : Db) : Prop :=
  ∀ amb result left,
    (afterRead seen (handleProofUploaded env amb client data)).exec { store := now } =
      some (result, left) →
    ((∃ k, Key.OfProof data.deliveryId k ∧ left.store.row k ≠ now.row k) →
      ∃ row, now.delivery data.deliveryId = some row ∧ row.driverId = some client) ∧
    ∀ deliveryId proofId proofType acceptedAt projections,
      result = .ok (.accepted deliveryId proofId proofType acceptedAt, projections) →
        ∃ row, Db.delivery left.store data.deliveryId = some row ∧ data.Reached row.status

variable {env : Env} {amb : Ambient} {client : Uuid} {data : ProofUploaded} {seen now : Db}

/-! ## The handler -/

theorem afterRead_handle :
    afterRead seen (handleProofUploaded env amb client data) =
      handleFound env amb data
        ((seen.delivery data.deliveryId).map fun row => normalizeCoordinates row.entity) := by
  cases found : seen.delivery data.deliveryId <;>
    simp [handleProofUploaded, afterRead, findOne, find, Program.bind, onRet, MonadExcept.tryCatch,
      tryCatchThe, MonadExceptOf.tryCatch, found]

variable {deliveryId : Uuid} {dto : UpdateDeliveryStatusDto}

private theorem throwIf_pos {condition : Prop} [Decidable condition] {exception : Exception}
    (holds : condition) : throwIf condition exception = .ret (.error exception) := if_pos holds

theorem throwIf_neg {condition : Prop} [Decidable condition] {exception : Exception}
    (fails : ¬ condition) : throwIf condition exception = .ret (.ok ()) := if_neg fails

/-- An update that the stored status does not allow, or that repeats it, leaves every row. -/
theorem update_idle (env : Env) (amb : Ambient)
    (idle : ∀ row, now.delivery deliveryId = some row →
      row.status = mapStringToDeliveryStatus dto.status ∨
        mapStringToDeliveryStatus dto.status ∉ allowedTransitions row.status) :
    (updateStatus env amb deliveryId dto).Returns (fun _ left => left = { store := now })
      { store := now } := by
  refine returns_bind (returns_transaction ?_)
  have view : Session.view { store := now } (.delivery deliveryId) = now.delivery deliveryId := rfl
  simp only [lockDelivery, bind_eq, Program.bind, onRet, Returns, view]
  cases found : now.delivery deliveryId with
  | none => rfl
  | some row =>
    rcases idle row found with repeated | barred
    · simp only [Option.map_some, Delivery.entity, repeated, if_true]
      rfl
    · simp only [Option.map_some]
      split
      · rfl
      · rw [throwIf_pos (show _ ∉ allowedTransitions row.entity.status from barred)]
        rfl

/-- A session that has neither locked nor written a row of the outbox. -/
structure SparesOutbox (session : Session Row) : Prop where
  unheld : ∀ key, Key.outbox key ∉ session.held
  unwritten : ∀ key, ∀ write ∈ session.buf, write.1 ≠ .outbox key

/-- A valid event is published or was so before. -/
theorem publish_succeeds {session : Session Row} {eventType : String} (clean : SparesOutbox session)
    (valid : isValidVersionedEventType eventType = true) (inTransaction : Bool)
    (payload : OutboxPayload) (now : Time) :
    (publish inTransaction eventType payload now).Returns
      (fun result left => result = .ok () ∧ (inTransaction = false → SparesOutbox left)) session := by
  unfold publish
  rw [throwIf_neg (by simp [valid])]
  simp only [find, bind_eq, pure_eq, Program.bind, onRet, Returns]
  split
  · exact ⟨rfl, fun _ => clean⟩
  · rename_i absent
    have free : session.store.row (.outbox (generateIdempotencyKey eventType payload now)) = none := by
      simpa using absent
    cases inTransaction with
    | true =>
      have view : session.view (.outbox (generateIdempotencyKey eventType payload now)) = none := by
        rw [Session.view, Store.apply_row_untouched _ _ (clean.unwritten _), free]
      simp [DriverMicroServices.insert, Returns, view]
    | false =>
      refine ⟨clean.unheld _, ?_⟩
      rw [free]
      exact ⟨rfl, fun _ => ⟨clean.unheld, clean.unwritten⟩⟩

/-- The events of a proof have names that the outbox takes. -/
theorem vendure_valid (names : env.wsEvents = .registered) {eventType : String}
    (named : vendureEventType env.wsEvents data.status = some eventType) :
    isValidVersionedEventType eventType = true := by
  rw [names] at named
  unfold ProofUploaded.status at named
  split at named
  · cases named
    decide
  · cases named
    decide

/-- A call that returns goes on to the next. -/
theorem returns_then {first : Call α} {f : α → Call β} {session : Session Row}
    (kept : α → Session Row → Prop) {post : Except Exception β → Session Row → Prop}
    (runs : first.Returns (fun result left => ∃ value, result = .ok value ∧ kept value left) session)
    (rest : ∀ value left, kept value left → (f value).Returns post left) :
    (first.bind f).Returns post session := by
  refine returns_bind (returns_mono runs ?_)
  rintro _ left ⟨value, rfl, held⟩
  exact rest value left held

private theorem notify_succeeds {session : Session Row} (clean : SparesOutbox session) (event : DeliveryEvent)
    (delivery : DeliveryEntity) :
    (notify eventId event deliveryId delivery amb.now).Returns
      (fun result left => result = .ok () ∧ SparesOutbox left) session := by
  have published (payload : OutboxPayload) :
      (publish false "PROOF_ACCEPTED_V1" payload amb.now).Returns
        (fun result left => result = .ok () ∧ SparesOutbox left) session := by
    refine returns_mono (publish_succeeds clean (by decide) false payload amb.now) ?_
    exact fun _ _ ⟨returned, kept⟩ => ⟨returned, kept rfl⟩
  unfold notify
  split
  · dsimp only
    split
    · exact published _
    · exact published _
    · exact ⟨rfl, clean⟩
  · exact ⟨rfl, clean⟩

/-- An update that the stored status allows goes through. -/
theorem update_succeeds (names : env.wsEvents = .registered) {row : Delivery}
    (found : now.delivery data.deliveryId = some row)
    (allowed : data.target ∈ allowedTransitions row.status) (changed : row.status ≠ data.target)
    (fresh : now.row (.deliveryEvent amb.eventId) = none) :
    (updateStatus env amb data.deliveryId data.update).Returns
      (fun result _ => ∃ settled, result = .ok settled) { store := now } := by
  refine returns_bind (returns_transaction (returns_mono
    (?_ : Program.Returns (fun result _ => ∃ delivery, result = .ok delivery) _ _) ?_))
  · have view : Session.view { store := now } (.delivery data.deliveryId) = some row := found
    refine returns_then (fun read left => read = some row.entity ∧
      left = { store := now, held := [.delivery data.deliveryId] }) ?_ ?_
    · exact ⟨_, rfl, by rw [view]; rfl, rfl⟩
    rintro _ _ ⟨rfl, rfl⟩
    dsimp only
    have known : mapStringToDeliveryStatus data.update.status = data.target := rfl
    rw [known, if_neg (show ¬ row.entity.status = data.target from changed), throwIf_neg
      (not_not.mpr (show data.target ∈ allowedTransitions row.entity.status from allowed))]
    refine returns_then (fun _ left =>
      left = { store := now, held := [.delivery data.deliveryId] }) ⟨(), rfl, rfl⟩ ?_
    rintro _ _ rfl
    refine returns_then (fun _ left => left.store = now ∧
      (∀ write ∈ left.buf, write.1 = .delivery data.deliveryId) ∧
      ∀ key ∈ left.held, key = .delivery data.deliveryId) ?_ ?_
    · have again : Session.view { store := now, held := [Key.delivery data.deliveryId] }
          (.delivery data.deliveryId) = some row := found
      simp [saveDelivery, Returns, again]
    rintro _ left ⟨stored, written, held⟩
    have unwritten : left.view (.deliveryEvent amb.eventId) = none := by
      rw [Session.view, Store.apply_row_untouched _ _ fun write member => by simp [written write member],
        stored, fresh]
    refine returns_then (fun _ later => SparesOutbox later) ?_ ?_
    · simp only [createEvent, DriverMicroServices.insert, bind_eq, pure_eq, Program.bind, onRet, Returns,
        unwritten]
      refine ⟨by simp, _, rfl, ?_, ?_⟩
      · intro key member
        rcases List.mem_cons.mp member with same | member
        · cases same
        · cases held _ member
      · intro key write member same
        rcases List.mem_append.mp member with earlier | last
        · rw [written write earlier] at same
          cases same
        · rw [List.mem_singleton.mp last] at same
          cases same
    rintro event session clean
    refine returns_then (fun _ later => SparesOutbox later) ?_ ?_
    · refine returns_mono (notify_succeeds clean event _) ?_
      rintro _ later ⟨rfl, clean⟩
      exact ⟨(), rfl, clean⟩
    rintro _ later clean
    refine returns_then (fun _ _ => True) ?_ ?_
    · unfold publishStatus
      cases named : vendureEventType env.wsEvents data.update.status with
      | none => exact ⟨(), rfl, trivial⟩
      | some eventType =>
        refine returns_mono (publish_succeeds clean (vendure_valid names named) true _ amb.now) ?_
        rintro _ _ ⟨rfl, -⟩
        exact ⟨(), rfl, trivial⟩
    · intro _ ended _
      exact ⟨_, rfl⟩
  · rintro _ left ⟨delivery, rfl⟩
    exact ⟨_, rfl⟩

/-! ## What an upload does -/

/-- An update that went through has left the delivery at the target. -/
theorem update_target {settled : Settled} {left : Session Row}
    (ran : (updateStatus env amb data.deliveryId data.update).exec { store := now } =
      some (.ok settled, left)) :
    ∃ row, Db.delivery left.store data.deliveryId = some row ∧ row.status = data.target := by
  have ends : (updateStatus env amb data.deliveryId data.update).Returns _ { store := now } :=
    updateStatus_returns env
  obtain ⟨_, _, again, held⟩ := (returns_iff _).mp ends
  rw [ran] at again
  cases again
  obtain ⟨-, before, -, ⟨repeated, here, -⟩ | ⟨after, -, change, here, -⟩⟩ := held
  · exact ⟨before, here, repeated⟩
  · refine ⟨after, here, ?_⟩
    rw [change.2.2]
    exact (transition_saveOver ..).1

/-- An allowed update goes through, and the delivery is not what it was. -/
theorem update_moves (names : env.wsEvents = .registered) {row : Delivery}
    (found : now.delivery data.deliveryId = some row)
    (allowed : data.target ∈ allowedTransitions row.status)
    (fresh : now.row (.deliveryEvent amb.eventId) = none) :
    ∃ settled left, (updateStatus env amb data.deliveryId data.update).exec { store := now } =
        some (.ok settled, left) ∧
      Db.delivery left.store data.deliveryId ≠ some row := by
  have changed : row.status ≠ data.target := by
    intro same
    rw [← same] at allowed
    cases standing : row.status <;> simp [standing, allowedTransitions] at allowed
  obtain ⟨_, left, ran, settled, rfl⟩ :=
    (returns_iff _).mp (update_succeeds names found allowed changed fresh)
  obtain ⟨row', here, target⟩ := update_target ran
  refine ⟨settled, left, ran, fun kept => ?_⟩
  rw [here] at kept
  cases kept
  exact changed target

/-- The id of an event. -/
def Key.event? : Key → Option Uuid
  | .deliveryEvent id => some id
  | _ => none

/-- There is always an id that no event has. -/
theorem fresh_event (db : Db) : ∃ id, db.row (.deliveryEvent id) = none := by
  obtain ⟨id, fresh⟩ := Infinite.exists_notMem_finset (db.keys.filterMap Key.event?).toFinset
  refine ⟨id, ?_⟩
  by_contra held
  refine fresh (List.mem_toFinset.mpr (List.mem_filterMap.mpr ⟨.deliveryEvent id, ?_, rfl⟩))
  exact (db.mem_keys _).mpr (Option.isSome_iff_ne_none.mpr held)

/-- Where the handler has updated: an allowed transition is the owner's. -/
theorem respects_update (names : env.wsEvents = .registered) {read : Delivery}
    (looked : seen.delivery data.deliveryId = some read) (open_ : ¬ data.Already read.status) :
    RespectsOwner env client data seen now ↔
      ∀ row, now.delivery data.deliveryId = some row →
        data.target ∈ allowedTransitions row.status → row.driverId = some client := by
  have undone : ¬ data.Already (normalizeCoordinates read.entity).status := open_
  simp only [RespectsOwner, afterRead_handle, looked, Option.map_some, handleFound, undone, if_false]
  constructor
  · intro respects row found allowed
    obtain ⟨id, fresh⟩ := fresh_event now
    let amb : Ambient := ⟨0, 0, "", id, "", ""⟩
    have fresh : now.row (.deliveryEvent amb.eventId) = none := fresh
    obtain ⟨settled, left, ran, moved⟩ := update_moves names found allowed fresh
    have ended := respects amb _ left (by
      rw [bind_eq, Program.bind, exec_onRet, ran]
      rfl)
    obtain ⟨owned, here, owner⟩ := ended.1 ⟨.delivery data.deliveryId, rfl, fun same =>
      moved (same.trans found)⟩
    rw [found] at here
    cases here
    exact owner
  · intro owners amb result left ran
    rw [bind_eq, Program.bind, exec_onRet] at ran
    obtain ⟨⟨first, middle⟩, updated, rest⟩ := Option.bind_eq_some_iff.mp ran
    have ended : left = middle ∧ ∀ value, result = .ok value → ∃ settled, first = .ok settled := by
      cases first with
      | ok settled =>
        cases rest
        exact ⟨rfl, fun _ _ => ⟨settled, rfl⟩⟩
      | error error =>
        cases rest
        exact ⟨rfl, fun _ failed => by cases failed⟩
    obtain ⟨rfl, returned⟩ := ended
    constructor
    · rintro ⟨k, _, changed⟩
      by_contra alien
      refine changed ?_
      have idle : (updateStatus env amb data.deliveryId data.update).Returns _ { store := now } :=
          update_idle env amb fun row found => by
        by_contra active
        rw [not_or, not_not] at active
        exact alien ⟨row, found, owners row found active.2⟩
      obtain ⟨_, _, again, rfl⟩ := (returns_iff _).mp idle
      rw [updated] at again
      cases again
      rfl
    · intro _ _ _ _ _ answer
      obtain ⟨settled, rfl⟩ := returned _ answer
      obtain ⟨row, here, target⟩ := update_target updated
      exact ⟨row, here, target ▸ data.reached_target⟩

/-- Where the handler has acknowledged at once: the delivery is where the proof says. -/
theorem respects_at_once {read : Delivery} (looked : seen.delivery data.deliveryId = some read)
    (already : data.Already read.status) :
    RespectsOwner env client data seen now ↔
      ∃ row, now.delivery data.deliveryId = some row ∧ data.Reached row.status := by
  have done : data.Already (normalizeCoordinates read.entity).status := already
  simp only [RespectsOwner, afterRead_handle, looked, Option.map_some, handleFound, done, if_true]
  constructor
  · intro respects
    exact (respects ⟨0, 0, "", "", "", ""⟩ _ _ rfl).2 _ _ _ _ _ rfl
  · rintro reached amb result left ran
    cases ran
    exact ⟨fun ⟨k, _, changed⟩ => absurd rfl changed, fun _ _ _ _ _ _ => reached⟩

/-- Proof uploads respect ownership and outcome just when a proof that is acknowledged at
once finds the delivery where it says, and one that is acted on is the driver's own
wherever the delivery may make the transition. -/
theorem proof_respects (names : env.wsEvents = .registered) (client : Uuid) (data : ProofUploaded)
    (seen now : Db) :
    RespectsOwner env client data seen now ↔
      ∀ read, seen.delivery data.deliveryId = some read →
        if data.Already read.status then
          ∃ row, now.delivery data.deliveryId = some row ∧ data.Reached row.status
        else
          ∀ row, now.delivery data.deliveryId = some row →
            data.target ∈ allowedTransitions row.status → row.driverId = some client := by
  cases looked : seen.delivery data.deliveryId with
  | none =>
    simp only [RespectsOwner, afterRead_handle, looked, Option.map_none, reduceCtorEq,
      IsEmpty.forall_iff, implies_true, iff_true]
    intro amb result left ran
    cases ran
    exact ⟨fun ⟨k, _, changed⟩ => absurd rfl changed, fun _ _ _ _ _ answer => by cases answer⟩
  | some read =>
    simp only [Option.some.injEq, forall_eq']
    split
    · rename_i already
      exact respects_at_once looked already
    · rename_i open_
      exact respects_update names looked open_

/-- The proof of a pickup from the delivery `D1`, which is assigned to the driver `x`. -/
def pickupProof : ProofUploaded where
  deliveryId := "D1"
  proofType := "PICKUP"
  imageUrl := some "https://proofs/D1"

theorem proof_respects_own : RespectsOwner Sample.env "x" pickupProof Sample.assigned Sample.assigned := by
  refine (proof_respects rfl "x" pickupProof Sample.assigned Sample.assigned).mpr ?_
  have stored : (Db.delivery Sample.assigned "D1").map (fun row => (row.status, row.driverId)) =
      some (.assigned, some "x") := by decide
  intro read found
  rw [show pickupProof.deliveryId = "D1" from rfl] at *
  rw [found, Option.map_some, Option.some.injEq, Prod.mk.injEq] at stored
  rw [stored.1, if_neg (by decide)]
  intro row here _
  rw [found] at here
  cases here
  exact stored.2

/-- The shop once `D1` is cancelled. -/
def cancelledShop : Db :=
  Sample.assigned.set (.delivery "D1")
    { (Sample.order "S1").row 0 with driverId := some "x", status := .cancelled }

/-- Another driver's proof picks the delivery up, and the proof of a cancelled delivery
is accepted. -/
theorem proof_of_another :
    ¬ RespectsOwner Sample.env "y" pickupProof Sample.assigned Sample.assigned ∧
      ¬ RespectsOwner Sample.env "x" pickupProof cancelledShop cancelledShop := by
  constructor
  · intro respects
    have moved : ((afterRead Sample.assigned
        (handleProofUploaded Sample.env (Sample.ambient 7 100) "y" pickupProof)).exec
          { store := Sample.assigned }).map (fun ended =>
            (Db.delivery ended.2.store "D1").map fun row => (row.driverId, row.status)) =
        some (some (some "x", .pickedUp)) := by
      decide +kernel
    obtain ⟨⟨result, left⟩, ran, after⟩ := Option.map_eq_some_iff.mp moved
    have before : (Db.delivery Sample.assigned "D1").map (fun row => (row.driverId, row.status)) =
        some (some "x", .assigned) := by decide
    obtain ⟨row, here, owner⟩ := (respects _ result left ran).1 ⟨.delivery "D1", rfl, fun same => by
      rw [show Db.delivery left.store "D1" = Db.delivery Sample.assigned "D1" from same, before] at after
      cases after⟩
    rw [show pickupProof.deliveryId = "D1" from rfl] at here
    rw [here, Option.map_some, owner] at before
    simp at before
  · intro respects
    have accepted : ((afterRead cancelledShop
        (handleProofUploaded Sample.env (Sample.ambient 7 100) "x" pickupProof)).exec
          { store := cancelledShop }).map (fun ended => (ended.1.toOption,
            (Db.delivery ended.2.store "D1").map (·.status))) =
        some (some (.accepted "D1" "proof_100" "PICKUP" 100, []), some .cancelled) := by
      decide +kernel
    obtain ⟨⟨result, left⟩, ran, after⟩ := Option.map_eq_some_iff.mp accepted
    rw [Prod.mk.injEq] at after
    cases result with
    | error error => cases after.1
    | ok answer =>
      cases after.1
      obtain ⟨row, here, reached⟩ := (respects _ _ left ran).2 _ _ _ _ _ rfl
      rw [show pickupProof.deliveryId = "D1" from rfl] at here
      rw [here] at after
      have status : row.status = .cancelled := Option.some.inj after.2
      simp [ProofUploaded.Reached, status] at reached

end DriverMicroServices
