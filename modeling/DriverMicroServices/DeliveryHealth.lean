import DriverMicroServices.DriverCounters
import DriverMicroServices.RejectedCalls
import DriverMicroServices.Tables.Counts

/-! The figures of the delivery health report. They are counted in `delivery_metrics`, whose
timestamps the projection hooks write; the status is in `deliveries`. A timestamp is never
taken back, so the figures stay behind when `assignDriver` or `verifyOtp`, which do not ask
for an allowed transition, take a delivery out of a status that has one. -/
namespace DriverMicroServices.DeliveryHealth
open Transactions Program Tables

/-! ## The metrics -/

/-- A row of `delivery_metrics`. -/
structure DeliveryMetrics where
  sellerOrderId : String
  driverId : Option Uuid := none
  assignedAt : Option Time := none
  pickedUpAt : Option Time := none
  deliveredAt : Option Time := none
  failedAt : Option Time := none
  assignmentTimeSeconds : Int := 0
  pickupTimeSeconds : Int := 0
  inTransitTimeSeconds : Int := 0
  totalTimeSeconds : Int := 0
  deriving DecidableEq, Repr

/-- The rows under their `delivery_id`, which is unique. -/
abbrev MetricsTable := List (Uuid × DeliveryMetrics)

/-- The row, after it is inserted where there was none. -/
def ensureMetrics (table : MetricsTable) (deliveryId : Uuid) (sellerOrderId : String) :
    MetricsTable × DeliveryMetrics :=
  match Keyed.get table deliveryId with
  | some metrics => (table, metrics)
  | none => (Keyed.put table deliveryId { sellerOrderId }, { sellerOrderId })

/-- A date is missing where it is null. -/
def calculateTimeSeconds : Option Time → Option Time → Int
  | some startTime, some endTime => roundedSeconds startTime endTime
  | _, _ => 0

/-- What a record method does to the row that it has ensured, at a time and for a delivery. -/
abbrev Record := Time → Delivery → DeliveryMetrics → DeliveryMetrics

def recordAssignment : Record := fun now delivery metrics =>
  { metrics with
    driverId := (truthy delivery.driverId).or metrics.driverId
    assignedAt := some now
    assignmentTimeSeconds := calculateTimeSeconds (some delivery.createdAt) (some now) }

def recordPickup : Record := fun now delivery metrics =>
  { metrics with
    pickedUpAt := some now
    pickupTimeSeconds := calculateTimeSeconds (metrics.assignedAt.or (some delivery.createdAt)) (some now) }

def recordDelivery : Record := fun now delivery metrics =>
  { metrics with
    deliveredAt := some now
    inTransitTimeSeconds :=
      calculateTimeSeconds (metrics.pickedUpAt.or (metrics.assignedAt.or (some delivery.createdAt))) (some now)
    totalTimeSeconds := calculateTimeSeconds (metrics.assignedAt.or (some delivery.createdAt)) (some now) }

def recordFailure : Record := fun now _ metrics => { metrics with failedAt := some now }

/-- A cancellation sets no timestamp. -/
def recordCancellation : Record := fun _ _ metrics => metrics

/-- A record method: the row is ensured, changed and saved. -/
def saveRecord (record : Record) (now : Time) (deliveryId : Uuid) (delivery : Delivery)
    (table : MetricsTable) : MetricsTable :=
  let (table, metrics) := ensureMetrics table deliveryId delivery.sellerOrderId
  Keyed.put table deliveryId (record now delivery metrics)

/-- The call of `DeliveryMetricsService` that a projection is. -/
def metricsCall : Projection → Option (Uuid × Record)
  | .recordAssignment deliveryId => some (deliveryId, recordAssignment)
  | .recordPickup deliveryId => some (deliveryId, recordPickup)
  | .recordDelivery deliveryId => some (deliveryId, recordDelivery)
  | .recordFailure deliveryId => some (deliveryId, recordFailure)
  | .recordCancellation deliveryId => some (deliveryId, recordCancellation)
  | _ => none

/-- One projection of a call. The hooks are handed the delivery as the call has left it. -/
def project (now : Time) (db : Db) (table : MetricsTable) (projection : Projection) : MetricsTable :=
  match metricsCall projection with
  | none => table
  | some (deliveryId, record) =>
    match db.delivery deliveryId with
    | none => table
    | some delivery => saveRecord record now deliveryId delivery table

/-- The table after the hooks of a call. -/
def projected (table : MetricsTable) (turn : ServiceTurn) : MetricsTable :=
  (projectionsOf turn).foldl (project turn.label.ambient.now turn.after) table

/-- The table after the calls of a history. -/
def metricsAfter (turns : List ServiceTurn) : MetricsTable := turns.foldl projected []

/-! ### The figures -/

/-- Picked up, and neither delivered nor failed. -/
def DeliveryMetrics.isInTransit (metrics : DeliveryMetrics) : Bool :=
  metrics.pickedUpAt.isSome && metrics.deliveredAt.isNone && metrics.failedAt.isNone

def getCompletedDeliveries (table : MetricsTable) : Nat :=
  table.countP fun entry => entry.2.deliveredAt.isSome

def getFailedDeliveries (table : MetricsTable) : Nat :=
  table.countP fun entry => entry.2.failedAt.isSome

def getInTransitDeliveries (table : MetricsTable) : Nat :=
  table.countP fun entry => entry.2.isInTransit

/-- The deliveries in one of the statuses. -/
def countIn (among : DeliveryStatus → Bool) (db : Db) : Nat :=
  (idsWhere (fun row => among row.status) db).card

/-- The driver has the goods. -/
def isCarried (status : DeliveryStatus) : Bool := status = .pickedUp || status = .inTransit

/-- The figures are the numbers of deliveries in the statuses. -/
structure Tallied (table : MetricsTable) (db : Db) : Prop where
  completed : getCompletedDeliveries table = countIn (· = .delivered) db
  failed : getFailedDeliveries table = countIn (· = .failed) db
  inTransit : getInTransitDeliveries table = countIn isCarried db

/-- The times of a delivery that was picked up and delivered are no negative ones, and the
two parts make the whole. -/
def AddsUp (table : MetricsTable) (db : Db) : Prop :=
  ∀ id row, db.delivery id = some row → row.status = .delivered → row.pickedUpAt.isSome →
    ∃ metrics, Keyed.get table id = some metrics ∧ 0 ≤ metrics.pickupTimeSeconds ∧
      0 ≤ metrics.inTransitTimeSeconds ∧
      |metrics.pickupTimeSeconds + metrics.inTransitTimeSeconds - metrics.totalTimeSeconds| ≤ 1

/-! ### The condition -/

/-- No timestamp of the figures is set for a delivery in this status. -/
def isWaiting (status : DeliveryStatus) : Bool :=
  status = .pending || status = .assigned || status = .cancelled

/-- The call takes no delivery out of a status that has left a timestamp. Only the two calls
that do not ask for an allowed transition can. -/
def Keeps (env : Env) (turn : ServiceTurn) : Prop :=
  let amb := turn.label.ambient
  let db : Db := turn.before
  match turn.label.operation with
  | .assignDriver deliveryId driverId assignmentId =>
    Mutator.commits env amb deliveryId db (.assignDriver driverId assignmentId) = true →
      ∀ row ∈ db.delivery deliveryId, isWaiting row.status = true
  | .verifyOtp deliveryId otp proofUrl driverLat driverLon =>
    Mutator.commits env amb deliveryId db (.verifyOtp otp proofUrl driverLat driverLon) = true →
      ∀ row ∈ db.delivery deliveryId, row.status ≠ .failed
  | _ => True

instance : ∀ turn, Decidable (Keeps env turn)
  | ⟨_, ⟨.assignDriver .., _⟩, _, _⟩ | ⟨_, ⟨.verifyOtp .., _⟩, _, _⟩ =>
    inferInstanceAs (Decidable (_ → _))
  | ⟨_, ⟨.create .., _⟩, _, _⟩ | ⟨_, ⟨.updateStatus .., _⟩, _, _⟩
  | ⟨_, ⟨.cancelDelivery .., _⟩, _, _⟩ | ⟨_, ⟨.generateDeliveryOtp .., _⟩, _, _⟩
  | ⟨_, ⟨.createOfferForDriver .., _⟩, _, _⟩ | ⟨_, ⟨.acceptOffer .., _⟩, _, _⟩
  | ⟨_, ⟨.stateMachineAcceptOffer .., _⟩, _, _⟩ | ⟨_, ⟨.rejectOffer .., _⟩, _, _⟩
  | ⟨_, ⟨.expireOffers, _⟩, _, _⟩ | ⟨_, ⟨.updateDriverStatus .., _⟩, _, _⟩ => isTrue trivial

/-- The calls go with the clock, and the deliveries were created before them. -/
structure InOrder (clock : Time) (store : Db) (turns : List ServiceTurn) : Prop where
  created : ∀ id row, store.delivery id = some row → row.createdAt ≤ clock
  ordered : (clock :: turns.map fun turn => turn.label.ambient.now).IsChain (· ≤ ·)

/-! ## The row of one delivery -/

/-- The row that a record method works on. -/
def rowOf (table : MetricsTable) (deliveryId : Uuid) (delivery : Delivery) : DeliveryMetrics :=
  (ensureMetrics table deliveryId delivery.sellerOrderId).2

/-- A record method, where the projection is one. -/
def saveTold (record : Option Record) (now : Time) (deliveryId : Uuid) (delivery : Delivery)
    (table : MetricsTable) : MetricsTable :=
  match record with
  | some record => saveRecord record now deliveryId delivery table
  | none => table

def told (record : Option Record) (now : Time) (delivery : Delivery) (metrics : DeliveryMetrics) :
    DeliveryMetrics :=
  match record with
  | some record => record now delivery metrics
  | none => metrics

/-- What the hooks of a status record. -/
def statusRecord : DeliveryStatus → Option Record
  | .pickedUp => some recordPickup
  | .delivered => some recordDelivery
  | .failed => some recordFailure
  | .cancelled => some recordCancellation
  | _ => none

section Rows

variable {table : MetricsTable} {id other : Uuid} {row row' : Delivery} {record : Option Record} {now : Time}

theorem rowOf_eq (table : MetricsTable) (id : Uuid) (row : Delivery) :
    rowOf table id row = (Keyed.get table id).getD { sellerOrderId := row.sellerOrderId } := by
  unfold rowOf ensureMetrics
  cases Keyed.get table id <;> rfl

theorem rowOf_of_get (held : Keyed.get table id = some metrics) : rowOf table id row = metrics := by
  rw [rowOf_eq, held, Option.getD_some]

private theorem saveRecord_eq (record : Record) (now : Time) (table : MetricsTable) :
    Keyed.get (saveRecord record now id row table) id = some (record now row (rowOf table id row)) := by
  rw [saveRecord, Keyed.get_put_self]
  rfl

private theorem saveRecord_ne (record : Record) (now : Time) (table : MetricsTable) (different : other ≠ id) :
    Keyed.get (saveRecord record now id row table) other = Keyed.get table other := by
  rw [saveRecord, Keyed.get_put_ne different, ensureMetrics]
  split
  · rfl
  · exact Keyed.get_put_ne different

private theorem distinct_saveTold (distinct : Keyed.Distinct table) :
    Keyed.Distinct (saveTold record now id row table) := by
  cases record with
  | none => exact distinct
  | some record =>
    unfold saveTold saveRecord ensureMetrics
    dsimp only
    split
    · exact distinct.put ..
    · exact (distinct.put ..).put ..

theorem get_saveTold_ne (different : other ≠ id) :
    Keyed.get (saveTold record now id row table) other = Keyed.get table other := by
  cases record with
  | none => rfl
  | some record => exact saveRecord_ne record now table different

/-- The row after the hook is the row before with what the hook records. -/
theorem rowOf_saveTold (order : row'.sellerOrderId = row.sellerOrderId) :
    rowOf (saveTold record now id row' table) id row' = told record now row' (rowOf table id row) := by
  have same : rowOf table id row' = rowOf table id row := by rw [rowOf_eq, rowOf_eq, order]
  cases record with
  | none => exact same
  | some record =>
    rw [← same, saveTold, rowOf_of_get (saveRecord_eq record now table)]
    rfl

theorem rowOf_saveTold_ne (different : other ≠ id) (row : Delivery) :
    rowOf (saveTold record now id row' table) other row = rowOf table other row := by
  rw [rowOf_eq, rowOf_eq, get_saveTold_ne different]

/-- The hooks of a status record it, once. -/
theorem project_statusHooks {db : Db} (found : db.delivery id = some row) (entity : DeliveryEntity) :
    (statusHooks id entity).foldl (project now db) table =
      saveTold (statusRecord entity.status) now id row table := by
  unfold statusHooks completionHooks recordWith
  cases entity.status <;> cases entity.driverId.value? <;>
    simp [project, metricsCall, found, statusRecord, saveTold]

end Rows

/-! ## One call -/

/-- What a call does to the delivery that it is about: the row it finds, the row it leaves
and what it records. -/
inductive Acts (env : Env) (turn : ServiceTurn) : Delivery → Delivery → Option Record → Prop
  | assigned (row row' : Delivery) (status : row'.status = .assigned)
      (picked : row'.pickedUpAt = row.pickedUpAt)
      (keeps : Keeps env turn ↔ isWaiting row.status = true) :
      Acts env turn row row' (some recordAssignment)
  | again (row : Delivery) (keeps : Keeps env turn) : Acts env turn row row (statusRecord row.status)
  | changed (row row' : Delivery)
      (way : row'.status = .delivered ∨ row'.status ∈ allowedTransitions row.status)
      (picked : row'.pickedUpAt =
        if row'.status = .pickedUp then some turn.label.ambient.now else row.pickedUpAt)
      (keeps : Keeps env turn ↔ row.status ≠ .failed) :
      Acts env turn row row' (statusRecord row'.status)

/-- What one call does: nothing, or something to one delivery. -/
inductive Moves (env : Env) (turn : ServiceTurn) : Prop
  | still (same : Db.delivery turn.after = Db.delivery turn.before)
      (silent : ∀ table, projected table turn = table) (keeps : Keeps env turn)
  | moved (id : Uuid) (row row' : Delivery) (record : Option Record)
      (found : Db.delivery turn.before id = some row)
      (left : Db.delivery turn.after = Function.update (Db.delivery turn.before) id (some row'))
      (told : ∀ table, projected table turn = saveTold record turn.label.ambient.now id row' table)
      (order : row'.sellerOrderId = row.sellerOrderId) (created : row'.createdAt = row.createdAt)
      (acts : Acts env turn row row' record)

/-- What a status update leaves of the columns that it does not set. -/
theorem transition_leaves (now : Time) (dto : UpdateDeliveryStatusDto) (target : DeliveryStatus)
    (row : Delivery) :
    let row' := (transition now dto target row.entity).saveOver row
    row'.sellerOrderId = row.sellerOrderId ∧ row'.createdAt = row.createdAt ∧
      row'.pickedUpAt = if target = .pickedUp then some now else row.pickedUpAt := by
  cases target <;> simp [transition, Delivery.entity, DeliveryEntity.saveOver]

section Returns

variable {env : Env} {amb : Ambient} {store : Db} {deliveryId : Uuid}

/-- A mutator records the status it asked for, whether it found the delivery there or took
it there. -/
private theorem mutates_moves {request : Request} {target : DeliveryStatus}
    {change : Delivery → Delivery → Prop} {entity : Delivery → DeliveryEntity}
    {hooks : DeliveryEntity → List Projection} {result : Except Exception Settled} {left : Session Row}
    (now : request.ambient.now = amb.now)
    (hooked : ∀ delivery, delivery.status = target → hooks delivery = statusHooks deliveryId delivery)
    (changes : ∀ row row', change row row' → (entity row).status = target ∧ row'.status = target ∧
      row'.sellerOrderId = row.sellerOrderId ∧ row'.createdAt = row.createdAt ∧
      (row'.pickedUpAt = if target = .pickedUp then some amb.now else row.pickedUpAt) ∧
      (target = .delivered ∨ target ∈ allowedTransitions row.status))
    (others : ∀ k, ¬ Key.AsideOr deliveryId k → left.store.row k = store.row k)
    (held : Mutates deliveryId (·.status = target) change entity hooks store result left)
    (refuses : ∀ error answer after, result = .error error → Keeps env ⟨store, request, answer, after⟩)
    (settles : ∀ row answer after, store.delivery deliveryId = some row → row.status = target →
      Keeps env ⟨store, request, answer, after⟩)
    (makes : ∀ settled row row' answer after, result = .ok settled →
      store.delivery deliveryId = some row → change row row' →
      (Keeps env ⟨store, request, answer, after⟩ ↔ row.status ≠ .failed)) :
    Moves env ⟨store, request, result.map Settled.projections, left.store⟩ := by
  cases result with
  | error error => exact .still held.1.delivery (fun _ => rfl) (refuses error _ _ rfl)
  | ok settled =>
    obtain ⟨told, row, found, ⟨repeated, stays, same⟩ | ⟨row', changed, change, stays, same⟩⟩ := held
    · refine .moved deliveryId row row (statusRecord row.status) found (delivery_moved others stays)
        (fun table => ?_) rfl rfl (.again row (settles row _ _ found repeated))
      have hooks' : settled.projections = statusHooks deliveryId row.entity := by
        rw [told, same]
        exact hooked row.entity repeated
      show settled.projections.foldl _ table = _
      rw [hooks']
      exact project_statusHooks stays row.entity
    · obtain ⟨asked, status, order, created, picked, way⟩ := changes row row' change
      refine .moved deliveryId row row' (statusRecord row'.status) found (delivery_moved others stays)
        (fun table => ?_) order created
        (.changed row row' (by rwa [status]) (by rw [picked, status, now])
          (makes settled row row' _ _ rfl found change))
      have hooks' : settled.projections = statusHooks deliveryId (entity row) := by
        rw [told, same]
        exact hooked (entity row) asked
      show settled.projections.foldl _ table = _
      rw [hooks', status, ← asked]
      exact project_statusHooks stays (entity row)

private theorem assignDriver_moves (env : Env) (amb : Ambient) (deliveryId driverId assignmentId : Uuid) :
    ((assignDriver env amb deliveryId driverId assignmentId).bind fun settled =>
        pure settled.projections).Returns
      (fun answer left => Moves env
        ⟨store, ⟨.assignDriver deliveryId driverId assignmentId, amb⟩, answer, left.store⟩) { store } := by
  refine returns_bind (returns_mono (returns_and
    (assignDriver_returns env amb deliveryId driverId assignmentId)
    (call_ends env amb deliveryId (.assignDriver driverId assignmentId) store)) ?_)
  rintro result left ⟨held, ends⟩
  cases result with
  | error error =>
    refine .still held.delivery (fun _ => rfl) fun committed => ?_
    rw [ends] at committed
    cases committed
  | ok settled =>
    obtain ⟨told, row, found, moved⟩ := held
    have committed : Mutator.commits env amb deliveryId store (.assignDriver driverId assignmentId) = true :=
      ends.resolve_left fun ⟨delivery, settles⟩ => assignPlan_ne_settled _ _ _ _ _ _ _ settles
    have stays : Db.delivery left.store deliveryId =
        some ((assignTo amb driverId row.entity).saveOver row) := by
      rw [moved, Function.update_self]
    refine .moved deliveryId row _ (some recordAssignment) found moved (fun table => ?_)
      (by simp) (by simp) (.assigned row _ (by simp) (by simp) ?_)
    · show settled.projections.foldl _ table = _
      rw [told]
      simp [project, metricsCall, stays, saveTold]
    · constructor
      · exact fun keeps => keeps committed row found
      · intro waiting _ other there
        obtain rfl : row = other := Option.some.inj (found.symm.trans there)
        exact waiting

private theorem updateStatus_changes {dto : UpdateDeliveryStatusDto} (row row' : Delivery)
    (change : StatusChange amb dto row row') :
    let target := mapStringToDeliveryStatus dto.status
    (transition amb.now dto target row.entity).status = target ∧ row'.status = target ∧
      row'.sellerOrderId = row.sellerOrderId ∧ row'.createdAt = row.createdAt ∧
      (row'.pickedUpAt = if target = .pickedUp then some amb.now else row.pickedUpAt) ∧
      (target = .delivered ∨ target ∈ allowedTransitions row.status) := by
  obtain ⟨asked, _, status, _⟩ := transition_changes row row' change
  obtain ⟨_, allowed, rfl⟩ := change
  obtain ⟨order, created, picked⟩ :=
    transition_leaves amb.now dto (mapStringToDeliveryStatus dto.status) row
  exact ⟨asked, status, order, created, picked, .inr allowed⟩

/-- A failed delivery may not change its status. -/
theorem unfailed_of_change {dto : UpdateDeliveryStatusDto} {row row' : Delivery}
    (change : StatusChange amb dto row row') : row.status ≠ .failed := by
  obtain ⟨_, allowed, _⟩ := change
  intro failed
  rw [failed] at allowed
  cases allowed

/-- The update, as `updateStatus` and `cancelDelivery` have it: both keep what they find. -/
private theorem update_moves {dto : UpdateDeliveryStatusDto} {request : Request}
    (now : request.ambient.now = amb.now)
    (keeps : ∀ answer after, Keeps env ⟨store, request, answer, after⟩) :
    ((updateStatus env amb deliveryId dto).bind fun settled => pure settled.projections).Returns
      (fun answer left => Moves env ⟨store, request, answer, left.store⟩) { store } := by
  have touches : (updateStatus env amb deliveryId dto).Touches (Key.AsideOr deliveryId) :=
    updateStatus_touches (fun _ => .inl) (.inr rfl) dto
  refine returns_bind (returns_mono (returns_touches touches (updateStatus_returns env)) ?_)
  rintro result left ⟨held, others⟩
  have moves : Moves env ⟨store, request, result.map Settled.projections, left.store⟩ := by
    refine mutates_moves now (fun _ _ => rfl) updateStatus_changes others held ?_ ?_ ?_
    · exact fun _ _ _ _ => keeps _ _
    · exact fun _ _ _ _ _ => keeps _ _
    · exact fun _ _ _ _ _ _ _ change => iff_of_true (keeps _ _) (unfailed_of_change change)
  cases result <;> exact moves

private theorem verifyOtp_moves (env : Env) (amb : Ambient) (deliveryId : Uuid) (otp : String)
    (proofUrl : Option String) (driverLat driverLon : Option Rat) :
    ((verifyOtp env amb deliveryId otp proofUrl driverLat driverLon).bind fun settled =>
        pure settled.projections).Returns
      (fun answer left => Moves env ⟨store,
        ⟨.verifyOtp deliveryId otp proofUrl driverLat driverLon, amb⟩, answer, left.store⟩)
      { store } := by
  have touches : (verifyOtp env amb deliveryId otp proofUrl driverLat driverLon).Touches
      (Key.AsideOr deliveryId) :=
    verifyOtp_touches (fun _ => .inl) (.inr rfl) otp proofUrl driverLat driverLon
  refine returns_bind (returns_mono (returns_and (returns_touches touches (verifyOtp_returns env))
    (call_ends env amb deliveryId (.verifyOtp otp proofUrl driverLat driverLon) store)) ?_)
  rintro result left ⟨⟨held, others⟩, ends⟩
  have moves : Moves env ⟨store, ⟨.verifyOtp deliveryId otp proofUrl driverLat driverLon, amb⟩,
      result.map Settled.projections, left.store⟩ := by
    refine mutates_moves rfl (fun delivery delivered => ?_) ?_ others held ?_ ?_ ?_
    · rw [statusHooks, delivered]
    · intro row row' change
      obtain ⟨asked, _, status, _⟩ := completed_changes row row' change
      obtain ⟨_, _, _, rfl⟩ := change
      refine ⟨asked, status, ?_, ?_, ?_, .inl rfl⟩ <;> rw [completed_saveOver]
      exact (if_neg (by simp)).symm
    · intro error _ _ refused committed
      rw [refused] at ends
      rw [show Mutator.commits env amb deliveryId store (.verifyOtp otp proofUrl driverLat driverLon) = false
        from ends] at committed
      cases committed
    · intro row _ _ found delivered _ other there
      obtain rfl : row = other := Option.some.inj (found.symm.trans there)
      rw [delivered]
      simp
    · intro settled row row' _ _ returned found change
      have committed : Mutator.commits env amb deliveryId store (.verifyOtp otp proofUrl driverLat driverLon) =
          true := by
        rw [returned] at ends
        refine ends.resolve_left fun settled => change.1 ?_
        obtain ⟨delivery, settles⟩ := settled
        rw [found] at settles
        exact otpPlan_settled settles
      constructor
      · exact fun keeps => keeps committed row found
      · intro unfailed _ other there
        obtain rfl : row = other := Option.some.inj (found.symm.trans there)
        exact unfailed
  cases result <;> exact moves

private theorem cancelDelivery_moves (env : Env) (amb : Ambient) (deliveryId : Uuid) (reason : Option String) :
    (cancelDelivery env amb deliveryId reason).Returns
      (fun answer left => Moves env ⟨store, ⟨.cancelDelivery deliveryId reason, amb⟩, answer, left.store⟩)
      { store } := by
  refine returns_findOne (fun _ exception => .still rfl (fun _ => rfl) trivial) fun row found => ?_
  split
  · exact .still rfl (fun _ => rfl) trivial
  · exact update_moves rfl fun _ _ => trivial

/-- The calls that the life of a delivery is made of, besides the offers. -/
def ofDelivery : Operation → Bool
  | .assignDriver _ _ _ | .updateStatus _ _ | .cancelDelivery _ _ | .verifyOtp _ _ _ _ _ => true
  | _ => false

private theorem request_moves (env : Env) (request : Request) (here : ofDelivery request.operation = true)
    (store : Db) :
    (request.program env).Returns (fun answer left => Moves env ⟨store, request, answer, left.store⟩)
      { store } := by
  obtain ⟨operation, amb⟩ := request
  cases operation with
  | assignDriver deliveryId driverId assignmentId =>
    exact assignDriver_moves env amb deliveryId driverId assignmentId
  | updateStatus deliveryId dto => exact update_moves rfl fun _ _ => trivial
  | cancelDelivery deliveryId reason => exact cancelDelivery_moves env amb deliveryId reason
  | verifyOtp deliveryId otp proofUrl driverLat driverLon =>
    exact verifyOtp_moves env amb deliveryId otp proofUrl driverLat driverLon
  | _ => cases here

end Returns

/-! ## The status in the timestamps -/

/-- The timestamp of a status is there. This much holds whatever the calls are. -/
structure Covers (status : DeliveryStatus) (metrics : DeliveryMetrics) : Prop where
  delivered : status = .delivered → metrics.deliveredAt.isSome = true
  failed : status = .failed → metrics.failedAt.isSome = true
  carried : isCarried status = true → metrics.pickedUpAt.isSome = true

/-- The timestamps say what the status is, as far as the figures go. -/
structure Shows (status : DeliveryStatus) (metrics : DeliveryMetrics) : Prop where
  delivered : metrics.deliveredAt.isSome = decide (status = .delivered)
  failed : metrics.failedAt.isSome = decide (status = .failed)
  carried : metrics.isInTransit = isCarried status

/-- From the last assignment, or from the creation of a delivery that has none. -/
def start (row : Delivery) (metrics : DeliveryMetrics) : Time := metrics.assignedAt.getD row.createdAt

/-- The times that are recorded are those between the timestamps, which follow each other. -/
structure Spans (clock : Time) (row : Delivery) (metrics : DeliveryMetrics) : Prop where
  started : start row metrics ≤ clock
  same : metrics.pickedUpAt.isSome = row.pickedUpAt.isSome
  picked : ∀ pickup, metrics.pickedUpAt = some pickup → start row metrics ≤ pickup ∧ pickup ≤ clock ∧
    metrics.pickupTimeSeconds = roundedSeconds (start row metrics) pickup
  arrived : ∀ pickup delivery, metrics.pickedUpAt = some pickup → metrics.deliveredAt = some delivery →
    pickup ≤ delivery ∧ metrics.inTransitTimeSeconds = roundedSeconds pickup delivery ∧
      metrics.totalTimeSeconds = roundedSeconds (start row metrics) delivery

section Stamps

variable {env : Env} {turn : ServiceTurn} {row row' : Delivery} {record : Option Record}
  {metrics : DeliveryMetrics} {status : DeliveryStatus} {now clock : Time}

theorem isInTransit_iff :
    metrics.isInTransit = true ↔ metrics.pickedUpAt.isSome = true ∧ metrics.deliveredAt.isSome = false ∧
      metrics.failedAt.isSome = false := by
  simp [DeliveryMetrics.isInTransit, and_assoc]

theorem Shows.covers (shows : Shows status metrics) : Covers status metrics where
  delivered := by
    intro here
    rw [shows.delivered, here]
    rfl
  failed := by
    intro here
    rw [shows.failed, here]
    rfl
  carried := by
    intro here
    rw [← shows.carried] at here
    exact (isInTransit_iff.mp here).1

/-- A delivery that waits has not been picked up. -/
theorem Shows.unpicked (shows : Shows status metrics) (waiting : isWaiting status = true) :
    metrics.pickedUpAt = none := by
  cases picked : metrics.pickedUpAt with
  | none => rfl
  | some pickup =>
    have undelivered : metrics.deliveredAt.isSome = false := by
      rw [shows.delivered]
      cases status <;> simp [isWaiting] at waiting ⊢
    have unfailed : metrics.failedAt.isSome = false := by
      rw [shows.failed]
      cases status <;> simp [isWaiting] at waiting ⊢
    have carried := isInTransit_iff.mpr ⟨by rw [picked]; rfl, undelivered, unfailed⟩
    rw [shows.carried] at carried
    cases status <;> simp [isWaiting, isCarried] at waiting carried

/-- The hooks of a status leave its timestamp. -/
theorem covers_statusRecord (row : Delivery) (carried : status = .inTransit → metrics.pickedUpAt.isSome = true) :
    Covers status (told (statusRecord status) now row metrics) := by
  cases status with
  | inTransit => exact ⟨by simp, by simp, fun _ => carried rfl⟩
  | pending | assigned | cancelled => exact ⟨by simp, by simp, by simp [isCarried]⟩
  | pickedUp => exact ⟨by simp, by simp, fun _ => rfl⟩
  | delivered => exact ⟨fun _ => rfl, by simp, by simp [isCarried]⟩
  | failed => exact ⟨by simp, fun _ => rfl, by simp [isCarried]⟩

/-- In transit comes after the pickup. -/
theorem from_pickedUp (allowed : DeliveryStatus.inTransit ∈ allowedTransitions status) : status = .pickedUp := by
  cases status <;> simp [allowedTransitions] at allowed ⊢

private theorem acts_covers (acts : Acts env turn row row' record) (covers : Covers row.status metrics) :
    Covers row'.status (told record now row' metrics) := by
  cases acts with
  | assigned _ status picked keeps =>
    rw [status]
    exact ⟨by simp, by simp, by simp [isCarried]⟩
  | again keeps =>
    refine covers_statusRecord row fun here => covers.carried ?_
    rw [here]
    rfl
  | changed _ way picked keeps =>
    refine covers_statusRecord row' fun here => covers.carried ?_
    rw [here] at way
    rw [from_pickedUp (way.resolve_left (by simp))]
    rfl

/-- The hooks of a status show it, where no timestamp of another one is in the way. -/
theorem shows_statusRecord (row : Delivery)
    (undelivered : status ≠ .delivered → metrics.deliveredAt.isSome = false)
    (unfailed : status ≠ .failed → metrics.failedAt.isSome = false)
    (unpicked : isWaiting status = true → metrics.pickedUpAt = none)
    (carried : status = .inTransit → metrics.pickedUpAt.isSome = true) :
    Shows status (told (statusRecord status) now row metrics) := by
  cases status with
  | pending | assigned | cancelled =>
    have none_yet := unpicked rfl
    exact ⟨undelivered (by simp), unfailed (by simp),
      by simp [told, statusRecord, recordCancellation, DeliveryMetrics.isInTransit, none_yet, isCarried]⟩
  | pickedUp =>
    have open_ := undelivered (by simp)
    have well := unfailed (by simp)
    exact ⟨open_, well, isInTransit_iff.mpr ⟨rfl, open_, well⟩⟩
  | inTransit =>
    have open_ := undelivered (by simp)
    have well := unfailed (by simp)
    exact ⟨open_, well, isInTransit_iff.mpr ⟨carried rfl, open_, well⟩⟩
  | delivered =>
    exact ⟨rfl, unfailed (by simp),
      by simp [told, statusRecord, recordDelivery, DeliveryMetrics.isInTransit, isCarried]⟩
  | failed =>
    exact ⟨undelivered (by simp), rfl,
      by simp [told, statusRecord, recordFailure, DeliveryMetrics.isInTransit, isCarried]⟩

theorem Shows.undelivered (shows : Shows status metrics) (here : status ≠ .delivered) :
    metrics.deliveredAt.isSome = false := by
  rw [shows.delivered]
  exact decide_eq_false here

theorem Shows.unfailed (shows : Shows status metrics) (here : status ≠ .failed) :
    metrics.failedAt.isSome = false := by
  rw [shows.failed]
  exact decide_eq_false here

/-- A waiting delivery comes from a waiting one. -/
theorem waiting_of_transition {target : DeliveryStatus} (allowed : target ∈ allowedTransitions status)
    (waiting : isWaiting target = true) : isWaiting status = true := by
  cases status <;> cases target <;> first | rfl | simp [allowedTransitions, isWaiting] at allowed waiting

/-- A change along the allowed transitions is shown. -/
theorem shows_transition (row : Delivery) {target : DeliveryStatus}
    (allowed : target ∈ allowedTransitions status) (shows : Shows status metrics) :
    Shows target (told (statusRecord target) now row metrics) := by
  have open_ : status ≠ .delivered ∧ status ≠ .failed := by
    constructor <;> (rintro rfl; cases allowed)
  refine shows_statusRecord row (fun _ => shows.undelivered open_.1) (fun _ => shows.unfailed open_.2) ?_ ?_
  · exact fun waiting => shows.unpicked (waiting_of_transition allowed waiting)
  · rintro rfl
    rw [from_pickedUp allowed] at shows
    exact shows.covers.carried rfl

theorem acts_shows (acts : Acts env turn row row' record) (shows : Shows row.status metrics) :
    Shows row'.status (told record now row' metrics) ↔ Keeps env turn := by
  cases acts with
  | assigned _ status picked keeps =>
    rw [keeps, status]
    have same : (told (some recordAssignment) now row' metrics).isInTransit = metrics.isInTransit := rfl
    constructor
    · intro after
      have undelivered : decide (row.status = .delivered) = false := shows.delivered.symm.trans after.delivered
      have unfailed : decide (row.status = .failed) = false := shows.failed.symm.trans after.failed
      have put_down : isCarried row.status = false :=
        shows.carried.symm.trans (same.symm.trans after.carried)
      cases here : row.status <;> simp_all [isWaiting, isCarried]
    · intro waiting
      have open_ : row.status ≠ .delivered ∧ row.status ≠ .failed := by
        constructor <;> (intro here; rw [here] at waiting; cases waiting)
      have put_down : isCarried row.status = false := by
        cases here : row.status <;> simp_all [isWaiting, isCarried]
      exact ⟨shows.undelivered open_.1, shows.unfailed open_.2, same.trans (shows.carried.trans put_down)⟩
  | again keeps =>
    refine iff_of_true (shows_statusRecord row shows.undelivered shows.unfailed shows.unpicked ?_) keeps
    intro here
    exact shows.covers.carried (by rw [here]; rfl)
  | changed _ way picked keeps =>
    rw [keeps]
    rcases way with delivered | allowed
    · rw [delivered]
      constructor
      · intro after failed
        have stamped : metrics.failedAt.isSome = true := shows.covers.failed failed
        have none_yet : metrics.failedAt.isSome = false := after.failed
        rw [stamped] at none_yet
        cases none_yet
      · intro unfailed
        exact shows_statusRecord row' (fun here => absurd rfl here) (fun _ => shows.unfailed unfailed)
          (fun waiting => by cases waiting) (fun carried => by cases carried)
    · refine iff_of_true (shows_transition row' allowed shows) ?_
      intro failed
      rw [failed] at allowed
      cases allowed

/-! ### The times -/

theorem calculateTimeSeconds_start (row : Delivery) (metrics : DeliveryMetrics) (now : Time) :
    calculateTimeSeconds (metrics.assignedAt.or (some row.createdAt)) (some now) =
      roundedSeconds (start row metrics) now := by
  unfold start
  cases metrics.assignedAt <;> rfl

/-- A call that records nothing of the delivery leaves its times. -/
theorem Spans.later (spans : Spans clock row metrics) (passed : clock ≤ now)
    (created : row'.createdAt = row.createdAt) (picked : row'.pickedUpAt = row.pickedUpAt) :
    Spans now row' metrics := by
  have begins : start row' metrics = start row metrics := by rw [start, start, created]
  refine ⟨?_, by rw [picked]; exact spans.same, ?_, ?_⟩
  · rw [begins]
    exact spans.started.trans passed
  · intro pickup here
    obtain ⟨after, before, seconds⟩ := spans.picked pickup here
    rw [begins]
    exact ⟨after, before.trans passed, seconds⟩
  · intro pickup delivery here there
    rw [begins]
    exact spans.arrived pickup delivery here there

/-- The times of a status that is shown are those between its timestamps. -/
theorem spans_statusRecord (spans : Spans clock row metrics) (passed : clock ≤ now)
    (created : row'.createdAt = row.createdAt)
    (picked : status = .pickedUp → row'.pickedUpAt.isSome = true)
    (same : status ≠ .pickedUp → row'.pickedUpAt = row.pickedUpAt)
    (shows : Shows status (told (statusRecord status) now row' metrics)) :
    Spans now row' (told (statusRecord status) now row' metrics) := by
  have begins : start row' metrics = start row metrics := by rw [start, start, created]
  cases status with
  | pending | assigned | inTransit | cancelled => exact spans.later passed created (same (by simp))
  | failed =>
    have later := spans.later passed created (same (by simp))
    exact ⟨later.started, later.same, later.picked, later.arrived⟩
  | pickedUp =>
    have undelivered : metrics.deliveredAt.isSome = false := shows.delivered
    refine ⟨?_, (picked rfl).symm, ?_, ?_⟩
    · show start row' metrics ≤ now
      rw [begins]
      exact spans.started.trans passed
    · rintro pickup here
      obtain rfl : now = pickup := Option.some.inj here
      refine ⟨?_, le_refl _, calculateTimeSeconds_start row' metrics now⟩
      show start row' metrics ≤ now
      rw [begins]
      exact spans.started.trans passed
    · intro pickup delivery _ there
      rw [show metrics.deliveredAt = some delivery from there] at undelivered
      cases undelivered
  | delivered =>
    have later := spans.later passed created (same (by simp))
    refine ⟨later.started, later.same, later.picked, ?_⟩
    intro pickup delivery here there
    have held : metrics.pickedUpAt = some pickup := here
    obtain rfl : now = delivery := Option.some.inj there
    refine ⟨(later.picked pickup held).2.1, ?_, calculateTimeSeconds_start row' metrics now⟩
    show calculateTimeSeconds (metrics.pickedUpAt.or _) _ = _
    rw [held]
    rfl

private theorem acts_spans (acts : Acts env turn row row' record) (keeps : Keeps env turn)
    (shows : Shows row.status metrics) (spans : Spans clock row metrics)
    (passed : clock ≤ turn.label.ambient.now) (created : row'.createdAt = row.createdAt) :
    Spans turn.label.ambient.now row' (told record turn.label.ambient.now row' metrics) := by
  have after : Shows row'.status (told record turn.label.ambient.now row' metrics) :=
    (acts_shows acts shows).mpr keeps
  cases acts with
  | assigned _ status picked kept =>
    -- it waited, so nothing has been measured from the assignment that is replaced
    have unpicked : metrics.pickedUpAt = none := shows.unpicked (kept.mp keeps)
    refine ⟨le_refl _, ?_, ?_, ?_⟩
    · rw [picked]
      exact spans.same
    · intro pickup here
      rw [show metrics.pickedUpAt = some pickup from here] at unpicked
      cases unpicked
    · intro pickup delivery here
      rw [show metrics.pickedUpAt = some pickup from here] at unpicked
      cases unpicked
  | again kept =>
    refine spans_statusRecord spans passed rfl ?_ (fun _ => rfl) after
    intro here
    rw [← spans.same]
    exact shows.covers.carried (by rw [here]; rfl)
  | changed _ way picked kept =>
    refine spans_statusRecord spans passed created ?_ ?_ after
    · intro here
      rw [picked, if_pos here]
      rfl
    · intro other
      rw [picked, if_neg other]

/-- Times between timestamps that follow each other add up, but for the rounding. -/
theorem rounded_add (a b c : Int) (first : a ≤ b) (second : b ≤ c) :
    0 ≤ roundedSeconds a b ∧ 0 ≤ roundedSeconds b c ∧
      |roundedSeconds a b + roundedSeconds b c - roundedSeconds a c| ≤ 1 := by
  unfold roundedSeconds
  rw [abs_le]
  omega

end Stamps

/-! ## All deliveries -/

/-- A fact about each delivery and its row of the metrics. -/
def Everywhere (holds : Delivery → DeliveryMetrics → Prop) (table : MetricsTable) (db : Db) : Prop :=
  ∀ id row, db.delivery id = some row → holds row (rowOf table id row)

/-- The metrics belong to deliveries, one row to each, and have the timestamp of the status. -/
structure Kept (table : MetricsTable) (db : Db) : Prop where
  distinct : Keyed.Distinct table
  known : ∀ id metrics, Keyed.get table id = some metrics → ∃ row, db.delivery id = some row
  covers : Everywhere (fun row => Covers row.status) table db

section Tables

variable {env : Env} {turn : ServiceTurn} {table : MetricsTable} {before after db : Db}
  {holds : Delivery → DeliveryMetrics → Prop} {id : Uuid} {row row' : Delivery} {record : Option Record}
  {now clock : Time}

/-- A call is about one delivery; of the others it says nothing new. -/
theorem everywhere_moved (left : after.delivery = Function.update before.delivery id (some row'))
    (order : row'.sellerOrderId = row.sellerOrderId) :
    Everywhere holds (saveTold record now id row' table) after ↔
      (∀ other held, other ≠ id → before.delivery other = some held → holds held (rowOf table other held)) ∧
        holds row' (told record now row' (rowOf table id row)) := by
  constructor
  · intro every
    refine ⟨fun other held different found => ?_, ?_⟩
    · have here := every other held (by rw [left, Function.update_of_ne different, found])
      rwa [rowOf_saveTold_ne different] at here
    · have here := every id row' (by rw [left, Function.update_self])
      rwa [rowOf_saveTold order] at here
  · rintro ⟨others, own⟩ other held found
    by_cases here : other = id
    · subst here
      rw [left, Function.update_self, Option.some.injEq] at found
      subst found
      rw [rowOf_saveTold order]
      exact own
    · rw [left, Function.update_of_ne here] at found
      rw [rowOf_saveTold_ne here]
      exact others other held here found

private theorem kept_step (moves : Moves env turn) (kept : Kept table turn.before) :
    Kept (projected table turn) turn.after := by
  cases moves with
  | still same silent keeps =>
    rw [silent]
    exact ⟨kept.distinct, by rw [same]; exact kept.known, by unfold Everywhere; rw [same]; exact kept.covers⟩
  | moved id row row' record found left told order created acts =>
    rw [told]
    refine ⟨distinct_saveTold kept.distinct, fun other metrics held => ?_, ?_⟩
    · by_cases here : other = id
      · exact ⟨row', by rw [here, left, Function.update_self]⟩
      · rw [get_saveTold_ne here] at held
        obtain ⟨row, there⟩ := kept.known other metrics held
        exact ⟨row, by rw [left, Function.update_of_ne here, there]⟩
    · exact (everywhere_moved left order).mpr
        ⟨fun other held _ there => kept.covers other held there, acts_covers acts (kept.covers id row found)⟩

/-- Where every status is shown, it is shown after a call just when the call keeps. -/
theorem shows_step (moves : Moves env turn)
    (shows : Everywhere (fun row => Shows row.status) table turn.before) :
    Everywhere (fun row => Shows row.status) (projected table turn) turn.after ↔ Keeps env turn := by
  cases moves with
  | still same silent keeps =>
    refine iff_of_true ?_ keeps
    rw [silent]
    unfold Everywhere
    rw [same]
    exact shows
  | moved id row row' record found left told order created acts =>
    rw [told, everywhere_moved left order, acts_shows acts (shows id row found)]
    exact and_iff_right fun other held _ there => shows other held there

private theorem spans_step (moves : Moves env turn) (keeps : Keeps env turn)
    (shows : Everywhere (fun row => Shows row.status) table turn.before)
    (spans : Everywhere (Spans clock) table turn.before) (passed : clock ≤ turn.label.ambient.now) :
    Everywhere (Spans turn.label.ambient.now) (projected table turn) turn.after := by
  cases moves with
  | still same silent keeps =>
    rw [silent]
    unfold Everywhere
    rw [same]
    exact fun id row found => (spans id row found).later passed rfl rfl
  | moved id row row' record found left told order created acts =>
    rw [told, everywhere_moved left order]
    exact ⟨fun other held _ there => (spans other held there).later passed rfl rfl,
      acts_spans acts keeps (shows id row found) (spans id row found) passed created⟩

/-! ### The figures -/

/-- The rows that pass a test are those of deliveries, where an empty row does not pass. -/
theorem mem_recorded (kept : Kept table db) {test : DeliveryMetrics → Bool}
    (fresh : ∀ sellerOrderId, test { sellerOrderId } = false) :
    id ∈ Keyed.keysWhere test table ↔
      ∃ row, db.delivery id = some row ∧ test (rowOf table id row) = true := by
  rw [Keyed.mem_keysWhere kept.distinct]
  constructor
  · rintro ⟨metrics, held, passes⟩
    obtain ⟨row, found⟩ := kept.known id metrics held
    exact ⟨row, found, by rwa [rowOf_of_get held]⟩
  · rintro ⟨row, found, passes⟩
    cases held : Keyed.get table id with
    | some metrics => exact ⟨metrics, rfl, by rwa [rowOf_of_get held] at passes⟩
    | none =>
      rw [rowOf_eq, held, Option.getD_none, fresh] at passes
      cases passes

/-- A figure that covers its statuses is right just where it is right of each delivery. -/
theorem count_iff (kept : Kept table db) (test : DeliveryMetrics → Bool) (among : DeliveryStatus → Bool)
    (fresh : ∀ sellerOrderId, test { sellerOrderId } = false)
    (covers : Everywhere (fun row metrics => among row.status = true → test metrics = true) table db) :
    (table.countP fun entry => test entry.2) = countIn among db ↔
      Everywhere (fun row metrics => test metrics = among row.status) table db := by
  have within : idsWhere (fun row => among row.status) db ⊆ Keyed.keysWhere test table := by
    intro id member
    obtain ⟨row, found, status⟩ := mem_idsWhere.mp member
    exact (mem_recorded kept fresh).mpr ⟨row, found, covers id row found status⟩
  refine (Keyed.countP_eq_card_iff kept.distinct within).trans ?_
  constructor
  · intro same id row found
    rw [Bool.eq_iff_iff]
    refine ⟨fun passes => ?_, covers id row found⟩
    have member := (mem_recorded kept fresh).mpr ⟨row, found, passes⟩
    rw [same] at member
    obtain ⟨other, there, status⟩ := mem_idsWhere.mp member
    obtain rfl : row = other := Option.some.inj (found.symm.trans there)
    exact status
  · intro right
    refine (within.antisymm fun id member => ?_).symm
    obtain ⟨row, found, passes⟩ := (mem_recorded kept fresh).mp member
    exact mem_idsWhere.mpr ⟨row, found, by rwa [right id row found] at passes⟩

/-- The figures are right just where each status is shown. -/
theorem tallied_iff (kept : Kept table db) :
    Tallied table db ↔ Everywhere (fun row => Shows row.status) table db := by
  have completed := count_iff kept (·.deliveredAt.isSome) (· = .delivered)
    (fun _ => rfl) fun id row found here => (kept.covers id row found).delivered (of_decide_eq_true here)
  have failed := count_iff kept (·.failedAt.isSome) (· = .failed)
    (fun _ => rfl) fun id row found here => (kept.covers id row found).failed (of_decide_eq_true here)
  constructor
  · intro tallied
    have delivered := completed.mp tallied.completed
    have lost := failed.mp tallied.failed
    have carried := (count_iff kept DeliveryMetrics.isInTransit isCarried
      (fun _ => rfl) fun id row found here => ?_).mp tallied.inTransit
    · exact fun id row found => ⟨delivered id row found, lost id row found, carried id row found⟩
    · refine isInTransit_iff.mpr ⟨(kept.covers id row found).carried here, ?_, ?_⟩
      · rw [delivered id row found]
        cases status : row.status <;> simp_all [isCarried]
      · rw [lost id row found]
        cases status : row.status <;> simp_all [isCarried]
  · intro shows
    refine ⟨completed.mpr fun id row found => (shows id row found).delivered,
      failed.mpr fun id row found => (shows id row found).failed, ?_⟩
    exact (count_iff kept DeliveryMetrics.isInTransit isCarried (fun _ => rfl) fun id row found here => by
      rw [(shows id row found).carried, here]).mpr fun id row found => (shows id row found).carried

/-- The times add up where the status is shown and the timestamps follow each other. -/
theorem addsUp_of_spans (shows : Everywhere (fun row => Shows row.status) table db)
    (spans : Everywhere (Spans clock) table db) : AddsUp table db := by
  intro id row found delivered pickedUp
  have here := spans id row found
  obtain ⟨pickup, picked⟩ := Option.isSome_iff_exists.mp (here.same.trans pickedUp)
  obtain ⟨delivery, arrived⟩ := Option.isSome_iff_exists.mp
    ((shows id row found).covers.delivered delivered)
  obtain ⟨first, -, pickupSeconds⟩ := here.picked pickup picked
  obtain ⟨second, transitSeconds, totalSeconds⟩ := here.arrived pickup delivery picked arrived
  cases held : Keyed.get table id with
  | none =>
    rw [rowOf_eq, held] at picked
    cases picked
  | some metrics =>
    rw [rowOf_of_get held] at first pickupSeconds transitSeconds totalSeconds
    refine ⟨metrics, rfl, ?_⟩
    rw [pickupSeconds, transitSeconds, totalSeconds]
    exact rounded_add _ _ _ first second

end Tables

/-! ## Histories -/

section Histories

variable {env : Env} {store : Db} {turns : List ServiceTurn} {table : MetricsTable} {clock : Time}

theorem kept_run (chain : Chain (Moves env) store turns) (kept : Kept table store) :
    Kept (turns.foldl projected table) (rowsAfter store turns) := by
  induction chain generalizing table with
  | nil => exact kept
  | cons turn moves later ih => exact ih (kept_step moves kept)

/-- Every status is shown all along a history just when each of its calls keeps. -/
theorem shows_run (chain : Chain (Moves env) store turns)
    (shows : Everywhere (fun row => Shows row.status) table store) :
    (∀ done, done <+: turns →
      Everywhere (fun row => Shows row.status) (done.foldl projected table) (rowsAfter store done)) ↔
      ∀ turn ∈ turns, Keeps env turn := by
  induction chain generalizing table with
  | nil =>
    refine iff_of_true (fun done empty => ?_) (by simp)
    rw [List.prefix_nil.mp empty]
    exact shows
  | @cons turns turn moves later ih =>
    rw [List.forall_mem_cons]
    constructor
    · intro all
      have next := all [turn] (List.prefix_cons_inj turn |>.mpr (List.nil_prefix))
      refine ⟨(shows_step moves shows).mp next, (ih next).mp fun done earlier => ?_⟩
      exact all (turn :: done) ((List.prefix_cons_inj turn).mpr earlier)
    · rintro ⟨keeps, others⟩ done earlier
      have next := (shows_step moves shows).mpr keeps
      rcases List.prefix_cons_iff.mp earlier with rfl | ⟨rest, rfl, shorter⟩
      · exact shows
      · exact (ih next).mpr others rest shorter

private theorem spans_run (chain : Chain (Moves env) store turns) (keeps : ∀ turn ∈ turns, Keeps env turn)
    (shows : Everywhere (fun row => Shows row.status) table store)
    (spans : Everywhere (Spans clock) table store)
    (ordered : (clock :: turns.map fun turn => turn.label.ambient.now).IsChain (· ≤ ·)) :
    ∃ last, Everywhere (Spans last) (turns.foldl projected table) (rowsAfter store turns) := by
  induction chain generalizing table clock with
  | nil => exact ⟨clock, spans⟩
  | cons turn moves later ih =>
    obtain ⟨here, others⟩ := List.forall_mem_cons.mp keeps
    rw [List.map_cons, List.isChain_cons_cons] at ordered
    exact ih others ((shows_step moves shows).mpr here) (spans_step moves here shows spans ordered.1)
      ordered.2

/-- New deliveries have no metrics, and their status needs none. -/
theorem new_deliveries (fresh : ∀ id row, store.delivery id = some row → row.IsNew) :
    Kept [] store ∧ Everywhere (fun row => Shows row.status) [] store := by
  have shows : Everywhere (fun row => Shows row.status) [] store := by
    intro id row found
    obtain ⟨dto, createdAt, rfl⟩ := fresh id row found
    exact ⟨rfl, rfl, rfl⟩
  refine ⟨⟨List.nodup_nil, fun id metrics held => ?_, fun id row found => (shows id row found).covers⟩, shows⟩
  cases held

private theorem new_spans (fresh : ∀ id row, store.delivery id = some row → row.IsNew)
    (created : ∀ id row, store.delivery id = some row → row.createdAt ≤ clock) :
    Everywhere (Spans clock) [] store := by
  intro id row found
  have begins := created id row found
  obtain ⟨dto, createdAt, rfl⟩ := fresh id row found
  refine ⟨begins, rfl, fun pickup here => ?_, fun pickup delivery here => ?_⟩
  · cases here
  · cases here

/-- In every state of a history the figures are the numbers of deliveries just when each call
keeps; and then, where the clock does not go back, the times add up. -/
theorem figures_mirror (env : Env) (store : Db) (requests : List Request)
    (listed : ∀ request ∈ requests, ofDelivery request.operation = true)
    (fresh : ∀ id row, store.delivery id = some row → row.IsNew) :
    ∃ turns, history (Request.program env) store requests = some turns ∧
      ((∀ done, done <+: turns → Tallied (metricsAfter done) (rowsAfter store done)) ↔
        ∀ turn ∈ turns, Keeps env turn) ∧
      ∀ done, done <+: turns → (∀ turn ∈ done, Keeps env turn) →
        Tallied (metricsAfter done) (rowsAfter store done) ∧
        ∀ clock, InOrder clock store done → AddsUp (metricsAfter done) (rowsAfter store done) := by
  obtain ⟨turns, ran, chain, _⟩ := history_chain requests
    (fun request member => request_moves env request (listed request member)) store
  obtain ⟨kept, shows⟩ := new_deliveries fresh
  have tallied : ∀ done, done <+: turns → (Tallied (metricsAfter done) (rowsAfter store done) ↔
      Everywhere (fun row => Shows row.status) (metricsAfter done) (rowsAfter store done)) := by
    intro done earlier
    exact tallied_iff (kept_run (chain.initial earlier) kept)
  refine ⟨turns, ran, ?_, fun done earlier keeps => ?_⟩
  · refine Iff.trans ?_ (shows_run chain shows)
    exact forall_congr' fun done => forall_congr' fun earlier => tallied done earlier
  · have begun := chain.initial earlier
    have last := (shows_run begun shows).mpr keeps done List.prefix_rfl
    refine ⟨(tallied done earlier).mpr last, fun clock inOrder => ?_⟩
    obtain ⟨_, spans⟩ := spans_run begun keeps shows (new_spans fresh inOrder.created) inOrder.ordered
    exact addsUp_of_spans last spans

end Histories

section Runs
open Sample

/-- What a history comes to: each figure beside the number of deliveries. -/
def report (turns : List ServiceTurn) : (Nat × Nat) × (Nat × Nat) × (Nat × Nat) :=
  let table := metricsAfter turns
  let db := rowsAfter shop turns
  ((getCompletedDeliveries table, countIn (· = .delivered) db),
    (getFailedDeliveries table, countIn (· = .failed) db),
    (getInTransitDeliveries table, countIn isCarried db))

/-- The times recorded for `D1`, when it was picked up and is delivered. -/
def times (turns : List ServiceTurn) : Option (Int × Int × Int) := do
  let row ← (rowsAfter shop turns).delivery "D1"
  let metrics ← Keyed.get (metricsAfter turns) "D1"
  if row.status = .delivered ∧ row.pickedUpAt.isSome then
    return (metrics.pickupTimeSeconds, metrics.inTransitTimeSeconds, metrics.totalTimeSeconds)
  else none

/-- `D1` is assigned and picked up a minute later. -/
def pickedUp : List Request :=
  [⟨.assignDriver "D1" "x" "A1", ambient 1 1000⟩,
   ⟨.updateStatus "D1" { status := "PICKED_UP" }, ambient 2 61000⟩]

theorem figures_mirror_delivered :
    ∃ turns, history (Request.program env) shop
        (pickedUp ++ [⟨.updateStatus "D1" { status := "DELIVERED" }, ambient 3 121400⟩]) = some turns ∧
      Tallied (metricsAfter turns) (rowsAfter shop turns) ∧
      AddsUp (metricsAfter turns) (rowsAfter shop turns) ∧ times turns = some (60, 60, 120) := by
  obtain ⟨turns, ran, -, mirrors⟩ := figures_mirror env shop
    (pickedUp ++ [⟨.updateStatus "D1" { status := "DELIVERED" }, ambient 3 121400⟩]) (by decide)
    fun _ _ => shop_delivery
  have seen : (history (Request.program env) shop
      (pickedUp ++ [⟨.updateStatus "D1" { status := "DELIVERED" }, ambient 3 121400⟩])).map (fun turns =>
        (decide (∀ turn ∈ turns, Keeps env turn),
          turns.map fun turn => turn.label.ambient.now, times turns)) =
      some (true, [1000, 61000, 121400], some (60, 60, 120)) := by
    decide
  rw [ran, Option.map_some, Option.some.injEq, Prod.mk.injEq, Prod.mk.injEq, decide_eq_true_iff] at seen
  obtain ⟨keeps, clocks, recorded⟩ := seen
  obtain ⟨tallied, addsUp⟩ := mirrors turns List.prefix_rfl keeps
  have created : ∀ entry ∈ shop.deliveries, entry.2.createdAt ≤ 0 := by decide
  refine ⟨turns, ran, tallied, addsUp 0 ⟨fun id row found => ?_, by rw [clocks]; decide⟩, recorded⟩
  exact created (id, row) ((Db.mem_deliveries shop).mpr found)

/-- A reassignment leaves the first pickup in the figures and in the times, and a verified
code leaves the failure. -/
theorem figures_drift :
    (∃ turns, history (Request.program env) shop
        (pickedUp ++ [⟨.assignDriver "D1" "y" "A2", ambient 3 121000⟩]) = some turns ∧
      report turns = ((0, 0), (0, 0), (1, 0)) ∧ ¬ Tallied (metricsAfter turns) (rowsAfter shop turns)) ∧
    (∃ turns, history (Request.program env) shop
        (pickedUp ++ [⟨.updateStatus "D1" { status := "FAILED" }, ambient 3 121000⟩,
          ⟨.verifyOtp "D1" "100000" none none none, ambient 4 181000⟩]) = some turns ∧
      report turns = ((1, 1), (1, 0), (0, 0)) ∧ ¬ Tallied (metricsAfter turns) (rowsAfter shop turns)) ∧
    ∃ turns, history (Request.program env) shop
        (pickedUp ++ [⟨.assignDriver "D1" "y" "A2", ambient 3 121000⟩,
          ⟨.verifyOtp "D1" "100000" none none none, ambient 4 181000⟩]) = some turns ∧
      times turns = some (60, 120, 60) ∧ ¬ AddsUp (metricsAfter turns) (rowsAfter shop turns) := by
  refine ⟨?_, ?_, ?_⟩
  · have ran : (history (Request.program env) shop
        (pickedUp ++ [⟨.assignDriver "D1" "y" "A2", ambient 3 121000⟩])).map report =
        some ((0, 0), (0, 0), (1, 0)) := by
      decide
    obtain ⟨turns, ran, seen⟩ := Option.map_eq_some_iff.mp ran
    refine ⟨turns, ran, seen, fun tallied => ?_⟩
    simp only [report, Prod.mk.injEq] at seen
    have same := tallied.inTransit
    rw [seen.2.2.1, seen.2.2.2] at same
    cases same
  · have ran : (history (Request.program env) shop
        (pickedUp ++ [⟨.updateStatus "D1" { status := "FAILED" }, ambient 3 121000⟩,
          ⟨.verifyOtp "D1" "100000" none none none, ambient 4 181000⟩])).map report =
        some ((1, 1), (1, 0), (0, 0)) := by
      decide +kernel
    obtain ⟨turns, ran, seen⟩ := Option.map_eq_some_iff.mp ran
    refine ⟨turns, ran, seen, fun tallied => ?_⟩
    simp only [report, Prod.mk.injEq] at seen
    have same := tallied.failed
    rw [seen.2.1.1, seen.2.1.2] at same
    cases same
  · have ran : (history (Request.program env) shop
        (pickedUp ++ [⟨.assignDriver "D1" "y" "A2", ambient 3 121000⟩,
          ⟨.verifyOtp "D1" "100000" none none none, ambient 4 181000⟩])).map times =
        some (some (60, 120, 60)) := by
      decide +kernel
    obtain ⟨turns, ran, seen⟩ := Option.map_eq_some_iff.mp ran
    refine ⟨turns, ran, seen, fun addsUp => ?_⟩
    simp only [times, Option.bind_eq_bind, Option.bind_eq_some_iff, Option.ite_none_right_eq_some] at seen
    obtain ⟨row, found, metrics, held, ⟨delivered, picked⟩, recorded⟩ := seen
    obtain ⟨_, there, _, _, total⟩ := addsUp "D1" row found delivered picked
    rw [held, Option.some.injEq] at there
    subst there
    simp only [Option.pure_def, Option.some.injEq, Prod.mk.injEq] at recorded
    rw [recorded.1, recorded.2.1, recorded.2.2] at total
    exact absurd total (by decide)

end Runs

end DriverMicroServices.DeliveryHealth
