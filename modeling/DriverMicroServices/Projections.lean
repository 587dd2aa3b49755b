import DriverMicroServices.Sequential

/-! What the projections are told. The hooks run on the delivery that a mutator
returned and look at its status only, so a call that found the status it asked
for reports it again. -/
namespace DriverMicroServices
open Transactions Program

/-- A call of one of the three mutators that report to the projections. -/
inductive Mutation where
  | updateStatus (dto : UpdateDeliveryStatusDto)
  | cancelDelivery (reason : Option String)
  | verifyOtp (otp : String) (proofUrl : Option String) (driverLat driverLon : Option Rat)
  deriving DecidableEq

def Mutation.request (deliveryId : Uuid) (mutation : Mutation) (ambient : Ambient) : Request where
  operation :=
    match mutation with
    | .updateStatus dto => .updateStatus deliveryId dto
    | .cancelDelivery reason => .cancelDelivery deliveryId reason
    | .verifyOtp otp proofUrl driverLat driverLon =>
      .verifyOtp deliveryId otp proofUrl driverLat driverLon
  ambient := ambient

/-- The status that `delivery_metrics` is told of. -/
def Projection.metrics? : Projection → Option DeliveryStatus
  | .recordPickup _ => some .pickedUp
  | .recordDelivery _ => some .delivered
  | .recordFailure _ => some .failed
  | .recordCancellation _ => some .cancelled
  | _ => none

/-- The status that `driver_stats` is told of. -/
def Projection.stats? : Projection → Option DeliveryStatus
  | .recordDeliveryCompleted _ _ => some .delivered
  | .recordDeliveryFailed _ => some .failed
  | .recordDeliveryCancelled _ => some .cancelled
  | _ => none

/-- The statuses with a projection in `delivery_metrics`. -/
def DeliveryStatus.hasMetrics (status : DeliveryStatus) : Bool :=
  status = .pickedUp || status = .delivered || status = .failed || status = .cancelled

/-- The statuses with a projection in `driver_stats`. -/
def DeliveryStatus.hasStats (status : DeliveryStatus) : Bool :=
  status = .delivered || status = .failed || status = .cancelled

/-- The projections a call invoked. -/
def projectionsOf (turn : ServiceTurn) : List Projection :=
  match turn.answer with
  | .ok projections => projections
  | .error _ => []

def statusOf (db : Db) (deliveryId : Uuid) : Option DeliveryStatus :=
  (db.delivery deliveryId).map Delivery.status

def hasDriver (db : Db) (deliveryId : Uuid) : Bool :=
  (db.delivery deliveryId).any (·.driverId.isSome)

/-- The stored status changed into this one. -/
def changesInto (deliveryId : Uuid) (status : DeliveryStatus)
    (turn : ServiceTurn) : Bool :=
  statusOf turn.before deliveryId ≠ some status && statusOf turn.after deliveryId = some status

/-- The status a mutator asks for and returns early in. `cancelDelivery` looks at
the status before it asks for anything. -/
def Operation.asks (operation : Operation) (status : DeliveryStatus) : Bool :=
  match operation with
  | .updateStatus _ dto => status = mapStringToDeliveryStatus dto.status
  | .verifyOtp _ _ _ _ _ => status = .delivered
  | _ => false

/-- The call found the delivery in this status and asked for it once more. -/
def repeats (deliveryId : Uuid) (status : DeliveryStatus)
    (turn : ServiceTurn) : Bool :=
  statusOf turn.before deliveryId = some status && turn.label.operation.asks status

/-- Every projection is invoked as often as the stored status changed into its
status. A delivery without a driver has no driver statistics. -/
structure ExactlyOnce (deliveryId : Uuid) (driven : Bool)
    (turns : List ServiceTurn) : Prop where
  metrics : ∀ status : DeliveryStatus, status.hasMetrics = true →
    (turns.flatMap projectionsOf).countP (·.metrics? = some status) =
      turns.countP (changesInto deliveryId status)
  stats : ∀ status : DeliveryStatus, status.hasStats = true →
    (turns.flatMap projectionsOf).countP (·.stats? = some status) =
      if driven then turns.countP (changesInto deliveryId status) else 0

/-! ## One call -/

/-- What one call reports and what it does to the status: it reports the status
it found, when it asks for it again, or the status it changed the delivery to. -/
inductive Reports (deliveryId : Uuid) (turn : ServiceTurn) : Prop
  | nothing (same : Db.delivery turn.after deliveryId = Db.delivery turn.before deliveryId)
      (silent : projectionsOf turn = [])
      (once : ∀ status, repeats deliveryId status turn = false)
  | again (row : Delivery) (found : Db.delivery turn.before deliveryId = some row)
      (left : Db.delivery turn.after deliveryId = some row)
      (told : projectionsOf turn = statusHooks deliveryId row.entity)
      (repeated : ∀ status, repeats deliveryId status turn = decide (row.status = status))
  | change (row row' : Delivery) (entity : DeliveryEntity)
      (found : Db.delivery turn.before deliveryId = some row)
      (left : Db.delivery turn.after deliveryId = some row')
      (told : projectionsOf turn = statusHooks deliveryId entity)
      (status : entity.status = row'.status) (driver : entity.driverId.value? = row.driverId)
      (kept : row'.driverId = row.driverId) (changed : row.status ≠ row'.status)
      (once : ∀ status, repeats deliveryId status turn = false)

theorem metrics_statusHooks (deliveryId : Uuid) (entity : DeliveryEntity) (status : DeliveryStatus)
    (reported : status.hasMetrics = true) :
    (statusHooks deliveryId entity).countP (·.metrics? = some status) =
      if entity.status = status then 1 else 0 := by
  unfold statusHooks completionHooks recordWith
  cases status with
  | pending | assigned | inTransit => cases reported
  | pickedUp | delivered | failed | cancelled =>
    cases entity.status <;> cases entity.driverId.value? <;> rfl

theorem stats_statusHooks (deliveryId : Uuid) (entity : DeliveryEntity) (status : DeliveryStatus)
    (reported : status.hasStats = true) :
    (statusHooks deliveryId entity).countP (·.stats? = some status) =
      if entity.driverId.value?.isSome && entity.status = status then 1 else 0 := by
  unfold statusHooks completionHooks recordWith
  cases status with
  | pending | assigned | inTransit | pickedUp => cases reported
  | delivered | failed | cancelled =>
    cases entity.status <;> cases entity.driverId.value? <;> rfl

/-- A mutator reports the status it asked for, whether it found the delivery there
or took it there. -/
private theorem mutates_reports {request : Request} {target : DeliveryStatus}
    {change : Delivery → Delivery → Prop} {entity : Delivery → DeliveryEntity}
    {hooks : DeliveryEntity → List Projection} {store : Db} {left : Session Row}
    (asks : ∀ row, store.delivery deliveryId = some row →
      request.operation.asks row.status = decide (row.status = target))
    (hooked : ∀ delivery, delivery.status = target → hooks delivery = statusHooks deliveryId delivery)
    (changes : ∀ row row', change row row' →
      (entity row).status = target ∧ (entity row).driverId.value? = row.driverId ∧
        row'.status = target ∧ row'.driverId = row.driverId)
    (held : Mutates deliveryId (·.status = target) change entity hooks store result left) :
    Reports deliveryId ⟨store, request, result.map Settled.projections, left.store⟩ := by
  have once : ∀ answer after row, store.delivery deliveryId = some row → row.status ≠ target →
      ∀ status, repeats deliveryId status ⟨store, request, answer, after⟩ = false := by
    intro answer after row found changed status
    by_cases here : row.status = status
    · subst here
      simp [repeats, statusOf, found, asks row found, changed]
    · simp [repeats, statusOf, found, here]
  cases result with
  | error error =>
    obtain ⟨same, later⟩ := held
    refine .nothing (congrFun same.delivery deliveryId) rfl fun status => ?_
    cases found : store.delivery deliveryId with
    | none => simp [repeats, statusOf, found]
    | some row => exact once _ _ row found (later row found) status
  | ok settled =>
    obtain ⟨told, row, found, ⟨repeated, stays, same⟩ | ⟨row', changed, change, stays, same⟩⟩ := held
    · have told' : settled.projections = statusHooks deliveryId row.entity := by
        rw [told, same]
        exact hooked row.entity repeated
      have asked : request.operation.asks row.status = true :=
        (asks row found).trans (decide_eq_true repeated)
      refine .again row found stays told' fun status => ?_
      by_cases here : row.status = status
      · subst here
        simp [repeats, statusOf, found, asked]
      · simp [repeats, statusOf, found, here]
    · obtain ⟨status, driver, status', driver'⟩ := changes row row' change
      have told' : settled.projections = statusHooks deliveryId (entity row) := by
        rw [told, same]
        exact hooked (entity row) status
      exact .change row row' (entity row) found stays told' (status.trans status'.symm) driver driver'
        (by rwa [status']) (once _ _ row found changed)

theorem transition_changes {amb : Ambient} {dto : UpdateDeliveryStatusDto}
    (row row' : Delivery) (change : StatusChange amb dto row row') :
    let target := mapStringToDeliveryStatus dto.status
    let entity := transition amb.now dto target row.entity
    entity.status = target ∧ entity.driverId.value? = row.driverId ∧
      row'.status = target ∧ row'.driverId = row.driverId := by
  obtain ⟨_, _, rfl⟩ := change
  obtain ⟨status, driver, _⟩ :=
    transition_saveOver amb.now dto (mapStringToDeliveryStatus dto.status) row
  refine ⟨?_, ?_, status, driver⟩
  · cases mapStringToDeliveryStatus dto.status <;> rfl
  · cases mapStringToDeliveryStatus dto.status <;> exact Column.ofRow_value? row.driverId

theorem completed_changes {amb : Ambient} (row row' : Delivery)
    (change : CodeAccepted amb otp proofUrl row row') :
    let entity := completed amb.now proofUrl row.entity
    entity.status = .delivered ∧ entity.driverId.value? = row.driverId ∧
      row'.status = .delivered ∧ row'.driverId = row.driverId := by
  obtain ⟨_, _, _, rfl⟩ := change
  rw [completed_saveOver]
  exact ⟨rfl, Column.ofRow_value? row.driverId, rfl, rfl⟩

private theorem mutation_reports (env : Env) (mutation : Mutation) (amb : Ambient) (store : Db) :
    ((mutation.request deliveryId amb).program env).Returns
      (fun answer left => Reports deliveryId
        ⟨store, mutation.request deliveryId amb, answer, left.store⟩) { store } := by
  cases mutation with
  | updateStatus dto =>
    refine returns_bind (returns_mono (updateStatus_returns env) fun result left held => ?_)
    have reports : Reports deliveryId
        ⟨store, Mutation.request deliveryId (.updateStatus dto) amb,
          result.map Settled.projections, left.store⟩ :=
      mutates_reports (fun _ _ => rfl) (fun _ _ => rfl) transition_changes held
    cases result <;> exact reports
  | verifyOtp otp proofUrl driverLat driverLon =>
    refine returns_bind (returns_mono (verifyOtp_returns env) fun result left held => ?_)
    have reports : Reports deliveryId
        ⟨store, Mutation.request deliveryId (.verifyOtp otp proofUrl driverLat driverLon) amb,
          result.map Settled.projections, left.store⟩ := by
      refine mutates_reports (fun _ _ => rfl) (fun delivery delivered => ?_) completed_changes held
      rw [statusHooks, delivered]
    cases result <;> exact reports
  | cancelDelivery reason =>
    have silent : ∀ (turn : ServiceTurn), turn.label.operation.asks = (fun _ => false) →
        turn.after = turn.before → projectionsOf turn = [] → Reports deliveryId turn := by
      intro turn asks same told
      exact .nothing (by rw [same]) told fun status => by simp [repeats, asks]
    refine returns_findOne (fun _ exception => silent _ rfl rfl rfl) fun row found => ?_
    split
    · exact silent _ rfl rfl rfl
    · rename_i open_
      refine returns_bind (returns_mono (updateStatus_returns env) fun result left held => ?_)
      have reports : Reports deliveryId
          ⟨store, Mutation.request deliveryId (.cancelDelivery reason) amb,
            result.map Settled.projections, left.store⟩ := by
        refine mutates_reports (fun row' found' => ?_) (fun _ _ => rfl) transition_changes held
        obtain rfl : row = row' := Option.some.inj (found.symm.trans found')
        exact (decide_eq_false (not_or.mp open_).1).symm
      cases result <;> exact reports

/-! ## Counting -/

/-- One call reports a status once for a change into it and once for finding the
delivery in it. -/
private theorem metrics_turn (reports : Reports deliveryId turn) (status : DeliveryStatus)
    (reported : status.hasMetrics = true) :
    (projectionsOf turn).countP (·.metrics? = some status) =
      (changesInto deliveryId status turn).toNat + (repeats deliveryId status turn).toNat := by
  cases reports with
  | nothing same silent once =>
    have unchanged : statusOf turn.after deliveryId = statusOf turn.before deliveryId :=
      congrArg (Option.map Delivery.status) same
    simp [silent, once, changesInto, unchanged]
  | again row found left told repeated =>
    rw [told, metrics_statusHooks _ _ _ reported, repeated]
    have unchanged : changesInto deliveryId status turn = false := by
      simp [changesInto, statusOf, found, left]
    rw [unchanged]
    show (if row.status = status then 1 else 0) = _
    split <;> simp_all
  | change row row' entity found left told status' driver kept changed once =>
    rw [told, metrics_statusHooks _ _ _ reported, once, status']
    have moved : changesInto deliveryId status turn = decide (row'.status = status) := by
      by_cases here : row'.status = status
      · subst here
        simp [changesInto, statusOf, found, left, changed]
      · simp [changesInto, statusOf, left, here]
    rw [moved]
    split <;> simp_all

private theorem stats_turn (reports : Reports deliveryId turn) (status : DeliveryStatus)
    (reported : status.hasStats = true) :
    (projectionsOf turn).countP (·.stats? = some status) =
      if hasDriver turn.before deliveryId then
        (projectionsOf turn).countP (·.metrics? = some status)
      else 0 := by
  have metrics : status.hasMetrics = true := by
    cases status <;> first | rfl | cases reported
  cases reports with
  | nothing same silent once => simp [silent]
  | again row found left told repeated =>
    rw [told, metrics_statusHooks _ _ _ metrics, stats_statusHooks _ _ _ reported]
    cases driver : row.driverId <;> simp [hasDriver, found, Delivery.entity, driver]
  | change row row' entity found left told status' driver kept changed once =>
    rw [told, metrics_statusHooks _ _ _ metrics, stats_statusHooks _ _ _ reported, driver]
    cases driver' : row.driverId <;> simp [hasDriver, found, driver']

private theorem driver_turn (reports : Reports deliveryId turn) :
    hasDriver turn.after deliveryId = hasDriver turn.before deliveryId := by
  cases reports with
  | nothing same => simp [hasDriver, same]
  | again row found left => simp [hasDriver, found, left]
  | change row row' entity found left told status' driver kept => simp [hasDriver, found, left, kept]

private theorem metrics_total (chain : Chain (Reports deliveryId) store turns)
    (status : DeliveryStatus) (reported : status.hasMetrics = true) :
    (turns.flatMap projectionsOf).countP (·.metrics? = some status) =
      turns.countP (changesInto deliveryId status) + turns.countP (repeats deliveryId status) := by
  induction chain with
  | nil => rfl
  | cons turn reports later ih =>
    have here := metrics_turn reports status reported
    simp only [List.flatMap_cons, List.countP_append, List.countP_cons, here, ih]
    cases changesInto deliveryId status turn <;> cases repeats deliveryId status turn <;>
      simp <;> omega

private theorem stats_total (chain : Chain (Reports deliveryId) store turns)
    (status : DeliveryStatus) (reported : status.hasStats = true) :
    (turns.flatMap projectionsOf).countP (·.stats? = some status) =
      if hasDriver store deliveryId then
        (turns.flatMap projectionsOf).countP (·.metrics? = some status)
      else 0 := by
  induction chain with
  | nil => simp
  | cons turn reports later ih =>
    rw [driver_turn reports] at ih
    simp only [List.flatMap_cons, List.countP_append, stats_turn reports status reported, ih]
    split <;> rfl

/-- The projections of a delivery count its changes of status exactly when no
call asks for a status with projections that the delivery already has. -/
theorem projections_exactly_once (env : Env) (deliveryId : Uuid) (store : Db)
    (mutations : List (Mutation × Ambient)) :
    ∃ turns, history (Request.program env) store
        (mutations.map fun called => called.1.request deliveryId called.2) = some turns ∧
      (ExactlyOnce deliveryId (hasDriver store deliveryId) turns ↔
        ∀ turn ∈ turns, ∀ status : DeliveryStatus, status.hasMetrics = true →
          repeats deliveryId status turn = false) := by
  obtain ⟨turns, ran, chain, _⟩ := history_chain
    (mutations.map fun called => called.1.request deliveryId called.2)
    (fun label member store => by
      obtain ⟨called, _, rfl⟩ := List.mem_map.mp member
      exact mutation_reports env called.1 called.2 store) store
  refine ⟨turns, ran, ?_⟩
  constructor
  · intro once turn member status reported
    have total := metrics_total chain status reported
    rw [once.metrics status reported] at total
    have none : turns.countP (repeats deliveryId status) = 0 := by omega
    simpa using List.countP_eq_zero.mp none turn member
  · intro once
    have none : ∀ status : DeliveryStatus, status.hasMetrics = true →
        turns.countP (repeats deliveryId status) = 0 := by
      intro status reported
      refine List.countP_eq_zero.mpr fun turn member => ?_
      rw [once turn member status reported]
      exact Bool.false_ne_true
    have metrics : ∀ status : DeliveryStatus, status.hasMetrics = true →
        (turns.flatMap projectionsOf).countP (·.metrics? = some status) =
          turns.countP (changesInto deliveryId status) := by
      intro status reported
      rw [metrics_total chain status reported, none status reported, Nat.add_zero]
    refine ⟨metrics, fun status reported => ?_⟩
    have reported' : status.hasMetrics = true := by
      cases status <;> first | rfl | cases reported
    rw [stats_total chain status reported, metrics status reported']

section Runs
open Sample

/-- The driver application reports the pickup twice. -/
def pickups : List (Mutation × Ambient) :=
  [(.updateStatus { status := "PICKED_UP" }, ambient 1 10),
   (.updateStatus { status := "PICKED_UP" }, ambient 2 11)]

/-- The repeated update changes nothing and is counted as a second pickup. -/
theorem pickup_recorded_twice :
    ∃ turns, history (Request.program env) assigned
        (pickups.map fun called => called.1.request "D1" called.2) = some turns ∧
      turns.map projectionsOf = [[.recordPickup "D1"], [.recordPickup "D1"]] ∧
      turns.map (changesInto "D1" .pickedUp) = [true, false] ∧
      ¬ ExactlyOnce "D1" (hasDriver assigned "D1") turns := by
  have ran : (history (Request.program env) assigned
      (pickups.map fun called => called.1.request "D1" called.2)).map (fun turns =>
        (turns.map projectionsOf, turns.map (changesInto "D1" .pickedUp),
          (turns.flatMap projectionsOf).countP (·.metrics? = some .pickedUp),
          turns.countP (changesInto "D1" .pickedUp))) =
      some ([[.recordPickup "D1"], [.recordPickup "D1"]], [true, false], 2, 1) := by
    decide +kernel
  obtain ⟨turns, ran, seen⟩ := Option.map_eq_some_iff.mp ran
  simp only [Prod.mk.injEq] at seen
  obtain ⟨told, changes, calls, changed⟩ := seen
  refine ⟨turns, ran, told, changes, fun once => ?_⟩
  have same := once.metrics .pickedUp rfl
  rw [calls, changed] at same
  cases same

end Runs

end DriverMicroServices
