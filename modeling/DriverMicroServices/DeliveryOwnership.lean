import DriverMicroServices.Authorization
import DriverMicroServices.Effects
import DriverMicroServices.Transactions.Callers

/-! The REST endpoints for deliveries, as any authenticated user may call them. The policy
guard asks for permissions that no handler names, and only the check of a code looks at
whose delivery it is, before the transaction that changes it. -/
namespace DriverMicroServices
open Transactions Program

/-- A request to `DeliveriesController`: its handler and the arguments that the pipes made. -/
inductive DeliveriesEndpoint where
  | create (dto : CreateDeliveryDto)
  | findAll (driverId : Option String) (take : Option Nat) (status : Option String)
  | findBySellerOrderId (sellerOrderId : String)
  | getDeliveryHistory (sellerOrderId : String)
  | findActiveForDriver (driverId : Uuid)
  | findOne (id : Uuid)
  | assignDriver (id driverId assignmentId : Uuid)
  | updateStatus (id : Uuid) (dto : UpdateDeliveryStatusDto)
  | regenerateOtp (id : Uuid)
  | verifyOtp (id : Uuid) (otp : String) (proofUrl : Option String) (driverLat driverLon : Option Rat)
  deriving DecidableEq

/-- What a handler answers with. -/
inductive DeliveriesReply where
  | created (id : Uuid) (delivery : Delivery)
  | deliveries (rows : List (Uuid × Delivery))
  | delivery (delivery : DeliveryEntity)
  | history (events : List (Uuid × DeliveryEvent))
  | active (delivery : Option DeliveryEntity)
  | settled (settled : Settled)
  | otp (code : String)

/-- A request with what the guards found in it, and its surroundings. -/
structure RestCall where
  request : AdminRequest
  endpoint : DeliveriesEndpoint
  ambient : Ambient

namespace DeliveriesService

def findAll (driverId : Option String) (take : Option Nat) (status : Option String) :
    Call DeliveriesReply := do
  let rows ← find Db.deliveries
  let found := rows.filter fun row =>
    (truthy driverId).all (fun driverId => row.2.driverId = some driverId) &&
      (truthy status).all (row.2.status.name = ·)
  let newest := found.mergeSort fun first next => next.2.createdAt ≤ first.2.createdAt
  return .deliveries ((take.map newest.take).getD newest)

def findBySellerOrderId (sellerOrderId : String) : Call DeliveriesReply := do
  let some (_, delivery) ← findBySellerOrderIdOrNull sellerOrderId
    | throw (.notFound s!"Delivery for SellerOrder {sellerOrderId} not found")
  return .delivery delivery.entity

def getDeliveryHistory (sellerOrderId : String) : Call DeliveriesReply := do
  let events ← find fun db => db.scan fun
    | .deliveryEvent id, event => some (id, event)
    | _, _ => none
  let found := events.filter (·.2.sellerOrderId = sellerOrderId)
  return .history (found.mergeSort fun first next => first.2.createdAt ≤ next.2.createdAt)

/-- `ORDER BY ... DESC`, which puts a null first. -/
def latestFirst : Option Time → Option Time → Bool
  | none, _ => true
  | some _, none => false
  | some first, some next => next ≤ first

def findActiveForDriver (driverId : Uuid) : Call DeliveriesReply := do
  let rows ← find Db.deliveries
  let active := rows.filter fun row => row.2.driverId = some driverId && row.2.status.isActive
  let latest := active.mergeSort fun first next => latestFirst first.2.assignedAt next.2.assignedAt
  return .active (latest.head?.map fun row => normalizeCoordinates row.2.entity)

end DeliveriesService

namespace DeliveriesController

/-- The permission metadata of the handlers and their class: there is none. -/
def requiredPermissions (_ : DeliveriesEndpoint) : List Permission := []

/-- "Ownership check: drivers can only verify OTP for their own active/assigned delivery". -/
def checkOwner (user : AuthenticatedUser) (id : Uuid) : Call Unit :=
  if user.type = some .driver then do
    let delivery ← findOne id
    throwIf (delivery.driverId.value? ≠ user.driverId)
      (.forbidden "You can only verify OTP for your own assigned delivery")
  else pure ()

/-- The handlers. -/
def handle (env : Env) (amb : Ambient) (user : AuthenticatedUser) :
    DeliveriesEndpoint → Call DeliveriesReply
  | .create dto => (create amb dto).bind fun created => pure (.created created.1 created.2)
  | .findAll driverId take status => DeliveriesService.findAll driverId take status
  | .findBySellerOrderId sellerOrderId => DeliveriesService.findBySellerOrderId sellerOrderId
  | .getDeliveryHistory sellerOrderId => DeliveriesService.getDeliveryHistory sellerOrderId
  | .findActiveForDriver driverId => do
    throwIf (user.type = some .driver ∧ user.driverId ≠ some driverId)
      (.forbidden "You can only query your own active delivery")
    DeliveriesService.findActiveForDriver driverId
  | .findOne id => (findOne id).bind fun delivery => pure (.delivery delivery)
  | .assignDriver id driverId assignmentId =>
    (assignDriver env amb id driverId assignmentId).bind fun settled => pure (.settled settled)
  | .updateStatus id dto => (updateStatus env amb id dto).bind fun settled => pure (.settled settled)
  | .regenerateOtp id => (generateDeliveryOtp amb id).bind fun code => pure (.otp code)
  | .verifyOtp id otp proofUrl driverLat driverLon => do
    checkOwner user id
    -- the transaction reads the delivery again, and nobody looks at its driver there
    (verifyOtp env amb id otp proofUrl driverLat driverLon).bind fun settled => pure (.settled settled)

/-- A request, once `AuthGuard` has let it through. Where no permission is required, the
policy guard reads no delivery. -/
def program (env : Env) (call : RestCall) : Call DeliveriesReply := do
  throwIf (PolicyGuard.canActivate (fun _ => none) (requiredPermissions call.endpoint) call.request = false)
    (.forbidden "Insufficient permissions")
  handle env call.ambient call.request.user call.endpoint

end DeliveriesController

/-- A request to the controller, or any call of the services that another user or the system
makes. -/
inductive ServiceCall where
  | rest (call : RestCall)
  | other (request : Request)

namespace ServiceCall

def program (env : Env) : ServiceCall → Call (DeliveriesReply ⊕ List Projection)
  | .rest call => (DeliveriesController.program env call).bind fun reply => pure (.inl reply)
  | .other request => (request.program env).bind fun projections => pure (.inr projections)

/-- A request to the controller with a token of this driver. -/
def isOf (driverId : Uuid) : ServiceCall → Bool
  | .rest call => call.request.user.type = some .driver ∧ call.request.user.driverId = some driverId
  | .other _ => false

end ServiceCall

/-- The service with the controller in front of it. -/
abbrev RestService := System ServiceCall Row Exception (DeliveriesReply ⊕ List Projection)

/-- What a driver may do to the deliveries: those of others stay as they are, and each
keeps its driver. -/
structure OwnOnly (driverId : Uuid) (before after : Db) : Prop where
  others : ∀ id row, before.delivery id = some row → row.driverId ≠ some driverId →
    after.delivery id = some row
  driver : ∀ id row, before.delivery id = some row →
    ∃ row', after.delivery id = some row' ∧ row'.driverId = row.driverId

/-- The delivery, if there is one, is the driver's, or excused. -/
def ownedOr (driverId : Uuid) (excused : Delivery → Bool) (db : Db) (id : Uuid) : Bool :=
  (db.delivery id).all fun row => row.driverId = some driverId ∨ excused row

/-- What the handlers would have to ask of the rows: at the commit that the delivery is the
driver's, and of a new code both when the row is read and when it is saved. -/
def ownerGuarded (driverId : Uuid) : ServiceCall → Move Key → Db → Bool
  | .rest call, move, db =>
    match call.endpoint, move with
    | .assignDriver id newDriverId _, .effect .commit =>
      newDriverId = driverId && ownedOr driverId (fun _ => false) db id
    | .updateStatus id dto, .effect .commit =>
      ownedOr driverId (fun row => row.status = mapStringToDeliveryStatus dto.status) db id
    | .verifyOtp id .., .effect .commit => ownedOr driverId (fun row => row.status = .delivered) db id
    | .regenerateOtp id, .observe =>
      ownedOr driverId
        (fun row => row.driverId = none ∨ row.status = .delivered ∨ row.status = .cancelled) db id
    | .regenerateOtp id, .effect (.autosave (.delivery _)) => ownedOr driverId (fun _ => false) db id
    | _, _ => true
  | .other _, _, _ => true

/-! ## What the requests do -/

/-- The operation of the services that a handler ends in. -/
def DeliveriesEndpoint.operation? : DeliveriesEndpoint → Option Operation
  | .create dto => some (.create dto)
  | .assignDriver id driverId assignmentId => some (.assignDriver id driverId assignmentId)
  | .updateStatus id dto => some (.updateStatus id dto)
  | .regenerateOtp id => some (.generateDeliveryOtp id)
  | .verifyOtp id otp proofUrl driverLat driverLon =>
    some (.verifyOtp id otp proofUrl driverLat driverLon)
  | _ => none

namespace ServiceCall

def request? : ServiceCall → Option Request
  | .rest call => call.endpoint.operation?.map fun operation => ⟨operation, call.ambient⟩
  | .other request => some request

/-- What one effect of the call does. -/
def Does (call : ServiceCall) (effect : Effect Key) (before after : Db) : Prop :=
  match call.request? with
  | some request => request.Does (fun _ => True) effect before after
  | none => Quiet before after

end ServiceCall

abbrev described : Discipline ServiceCall Row :=
  .keeping (fun _ => True) (fun _ _ _ => True) ServiceCall.Does fun _ _ _ => trivial

variable {env : Env} {amb : Ambient} {driverId id : Uuid} {call : ServiceCall} {before after : Db}

/-- What is known of a service method holds of a request that ends in it. -/
theorem honours_of {piece : Call α} (same : call.request? = some request)
    (honours : Honours
      (effects (fun _ => True) (fun _ _ _ => True) fun _ _ _ => trivial) request piece) :
    Honours described call piece := by
  have guar : ∀ effect before after, request.Does (fun _ => True) effect before after →
      call.Does effect before after := by
    intro effect before after does
    simpa only [ServiceCall.Does, same] using does
  intro past st
  refine wp_relabel ?_ ?_ ?_ guar piece (honours past st)
  · exact fun _ _ => trivial
  · exact fun _ _ => Iff.rfl
  · exact fun _ _ _ => trivial

private theorem checkOwner_within {allowed : Key → Prop} (user : AuthenticatedUser) (id : Uuid) :
    (DeliveriesController.checkOwner user id).Within allowed := by
  unfold DeliveriesController.checkOwner
  split
  · refine within_bind (within_bind (find_within _) fun found => ?_) fun _ => throwIf_within _
    cases found <;> trivial
  · trivial

private theorem handle_honours (user : AuthenticatedUser) (request : AdminRequest)
    (endpoint : DeliveriesEndpoint) :
    Honours described (.rest ⟨request, endpoint, amb⟩)
      (DeliveriesController.handle env amb user endpoint) := by
  cases endpoint with
  | create dto => exact honours_bind (honours_of rfl create_honours) fun _ => honours_ret _
  | findAll driverId take status => exact honours_find fun _ _ => honours_ret _
  | findBySellerOrderId sellerOrderId =>
    refine honours_find fun now _ => ?_
    split <;> exact honours_ret _
  | getDeliveryHistory sellerOrderId => exact honours_find fun _ _ => honours_ret _
  | findActiveForDriver driverId =>
    exact honours_throwIf fun _ => honours_find fun _ _ => honours_ret _
  | findOne id => exact honours_findOne fun _ _ _ _ => honours_ret _
  | assignDriver id driverId assignmentId =>
    exact honours_bind (honours_of rfl (assignDriver_honours env)) fun _ => honours_ret _
  | updateStatus id dto =>
    exact honours_bind (honours_of rfl (updateStatus_honours env fun _ _ changes => changes)) fun _ =>
      honours_ret _
  | regenerateOtp id =>
    exact honours_bind (honours_of rfl generateDeliveryOtp_honours) fun _ => honours_ret _
  | verifyOtp id otp proofUrl driverLat driverLon =>
    refine honours_bind (honours_reads (checkOwner_within user id)) fun _ => ?_
    exact honours_bind (honours_of rfl (verifyOtp_honours env)) fun _ => honours_ret _

private theorem call_honours (env : Env) (call : ServiceCall) : Honours described call (call.program env) := by
  cases call with
  | rest call =>
    exact honours_bind (honours_throwIf fun _ => handle_honours _ _ _) fun _ => honours_ret _
  | other request =>
    exact honours_bind (honours_of rfl (request_honours env request)) fun _ => honours_ret _

/-! ## Whose delivery it is -/

theorem own_of_same (same : after.delivery = before.delivery) : OwnOnly driverId before after where
  others := fun _ _ held _ => by rw [same, held]
  driver := fun _ row held => ⟨row, by rw [same, held], rfl⟩

/-- An update of a delivery of the driver's that leaves it his. -/
theorem own_of_update {row row' : Delivery} (held : before.delivery id = some row)
    (own : row.driverId = some driverId) (kept : row'.driverId = row.driverId)
    (updated : after.delivery = Function.update before.delivery id (some row')) :
    OwnOnly driverId before after where
  others := by
    intro other found present alien
    have different : other ≠ id := by
      rintro rfl
      rw [held] at present
      cases present
      exact alien own
    rw [updated, Function.update_of_ne different, present]
  driver := by
    intro other found present
    by_cases same : other = id
    · subst same
      rw [held] at present
      cases present
      exact ⟨row', by rw [updated, Function.update_self], kept⟩
    · exact ⟨found, by rw [updated, Function.update_of_ne same, present], rfl⟩

private theorem own_of_creation {row : Delivery} (absent : before.delivery id = none)
    (inserted : after.delivery = Function.update before.delivery id (some row)) :
    OwnOnly driverId before after := by
  have still (other : Uuid) (found : Delivery) (present : before.delivery other = some found) :
      after.delivery other = some found := by
    have different : other ≠ id := by
      rintro rfl
      rw [absent] at present
      cases present
    rw [inserted, Function.update_of_ne different, present]
  exact ⟨fun other found present _ => still other found present,
    fun other found present => ⟨found, still other found present, rfl⟩⟩

theorem ownedOr_iff {excused : Delivery → Bool} (held : before.delivery id = some row) :
    ownedOr driverId excused before id = true ↔ row.driverId = some driverId ∨ excused row = true := by
  simp [ownedOr, held]

/-- The rows that a new code is made from, where the condition on reads holds. -/
def ReadsOwn (driverId : Uuid) (call : ServiceCall) (seen : Db) : Prop :=
  call.isOf driverId = true → ownerGuarded driverId call .observe seen = true

/-- A new code of the driver's leaves the delivery to him. -/
def SavesOwn (driverId : Uuid) (call : ServiceCall) (before after : Db) : Prop :=
  call.isOf driverId = true → ∀ request id amb, call = .rest ⟨request, .regenerateOtp id, amb⟩ →
    ∀ row row', before.delivery id = some row → after.delivery id = some row' →
      row' = row ∨ row'.driverId = some driverId

section Recalls

variable {sees : Db → Prop} {promise : Key → Db → Db → Prop}

private theorem recalls_findOneWithEvents {f : DeliveryEntity × List Uuid → Call α}
    (rest : ∀ now row events, sees now → Db.delivery now id = some row →
      (f (normalizeCoordinates row.entity, events)).Recalls sees promise) :
    ((findOneWithEvents id).bind f).Recalls sees promise := by
  intro now seen
  cases found : Db.delivery now id with
  | none => simp [found, onRet, Recalls]
  | some row => simpa [found, onRet, Program.bind] using rest now row _ seen found

theorem recalls_throwIf [Decidable condition] {f : Unit → Call α}
    (rest : ¬ condition → (f ()).Recalls sees promise) :
    ((throwIf condition exception).bind f).Recalls sees promise := by
  unfold throwIf
  split
  · trivial
  · exact rest ‹_›

end Recalls

/-- The save of a new code gives the delivery the driver that it was read with. -/
theorem regenerate_recalls {request : AdminRequest}
    (own : ServiceCall.isOf driverId (.rest ⟨request, .regenerateOtp id, amb⟩) = true) :
    (generateDeliveryOtp amb id).Recalls (ReadsOwn driverId (.rest ⟨request, .regenerateOtp id, amb⟩))
      fun _ => SavesOwn driverId (.rest ⟨request, .regenerateOtp id, amb⟩) := by
  refine recalls_findOneWithEvents fun past read events seen found => ?_
  refine recalls_throwIf fun driven => recalls_throwIf fun open_ => ?_
  have mine : read.driverId = some driverId := by
    have guarded : _ ∨ _ := (ownedOr_iff found).mp (seen own)
    refine guarded.resolve_right ?_
    simp only [normalizeCoordinates, Delivery.entity, Column.ofRow_value?] at driven open_
    simpa using ⟨driven, not_or.mp open_⟩
  rw [bind_eq, saveDeliveryNow_bind]
  intro _ _
  refine recalls_throwIf fun _ => ?_
  refine ⟨fun now _ _ _ _ same row row' held saved => ?_, fun _ => ?_⟩
  · cases same
    have present : now.row (.delivery id) = some row := held
    have stored : (now.autosave (.delivery id) _).row (.delivery id) = some row' := saved
    rw [Store.autosave_row_self, present, Option.map_some, Option.some_or, Option.some.injEq,
      regenerate_saveOver] at stored
    exact .inr (by rw [← stored, mine])
  · refine ⟨fun now _ _ _ _ _ row row' held saved => .inl ?_, fun found => ?_⟩
    · rw [show Db.delivery _ _ = _ from Store.autosave_row_ne now _ (by simp)] at saved
      exact Option.some.inj (saved.symm.trans held)
    · cases found <;> trivial

private theorem call_recalls (env : Env) (driverId : Uuid) (call : ServiceCall) :
    (call.program env).Recalls (ReadsOwn driverId call) fun _ => SavesOwn driverId call := by
  by_cases regenerates : call.isOf driverId = true ∧
      ∃ request id amb, call = .rest ⟨request, .regenerateOtp id, amb⟩
  · obtain ⟨own, request, id, amb, rfl⟩ := regenerates
    refine recalls_bind (recalls_throwIf fun _ => ?_) fun _ => trivial
    exact recalls_bind (regenerate_recalls own) fun _ => trivial
  · refine recalls_trivially (fun _ _ _ own request id amb same => ?_) _
    exact absurd ⟨own, request, id, amb, same⟩ regenerates

/-- Where its guard holds, a handler changes one row as it may. -/
private theorem step_own {inv : Db → Prop} {endpoint : DeliveriesEndpoint}
    (named : endpoint.operation? = some operation)
    (own : ServiceCall.isOf driverId (.rest ⟨request, endpoint, amb⟩) = true)
    (guarded : ownerGuarded driverId (.rest ⟨request, endpoint, amb⟩) (.effect effect) before = true)
    (recalled : ∀ k, effect = .autosave k →
      SavesOwn driverId (.rest ⟨request, endpoint, amb⟩) before after)
    (held : before.delivery id = found)
    (step : DeliveryStep inv ⟨operation, amb⟩ before effect id found row')
    (updated : after.delivery = Function.update before.delivery id (some row')) :
    OwnOnly driverId before after := by
  cases step with
  | created _ => exact own_of_creation held updated
  | @assigned _ newDriverId assignmentId row same =>
    cases same
    cases endpoint <;> cases named
    obtain ⟨toSelf, mine⟩ := Bool.and_eq_true_iff.mp guarded
    have mine : row.driverId = some driverId := by simpa using (ownedOr_iff held).mp mine
    refine own_of_update held mine ?_ updated
    simp [mine, of_decide_eq_true toSelf]
  | updated same change =>
    obtain ⟨changed, _, rfl⟩ := change
    rcases same with same | ⟨reason, same, _⟩
    · cases same
      cases endpoint <;> cases named
      have mine : _ ∨ _ := (ownedOr_iff held).mp guarded
      refine own_of_update held (mine.resolve_right ?_) (transition_saveOver ..).2.1 updated
      simpa using changed
    · cases same
      cases endpoint <;> cases named
  | verified same change =>
    obtain ⟨undelivered, _, _, rfl⟩ := change
    cases same
    cases endpoint <;> cases named
    have mine : _ ∨ _ := (ownedOr_iff held).mp guarded
    refine own_of_update held (mine.resolve_right ?_) (by rw [completed_saveOver]) updated
    simpa using undelivered
  | accepted same | stateMachineAccepted same =>
    cases same
    cases endpoint <;> cases named
  | regenerated same _ _ change =>
    cases same
    cases endpoint <;> cases named
    have mine := by simpa using (ownedOr_iff held).mp guarded
    refine own_of_update held mine ?_ updated
    have saved := recalled _ rfl own _ _ _ rfl _ row' held (by rw [updated, Function.update_self])
    rcases saved with rfl | saved
    · rfl
    · rw [saved, mine]

/-- Where its guard holds, an effect of a call of the driver's is one that he may have. -/
theorem does_own (own : call.isOf driverId = true)
    (guarded : ownerGuarded driverId call (.effect effect) before = true)
    (does : call.Does effect before after)
    (recalled : ∀ k, effect = .autosave k → SavesOwn driverId call before after) :
    OwnOnly driverId before after := by
  cases call with
  | other request => cases own
  | rest call =>
    obtain ⟨request, endpoint, amb⟩ := call
    cases named : endpoint.operation? with
    | none =>
      simp only [ServiceCall.Does, ServiceCall.request?, named, Option.map_none] at does
      exact own_of_same does.1
    | some operation =>
      simp only [ServiceCall.Does, ServiceCall.request?, named, Option.map_some] at does
      rcases does_delivery does with same | ⟨id, row', step, updated⟩
      · exact own_of_same same
      · exact step_own named own guarded recalled rfl step updated

/-- In every run in which the driver's requests meet the guard, each step they make leaves the
deliveries of others as they are, and every delivery with its driver. -/
theorem deliveries_owned (env : Env) (store : Db) (driverId : Uuid) (actions : List (Action ServiceCall))
    (guarded : ({ store } : RestService).AdmitsMoves (ServiceCall.program env)
      (fun call move db => call.isOf driverId = true → ownerGuarded driverId call move db = true) actions) :
    ({ store } : RestService).EveryStepOf (ServiceCall.program env)
      (fun call before after => call.isOf driverId = true → OwnOnly driverId before after) actions := by
  have sound : ({ store } : RestService).Sound described fun _ _ _ => True :=
    System.sound_initial store trivial
  refine System.every_step_of sound (System.recalling_initial store)
    (fun call => (call_honours env call).meets) (call_recalls env driverId) ?_ ?_ ?_ ?_ guarded
  · exact fun call store admitted => admitted
  · exact fun _ _ _ _ => trivial
  · exact fun _ _ _ => own_of_same rfl
  · exact fun call effect before after _ admitted does recalled own =>
      does_own own (admitted own) does recalled

section Runs
open Sample

/-- The user of a driver's token. -/
def tokenOf (driverId : Uuid) : AuthenticatedUser where
  driverId := some driverId
  sub := some driverId
  type := some .driver
  role := some .driver

/-- A request of this driver, started and run for some steps. -/
def requested (t : Nat) (driverId : Uuid) (endpoint : DeliveriesEndpoint) (now : Time) (steps : Nat) :
    List (Action ServiceCall) :=
  .start t (.rest
    { request := { user := tokenOf driverId, method := "PATCH", path := "/deliveries/:id" }
      endpoint, ambient := ambient t now }) :: List.replicate steps (.step t)

/-- `x` picks up the delivery that is assigned to him and asks for a new code. -/
def ownDelivery : List (Action ServiceCall) :=
  requested 0 "x" (.updateStatus "D1" { status := "PICKED_UP" }) 6 11 ++
    requested 1 "x" (.regenerateOtp "D1") 7 4

theorem deliveries_owned_pickup :
    ({ store := assigned } : RestService).EveryStepOf (ServiceCall.program Sample.env)
      (fun call before after => call.isOf "x" = true → OwnOnly "x" before after) ownDelivery :=
  deliveries_owned Sample.env assigned "x" ownDelivery (by decide +kernel)

/-- `y` assigns the delivery of `x` to himself: the request, up to its commit. -/
def takeover : List (Action ServiceCall) := requested 0 "y" (.assignDriver "D1" "y" "a") 6 8

theorem delivery_taken_over :
    ¬ ({ store := assigned } : RestService).EveryStepOf (ServiceCall.program Sample.env)
      (fun call before after => call.isOf "y" = true → OwnOnly "y" before after)
      (takeover ++ [.step 0]) := by
  refine System.every_step_of_broken (ServiceCall.isOf "y")
    (fun db => (Db.delivery db "D1").any fun row => row.driverId = some "x") ?_
    (by decide +kernel) (by decide +kernel)
  intro call before after requested allowed held
  obtain ⟨row, present, mine⟩ := (Option.any_eq_true _ _).mp held
  have mine : row.driverId = some "x" := of_decide_eq_true mine
  have still := (allowed requested).others "D1" row present (by simp [mine])
  simp [still, mine]

end Runs

end DriverMicroServices
