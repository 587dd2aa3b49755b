import DriverMicroServices.AuthTokens
import DriverMicroServices.Deliveries

/-! What a request must show before its handler runs: `PolicyGuard`, which reads ids and cities
wherever the request has them, and the policies of `AuthorizationService`. -/
namespace DriverMicroServices

/-- A parameter, a value of the query or a property of the body: a text, or another value
that counts as true. -/
inductive FieldValue where
  | absent
  | text (value : String)
  | other
  deriving DecidableEq, Repr

namespace FieldValue

def truthy : FieldValue → Bool
  | .absent => false
  | .text value => value ≠ ""
  | .other => true

/-- `first || next`. -/
def or (first next : FieldValue) : FieldValue := if first.truthy then first else next

end FieldValue

/-- A request as the guard finds it. -/
structure AdminRequest where
  user : AuthenticatedUser
  method : String
  /-- `request.route.path`. -/
  path : String
  params : String → FieldValue := fun _ => .absent
  query : String → FieldValue := fun _ => .absent
  body : String → FieldValue := fun _ => .absent

namespace Role

def name : Role → String
  | .driver => "DRIVER"
  | .admin => "ADMIN"
  | .dispatcher => "DISPATCHER"
  | .opsAdmin => "OPS_ADMIN"
  | .cityAdmin => "CITY_ADMIN"
  | .superAdmin => "SUPER_ADMIN"
  | .system => "SYSTEM"

/-- The roles that `evaluateAdminScope` holds to a city. -/
def ofCity : List Role := [.admin, .cityAdmin, .dispatcher, .opsAdmin]

end Role

def UserType.name : UserType → String
  | .driver => "driver"
  | .admin => "admin"
  | .system => "system"

/-- `AuthorizationActor`, as the guard fills it in. -/
structure AuthorizationActor where
  userId : Option Uuid
  driverId : Option Uuid
  role : Option String
  permissions : List Permission
  cityId : Column Uuid
  isActive : Bool

/-- `AuthorizationResourceContext`, without what no policy reads. -/
structure AuthorizationResourceContext where
  deliveryId : FieldValue
  driverId : FieldValue
  cityId : FieldValue
  body : String → FieldValue

structure AuthorizationDecision where
  allowed : Bool
  reason : Option String := none
  deriving DecidableEq, Repr

namespace AuthorizationDecision

def allow : AuthorizationDecision := { allowed := true }
def deny (reason : String) : AuthorizationDecision := { allowed := false, reason := some reason }

end AuthorizationDecision

open AuthorizationDecision

/-! ## Deliveries -/

inductive DeliveryAction where
  | view | pickup | deliver | cancel | reassign | retry | viewProofs
  deriving DecidableEq, Repr

namespace DeliveryAuthorizationService

/-- `resolveDeliveryCity`: there is no mapping yet. -/
def resolveDeliveryCity (_delivery : Delivery) : Option Uuid := none

def checkViewPermission (actorId : Uuid) (actorRole : String) (delivery : Delivery) :
    AuthorizationDecision :=
  if actorRole = "DRIVER" then
    if delivery.driverId ≠ some actorId then deny "NOT_ASSIGNED_DRIVER" else allow
  else if actorRole = "ADMIN" then allow
  else deny "INSUFFICIENT_ROLE"

def checkPickupPermission (actorId : Uuid) (delivery : Delivery) : AuthorizationDecision :=
  if delivery.driverId ≠ some actorId then deny "NOT_ASSIGNED_DRIVER"
  else if delivery.status ≠ .assigned then deny s!"INVALID_STATUS_{delivery.status.name}"
  else allow

def checkDeliverPermission (actorId : Uuid) (delivery : Delivery) : AuthorizationDecision :=
  if delivery.driverId ≠ some actorId then deny "NOT_ASSIGNED_DRIVER"
  else if delivery.status ≠ .pickedUp ∧ delivery.status ≠ .inTransit then
    deny s!"INVALID_STATUS_{delivery.status.name}"
  else allow

def checkCancelPermission (actorId : Uuid) (actorRole : String) (delivery : Delivery) :
    AuthorizationDecision :=
  if actorRole = "DRIVER" then
    if delivery.driverId ≠ some actorId then deny "NOT_ASSIGNED_DRIVER"
    else if delivery.status = .pickedUp ∨ delivery.status = .delivered then deny "ALREADY_PICKED_UP"
    else allow
  else if actorRole = "ADMIN" ∨ actorRole = "SUPER_ADMIN" then
    if delivery.status = .delivered then deny "ALREADY_DELIVERED" else allow
  else deny "INSUFFICIENT_ROLE"

def checkReassignPermission (actorRole : String) (delivery : Delivery) : AuthorizationDecision :=
  if actorRole ≠ "ADMIN" ∧ actorRole ≠ "SUPER_ADMIN" then deny "ADMIN_ONLY_ACTION"
  else if delivery.status = .delivered ∨ delivery.status = .cancelled then
    deny "DELIVERY_TERMINAL_STATE"
  else allow

def checkRetryPermission (actorRole : String) (delivery : Delivery) : AuthorizationDecision :=
  if actorRole ≠ "ADMIN" ∧ actorRole ≠ "SUPER_ADMIN" then deny "ADMIN_ONLY_ACTION"
  else if delivery.status ≠ .failed ∧ delivery.status ≠ .cancelled then deny "DELIVERY_NOT_FAILED"
  else allow

def canPerformAction (deliveries : Uuid → Option Delivery) (actorId : Uuid) (actorRole : String)
    (actorCityId : Column Uuid) (deliveryId : FieldValue) (action : DeliveryAction) :
    AuthorizationDecision :=
  match deliveryId with
  | .text id =>
    match deliveries id with
    | none => deny "DELIVERY_NOT_FOUND"
    | some delivery =>
      if actorRole = "SUPER_ADMIN" then allow
      else if actorRole = "ADMIN" ∧ ∃ city ∈ resolveDeliveryCity delivery, actorCityId ≠ .value city then
        deny "CITY_SCOPE_VIOLATION"
      else
        match action with
        | .view => checkViewPermission actorId actorRole delivery
        | .pickup => checkPickupPermission actorId delivery
        | .deliver => checkDeliverPermission actorId delivery
        | .cancel => checkCancelPermission actorId actorRole delivery
        | .reassign => checkReassignPermission actorRole delivery
        | .retry => checkRetryPermission actorRole delivery
        | .viewProofs => deny "UNKNOWN_ACTION"
  | _ => deny "DELIVERY_NOT_FOUND"

end DeliveryAuthorizationService

namespace DeliveryPolicy

def resolveAction (permission : Permission) (resource : AuthorizationResourceContext) :
    Option DeliveryAction :=
  match permission with
  | .adminReadDeliveryAny => some .view
  | .adminCancelDelivery => some .cancel
  | .adminRetryDispatch => some .retry
  | .adminForceAssignDriver => some .reassign
  | .driverUpdateDeliveryStatus =>
    some <|
      match resource.body "status" with
      | .text "PICKED_UP" => .pickup
      | .text "DELIVERED" | .text "IN_TRANSIT" => .deliver
      | .text "CANCELLED" => .cancel
      | _ => .view
  | _ => none

def evaluate (deliveries : Uuid → Option Delivery) (actor : AuthorizationActor)
    (permission : Permission) (resource : AuthorizationResourceContext) : AuthorizationDecision :=
  match resolveAction permission resource with
  | none => allow
  | some action =>
    if resource.deliveryId.truthy then
      match truthy ((truthy actor.driverId).or actor.userId), truthy actor.role with
      | some actorId, some actorRole =>
        DeliveryAuthorizationService.canPerformAction deliveries actorId actorRole actor.cityId
          resource.deliveryId action
      | _, _ => deny "MISSING_ACTOR_CONTEXT"
    else allow

end DeliveryPolicy

/-! ## The other policies -/

def AssignmentPolicy.evaluate (actor : AuthorizationActor) (permission : Permission) :
    AuthorizationDecision :=
  if !permission.startsWith "assignment:" then allow
  else if ∃ role ∈ actor.role,
      role ∈ ["DISPATCHER", "OPS_ADMIN", "CITY_ADMIN", "ADMIN", "SUPER_ADMIN", "SYSTEM"] then allow
  else deny "ASSIGNMENT_ROLE_REQUIRED"

def DriverPolicy.evaluate (actor : AuthorizationActor) (permission : Permission)
    (resource : AuthorizationResourceContext) : AuthorizationDecision :=
  if !permission.startsWith "driver:" then allow
  else if resource.driverId.truthy ∧ ∃ driverId ∈ truthy actor.driverId, resource.driverId ≠ .text driverId then
    deny "DRIVER_OWNERSHIP_VIOLATION"
  else if !actor.isActive ∧ permission ≠ .driverReadOwnProfile then deny "DRIVER_INACTIVE"
  else allow

namespace AuthorizationService

/-- `evaluateAdminScope`: an admin of a city may name no other city. -/
def evaluateAdminScope (actor : AuthorizationActor) (permission : Permission)
    (resource : AuthorizationResourceContext) : AuthorizationDecision :=
  if !(permission.startsWith "admin:" || permission.startsWith "assignment:") then allow
  else
    match truthy actor.role with
    | none => deny "MISSING_ROLE"
    | some role =>
      if role ∈ Role.ofCity.map Role.name then
        match truthy actor.cityId.value? with
        | none => deny "MISSING_ADMIN_CITY_SCOPE"
        | some cityId =>
          if resource.cityId.truthy ∧ resource.cityId ≠ .text cityId then deny "CITY_SCOPE_VIOLATION"
          else allow
      else allow

/-- `authorize`. The guard gives the actor no type. -/
def authorize (deliveries : Uuid → Option Delivery) (actor : AuthorizationActor)
    (permission : Permission) (resource : AuthorizationResourceContext) : AuthorizationDecision :=
  if actor.role = some "SYSTEM" then allow
  else if actor.role = some "SUPER_ADMIN" then allow
  else if permission ∉ actor.permissions then deny "MISSING_PERMISSION"
  else
    let assignmentDecision := AssignmentPolicy.evaluate actor permission
    if !assignmentDecision.allowed then assignmentDecision
    else
      let driverDecision := DriverPolicy.evaluate actor permission resource
      if !driverDecision.allowed then driverDecision
      else
        let deliveryDecision := DeliveryPolicy.evaluate deliveries actor permission resource
        if !deliveryDecision.allowed then deliveryDecision
        else evaluateAdminScope actor permission resource

end AuthorizationService

namespace PolicyGuard

/-- `user.role || user.type`. -/
def roleOf (user : AuthenticatedUser) : Option String :=
  (user.role.map Role.name).or (user.type.map UserType.name)

/-- The actor of `buildPolicyContext`. -/
def actor (user : AuthenticatedUser) : AuthorizationActor where
  userId := (truthy user.userId).or user.sub
  driverId := user.driverId
  role := roleOf user
  permissions := user.permissions.getD []
  cityId := user.cityId
  isActive := user.isActive ≠ some false

/-- The resource of `buildPolicyContext`. The user of a token has no `resourceCityId` and
the like, which would come last. -/
def resource (request : AdminRequest) : AuthorizationResourceContext where
  cityId := ((request.params "cityId").or (request.body "cityId")).or (request.query "cityId")
  driverId :=
    let inferred := if includes request.path "/drivers" then request.params "id" else .absent
    (((request.params "driverId").or inferred).or (request.body "driverId")).or (request.query "driverId")
  deliveryId :=
    let inferred :=
      if includes request.path "/drivers" then .absent
      else if includes request.path "/deliveries" then request.params "id"
      else .absent
    (((request.params "deliveryId").or inferred).or (request.body "deliveryId")).or
      (request.query "deliveryId")
  body := request.body

/-- `canActivate`: one of the permissions is enough. Otherwise the request is refused with
"Insufficient permissions". -/
def canActivate (deliveries : Uuid → Option Delivery) (requiredPermissions : List Permission)
    (request : AdminRequest) : Bool :=
  requiredPermissions.isEmpty || requiredPermissions.any fun permission =>
    (AuthorizationService.authorize deliveries (actor request.user) permission (resource request)).allowed

variable {deliveries : Uuid → Option Delivery} {permission : Permission} {request : AdminRequest}
  {role : Role} {cityId : Uuid}

open AuthorizationService

/-- Who is authorized has passed the test of the city, unless he is of the system or a
super admin. -/
theorem authorize_scope {actor : AuthorizationActor} {resource : AuthorizationResourceContext}
    (allowed : (authorize deliveries actor permission resource).allowed = true) :
    actor.role = some "SYSTEM" ∨ actor.role = some "SUPER_ADMIN" ∨
      permission ∈ actor.permissions ∧
        (evaluateAdminScope actor permission resource).allowed = true := by
  unfold authorize at allowed
  split at allowed
  · exact .inl ‹_›
  · split at allowed
    · exact .inr (.inl ‹_›)
    · refine .inr (.inr ?_)
      split at allowed
      · cases allowed
      · rename_i held
        refine ⟨not_not.mp held, ?_⟩
        dsimp only at allowed
        split at allowed
        · rename_i denied
          rw [allowed] at denied
          cases denied
        · split at allowed
          · rename_i denied
            rw [allowed] at denied
            cases denied
          · split at allowed
            · rename_i denied
              rw [allowed] at denied
              cases denied
            · exact allowed

private theorem roleOf_role {user : AuthenticatedUser} (known : user.role = some role) :
    roleOf user = some role.name := by
  simp [roleOf, known]

private theorem name_ne_empty (role : Role) : role.name ≠ "" := by
  cases role <;> decide

theorem ofCity_name (cityRole : role ∈ Role.ofCity) :
    role.name ≠ "SYSTEM" ∧ role.name ≠ "SUPER_ADMIN" := by
  revert cityRole
  cases role <;> decide

/-- An admin of a city whom the guard lets through has the permission and a city, and the
first city that the request names is his. -/
theorem canActivate_city (admin : permission.startsWith "admin:" = true)
    (known : request.user.role = some role) (cityRole : role ∈ Role.ofCity)
    (admitted : canActivate deliveries [permission] request = true) :
    permission ∈ request.user.permissions.getD [] ∧ ∃ cityId, request.user.cityId = .value cityId ∧
      cityId ≠ "" ∧ ((resource request).cityId.truthy = true → (resource request).cityId = .text cityId) := by
  have allowed : (authorize deliveries (actor request.user) permission (resource request)).allowed = true := by
    simpa [canActivate] using admitted
  have named : (actor request.user).role = some role.name := roleOf_role known
  rcases authorize_scope allowed with system | superAdmin | ⟨held, scope⟩
  · exact absurd (Option.some.inj (named.symm.trans system)) (ofCity_name cityRole).1
  · exact absurd (Option.some.inj (named.symm.trans superAdmin)) (ofCity_name cityRole).2
  · refine ⟨held, ?_⟩
    have listed : role.name ∈ Role.ofCity.map Role.name := List.mem_map_of_mem cityRole
    unfold evaluateAdminScope at scope
    simp only [admin, Bool.true_or, Bool.not_true, Bool.false_eq_true, if_false, named,
      truthy_of_ne (name_ne_empty role), listed, if_true] at scope
    have own : (actor request.user).cityId = request.user.cityId := rfl
    rw [own] at scope
    cases city : request.user.cityId with
    | undefined => simp [city, Column.value?, truthy, deny] at scope
    | null => simp [city, Column.value?, truthy, deny] at scope
    | value cityId =>
      by_cases empty : cityId = ""
      · simp [city, empty, Column.value?, truthy, deny] at scope
      · refine ⟨cityId, rfl, empty, fun names => ?_⟩
        by_contra other
        simp [city, Column.value?, truthy_of_ne empty, names, other, deny] at scope

end PolicyGuard

end DriverMicroServices
