import DriverMicroServices.Outbox

/-! Who makes a request: roles and permissions, the rows of drivers and admins, the claims of
the tokens that `AuthService` signs and the user that `JwtStrategy` makes of them. -/
namespace DriverMicroServices

inductive Role where
  | driver | admin | dispatcher | opsAdmin | cityAdmin | superAdmin | system
  deriving DecidableEq, Repr

inductive Permission where
  | driverReadOwnProfile | driverUpdateOwnLocation | driverReadOwnEarnings | driverAcceptDelivery
  | driverRejectDelivery | driverUpdateDeliveryStatus | driverContactCustomer | driverContactSeller
  | driverUploadProof
  | assignmentCreate | assignmentReassign
  | adminReadDriverAny | adminUpdateDriverStatus | adminCreateDriver | adminDeleteDriver
  | adminReadDeliveryAny | adminReadAdminAny | adminUpdateAdmin | adminReadAuditOwn
  | adminForceAssignDriver | adminCancelDelivery | adminRetryDispatch | adminOverrideDelivery
  | adminReadZoneAny | adminUpdateZoneConfig
  | superAdminCreateAdmin | superAdminDeleteAdmin | superAdminReadAuditAny
  | superAdminReadSystemStats | superAdminResetAdminPassword | superAdminManageCities
  | superAdminManageZones
  | systemWebhookInbound | systemReadDriverLocation
  deriving DecidableEq, Repr

namespace Permission

def text : Permission → String
  | driverReadOwnProfile => "driver:read:own_profile"
  | driverUpdateOwnLocation => "driver:update:own_location"
  | driverReadOwnEarnings => "driver:read:own_earnings"
  | driverAcceptDelivery => "driver:action:accept_delivery"
  | driverRejectDelivery => "driver:action:reject_delivery"
  | driverUpdateDeliveryStatus => "driver:update:delivery_status"
  | driverContactCustomer => "driver:action:contact_customer"
  | driverContactSeller => "driver:action:contact_seller"
  | driverUploadProof => "driver:action:upload_proof"
  | assignmentCreate => "assignment:create:any"
  | assignmentReassign => "assignment:reassign:any"
  | adminReadDriverAny => "admin:read:driver:any"
  | adminUpdateDriverStatus => "admin:update:driver_status"
  | adminCreateDriver => "admin:create:driver"
  | adminDeleteDriver => "admin:delete:driver"
  | adminReadDeliveryAny => "admin:read:delivery:any"
  | adminReadAdminAny => "admin:read:admin:any"
  | adminUpdateAdmin => "admin:update:admin"
  | adminReadAuditOwn => "admin:read:audit:own"
  | adminForceAssignDriver => "admin:action:force_assign_driver"
  | adminCancelDelivery => "admin:action:cancel_delivery"
  | adminRetryDispatch => "admin:action:retry_dispatch"
  | adminOverrideDelivery => "admin:action:override_delivery"
  | adminReadZoneAny => "admin:read:zone:any"
  | adminUpdateZoneConfig => "admin:update:zone_config"
  | superAdminCreateAdmin => "super_admin:create:admin"
  | superAdminDeleteAdmin => "super_admin:delete:admin"
  | superAdminReadAuditAny => "super_admin:read:audit:any"
  | superAdminReadSystemStats => "super_admin:read:system_stats"
  | superAdminResetAdminPassword => "super_admin:reset:admin_password"
  | superAdminManageCities => "super_admin:manage:cities"
  | superAdminManageZones => "super_admin:manage:zones"
  | systemWebhookInbound => "system:webhook:inbound"
  | systemReadDriverLocation => "system:read:driver_location"

def startsWith (permission : Permission) (start : String) : Bool :=
  start.toList.isPrefixOf permission.text.toList

/-- `Object.values(Permission)`. -/
def all : List Permission :=
  [driverReadOwnProfile, driverUpdateOwnLocation, driverReadOwnEarnings, driverAcceptDelivery,
    driverRejectDelivery, driverUpdateDeliveryStatus, driverContactCustomer, driverContactSeller,
    driverUploadProof, assignmentCreate, assignmentReassign, adminReadDriverAny,
    adminUpdateDriverStatus, adminCreateDriver, adminDeleteDriver, adminReadDeliveryAny,
    adminReadAdminAny, adminUpdateAdmin, adminReadAuditOwn, adminForceAssignDriver,
    adminCancelDelivery, adminRetryDispatch, adminOverrideDelivery, adminReadZoneAny,
    adminUpdateZoneConfig, superAdminCreateAdmin, superAdminDeleteAdmin, superAdminReadAuditAny,
    superAdminReadSystemStats, superAdminResetAdminPassword, superAdminManageCities,
    superAdminManageZones, systemWebhookInbound, systemReadDriverLocation]

end Permission

open Permission in
/-- `RolePermissions`. -/
def Role.permissions : Role → List Permission
  | .driver =>
    [driverReadOwnProfile, driverUpdateOwnLocation, driverReadOwnEarnings, driverAcceptDelivery,
      driverRejectDelivery, driverUpdateDeliveryStatus, driverContactCustomer, driverContactSeller,
      driverUploadProof]
  | .admin => Permission.all.filter (·.startsWith "admin:") ++ [assignmentCreate, assignmentReassign]
  | .dispatcher =>
    [adminReadDeliveryAny, adminForceAssignDriver, assignmentCreate, assignmentReassign,
      adminRetryDispatch]
  | .opsAdmin =>
    [adminReadDriverAny, adminUpdateDriverStatus, adminCancelDelivery, adminOverrideDelivery,
      adminRetryDispatch, adminReadDeliveryAny, assignmentReassign]
  | .cityAdmin =>
    [adminReadDriverAny, adminUpdateDriverStatus, adminReadDeliveryAny, adminForceAssignDriver,
      adminCancelDelivery, adminRetryDispatch, assignmentCreate, assignmentReassign]
  | .superAdmin =>
    Permission.all.filter (·.startsWith "super_admin:") ++
      Permission.all.filter (·.startsWith "admin:") ++
      Permission.all.filter (·.startsWith "assignment:")
  | .system => [systemWebhookInbound, systemReadDriverLocation]

inductive AuthProvider where
  | legacy | google | email
  deriving DecidableEq, Repr

/-- A row of `drivers` with the columns of the account. -/
structure DriverRecord extends Driver where
  name : Option String := none
  phone : Option String := none
  email : Option String := none
  googleSub : Option String := none
  authProvider : AuthProvider := .legacy
  cityId : Option Uuid := none
  approvedAt : Option Time := none
  approvedById : Option Uuid := none
  rejectionReason : Option String := none
  createdAt : Time := 0
  deriving DecidableEq

/-- The change that `setActive` makes. -/
def DriverRecord.activated (driver : DriverRecord) (isActive : Bool) (now : Time) : DriverRecord :=
  { driver with isActive, lastActiveAt := some now }

/-- A row of `admin_users`. -/
structure AdminUser where
  email : String
  role : Role := .admin
  isActive : Bool := true
  cityId : Option Uuid := none
  updatedAt : Time := 0
  deriving DecidableEq, Repr

/-- The claim `type`. -/
inductive UserType where
  | driver | admin | system
  deriving DecidableEq, Repr

/-- The claims of a token. The lifetime ends at `exp`, in seconds. The city is compared with
that of rows, so a claim that is missing and one that is `null` differ. -/
structure JwtPayload where
  sub : Uuid
  type : Option UserType
  role : Option Role
  email : Option String := none
  permissions : Option (List Permission) := none
  isActive : Option Bool := none
  status : Option DriverStatus := none
  cityId : Column Uuid := .undefined
  zoneId : Option Uuid := none
  deviceId : Option String := none
  exp : Int
  deriving DecidableEq

/-- A token is refused from this second on. -/
def JwtPayload.Expired (payload : JwtPayload) (now : Time) : Prop := payload.exp ≤ now / 1000

instance (payload : JwtPayload) (now : Time) : Decidable (payload.Expired now) :=
  inferInstanceAs (Decidable (_ ≤ _))

/-- The claims that `login` and `loginWithGoogle` sign for a driver, for twelve hours. -/
def driverPayload (now : Time) (driverId : Uuid) (driver : DriverRecord)
    (deviceId : Option String := none) : JwtPayload where
  sub := driverId
  type := some .driver
  role := some .driver
  email := driver.email
  permissions := some Role.driver.permissions
  isActive := some driver.isActive
  status := some driver.status
  cityId := .ofRow driver.cityId
  zoneId := driver.zoneId
  deviceId
  exp := now / 1000 + 43200

/-- `request.user`. -/
structure AuthenticatedUser where
  userId : Option Uuid := none
  driverId : Option Uuid := none
  sub : Option Uuid := none
  type : Option UserType := none
  role : Option Role := none
  email : Option String := none
  permissions : Option (List Permission) := none
  isActive : Option Bool := none
  status : Option DriverStatus := none
  cityId : Column Uuid := .undefined
  zoneId : Option Uuid := none
  deriving DecidableEq

/-- The user of these claims, if their structure is valid. -/
def JwtPayload.user? (payload : JwtPayload) : Option AuthenticatedUser :=
  if payload.role = some .system ∨ payload.type = some .system then
    some
      { role := some .system, type := some .system
        sub := some ((truthy (some payload.sub)).getD "system")
        permissions := some (payload.permissions.getD Role.system.permissions) }
  else
    match payload.type with
    | some .driver =>
      some
        { driverId := some payload.sub, sub := some payload.sub, type := some .driver
          role := some (payload.role.getD .driver), email := payload.email
          permissions := some (payload.permissions.getD Role.driver.permissions)
          isActive := payload.isActive, status := payload.status, cityId := payload.cityId
          zoneId := payload.zoneId }
    | some .admin =>
      some
        { userId := some payload.sub, sub := some payload.sub, type := some .admin
          role := payload.role, email := payload.email, permissions := payload.permissions
          isActive := payload.isActive, cityId := payload.cityId }
    | _ => none

variable {now later : Time} {driverId : Uuid} {driver : DriverRecord} {deviceId : Option String}

/-- What has expired stays so. -/
theorem JwtPayload.Expired.mono {payload : JwtPayload} (expired : payload.Expired now)
    (ordered : now ≤ later) : payload.Expired later :=
  Int.le_trans expired (Int.ediv_le_ediv (by decide) ordered)

theorem seconds_after (now seconds : Int) :
    (now + seconds * 1000) / 1000 = now / 1000 + seconds :=
  Int.add_mul_ediv_right now seconds (show (1000 : Int) ≠ 0 by decide)

/-- A token outlasts half a minute and ends within twelve hours. -/
theorem driverPayload_lasts (soon : later ≤ now + 30000) :
    ¬ (driverPayload now driverId driver deviceId).Expired later := by
  intro elapsed
  have bound : later / 1000 ≤ (now + 30 * 1000) / 1000 := Int.ediv_le_ediv (by decide) soon
  rw [seconds_after] at bound
  have both := Int.le_trans elapsed bound
  simp only [driverPayload, Int.add_le_add_iff_left] at both
  exact absurd both (by decide)

theorem driverPayload_ends (elapsed : now + 43200000 ≤ later) :
    (driverPayload now driverId driver deviceId).Expired later := by
  have bound : (now + 43200 * 1000) / 1000 ≤ later / 1000 := Int.ediv_le_ediv (by decide) elapsed
  rwa [seconds_after] at bound

end DriverMicroServices
