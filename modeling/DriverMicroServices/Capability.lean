import DriverMicroServices.Repository

/-! `DriverCapabilityService`: whether a driver may take one more delivery. It
reads the driver row and a Redis hash, neither under a lock nor in the
transaction of its caller. -/
namespace DriverMicroServices
open Transactions Program

def DriverStatus.name : DriverStatus → String
  | .available => "AVAILABLE"
  | .busy => "BUSY"
  | .offline => "OFFLINE"

def DriverRegistrationStatus.name : DriverRegistrationStatus → String
  | .profileIncomplete => "PROFILE_INCOMPLETE"
  | .pendingApproval => "PENDING_APPROVAL"
  | .approved => "APPROVED"
  | .rejected => "REJECTED"

structure CapabilityConstraints where
  maxConcurrentDeliveries : Nat
  /-- `none` is `NaN`. -/
  currentActiveDeliveries : Option Int
  requiresVehicleVerification : Bool
  requiresBackgroundCheck : Bool
  zoneRestricted : Bool
  deriving DecidableEq

structure CapabilityCheck where
  canAccept : Bool
  reason : Option String := none
  constraints : CapabilityConstraints
  deriving DecidableEq

/-- `parseInt(text, 10)`; `none` is `NaN`. -/
def parseInt (text : String) : Option Int :=
  let digits (chars : List Char) : Option Int :=
    match chars.takeWhile Char.isDigit with
    | [] => none
    | found => some (found.foldl (fun total c => 10 * total + (c.toNat - '0'.toNat : Nat)) 0)
  match text.toList.dropWhile Char.isWhitespace with
  | '-' :: rest => (digits rest).map (-·)
  | '+' :: rest => digits rest
  | rest => digits rest

def defaultConstraints : CapabilityConstraints where
  maxConcurrentDeliveries := 0
  currentActiveDeliveries := some 0
  requiresVehicleVerification := true
  requiresBackgroundCheck := true
  zoneRestricted := false

def buildConstraints (driver : Driver) (activeDeliveries : Option String) :
    CapabilityConstraints where
  maxConcurrentDeliveries := 3
  currentActiveDeliveries := parseInt (activeDeliveries.getD "0")
  requiresVehicleVerification :=
    driver.vehicleType = some "BIKE" || driver.vehicleType = some "CAR"
  requiresBackgroundCheck := true
  zoneRestricted := driver.zoneId.isSome

/-- The reason of a failed check, in the order the service runs them. -/
def failedCheck (driver : Driver) (constraints : CapabilityConstraints) : Option String :=
  if !driver.isActive then some "DRIVER_INACTIVE"
  else if driver.status ≠ .available then some s!"DRIVER_STATUS_{driver.status.name}"
  else if driver.registrationStatus ≠ .approved then
    some s!"DRIVER_REGISTRATION_{driver.registrationStatus.name}"
  else if constraints.requiresVehicleVerification && driver.vehicleNumber.all String.isEmpty then
    some "VEHICLE_NOT_REGISTERED"
  else if constraints.currentActiveDeliveries.any ((constraints.maxConcurrentDeliveries : Int) ≤ ·) then
    some "MAX_CONCURRENT_DELIVERIES_REACHED"
  else none

/-- The verdict on a driver row and the `activeDeliveries` field of his hash. -/
def capabilityOf (driver : Option Driver) (activeDeliveries : Option String) : CapabilityCheck :=
  match driver with
  | none =>
    { canAccept := false, reason := some "DRIVER_NOT_FOUND", constraints := defaultConstraints }
  | some driver =>
    let constraints := buildConstraints driver activeDeliveries
    let reason := failedCheck driver constraints
    { canAccept := reason.isNone, reason, constraints }

def checkDeliveryAcceptanceCapability (driverId : Uuid) : Call CapabilityCheck := do
  let some driver ← find (·.driver driverId)
    | return capabilityOf none none
  let activeDeliveries ← find (·.row (.driverStats driverId))
  return capabilityOf (some driver) activeDeliveries

/-- The check only reads. -/
theorem check_within {allowed : Key → Prop} :
    (checkDeliveryAcceptanceCapability driverId).Within allowed := by
  refine within_bind (find_within _) fun driver => ?_
  split
  · exact within_bind (find_within _) fun _ => trivial
  · trivial

/-- Only an available driver is ever judged capable. -/
theorem capable_is_available {driver : Driver}
    (capable : (capabilityOf (some driver) activeDeliveries).canAccept = true) :
    driver.status = .available := by
  by_contra other
  simp only [capabilityOf, failedCheck] at capable
  split at capable <;> simp_all

end DriverMicroServices
