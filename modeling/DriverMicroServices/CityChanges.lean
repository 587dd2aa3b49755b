import DriverMicroServices.Authorization
import DriverMicroServices.Tables.Keyed
import DriverMicroServices.Transitions

/-! The changes that admins make to drivers and to each other. Some of the handlers compare the
city of the row with that of the actor, and for the others the guard has seen no more than
the cities that the request names. -/
namespace DriverMicroServices
open Tables.Keyed Transitions

/-- The tables that the requests of admins work on. -/
structure Directory where
  drivers : List (Uuid × DriverRecord) := []
  admins : List (Uuid × AdminUser) := []
  cities : List Uuid := []
  deliveries : List (Uuid × Delivery) := []

namespace Directory

variable (d : Directory)

def driver (id : Uuid) : Option DriverRecord := get d.drivers id
def admin (id : Uuid) : Option AdminUser := get d.admins id

/-- `driverRepository.save` of a loaded row. -/
def saveDriver (id : Uuid) (row : DriverRecord) : Directory := { d with drivers := put d.drivers id row }

/-- `adminRepository.save` of a loaded row. -/
def saveAdmin (id : Uuid) (row : AdminUser) : Directory := { d with admins := put d.admins id row }

end Directory

/-- The body of `PATCH admin/users/:id`. -/
structure UpdateAdminDto where
  email : Column String := .undefined
  role : Column Role := .undefined
  cityId : Column Uuid := .undefined
  isActive : Column Bool := .undefined
  deriving DecidableEq

/-- The city after `Object.assign`. -/
def UpdateAdminDto.cityOver (dto : UpdateAdminDto) (cityId : Option Uuid) : Column Uuid :=
  if dto.cityId = .undefined then .ofRow cityId else dto.cityId

/-- What TypeORM stores of a join column, given the id of the related row that was loaded and
the property that names the column. -/
abbrev JoinColumn := Option Uuid → Column Uuid → Option Uuid

/-! ## The services

Each answers with the message of what it throws, or with the row and the tables that it leaves. -/

namespace Directory

/-! `DriversService`. -/

def findOne (d : Directory) (id : Uuid) : Except String DriverRecord :=
  match d.driver id with
  | some driver => .ok driver
  | none => .error s!"Driver {id} not found"

def setActive (d : Directory) (now : Time) (id : Uuid) (isActive : Bool) :
    Except String (DriverRecord × Directory) := do
  let driver ← d.findOne id
  let driver := driver.activated isActive now
  return (driver, d.saveDriver id driver)

def setActiveWithCityIsolation (d : Directory) (now : Time) (id : Uuid) (isActive : Bool)
    (actor : AuthenticatedUser) : Except String (DriverRecord × Directory) := do
  let driver ← d.findOne id
  if actor.role ≠ some .superAdmin ∧ actor.cityId ≠ .ofRow driver.cityId then
    throw "You do not have permission to manage drivers outside your city."
  let driver := driver.activated isActive now
  return (driver, d.saveDriver id driver)

end Directory

namespace DriverAdminApplicationService

def updateDriverStatus (d : Directory) (now : Time) (driverId : Uuid) (isActive : Bool) :
    Except String (DriverRecord × Directory) := do
  let _currentDriver ← d.findOne driverId
  d.setActive now driverId isActive

def enableDriver (d : Directory) (now : Time) (driverId : Uuid) :
    Except String (DriverRecord × Directory) := do
  let currentDriver ← d.findOne driverId
  if currentDriver.isActive then return (currentDriver, d)
  d.setActive now driverId true

def disableDriver (d : Directory) (now : Time) (driverId : Uuid) :
    Except String (DriverRecord × Directory) := do
  let currentDriver ← d.findOne driverId
  if !currentDriver.isActive then return (currentDriver, d)
  d.setActive now driverId false

/-- An entry of the answer of a bulk update. -/
inductive BulkResult where
  | success (driverId : Uuid) (driver : DriverRecord)
  | skipped (driverId : Uuid) (message : String)
  | error (driverId : Uuid) (message : String)
  deriving DecidableEq

/-- A city in the text of a message. -/
def cityText : Column Uuid → String
  | .undefined => "undefined"
  | .null => "null"
  | .value city => city

/-- The turn of the loop for one driver. What it throws is caught and listed. -/
def bulkTurn (d : Directory) (now : Time) (isActive : Bool) (actor : AuthenticatedUser)
    (driverId : Uuid) : BulkResult × Directory :=
  match d.findOne driverId with
  | .error message => (.error driverId message, d)
  | .ok currentDriver =>
    if currentDriver.isActive = isActive then
      (.skipped driverId ("Driver already " ++ if isActive then "enabled" else "disabled"), d)
    else if actor.role ≠ some .superAdmin ∧ actor.cityId ≠ .ofRow currentDriver.cityId then
      (.error driverId ("You do not have permission to manage drivers outside your city. " ++
        s!"Driver is in {cityText (.ofRow currentDriver.cityId)}, you are in {cityText actor.cityId}"), d)
    else
      match d.setActiveWithCityIsolation now driverId isActive actor with
      | .error message => (.error driverId message, d)
      | .ok (updatedDriver, d) => (.success driverId updatedDriver, d)

def bulkUpdateDriverStatus (d : Directory) (now : Time) (isActive : Bool) (actor : AuthenticatedUser) :
    List Uuid → List BulkResult × Directory
  | [] => ([], d)
  | driverId :: rest =>
    let (result, d) := bulkTurn d now isActive actor driverId
    let (results, d) := bulkUpdateDriverStatus d now isActive actor rest
    (result :: results, d)

end DriverAdminApplicationService

/-- The change that `approveDriver` makes. -/
def DriverRecord.approved (driver : DriverRecord) (now : Time) (adminId : Uuid) : DriverRecord :=
  { driver with
    registrationStatus := .approved, isActive := true, approvedAt := some now
    approvedById := some adminId }

/-- The change that `rejectDriver` makes. -/
def DriverRecord.rejected (driver : DriverRecord) (reason : String) : DriverRecord :=
  { driver with registrationStatus := .rejected, rejectionReason := some reason }

namespace DriverRegistrationService

/-- The driver who waits for an approval. -/
def findPending (d : Directory) (driverId : Uuid) : Except String DriverRecord :=
  match d.driver driverId with
  | none => .error "Driver not found"
  | some driver =>
    if driver.registrationStatus ≠ .pendingApproval then .error "Driver is not pending approval"
    else .ok driver

def approveDriver (d : Directory) (now : Time) (driverId adminId : Uuid) :
    Except String (DriverRecord × Directory) := do
  let driver ← findPending d driverId
  -- the column of the approver holds a uuid
  if adminId = "system" then throw "invalid input syntax for type uuid: \"system\""
  let driver := driver.approved now adminId
  return (driver, d.saveDriver driverId driver)

def rejectDriver (d : Directory) (driverId : Uuid) (reason : String) :
    Except String (DriverRecord × Directory) := do
  let driver ← findPending d driverId
  let driver := driver.rejected reason
  return (driver, d.saveDriver driverId driver)

end DriverRegistrationService

namespace AdminService

/-- `Object.assign` of the body to the loaded row, and what a save of it stores. -/
def assigned (joinColumn : JoinColumn) (now : Time) (dto : UpdateAdminDto) (admin : AdminUser) :
    AdminUser where
  email := dto.email.value?.getD admin.email
  role := dto.role.value?.getD admin.role
  isActive := dto.isActive.value?.getD admin.isActive
  cityId := joinColumn admin.cityId (dto.cityOver admin.cityId)
  updatedAt := now

/-- The part of `update` that is the isolation of admins from each other. -/
def isolation (dto : UpdateAdminDto) (updatedBy : AuthenticatedUser) (admin : AdminUser) :
    Except String Unit := do
  if updatedBy.role ≠ some .superAdmin then
    if updatedBy.cityId ≠ .ofRow admin.cityId then
      throw "Cannot modify admin users from other cities."
    if dto.role = .value .superAdmin then
      throw "Only Super Admins can grant Super Admin privileges."

def update (joinColumn : JoinColumn) (d : Directory) (now : Time) (id : Uuid) (dto : UpdateAdminDto)
    (updatedBy : AuthenticatedUser) : Except String (AdminUser × Directory) := do
  let some admin := d.admin id
    | throw s!"Admin with ID {id} not found"
  isolation dto updatedBy admin
  if ∃ email ∈ truthy dto.email.value?, email ≠ admin.email ∧ d.admins.any (·.2.email = email) then
    throw "Admin with this email already exists"
  if let some cityId := truthy dto.cityId.value? then
    if cityId ∉ d.cities then throw s!"City with ID {cityId} not found"
  -- the columns of these three are not nullable
  if dto.email = .null ∨ dto.role = .null ∨ dto.isActive = .null then
    throw "null value violates not-null constraint"
  let admin := assigned joinColumn now dto admin
  return (admin, d.saveAdmin id admin)

end AdminService

/-! ## The requests -/

inductive CityOperation where
  | updateDriverStatus (driverId : Uuid) (isActive : Bool)
  | enableDriver (driverId : Uuid)
  | disableDriver (driverId : Uuid)
  | bulkUpdateDriverStatus (driverIds : List Uuid) (isActive : Bool)
  | approveDriver (driverId : Uuid)
  | rejectDriver (driverId : Uuid) (reason : String)
  /-- `AdminService.update`. -/
  | update (id : Uuid) (dto : UpdateAdminDto)
  deriving DecidableEq

/-- A request, with what else stands in its query and its body. -/
structure CityRequest where
  operation : CityOperation
  query : String → FieldValue := fun _ => .absent
  body : String → FieldValue := fun _ => .absent

namespace CityRequest

def permission (request : CityRequest) : Permission :=
  match request.operation with
  | .update .. => .adminUpdateAdmin
  | _ => .adminUpdateDriverStatus

def path : CityOperation → String
  | .updateDriverStatus .. => "/admin/drivers/:id/status"
  | .enableDriver _ => "/admin/drivers/:id/enable"
  | .disableDriver _ => "/admin/drivers/:id/disable"
  | .bulkUpdateDriverStatus .. => "/admin/drivers/bulk/status"
  | .approveDriver _ => "/admin/drivers/:id/approve"
  | .rejectDriver .. => "/admin/drivers/:id/reject"
  | .update .. => "/admin/users/:id"

def id? : CityOperation → Option Uuid
  | .updateDriverStatus id _ | .enableDriver id | .disableDriver id | .approveDriver id
  | .rejectDriver id _ | .update id _ => some id
  | .bulkUpdateDriverStatus .. => none

/-- `adminUser.userId || adminUser.driverId || "system"`. -/
def adminId (user : AuthenticatedUser) : Uuid :=
  ((truthy user.userId).or (truthy user.driverId)).getD "system"

/-- The request as the guard finds it. A body that is validated against a class has no properties
but those of the class. -/
def seen (request : CityRequest) (user : AuthenticatedUser) : AdminRequest where
  user
  method := "PATCH"
  path := path request.operation
  params := fun name =>
    match id? request.operation with
    | some id => if name = "id" then .text id else .absent
    | none => .absent
  query := request.query
  body :=
    match request.operation with
    | .updateDriverStatus .. | .bulkUpdateDriverStatus .. => fun _ => .absent
    | .update _ dto => fun name =>
      if name = "cityId" then dto.cityId.value?.elim .absent FieldValue.text else .absent
    | _ => request.body

open DriverAdminApplicationService DriverRegistrationService in
/-- What the handler leaves. What it throws changes nothing. -/
def handle (joinColumn : JoinColumn) (user : AuthenticatedUser) (d : Directory) (now : Time) :
    CityOperation → Directory
  | .updateDriverStatus driverId isActive =>
    ((updateDriverStatus d now driverId isActive).toOption.map Prod.snd).getD d
  | .enableDriver driverId => ((enableDriver d now driverId).toOption.map Prod.snd).getD d
  | .disableDriver driverId => ((disableDriver d now driverId).toOption.map Prod.snd).getD d
  | .bulkUpdateDriverStatus driverIds isActive =>
    (bulkUpdateDriverStatus d now isActive user driverIds).2
  | .approveDriver driverId =>
    ((approveDriver d now driverId (adminId user)).toOption.map Prod.snd).getD d
  | .rejectDriver driverId reason =>
    if reason = "" then d else ((rejectDriver d driverId reason).toOption.map Prod.snd).getD d
  | .update id dto => ((AdminService.update joinColumn d now id dto user).toOption.map Prod.snd).getD d

end CityRequest

namespace Directory

/-- The guard lets the request through. -/
def admits (d : Directory) (user : AuthenticatedUser) (request : CityRequest) : Bool :=
  PolicyGuard.canActivate (get d.deliveries) [request.permission] (request.seen user)

/-- One request after another of one actor. -/
def step (joinColumn : JoinColumn) (user : AuthenticatedUser) (d : Directory) :
    Time × CityRequest → Option Directory
  | (now, request) =>
    some (if d.admits user request then CityRequest.handle joinColumn user d now request.operation else d)

end Directory

/-- The checks of `AdminService.update` for the loaded row. -/
structure AdminService.Passes (d : Directory) (dto : UpdateAdminDto) (updatedBy : AuthenticatedUser)
    (admin : AdminUser) : Prop where
  city : updatedBy.role ≠ some .superAdmin → updatedBy.cityId = .ofRow admin.cityId
  role : updatedBy.role ≠ some .superAdmin → dto.role ≠ .value .superAdmin
  email : ∀ email ∈ truthy dto.email.value?, email = admin.email ∨ d.admins.any (·.2.email = email) = false
  known : ∀ cityId ∈ truthy dto.cityId.value?, cityId ∈ d.cities
  present : dto.email ≠ .null ∧ dto.role ≠ .null ∧ dto.isActive ≠ .null

instance {d : Directory} {dto : UpdateAdminDto} {updatedBy : AuthenticatedUser} {admin : AdminUser} :
    Decidable (AdminService.Passes d dto updatedBy admin) :=
  decidable_of_iff
    ((updatedBy.role ≠ some .superAdmin → updatedBy.cityId = .ofRow admin.cityId) ∧
      (updatedBy.role ≠ some .superAdmin → dto.role ≠ .value .superAdmin) ∧
      (∀ email ∈ truthy dto.email.value?, email = admin.email ∨ d.admins.any (·.2.email = email) = false) ∧
      (∀ cityId ∈ truthy dto.cityId.value?, cityId ∈ d.cities) ∧
      dto.email ≠ .null ∧ dto.role ≠ .null ∧ dto.isActive ≠ .null)
    ⟨fun ⟨city, role, email, known, present⟩ => ⟨city, role, email, known, present⟩,
      fun ⟨city, role, email, known, present⟩ => ⟨city, role, email, known, present⟩⟩

/-- What is asked of a step: every driver or admin whose row is another one was and is of the
city, and no such admin was or is a super admin. -/
structure CityKept (cityId : Uuid) (before after : Directory) : Prop where
  drivers : ∀ id, after.driver id ≠ before.driver id → ∃ row row', before.driver id = some row ∧
    after.driver id = some row' ∧ row.cityId = some cityId ∧ row'.cityId = some cityId
  admins : ∀ id, after.admin id ≠ before.admin id → ∃ row row', before.admin id = some row ∧
    after.admin id = some row' ∧ (row.cityId = some cityId ∧ row'.cityId = some cityId) ∧
      row.role ≠ .superAdmin ∧ row'.role ≠ .superAdmin

/-- The body and the clock say what stands in the row already. -/
structure UpdateAdminDto.Repeats (dto : UpdateAdminDto) (now : Time) (row : AdminUser) : Prop where
  email : dto.email.value?.getD row.email = row.email
  role : dto.role.value?.getD row.role = row.role
  isActive : dto.isActive.value?.getD row.isActive = row.isActive
  updatedAt : now = row.updatedAt

instance {dto : UpdateAdminDto} {now : Time} {row : AdminUser} : Decidable (dto.Repeats now row) :=
  decidable_of_iff
    (dto.email.value?.getD row.email = row.email ∧ dto.role.value?.getD row.role = row.role ∧
      dto.isActive.value?.getD row.isActive = row.isActive ∧ now = row.updatedAt)
    ⟨fun ⟨email, role, isActive, updatedAt⟩ => ⟨email, role, isActive, updatedAt⟩,
      fun ⟨email, role, isActive, updatedAt⟩ => ⟨email, role, isActive, updatedAt⟩⟩

/-- What an operation must find: the driver whom it changes is of the city, unless the bulk
update makes the change; and the admin is no super admin, and TypeORM stores the city
for him again. -/
def Directory.Finds (joinColumn : JoinColumn) (user : AuthenticatedUser) (cityId : Uuid) (d : Directory)
    (now : Time) : CityOperation → Prop
  | .updateDriverStatus driverId isActive => ∀ row ∈ d.driver driverId,
    row.cityId = some cityId ∨ row.isActive = isActive ∧ row.lastActiveAt = some now
  | .enableDriver driverId => ∀ row ∈ d.driver driverId, row.isActive = true ∨ row.cityId = some cityId
  | .disableDriver driverId => ∀ row ∈ d.driver driverId, row.isActive = false ∨ row.cityId = some cityId
  | .bulkUpdateDriverStatus .. => True
  | .approveDriver driverId => ∀ row ∈ d.driver driverId,
    CityRequest.adminId user = "system" ∨ row.registrationStatus ≠ .pendingApproval ∨
      row.cityId = some cityId
  | .rejectDriver driverId reason => ∀ row ∈ d.driver driverId,
    reason = "" ∨ row.registrationStatus ≠ .pendingApproval ∨ row.cityId = some cityId
  | .update id dto => ∀ row ∈ d.admin id, AdminService.Passes d dto user row →
    joinColumn row.cityId (dto.cityOver row.cityId) = some cityId ∧
      (row.role ≠ .superAdmin ∨ dto.Repeats now row)

instance {joinColumn : JoinColumn} {user : AuthenticatedUser} {cityId : Uuid} {d : Directory}
    {now : Time} : ∀ operation, Decidable (d.Finds joinColumn user cityId now operation)
  | .updateDriverStatus .. => inferInstanceAs (Decidable (∀ _ ∈ _, _ ∨ _))
  | .enableDriver _ => inferInstanceAs (Decidable (∀ _ ∈ _, _ ∨ _))
  | .disableDriver _ => inferInstanceAs (Decidable (∀ _ ∈ _, _ ∨ _))
  | .bulkUpdateDriverStatus .. => .isTrue trivial
  | .approveDriver _ => inferInstanceAs (Decidable (∀ _ ∈ _, _ ∨ _))
  | .rejectDriver .. => inferInstanceAs (Decidable (∀ _ ∈ _, _ ∨ _))
  | .update .. => inferInstanceAs (Decidable (∀ _ ∈ _, _ → _))

/-- Who is let through finds what he must. -/
def Directory.WithinCity (joinColumn : JoinColumn) (user : AuthenticatedUser) (cityId : Uuid)
    (d : Directory) : Time × CityRequest → Prop
  | (now, request) => d.admits user request = true → d.Finds joinColumn user cityId now request.operation

instance {joinColumn : JoinColumn} {user : AuthenticatedUser} {cityId : Uuid} (d : Directory) :
    ∀ request, Decidable (d.WithinCity joinColumn user cityId request)
  | (_, _) => inferInstanceAs (Decidable (_ → _))

variable {d : Directory} {id cityId : Uuid} {now : Time} {user : AuthenticatedUser}
  {joinColumn : JoinColumn} {isActive : Bool}

/-! ## Saves -/

namespace Directory

@[simp] theorem saveDriver_driver (row : DriverRecord) : (d.saveDriver id row).driver id = some row :=
  get_put_self

@[simp] theorem saveAdmin_admin (row : AdminUser) : (d.saveAdmin id row).admin id = some row :=
  get_put_self

theorem saveDriver_driver_ne (row : DriverRecord) (other : id' ≠ id) :
    (d.saveDriver id row).driver id' = d.driver id' := get_put_ne other

theorem saveAdmin_admin_ne (row : AdminUser) (other : id' ≠ id) :
    (d.saveAdmin id row).admin id' = d.admin id' := get_put_ne other

end Directory

theorem kept_refl (cityId : Uuid) (d : Directory) : CityKept cityId d d :=
  ⟨fun _ changed => absurd rfl changed, fun _ changed => absurd rfl changed⟩

/-- A driver may be saved if he is of the city, or as he was. -/
theorem kept_saveDriver {row row' : DriverRecord} (found : d.driver id = some row)
    (same : row'.cityId = row.cityId) :
    CityKept cityId d (d.saveDriver id row') ↔ row.cityId = some cityId ∨ row' = row := by
  constructor
  · intro kept
    by_cases changed : row' = row
    · exact .inr changed
    · obtain ⟨before, after, held, -, here, -⟩ := kept.drivers id (by simp [found, changed])
      rw [found] at held
      cases held
      exact .inl here
  · rintro (here | rfl)
    · refine ⟨fun id' changed => ?_, fun _ changed => absurd rfl changed⟩
      by_cases mine : id' = id
      · subst mine
        exact ⟨row, row', found, by simp, here, same.trans here⟩
      · exact absurd (d.saveDriver_driver_ne row' mine) changed
    · refine ⟨fun id' changed => ?_, fun _ changed => absurd rfl changed⟩
      by_cases mine : id' = id
      · subst mine
        exact absurd (by simp [found]) changed
      · exact absurd (d.saveDriver_driver_ne row' mine) changed

/-- An admin may be saved if he is of the city and no super admin, before and after, or
as he was. -/
theorem kept_saveAdmin {row row' : AdminUser} (found : d.admin id = some row) :
    CityKept cityId d (d.saveAdmin id row') ↔
      (row.cityId = some cityId ∧ row'.cityId = some cityId) ∧
          row.role ≠ .superAdmin ∧ row'.role ≠ .superAdmin ∨ row' = row := by
  constructor
  · intro kept
    by_cases changed : row' = row
    · exact .inr changed
    · obtain ⟨before, after, held, held', within⟩ := kept.admins id (by simp [found, changed])
      rw [found] at held
      rw [Directory.saveAdmin_admin] at held'
      cases held
      cases held'
      exact .inl within
  · rintro (within | rfl)
    · refine ⟨fun _ changed => absurd rfl changed, fun id' changed => ?_⟩
      by_cases mine : id' = id
      · subst mine
        exact ⟨row, row', found, by simp, within⟩
      · exact absurd (d.saveAdmin_admin_ne row' mine) changed
    · refine ⟨fun _ changed => absurd rfl changed, fun id' changed => ?_⟩
      by_cases mine : id' = id
      · subst mine
        exact absurd (by simp [found]) changed
      · exact absurd (d.saveAdmin_admin_ne row' mine) changed

/-- Two changes within the city are one. -/
theorem CityKept.trans {before middle after : Directory} (first : CityKept cityId before middle)
    (second : CityKept cityId middle after) : CityKept cityId before after := by
  constructor
  · intro id changed
    by_cases early : middle.driver id = before.driver id
    · rw [← early] at changed ⊢
      exact second.drivers id changed
    · obtain ⟨row, row', held, held', here, here'⟩ := first.drivers id early
      by_cases late : after.driver id = middle.driver id
      · exact ⟨row, row', held, late.trans held', here, here'⟩
      · obtain ⟨_, row'', -, held'', -, here''⟩ := second.drivers id late
        exact ⟨row, row'', held, held'', here, here''⟩
  · intro id changed
    by_cases early : middle.admin id = before.admin id
    · rw [← early] at changed ⊢
      exact second.admins id changed
    · obtain ⟨row, row', held, held', here, roles⟩ := first.admins id early
      by_cases late : after.admin id = middle.admin id
      · exact ⟨row, row', held, late.trans held', here, roles⟩
      · obtain ⟨_, row'', -, held'', here'', roles''⟩ := second.admins id late
        exact ⟨row, row'', held, held'', ⟨here.1, here''.2⟩, roles.1, roles''.2⟩

/-! ## Operations -/

open DriverAdminApplicationService DriverRegistrationService AdminService CityRequest

theorem findOne_some {row : DriverRecord} (found : d.driver id = some row) :
    d.findOne id = .ok row := by
  simp [Directory.findOne, found]

theorem findOne_none (absent : d.driver id = none) :
    ∃ message, d.findOne id = .error message := by
  simp [Directory.findOne, absent]

theorem setActive_some {row : DriverRecord} (found : d.driver id = some row) :
    d.setActive now id isActive =
      .ok (row.activated isActive now, d.saveDriver id (row.activated isActive now)) := by
  simp [Directory.setActive, findOne_some found, bind, Except.bind, pure, Except.pure]

theorem activated_cityId (row : DriverRecord) : (row.activated isActive now).cityId = row.cityId := rfl

theorem activated_eq {row : DriverRecord} :
    row.activated isActive now = row ↔ row.isActive = isActive ∧ row.lastActiveAt = some now := by
  constructor
  · intro same
    rw [← same]
    exact ⟨rfl, rfl⟩
  · rintro ⟨active, seen⟩
    unfold DriverRecord.activated
    rw [← active, ← seen]

private theorem updateDriverStatus_kept :
    CityKept cityId d (handle joinColumn user d now (.updateDriverStatus id isActive)) ↔
      ∀ row ∈ d.driver id,
        row.cityId = some cityId ∨ row.isActive = isActive ∧ row.lastActiveAt = some now := by
  cases found : d.driver id with
  | none =>
    obtain ⟨message, missing⟩ := findOne_none found
    have same : handle joinColumn user d now (.updateDriverStatus id isActive) = d := by
      simp [handle, updateDriverStatus, missing, bind, Except.bind, Except.toOption]
    simp [same, kept_refl]
  | some row =>
    have saved : handle joinColumn user d now (.updateDriverStatus id isActive) =
        d.saveDriver id (row.activated isActive now) := by
      simp [handle, updateDriverStatus, findOne_some found, setActive_some found, bind, Except.bind,
        Except.toOption]
    rw [saved, kept_saveDriver found (activated_cityId row), activated_eq]
    simp

/-- A driver who is enabled or disabled is another row. -/
theorem activated_ne {row : DriverRecord} (changes : row.isActive ≠ isActive) :
    row.activated isActive now ≠ row :=
  fun same => changes (activated_eq.mp same).1

/-- An operation that leaves some drivers alone and saves the others with a change. -/
theorem changed_kept (change : DriverRecord → DriverRecord) {after : Directory} {idle : DriverRecord → Prop}
    (absent : d.driver id = none → after = d)
    (idles : ∀ row, d.driver id = some row → idle row → after = d)
    (saves : ∀ row, d.driver id = some row → ¬ idle row → after = d.saveDriver id (change row))
    (city : ∀ row, (change row).cityId = row.cityId) (differs : ∀ row, ¬ idle row → change row ≠ row) :
    CityKept cityId d after ↔ ∀ row ∈ d.driver id, idle row ∨ row.cityId = some cityId := by
  cases found : d.driver id with
  | none => simp [absent found, kept_refl]
  | some row =>
    simp only [Option.mem_def, Option.some.injEq, forall_eq']
    by_cases still : idle row
    · simp [idles row found still, kept_refl, still]
    · rw [saves row found still, kept_saveDriver found (city row)]
      simp [still, differs row still]

private theorem enableDriver_kept :
    CityKept cityId d (handle joinColumn user d now (.enableDriver id)) ↔
      ∀ row ∈ d.driver id, row.isActive = true ∨ row.cityId = some cityId := by
  refine changed_kept (·.activated true now) (fun absent => ?_) (fun row found active => ?_)
    (fun row found inactive => ?_) activated_cityId fun row inactive => activated_ne inactive
  · obtain ⟨message, missing⟩ := findOne_none absent
    simp [handle, enableDriver, missing, bind, Except.bind, Except.toOption]
  · simp [handle, enableDriver, findOne_some found, active, bind, Except.bind, Except.toOption,
      pure, Except.pure]
  · simp [handle, enableDriver, findOne_some found, setActive_some found, inactive, bind, Except.bind,
      Except.toOption]

private theorem disableDriver_kept :
    CityKept cityId d (handle joinColumn user d now (.disableDriver id)) ↔
      ∀ row ∈ d.driver id, row.isActive = false ∨ row.cityId = some cityId := by
  refine changed_kept (·.activated false now) (fun absent => ?_) (fun row found inactive => ?_)
    (fun row found active => ?_) activated_cityId fun row active => activated_ne active
  · obtain ⟨message, missing⟩ := findOne_none absent
    simp [handle, disableDriver, missing, bind, Except.bind, Except.toOption]
  · simp [handle, disableDriver, findOne_some found, inactive, bind, Except.bind, Except.toOption,
      pure, Except.pure]
  · simp [handle, disableDriver, findOne_some found, setActive_some found, active, bind, Except.bind,
      Except.toOption]

theorem findPending_refused (others : ∀ row ∈ d.driver id, row.registrationStatus ≠ .pendingApproval) :
    ∃ message, findPending d id = .error message := by
  unfold findPending
  cases found : d.driver id with
  | none => simp
  | some row => simp [others row found]

theorem findPending_some {row : DriverRecord} (found : d.driver id = some row)
    (waits : row.registrationStatus = .pendingApproval) : findPending d id = .ok row := by
  simp [findPending, found, waits]

private theorem approveDriver_kept :
    CityKept cityId d (handle joinColumn user d now (.approveDriver id)) ↔
      ∀ row ∈ d.driver id, adminId user = "system" ∨ row.registrationStatus ≠ .pendingApproval ∨
        row.cityId = some cityId := by
  have refused (others : ∀ row ∈ d.driver id, row.registrationStatus ≠ .pendingApproval) :
      handle joinColumn user d now (.approveDriver id) = d := by
    obtain ⟨message, missing⟩ := findPending_refused others
    simp [handle, approveDriver, missing, bind, Except.bind, Except.toOption]
  simp only [← or_assoc]
  refine changed_kept (·.approved now (adminId user)) (fun absent => refused (by simp [absent]))
    (fun row found idle => ?_) (fun row found changes => ?_) (fun _ => rfl) fun row changes same => ?_
  · by_cases waits : row.registrationStatus = .pendingApproval
    · have system : adminId user = "system" := idle.resolve_right (not_not.mpr waits)
      simp [handle, approveDriver, findPending_some found waits, system, bind, Except.bind, throw,
        throwThe, MonadExceptOf.throw, Except.toOption]
    · exact refused (by simp [found, waits])
  · obtain ⟨known, waits⟩ := not_or.mp changes
    simp only [handle, approveDriver, findPending_some found (not_not.mp waits), known, if_false, bind,
      Except.bind, pure, Except.pure, Except.toOption, Option.map_some, Option.getD_some]
  · refine changes (.inr ?_)
    rw [← same]
    simp [DriverRecord.approved]

private theorem rejectDriver_kept {reason : String} :
    CityKept cityId d (handle joinColumn user d now (.rejectDriver id reason)) ↔
      ∀ row ∈ d.driver id,
        reason = "" ∨ row.registrationStatus ≠ .pendingApproval ∨ row.cityId = some cityId := by
  by_cases empty : reason = ""
  · simp [handle, empty, kept_refl]
  · have refused (others : ∀ row ∈ d.driver id, row.registrationStatus ≠ .pendingApproval) :
        handle joinColumn user d now (.rejectDriver id reason) = d := by
      obtain ⟨message, missing⟩ := findPending_refused others
      simp [handle, rejectDriver, missing, bind, Except.bind, Except.toOption]
    simp only [empty, false_or]
    refine changed_kept (·.rejected reason) (fun absent => refused (by simp [absent]))
      (fun row found decided => refused (by simp [found, decided])) (fun row found waits => ?_)
      (fun _ => rfl) fun row waits same => waits ?_
    · simp only [handle, empty, if_false, rejectDriver, findPending_some found (not_not.mp waits), bind,
        Except.bind, pure, Except.pure, Except.toOption, Option.map_some, Option.getD_some]
    · rw [← same]
      simp [DriverRecord.rejected]

/-- An actor whom the comparisons of cities hold to this one. -/
structure CityActor (user : AuthenticatedUser) (cityId : Uuid) : Prop where
  role : user.role ≠ some .superAdmin
  city : ∀ place, user.cityId = .ofRow place → place = some cityId

/-- The user of a token that says this city, and no super admin. -/
theorem cityActor_of_token {payload : JwtPayload} (identified : payload.user? = some user)
    (role : payload.role ≠ some .superAdmin) (city : payload.cityId = .value cityId) :
    CityActor user cityId := by
  have sameCity : ∀ place, Column.value cityId = .ofRow place → place = some cityId := by
    intro place same
    cases place with
    | none => cases same
    | some other =>
      cases same
      rfl
  unfold JwtPayload.user? at identified
  split at identified
  · cases identified
    exact ⟨by simp, fun place same => by cases place <;> cases same⟩
  · split at identified
    · cases identified
      refine ⟨?_, by simpa only [city] using sameCity⟩
      cases given : payload.role with
      | none => simp
      | some other => simpa [given] using role
    · cases identified
      exact ⟨role, by simpa only [city] using sameCity⟩
    · cases identified

/-- The bulk update compares the cities itself. -/
theorem bulkTurn_kept (actor : CityActor user cityId) (driverId : Uuid) :
    CityKept cityId d (bulkTurn d now isActive user driverId).2 := by
  unfold bulkTurn
  cases found : d.driver driverId with
  | none =>
    obtain ⟨message, missing⟩ := findOne_none found
    simpa only [missing] using kept_refl cityId d
  | some row =>
    simp only [findOne_some found]
    split
    · exact kept_refl cityId d
    · split
      · exact kept_refl cityId d
      · rename_i within
        have same : user.cityId = .ofRow row.cityId := by
          by_contra other
          exact within ⟨actor.role, other⟩
        have saved : d.setActiveWithCityIsolation now driverId isActive user =
            .ok (row.activated isActive now, d.saveDriver driverId (row.activated isActive now)) := by
          simp [Directory.setActiveWithCityIsolation, findOne_some found, same, bind, Except.bind, pure,
            Except.pure]
        rw [saved]
        exact (kept_saveDriver found (activated_cityId row)).mpr (.inl (actor.city _ same))

private theorem bulkUpdate_kept (actor : CityActor user cityId) (driverIds : List Uuid) :
    CityKept cityId d (bulkUpdateDriverStatus d now isActive user driverIds).2 := by
  induction driverIds generalizing d with
  | nil => exact kept_refl cityId d
  | cons driverId rest ih => exact (bulkTurn_kept actor driverId).trans ih

theorem isolation_ok {dto : UpdateAdminDto} {row : AdminUser} :
    isolation dto user row = .ok () ↔ (user.role ≠ some .superAdmin →
      user.cityId = .ofRow row.cityId ∧ dto.role ≠ .value .superAdmin) := by
  unfold isolation
  by_cases restricted : user.role = some .superAdmin
  · simp [restricted, pure, Except.pure]
  · by_cases same : user.cityId = .ofRow row.cityId
    · by_cases grants : dto.role = .value .superAdmin <;>
        simp [restricted, same, grants, pure, Except.pure, throw, throwThe, MonadExceptOf.throw]
    · simp [restricted, same, throw, throwThe, MonadExceptOf.throw, bind, Except.bind]

/-- What passes the checks is stored as the body assigns it. -/
theorem update_passes {dto : UpdateAdminDto} {row : AdminUser} (found : d.admin id = some row)
    (passes : Passes d dto user row) :
    AdminService.update joinColumn d now id dto user =
      .ok (assigned joinColumn now dto row, d.saveAdmin id (assigned joinColumn now dto row)) := by
  have isolated : isolation dto user row = .ok () :=
    isolation_ok.mpr fun restricted => ⟨passes.city restricted, passes.role restricted⟩
  have unique : ¬ ∃ email, truthy dto.email.value? = some email ∧ email ≠ row.email ∧
      (d.admins.any fun admin => decide (admin.2.email = email)) = true := by
    rintro ⟨email, given, other, taken⟩
    rcases passes.email email given with same | free
    · exact other same
    · exact Bool.false_ne_true (free.symm.trans taken)
  have present := passes.present
  simp only [AdminService.update, found, isolated, bind, Except.bind, pure, Except.pure, throw, throwThe,
    MonadExceptOf.throw, Option.mem_def, unique, if_false]
  cases named : truthy dto.cityId.value? with
  | none => simp [present]
  | some cityId => simp [present, passes.known cityId named]

/-- What is stored has passed the checks. -/
theorem update_ok {dto : UpdateAdminDto} {row : AdminUser} {result : AdminUser × Directory}
    (found : d.admin id = some row)
    (stored : AdminService.update joinColumn d now id dto user = .ok result) :
    Passes d dto user row := by
  simp only [AdminService.update, found, bind, Except.bind, pure, Except.pure, throw, throwThe,
    MonadExceptOf.throw, Option.mem_def] at stored
  split at stored
  · cases stored
  · rename_i isolated
    have inside := isolation_ok.mp isolated
    split at stored
    · cases stored
    · rename_i unique
      have email : ∀ email ∈ truthy dto.email.value?,
          email = row.email ∨ d.admins.any (·.2.email = email) = false := by
        intro email given
        by_contra taken
        obtain ⟨other, taken⟩ := not_or.mp taken
        exact unique ⟨email, given, other, by simpa using taken⟩
      refine ⟨fun restricted => (inside restricted).1, fun restricted => (inside restricted).2, email, ?_, ?_⟩
      · intro cityId named
        rw [Option.mem_def.mp named] at stored
        by_contra unknown
        simp [unknown] at stored
      · by_contra missing
        have refused : dto.email = .null ∨ dto.role = .null ∨ dto.isActive = .null := by
          by_contra present
          simp only [not_or] at present
          exact missing present
        cases named : truthy dto.cityId.value? with
        | none => simp [named, refused] at stored
        | some cityId =>
          by_cases known : cityId ∈ d.cities <;> simp [named, known, refused] at stored

private theorem assigned_role {dto : UpdateAdminDto} {row : AdminUser} (grants : dto.role ≠ .value .superAdmin)
    (others : row.role ≠ .superAdmin) : (assigned joinColumn now dto row).role ≠ .superAdmin := by
  unfold assigned
  cases given : dto.role with
  | undefined => simpa [given, Column.value?] using others
  | null => simpa [given, Column.value?] using others
  | value role => simpa [given, Column.value?] using grants

/-- A body is stored without a trace just when it repeats the row, and the city is stored as it was. -/
theorem assigned_eq {dto : UpdateAdminDto} {row : AdminUser} :
    assigned joinColumn now dto row = row ↔
      joinColumn row.cityId (dto.cityOver row.cityId) = row.cityId ∧ dto.Repeats now row := by
  constructor
  · intro same
    refine ⟨?_, ?_, ?_, ?_, ?_⟩
    · exact congrArg AdminUser.cityId same
    · exact congrArg AdminUser.email same
    · exact congrArg AdminUser.role same
    · exact congrArg AdminUser.isActive same
    · exact congrArg AdminUser.updatedAt same
  · rintro ⟨city, repeats⟩
    unfold assigned
    rw [city, repeats.email, repeats.role, repeats.isActive, repeats.updatedAt]

/-- An update of an admin keeps to the city unless it makes one a super admin's, or is not
stored in the city again. -/
theorem update_kept (actor : CityActor user cityId) {dto : UpdateAdminDto} :
    CityKept cityId d (handle joinColumn user d now (.update id dto)) ↔
      ∀ row ∈ d.admin id, Passes d dto user row →
        joinColumn row.cityId (dto.cityOver row.cityId) = some cityId ∧
          (row.role ≠ .superAdmin ∨ dto.Repeats now row) := by
  cases found : d.admin id with
  | none =>
    have same : handle joinColumn user d now (.update id dto) = d := by
      simp [handle, AdminService.update, found, throw, throwThe, MonadExceptOf.throw, Except.toOption]
    simp [same, kept_refl]
  | some row =>
    simp only [Option.mem_def, Option.some.injEq, forall_eq']
    cases result : AdminService.update joinColumn d now id dto user with
    | error message =>
      have refused : ¬ Passes d dto user row := by
        intro passes
        rw [update_passes found passes] at result
        cases result
      have same : handle joinColumn user d now (.update id dto) = d := by
        simp [handle, result, Except.toOption]
      simp [same, kept_refl, refused]
    | ok stored =>
      have passes := update_ok found result
      have saved : handle joinColumn user d now (.update id dto) =
          d.saveAdmin id (assigned joinColumn now dto row) := by
        simp [handle, update_passes found passes, Except.toOption]
      have here : row.cityId = some cityId := actor.city _ (passes.city actor.role)
      have role : row.role ≠ .superAdmin → (assigned joinColumn now dto row).role ≠ .superAdmin :=
        assigned_role (passes.role actor.role)
      have city : (assigned joinColumn now dto row).cityId =
          joinColumn (some cityId) (dto.cityOver (some cityId)) := by
        simp only [assigned, here]
      rw [saved, kept_saveAdmin found, assigned_eq, city, here]
      simp only [passes, forall_true_left, true_and]
      constructor
      · rintro (⟨stored, others, -⟩ | ⟨stored, repeats⟩)
        · exact ⟨stored, .inl others⟩
        · exact ⟨stored, .inr repeats⟩
      · rintro ⟨stored, others | repeats⟩
        · exact .inl ⟨stored, others, role others⟩
        · exact .inr ⟨stored, repeats⟩

/-- What one request does: it keeps to the city just when it meets its condition. -/
theorem step_kept (actor : CityActor user cityId) {request : Time × CityRequest} {d' : Directory}
    (stepped : d.step joinColumn user request = some d') :
    CityKept cityId d d' ↔ d.WithinCity joinColumn user cityId request := by
  obtain ⟨now, ⟨operation, query, body⟩⟩ := request
  unfold Directory.step at stepped
  unfold Directory.WithinCity
  cases stepped
  split
  · rename_i admitted
    simp only [admitted, forall_true_left]
    cases operation with
    | updateDriverStatus id isActive => exact updateDriverStatus_kept
    | enableDriver id => exact enableDriver_kept
    | disableDriver id => exact disableDriver_kept
    | bulkUpdateDriverStatus driverIds isActive => exact iff_true_intro (bulkUpdate_kept actor driverIds)
    | approveDriver id => exact approveDriver_kept
    | rejectDriver id reason => exact rejectDriver_kept
    | update id dto => exact update_kept actor
  · rename_i refused
    simp [kept_refl, refused]

/-- Nothing stops a run: what is refused is answered as such. -/
theorem run_total (joinColumn : JoinColumn) (user : AuthenticatedUser) (d : Directory)
    (requests : List (Time × CityRequest)) :
    ∃ d', run (Directory.step joinColumn user) d requests = some d' := by
  induction requests generalizing d with
  | nil => exact ⟨d, rfl⟩
  | cons request rest ih => exact ih _

/-- The requests of an actor of a city who is no super admin keep to his city just when each
that is let through finds what it must. -/
theorem city_changes (joinColumn : JoinColumn) (payload : JwtPayload) (user : AuthenticatedUser)
    (cityId : Uuid) (d : Directory) (requests : List (Time × CityRequest))
    (identified : payload.user? = some user) (role : payload.role ≠ some .superAdmin)
    (city : payload.cityId = .value cityId) :
    (∀ taken ∈ trace (Directory.step joinColumn user) d requests,
        CityKept cityId taken.before taken.after) ↔
      Admits (Directory.step joinColumn user) (Directory.WithinCity joinColumn user cityId) d requests := by
  have actor := cityActor_of_token identified role city
  obtain ⟨d', ran⟩ := run_total joinColumn user d requests
  have exact_here : ∀ {d : Directory} {request d'}, True → d.step joinColumn user request = some d' →
      (CityKept cityId d d' ↔ d.WithinCity joinColumn user cityId request) :=
    fun _ stepped => step_kept actor stepped
  exact trace_good_iff exact_here (fun _ _ _ => trivial) trivial ran

namespace Offices

/-- A join column: the related row that is loaded counts before the property. -/
def related (loaded : Option Uuid) (column : Column Uuid) : Option Uuid := loaded.or column.value?

/-- The claims of an admin of the city `c`. -/
def clerk : JwtPayload where
  sub := "a"
  type := some .admin
  role := some .admin
  permissions := some Role.admin.permissions
  isActive := some true
  cityId := .value "c"
  exp := 86400

/-- The user that the guard finds for him. -/
def clerkUser : AuthenticatedUser where
  userId := some "a"
  sub := some "a"
  type := some .admin
  role := some .admin
  permissions := some Role.admin.permissions
  isActive := some true
  cityId := .value "c"

/-- Two cities with a driver each, and the admins of one. -/
def offices : Directory where
  drivers := [("x", { cityId := some "c" }), ("y", { cityId := some "d" })]
  admins := [("a", { email := "a@c", cityId := some "c" }), ("b", { email := "b@c", cityId := some "c" }),
    ("s", { email := "s@c", role := .superAdmin, cityId := some "c" })]
  cities := ["c", "d"]

end Offices

open Offices

/-- An admin disables the driver of his city and tries to enable both cities', updates a
colleague and tries to move him to the other city. -/
theorem city_changes_at_home :
    clerk.user? = some clerkUser ∧
      ∀ taken ∈ trace (Directory.step related clerkUser) offices
          [(1000, { operation := .disableDriver "x" }),
            (2000, { operation := .bulkUpdateDriverStatus ["x", "y"] true }),
            (3000, { operation := .update "b" { role := .value .opsAdmin, cityId := .value "c" } }),
            (4000, { operation := .update "b" { cityId := .value "d" } })],
        CityKept "c" taken.before taken.after :=
  ⟨rfl, (city_changes related clerk clerkUser "c" offices _ rfl (by decide) rfl).mpr (by decide +kernel)⟩

/-- He changes the driver of another city, each way but by the bulk update, and a super admin. -/
theorem city_changes_abroad :
    clerk.user? = some clerkUser ∧ clerk.role ≠ some .superAdmin ∧ clerk.cityId = .value "c" ∧
      ∀ operation ∈ [CityOperation.updateDriverStatus "y" false, .disableDriver "y",
          .update "s" { isActive := .value false }],
        ∃ taken ∈ trace (Directory.step related clerkUser) offices [(1000, { operation })],
          ¬ CityKept "c" taken.before taken.after := by
  refine ⟨rfl, by decide, rfl, ?_⟩
  have actor : CityActor clerkUser "c" := cityActor_of_token (show clerk.user? = _ from rfl) (by decide) rfl
  have refused : ∀ operation ∈ [CityOperation.updateDriverStatus "y" false, .disableDriver "y",
      .update "s" { isActive := .value false }],
        ¬ offices.WithinCity related clerkUser "c" (1000, { operation }) := by decide +kernel
  intro operation listed
  refine ⟨_, List.mem_singleton_self _, fun kept => refused operation listed ?_⟩
  have stepped : offices.step related clerkUser (1000, { operation }) = some _ := rfl
  exact (step_kept actor stepped).mp kept

end DriverMicroServices
