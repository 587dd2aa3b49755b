import DriverMicroServices.CityChanges
import Mathlib.Data.List.Nodup

/-! What admins are shown of drivers, of each other and of deliveries. The guard holds a request
to the first city that it names, and each handler picks the city that it asks the
database for by a rule of its own. -/
namespace DriverMicroServices

/-- What is left to libraries and to the database. -/
structure Libraries where
  /-- `IsUUID` of class-validator. -/
  isUUID : String → Bool
  isUUID_empty : isUUID "" = false
  /-- `ParseUUIDPipe`. -/
  parsesUUID : String → Bool
  /-- `LOWER(column) LIKE '%search%'`. -/
  like : Option String → String → Bool
  like_some : ∀ search, ∃ value, like (some value) search = true
  /-- The order of the rows of a query that asks for none. -/
  arrange : List (Uuid × AdminUser) → List (Uuid × AdminUser)
  arrange_perm : ∀ rows, (arrange rows).Perm rows

/-- `skip` and `take` of a query. -/
def page (skip take : Nat) (rows : List α) : List α := (rows.drop skip).take take

def AuthProvider.name : AuthProvider → String
  | .legacy => "legacy"
  | .google => "google"
  | .email => "email"

/-- `ORDER BY created_at DESC`. -/
def newestDriver (a b : Uuid × DriverRecord) : Bool := b.2.createdAt ≤ a.2.createdAt

/-- The options of `findAllWithFilters`. -/
structure DriverFilters where
  cityId : Option Uuid := none
  zoneId : Option Uuid := none
  status : Option DriverStatus := none
  registrationStatus : Option DriverRegistrationStatus := none
  isActive : Option Bool := none
  authProvider : Option String := none
  search : Option String := none
  skip : Option Nat := none
  take : Option Nat := none

/-- The answer to a request: the message of what is thrown, or rows and, of a list, their total. -/
inductive ReadAnswer where
  | refused (message : String)
  | drivers (rows : List (Uuid × DriverRecord)) (total : Nat)
  | admins (rows : List (Uuid × AdminUser)) (total : Nat)
  | admin (row : AdminUser)
  | deliveries (rows : List (Uuid × Delivery)) (total : Nat)

/-! ## The services -/

section Services

variable (libs : Libraries)

/-- The conditions of the query on a driver. -/
def DriverFilters.test (options : DriverFilters) (driver : DriverRecord) : Bool :=
  (truthy options.cityId).all (driver.cityId = some ·) &&
    (truthy options.zoneId).all (driver.zoneId = some ·) &&
    options.status.all (driver.status = ·) &&
    options.registrationStatus.all (driver.registrationStatus = ·) &&
    options.isActive.all (driver.isActive = ·) &&
    (truthy options.authProvider).all (driver.authProvider.name = ·) &&
    (truthy options.search).all fun search =>
      libs.like driver.name search || libs.like driver.phone search || libs.like driver.email search

/-- `findAllWithFilters`. The provider is not checked before the query, which throws at a
text that is none. -/
def Directory.findAllWithFilters (d : Directory) (options : DriverFilters) : ReadAnswer :=
  match truthy options.authProvider with
  | some authProvider =>
    if authProvider ∈ [AuthProvider.legacy, .google, .email].map AuthProvider.name then found
    else .refused s!"invalid input value for enum auth_provider_enum: {authProvider}"
  | none => found
where
  found : ReadAnswer :=
    let rows := d.drivers.filter fun entry => options.test libs entry.2
    let ordered := rows.mergeSort newestDriver
    .drivers (page (options.skip.getD 0) (options.take.getD 50) ordered) rows.length

/-- The conditions of the query on an admin. -/
def AdminService.test (cityId : Option Uuid) (role : Option Role) (admin : AdminUser) : Bool :=
  (truthy cityId).all (admin.cityId = some ·) && role.all (admin.role = ·)

/-- `AdminService.findAll`. -/
def AdminService.findAll (d : Directory) (cityId : Option Uuid) (role : Option Role) (skip take : Nat) :
    ReadAnswer :=
  let rows := d.admins.filter fun entry => AdminService.test cityId role entry.2
  .admins (page skip take (libs.arrange rows)) rows.length

end Services

/-- `AdminService.findById`. -/
def AdminService.findById (d : Directory) (id : Uuid) : ReadAnswer :=
  match d.admin id with
  | some admin => .admin admin
  | none => .refused s!"Admin with ID {id} not found"

/-! ## The requests -/

/-- The query of `listDrivers`, but for its city. -/
structure DriverListQuery where
  zoneId : Option Uuid := none
  status : Option DriverStatus := none
  registrationStatus : Option DriverRegistrationStatus := none
  isActive : Option Bool := none
  authProvider : Option String := none
  search : Option String := none
  skip : Option Nat := none
  take : Option Nat := none
  deriving DecidableEq

/-- The query of `listDeliveries`, but for its city. -/
structure DeliveryListQuery where
  status : Option DeliveryStatus := none
  driverId : Option Uuid := none
  dateFrom : Option Time := none
  dateTo : Option Time := none
  skip : Option Nat := none
  take : Option Nat := none
  deriving DecidableEq

inductive CityRead where
  | listDrivers (query : DriverListQuery)
  | listPendingDrivers (query : DriverListQuery)
  | getPendingDrivers (search : Option String) (skip take : Option Nat)
  /-- `AdminController.findAll`. -/
  | findAll (role : Option Role) (skip take : Option Nat)
  /-- `AdminController.findOne`. -/
  | findOne (id : String)
  | listDeliveries (query : DeliveryListQuery)
  deriving DecidableEq

/-- A request, with the city that its query names and what else stands in its query
and its body. -/
structure ReadRequest where
  read : CityRead
  cityId : FieldValue := .absent
  query : String → FieldValue := fun _ => .absent
  body : String → FieldValue := fun _ => .absent

namespace ReadRequest

def permission (request : ReadRequest) : Permission :=
  match request.read with
  | .listDrivers _ | .listPendingDrivers _ | .getPendingDrivers .. => .adminReadDriverAny
  | .findAll .. | .findOne _ => .adminReadAdminAny
  | .listDeliveries _ => .adminReadDeliveryAny

def path : CityRead → String
  | .listDrivers _ => "/admin/drivers"
  | .listPendingDrivers _ => "/admin/drivers/pending"
  | .getPendingDrivers .. => "/admin/users/pending-drivers"
  | .findAll .. => "/admin/users"
  | .findOne _ => "/admin/users/:id"
  | .listDeliveries _ => "/admin/deliveries"

/-- The request as the guard finds it. -/
def seen (request : ReadRequest) (user : AuthenticatedUser) : AdminRequest where
  user
  method := "GET"
  path := path request.read
  params := fun name =>
    match request.read with
    | .findOne id => if name = "id" then .text id else .absent
    | _ => .absent
  query := Function.update request.query "cityId" request.cityId
  body := request.body

end ReadRequest

section Handlers

variable (libs : Libraries)

/-- `ValidationPipe`, which names the first property that is not as its class says: a city is a
UUID if the query has one, and a page has 1 to 100 rows. -/
def validated (cityId : FieldValue) (zoneId : Option Uuid) (take : Option Nat) :
    Except String (Option Uuid) := do
  if zoneId.any (!libs.isUUID ·) then throw "zoneId must be a UUID"
  if take.any (100 < ·) then throw "take must not be greater than 100"
  if take.any (· < 1) then throw "take must not be less than 1"
  match cityId with
  | .absent => return none
  | .text cityId => if libs.isUUID cityId then return some cityId else throw "cityId must be a UUID"
  | .other => throw "cityId must be a UUID"

/-- The city to ask for: the user's own when the query names none and he is one of those
who are held to it. -/
def scopedCityId (cityId : Option Uuid) (user : AuthenticatedUser) (held : Bool) : Option Uuid :=
  if held ∧ truthy cityId = none then user.cityId.value? else cityId

namespace ReadAnswer

/-- The filter of `listPendingDrivers` over a page. -/
def pending : ReadAnswer → ReadAnswer
  | .drivers rows _ =>
    let pendingDrivers := rows.filter fun entry => entry.2.registrationStatus = .pendingApproval
    .drivers pendingDrivers pendingDrivers.length
  | answer => answer

end ReadAnswer

open ReadAnswer

/-- The delivery has no column for a city, and the query throws at a condition on it. -/
def listDeliveries (d : Directory) (user : AuthenticatedUser) (cityId : FieldValue)
    (query : DeliveryListQuery) : ReadAnswer :=
  if cityId.truthy ∨ user.role ≠ some .superAdmin ∧ (truthy user.cityId.value?).isSome then
    .refused "column delivery.cityid does not exist"
  else
    let rows := d.deliveries.filter fun entry =>
      query.status.all (entry.2.status = ·) && query.driverId.all (entry.2.driverId = some ·) &&
        query.dateFrom.all (· ≤ entry.2.createdAt) && query.dateTo.all (entry.2.createdAt ≤ ·)
    let ordered := rows.mergeSort fun a b => b.2.createdAt ≤ a.2.createdAt
    let take := (query.take.filter (· ≠ 0)).getD 20
    .deliveries (page (query.skip.getD 0) take ordered) rows.length

/-- The answer when the query is let through. -/
def ReadAnswer.after (checked : Except String (Option Uuid)) (answer : Option Uuid → ReadAnswer) :
    ReadAnswer :=
  match checked with
  | .error message => .refused message
  | .ok cityId => answer cityId

/-- What the handler answers. -/
def ReadRequest.answer (d : Directory) (user : AuthenticatedUser) (request : ReadRequest) : ReadAnswer :=
  match request.read with
  | .listDrivers query =>
    .after (validated libs request.cityId query.zoneId query.take) fun cityId =>
      d.findAllWithFilters libs
        { cityId := scopedCityId cityId user (user.role = some .admin)
          zoneId := query.zoneId, status := query.status
          registrationStatus := query.registrationStatus, isActive := query.isActive
          authProvider := query.authProvider, search := query.search
          skip := some (query.skip.getD 0), take := some (query.take.getD 50) }
  | .listPendingDrivers query =>
    .after (validated libs request.cityId query.zoneId query.take) fun cityId =>
      (d.findAllWithFilters libs
        { cityId := scopedCityId cityId user (user.role = some .admin), zoneId := query.zoneId
          skip := some (query.skip.getD 0), take := some (query.take.getD 50) }).pending
  | .getPendingDrivers search skip take =>
    .after (validated libs request.cityId none take) fun cityId =>
      d.findAllWithFilters libs
        { cityId := scopedCityId cityId user (user.role ≠ some .superAdmin)
          registrationStatus := some .pendingApproval, search
          skip := some (skip.getD 0), take := some (take.getD 20) }
  | .findAll role skip take =>
    .after (validated libs request.cityId none take) fun cityId =>
      AdminService.findAll libs d (scopedCityId cityId user (user.role = some .admin)) role
        (skip.getD 0) (take.getD 50)
  | .findOne id =>
    if libs.parsesUUID id then AdminService.findById d id
    else .refused "Validation failed (uuid is expected)"
  | .listDeliveries query => listDeliveries d user request.cityId query

end Handlers

/-- What the unique columns promise of the tables. -/
structure Directory.Distinct (d : Directory) : Prop where
  drivers : (d.drivers.map Prod.fst).Nodup
  phones : (d.drivers.filterMap (·.2.phone)).Nodup
  admins : (d.admins.map Prod.fst).Nodup
  emails : (d.admins.map (·.2.email)).Nodup
  deliveries : (d.deliveries.map Prod.fst).Nodup

/-- What is asked of an answer: all that it shows is of the city. No delivery is of any. -/
def ReadAnswer.AllOf (cityId : Uuid) : ReadAnswer → Prop
  | .refused _ => True
  | .drivers rows _ => ∀ row ∈ rows, row.2.cityId = some cityId
  | .admins rows _ => ∀ row ∈ rows, row.2.cityId = some cityId
  | .admin row => row.cityId = some cityId
  | .deliveries rows _ => rows = []

instance decidableAllOf (cityId : Uuid) : ∀ answer : ReadAnswer, Decidable (answer.AllOf cityId)
  | .refused _ => .isTrue trivial
  | .drivers rows _ => inferInstanceAs (Decidable (∀ row ∈ rows, row.2.cityId = some cityId))
  | .admins rows _ => inferInstanceAs (Decidable (∀ row ∈ rows, row.2.cityId = some cityId))
  | .admin row => inferInstanceAs (Decidable (row.cityId = some cityId))
  | .deliveries [] _ => .isTrue rfl
  | .deliveries (_ :: _) _ => .isFalse (List.cons_ne_nil _ _)

/-- A list that reaches the database asks for the city, or for none where the handler
fills it in; a single admin is not asked for; and deliveries may be. -/
def ReadRequest.InCity (libs : Libraries) (role : Role) (cityId : Uuid) (request : ReadRequest) : Prop :=
  match request.read with
  | .listDrivers query => ∀ asked, validated libs request.cityId query.zoneId query.take = .ok asked →
    (∀ authProvider ∈ truthy query.authProvider,
        authProvider ∈ [AuthProvider.legacy, .google, .email].map AuthProvider.name) →
      asked = some cityId ∨ asked = none ∧ role = .admin
  | .listPendingDrivers query => ∀ asked,
    validated libs request.cityId query.zoneId query.take = .ok asked →
      asked = some cityId ∨ asked = none ∧ role = .admin
  | .getPendingDrivers _ _ take => ∀ asked, validated libs request.cityId none take = .ok asked →
    asked = some cityId ∨ asked = none
  | .findAll _ _ take => ∀ asked, validated libs request.cityId none take = .ok asked →
    asked = some cityId ∨ asked = none ∧ role = .admin
  | .findOne id => libs.parsesUUID id = false
  | .listDeliveries _ => True

variable {libs : Libraries} {d : Directory} {cityId : Uuid} {user : AuthenticatedUser}

/-! ## Pages -/

theorem mem_of_page {skip take : Nat} {rows : List α} {row : α} (member : row ∈ page skip take rows) :
    row ∈ rows :=
  List.mem_of_mem_drop (List.mem_of_mem_take member)

private theorem page_nonempty {skip take : Nat} {rows : List α} (some_row : 0 < take)
    (reaches : skip < rows.length) : ∃ row, row ∈ page skip take rows := by
  apply List.exists_mem_of_length_pos
  simp only [page, List.length_take, List.length_drop]
  omega

/-- A name for each number. -/
def numbered (n : Nat) : String := String.ofList (List.replicate n 'x')

theorem numbered_injective : Function.Injective numbered := by
  intro m n same
  have lengths := congrArg String.length same
  simpa [numbered] using lengths

/-- A table of so many rows. -/
def crowd (n : Nat) (row : Nat → α) : List (Uuid × α) :=
  (List.range n).map fun i => (numbered i, row i)

/-- A page that is asked of a large enough table shows one of its rows. -/
theorem page_crowd {skip take : Nat} {row : Nat → α} {rows : List (Uuid × α)}
    (perm : rows.Perm (crowd (skip + 1) row)) (some_row : 0 < take) :
    ∃ id i, (id, row i) ∈ page skip take rows := by
  have reaches : skip < rows.length := by
    rw [perm.length_eq]
    simp [crowd]
  obtain ⟨entry, member⟩ := page_nonempty some_row reaches
  obtain ⟨i, -, rfl⟩ := List.mem_map.mp (perm.mem_iff.mp (mem_of_page member))
  exact ⟨_, i, member⟩

theorem crowd_filter {n : Nat} {row : Nat → α} {test : α → Bool} (tested : ∀ i, test (row i) = true) :
    (crowd n row).filter (fun entry => test entry.2) = crowd n row := by
  apply List.filter_eq_self.mpr
  intro entry member
  obtain ⟨i, -, rfl⟩ := List.mem_map.mp member
  exact tested i

theorem crowd_distinct (n : Nat) (row : Nat → α) : ((crowd n row).map Prod.fst).Nodup := by
  have names := List.Nodup.map numbered_injective (List.nodup_range (n := n))
  simpa [crowd, Function.comp_def] using names

/-! ## Drivers -/

/-- A driver whom a query finds, of the city that it asks for. -/
def DriverFilters.driver (options : DriverFilters) (name : String) (authProvider : AuthProvider) :
    DriverRecord where
  name := some name
  authProvider
  cityId := truthy options.cityId
  zoneId := truthy options.zoneId
  status := options.status.getD .available
  registrationStatus := options.registrationStatus.getD .pendingApproval
  isActive := options.isActive.getD true

theorem findAllWithFilters_city {options : DriverFilters} (asked : truthy options.cityId = some cityId) :
    (d.findAllWithFilters libs options).AllOf cityId := by
  have found : (Directory.findAllWithFilters.found libs d options).AllOf cityId := by
    intro row member
    have kept := List.mem_mergeSort.mp (mem_of_page member)
    have tested := (List.mem_filter.mp kept).2
    simp only [DriverFilters.test, asked, Bool.and_eq_true, Option.all_some, decide_eq_true_eq] at tested
    tauto
  unfold Directory.findAllWithFilters
  split
  · split
    · exact found
    · trivial
  · exact found

private theorem findAllWithFilters_found {options : DriverFilters}
    (known : ∀ authProvider ∈ truthy options.authProvider,
      authProvider ∈ [AuthProvider.legacy, .google, .email].map AuthProvider.name) :
    d.findAllWithFilters libs options = Directory.findAllWithFilters.found libs d options := by
  unfold Directory.findAllWithFilters
  split
  · rename_i authProvider asked
    rw [if_pos (known authProvider asked)]
  · rfl

private theorem findAllWithFilters_unknown {options : DriverFilters}
    (unknown : ¬ ∀ authProvider ∈ truthy options.authProvider,
      authProvider ∈ [AuthProvider.legacy, .google, .email].map AuthProvider.name) :
    (d.findAllWithFilters libs options).AllOf cityId := by
  unfold Directory.findAllWithFilters
  split
  · rename_i authProvider asked
    split
    · rename_i provides
      refine absurd (fun other given => ?_) unknown
      rw [Option.mem_def.mp given] at asked
      cases asked
      exact provides
    · trivial
  · rename_i unasked
    exact absurd (by simp [unasked]) unknown

/-- A condition is met by what it asks for. -/
theorem all_own [DecidableEq α] (asked : Option α) : (asked.all (asked = some ·)) = true := by
  rw [Option.all_eq_true]
  rintro value rfl
  simp

theorem all_given [DecidableEq α] (asked : Option α) (otherwise : α) :
    (asked.all (asked.getD otherwise = ·)) = true := by
  rw [Option.all_eq_true]
  rintro value rfl
  simp

/-- Some driver meets all conditions of a query. -/
theorem DriverFilters.driver_tested (libs : Libraries) {options : DriverFilters}
    (known : ∀ authProvider ∈ truthy options.authProvider,
      authProvider ∈ [AuthProvider.legacy, .google, .email].map AuthProvider.name) :
    ∃ name authProvider, options.test libs (options.driver name authProvider) = true := by
  obtain ⟨authProvider, provides⟩ : ∃ authProvider : AuthProvider,
      (truthy options.authProvider).all (authProvider.name = ·) = true := by
    cases asked : truthy options.authProvider with
    | none => exact ⟨.legacy, rfl⟩
    | some text =>
      obtain ⟨authProvider, -, rfl⟩ := List.mem_map.mp (known text asked)
      exact ⟨authProvider, by simp⟩
  obtain ⟨name, searched⟩ : ∃ name, (truthy options.search).all (fun search =>
      libs.like (some name) search || libs.like none search || libs.like none search) = true := by
    cases truthy options.search with
    | none => exact ⟨"", rfl⟩
    | some search =>
      obtain ⟨name, found⟩ := libs.like_some search
      exact ⟨name, by simp [found]⟩
  refine ⟨name, authProvider, ?_⟩
  simp only [DriverFilters.test, DriverFilters.driver, Bool.and_eq_true]
  exact ⟨⟨⟨⟨⟨⟨all_own _, all_own _⟩, all_given _ _⟩, all_given _ _⟩, all_given _ _⟩, provides⟩, searched⟩

/-- Somewhere a page of drivers shows one of the city that is asked for, or of none. -/
theorem findAllWithFilters_shows (libs : Libraries) {options : DriverFilters}
    (known : ∀ authProvider ∈ truthy options.authProvider,
      authProvider ∈ [AuthProvider.legacy, .google, .email].map AuthProvider.name)
    (shows : 0 < options.take.getD 50) :
    ∃ d : Directory, d.Distinct ∧ ∃ id name authProvider rows total,
      d.findAllWithFilters libs options = .drivers rows total ∧
        (id, options.driver name authProvider) ∈ rows := by
  obtain ⟨name, authProvider, tested⟩ := options.driver_tested libs known
  let rows := crowd (options.skip.getD 0 + 1) fun _ => options.driver name authProvider
  have distinct : Directory.Distinct { drivers := rows } := by
    refine ⟨crowd_distinct .., ?_, .nil, .nil, .nil⟩
    have unlisted : rows.filterMap (·.2.phone) = [] := by
      simp [rows, crowd, DriverFilters.driver]
    simp [unlisted]
  obtain ⟨id, _, member⟩ := page_crowd (List.mergeSort_perm rows newestDriver) shows
  refine ⟨{ drivers := rows }, distinct, id, name, authProvider, _, rows.length, ?_, member⟩
  rw [findAllWithFilters_found known]
  simp only [Directory.findAllWithFilters.found, rows, crowd_filter fun _ => tested]

/-- Pages of drivers are of the city just when it is asked for. -/
theorem drivers_city (libs : Libraries) {options : DriverFilters}
    (known : ∀ authProvider ∈ truthy options.authProvider,
      authProvider ∈ [AuthProvider.legacy, .google, .email].map AuthProvider.name)
    (shows : 0 < options.take.getD 50) :
    (∀ d : Directory, d.Distinct → (d.findAllWithFilters libs options).AllOf cityId) ↔
      truthy options.cityId = some cityId := by
  constructor
  · intro isolated
    obtain ⟨d, distinct, id, name, authProvider, rows, total, answered, member⟩ :=
      findAllWithFilters_shows libs known shows
    have all := isolated d distinct
    rw [answered] at all
    exact all _ member
  · exact fun asked _ _ => findAllWithFilters_city asked

/-- So are those of drivers who wait for an approval, where all are listed first. -/
theorem pending_city (libs : Libraries) {options : DriverFilters} (all : options.registrationStatus = none)
    (known : ∀ authProvider ∈ truthy options.authProvider,
      authProvider ∈ [AuthProvider.legacy, .google, .email].map AuthProvider.name)
    (shows : 0 < options.take.getD 50) :
    (∀ d : Directory, d.Distinct → (d.findAllWithFilters libs options).pending.AllOf cityId) ↔
      truthy options.cityId = some cityId := by
  constructor
  · intro isolated
    obtain ⟨d, distinct, id, name, authProvider, rows, total, answered, member⟩ :=
      findAllWithFilters_shows libs known shows
    have all_of := isolated d distinct
    rw [answered] at all_of
    have waits : (options.driver name authProvider).registrationStatus = .pendingApproval := by
      simp [DriverFilters.driver, all]
    exact all_of (id, options.driver name authProvider) (List.mem_filter.mpr ⟨member, by simp [waits]⟩)
  · intro asked d _
    have found : (d.findAllWithFilters libs options).AllOf cityId := findAllWithFilters_city asked
    cases answered : d.findAllWithFilters libs options with
    | drivers rows total =>
      rw [answered] at found
      exact fun row member => found row (List.mem_filter.mp member).1
    | _ =>
      rw [answered] at found
      exact found

/-! ## Admins -/

/-- Pages of admins are of the city just when it is asked for. -/
theorem admins_city (libs : Libraries) {asked : Option Uuid} {role : Option Role} {skip take : Nat}
    (shows : 0 < take) :
    (∀ d : Directory, d.Distinct → (AdminService.findAll libs d asked role skip take).AllOf cityId) ↔
      truthy asked = some cityId := by
  constructor
  · intro isolated
    let row := fun i => ({ email := numbered i, role := role.getD .admin, cityId := truthy asked } : AdminUser)
    let rows := crowd (skip + 1) row
    have distinct : Directory.Distinct { admins := rows } := by
      refine ⟨.nil, .nil, crowd_distinct .., ?_, .nil⟩
      have names := List.Nodup.map numbered_injective (List.nodup_range (n := skip + 1))
      simpa [rows, crowd, row, Function.comp_def] using names
    have tested : ∀ i, AdminService.test asked role (row i) = true := by
      intro i
      simp only [AdminService.test, row, Bool.and_eq_true]
      exact ⟨all_own _, all_given _ _⟩
    obtain ⟨id, i, member⟩ := page_crowd (libs.arrange_perm rows) shows
    have all := isolated { admins := rows } distinct
    simp only [AdminService.findAll, rows, crowd_filter tested] at all
    exact all _ member
  · intro given d _ entry member
    have kept := (libs.arrange_perm _).mem_iff.mp (mem_of_page member)
    have tested := (List.mem_filter.mp kept).2
    simp only [AdminService.test, given, Bool.and_eq_true, Option.all_some, decide_eq_true_eq] at tested
    exact tested.1

/-- An admin may be of any city. -/
theorem findById_any (id cityId : Uuid) :
    ∃ d : Directory, d.Distinct ∧ ¬ (AdminService.findById d id).AllOf cityId := by
  refine ⟨{ admins := [(id, { email := "" })] }, ⟨.nil, .nil, by simp, by simp, .nil⟩, ?_⟩
  simp [AdminService.findById, Directory.admin, Tables.Keyed.get, ReadAnswer.AllOf]

/-! ## Requests -/

section Validated

variable {named : FieldValue} {zoneId asked : Option Uuid} {take : Option Nat}

/-- What the pipe lets through has a page of some rows, and a city is a UUID. -/
theorem validated_ok (ok : validated libs named zoneId take = .ok asked) :
    (∀ rows ∈ take, 0 < rows) ∧ ∀ cityId ∈ asked, libs.isUUID cityId = true := by
  simp only [validated, bind, Except.bind, pure, Except.pure, throw, throwThe, MonadExceptOf.throw] at ok
  split at ok
  · cases ok
  · split at ok
    · cases ok
    · split at ok
      · cases ok
      · rename_i atLeast
        refine ⟨?_, ?_⟩
        · rintro rows rfl
          exact Nat.pos_of_ne_zero (by simpa using atLeast)
        · rintro cityId rfl
          split at ok
          · cases ok
          · split at ok
            · cases ok
              assumption
            · cases ok
          · cases ok

theorem validated_shows (ok : validated libs named zoneId take = .ok asked) {otherwise : Nat}
    (some_row : 0 < otherwise) : 0 < take.getD otherwise := by
  cases given : take with
  | none => simpa using some_row
  | some rows => exact (validated_ok ok).1 rows given

/-- The city that a handler asks for is the user's just when the query names it, or names
none and the handler fills it in. -/
theorem scopedCityId_own (ok : validated libs named zoneId take = .ok asked) {held : Bool}
    (city : user.cityId = .value cityId) (given : cityId ≠ "") :
    truthy (scopedCityId asked user held) = some cityId ↔
      asked = some cityId ∨ asked = none ∧ held = true := by
  cases asks : asked with
  | none =>
    have unnamed : truthy none = none := rfl
    cases held <;> simp [scopedCityId, unnamed, city, Column.value?, truthy_of_ne given]
  | some other =>
    have valid := (validated_ok ok).2 other asks
    have named : other ≠ "" := by
      rintro rfl
      rw [libs.isUUID_empty] at valid
      cases valid
    simp [scopedCityId, truthy_of_ne named]

end Validated

/-- A validated list is of the city just when it is so for each city that passes. -/
theorem after_city {checked : Except String (Option Uuid)} {answer : Directory → Option Uuid → ReadAnswer}
    {holds : Option Uuid → Prop}
    (exact_here : ∀ asked, checked = .ok asked →
      ((∀ d : Directory, d.Distinct → (answer d asked).AllOf cityId) ↔ holds asked)) :
    (∀ d : Directory, d.Distinct → (ReadAnswer.after checked (answer d)).AllOf cityId) ↔
      ∀ asked, checked = .ok asked → holds asked := by
  cases checked with
  | error message => simp [ReadAnswer.after, ReadAnswer.AllOf]
  | ok asked =>
    simp only [ReadAnswer.after, Except.ok.injEq, forall_eq']
    exact exact_here asked rfl

private theorem findOne_city (id : String) :
    (∀ d : Directory, d.Distinct → ReadAnswer.AllOf cityId
        (if libs.parsesUUID id then AdminService.findById d id
          else .refused "Validation failed (uuid is expected)")) ↔
      libs.parsesUUID id = false := by
  cases parses : libs.parsesUUID id with
  | false => simp [ReadAnswer.AllOf]
  | true =>
    obtain ⟨d, distinct, other⟩ := findById_any id cityId
    exact iff_of_false (fun isolated => other (isolated d distinct)) (by simp)

theorem ofCity_roles {role : Role} (cityRole : role ∈ Role.ofCity) :
    role ≠ .system ∧ role ≠ .superAdmin := by
  revert cityRole
  cases role <;> decide

/-- A delivery is listed for no admin of a city. -/
theorem listDeliveries_city (query : DeliveryListQuery) (named : FieldValue) {role : Role}
    (known : user.role = some role) (cityRole : role ∈ Role.ofCity) (city : user.cityId = .value cityId)
    (given : cityId ≠ "") : (listDeliveries d user named query).AllOf cityId' := by
  have restricted : user.role ≠ some .superAdmin := by
    simpa [known] using (ofCity_roles cityRole).2
  have placed : (truthy user.cityId.value?).isSome := by
    simp [city, Column.value?, truthy_of_ne given]
  unfold listDeliveries
  rw [if_pos (.inr ⟨restricted, placed⟩)]
  trivial

private theorem ReadRequest.permission_admin (request : ReadRequest) :
    request.permission.startsWith "admin:" = true := by
  have reads : ∀ permission ∈ [Permission.adminReadDriverAny, .adminReadAdminAny, .adminReadDeliveryAny],
      permission.startsWith "admin:" = true := by decide
  unfold ReadRequest.permission
  cases request.read <;> exact reads _ (by simp)

/-- What admins of a city are shown is of their city in every database just when the list asks
for it. -/
theorem city_reads (libs : Libraries) (deliveries : Uuid → Option Delivery) (user : AuthenticatedUser)
    (role : Role) (cityId : Uuid) (request : ReadRequest) (known : user.role = some role)
    (cityRole : role ∈ Role.ofCity) (city : user.cityId = .value cityId)
    (admitted : PolicyGuard.canActivate deliveries [request.permission] (request.seen user) = true) :
    (∀ d : Directory, d.Distinct → (request.answer libs d user).AllOf cityId) ↔
      request.InCity libs role cityId := by
  have given : cityId ≠ "" := by
    obtain ⟨-, own, place, given, -⟩ :=
      PolicyGuard.canActivate_city request.permission_admin known cityRole admitted
    rw [show (request.seen user).user = user from rfl, city] at place
    cases place
    exact given
  have asAdmin : (decide (user.role = some .admin) = true) ↔ role = .admin := by simp [known]
  obtain ⟨read, named, query, body⟩ := request
  cases read with
  | listDrivers query =>
    refine after_city fun asked checked => ?_
    by_cases provides : ∀ authProvider ∈ truthy query.authProvider,
        authProvider ∈ [AuthProvider.legacy, .google, .email].map AuthProvider.name
    · rw [drivers_city libs provides (validated_shows checked (by decide)),
        scopedCityId_own checked city given, asAdmin]
      exact ⟨fun own _ => own, fun own => own provides⟩
    · exact iff_of_true (fun d _ => findAllWithFilters_unknown provides) fun known =>
        absurd known provides
  | listPendingDrivers query =>
    refine after_city fun asked checked => ?_
    rw [pending_city libs rfl (by simp [truthy]) (validated_shows checked (by decide)),
      scopedCityId_own checked city given, asAdmin]
  | getPendingDrivers search skip take =>
    refine after_city fun asked checked => ?_
    rw [drivers_city libs (by simp [truthy]) (validated_shows checked (by decide)),
      scopedCityId_own checked city given]
    simp [known, (ofCity_roles cityRole).2]
  | findAll filter skip take =>
    refine after_city fun asked checked => ?_
    rw [admins_city libs (validated_shows checked (by decide)), scopedCityId_own checked city given,
      asAdmin]
  | findOne id => exact findOne_city id
  | listDeliveries query =>
    exact iff_of_true (fun d _ => listDeliveries_city query named known cityRole city given) trivial

namespace Offices

/-- A UUID by its shape. -/
def uuidText (text : String) : Bool :=
  text.toList.map (fun c => if c.isDigit || 'a' ≤ c && c ≤ 'f' || 'A' ≤ c && c ≤ 'F' then 'h' else c) =
    "hhhhhhhh-hhhh-hhhh-hhhh-hhhhhhhhhhhh".toList

def library : Libraries where
  isUUID := uuidText
  isUUID_empty := by decide
  parsesUUID := uuidText
  like := fun value search => value.any fun value => includes value.toLower search.toLower
  like_some := fun search => ⟨search, by simp [includes]⟩
  arrange := id
  arrange_perm := fun rows => .refl rows

def here : Uuid := "11111111-1111-4111-8111-111111111111"
def there : Uuid := "22222222-2222-4222-8222-222222222222"

/-- A user of this role in the one city. -/
def staff (role : Role) : AuthenticatedUser where
  userId := some "a"
  sub := some "a"
  type := some .admin
  role := some role
  permissions := some role.permissions
  isActive := some true
  cityId := .value here

/-- A driver and an admin of the other city. -/
def elsewhere : Directory where
  drivers := [("y", { registrationStatus := .pendingApproval, cityId := some there })]
  admins := [(there, { email := "a@d", cityId := some there })]

def asking : List (Role × ReadRequest) :=
  [(.cityAdmin, { read := .listDrivers {} }),
    (.cityAdmin, { read := .listPendingDrivers {} }),
    (.admin,
      { read := .listDrivers {}
        cityId := .text there
        body := fun name => if name = "cityId" then .text here else .absent }),
    (.admin, { read := .findOne there })]

end Offices

open Offices

/-- An admin lists drivers and names no city. -/
theorem city_reads_own :
    PolicyGuard.canActivate (fun _ => none) [.adminReadDriverAny]
        (({ read := .listDrivers {} } : ReadRequest).seen (staff .admin)) = true ∧
      ∀ d : Directory, d.Distinct →
        (ReadRequest.answer library d (staff .admin) { read := .listDrivers {} }).AllOf here := by
  have admitted : PolicyGuard.canActivate (fun _ => none) [.adminReadDriverAny]
      (({ read := .listDrivers {} } : ReadRequest).seen (staff .admin)) = true := by decide +kernel
  refine ⟨admitted, (city_reads library (fun _ => none) (staff .admin) .admin here _ rfl (by decide) rfl
    admitted).mpr ?_⟩
  intro asked checked _
  have unnamed : validated library .absent none none = .ok none := rfl
  cases unnamed.symm.trans checked
  exact .inr ⟨rfl, rfl⟩

/-- Lists of drivers for which a city admin names no city, one for which an admin's query names
the other city and his body his own, and the admin of the other city. -/
theorem city_reads_abroad : elsewhere.Distinct ∧ ∀ asks ∈ asking,
    PolicyGuard.canActivate (fun _ => none) [asks.2.permission] (asks.2.seen (staff asks.1)) = true ∧
      ¬ (asks.2.answer library elsewhere (staff asks.1)).AllOf here :=
  ⟨by constructor <;> decide, by decide +kernel⟩

end DriverMicroServices
