import DriverMicroServices.Drivers

/-! The search for the nearest driver: the members that Redis finds near the pickup,
those of them that Redis calls available and online, the rows that the database
gives for them, and of these the ones whose coordinates are numbers. The driver
hands `numeric` columns over as strings, so none is left. -/
namespace DriverMicroServices

/-- Distances in kilometres, which the code computes in floating point: those of
`GEOSEARCH`, those of the SQL of `findAvailableFromDb`, which fails where the
argument of `acos` is out of range, and those of `calculateDistance`. -/
structure Distances where
  geosearch : Rat × Rat → Rat × Rat → Rat
  haversine : Rat × Rat → Rat × Rat → Option Rat
  calculateDistance : Rat → Rat → Rat → Rat → Rat

/-- What Redis holds about drivers, and which of its commands fail. -/
structure DriverIndex where
  /-- The members at `GEO_KEY`, with latitude and longitude. -/
  members : List (Uuid × Rat × Rat)
  /-- The hash at `STATUS_KEY`. -/
  status : Uuid → Option String
  /-- The drivers whose `ONLINE_KEY_PREFIX` key has not expired. -/
  online : Uuid → Bool
  searchFails : Bool := false
  pipelineFails : Bool := false
  commandFails : Uuid → Bool := fun _ => false

/-- A driver near a place. -/
structure NearbyDriver where
  driverId : Uuid
  distanceKm : Rat
  deriving DecidableEq

/-- A `Driver` object as TypeORM loads it. -/
structure DriverEntity where
  id : Uuid
  row : Driver
  currentLat : Option Coordinate
  currentLon : Option Coordinate

/-- The text of a `numeric(10, 8)`. -/
def numericText (value : Rat) : String :=
  let units := ((if value < 0 then -value else value) * 100000000).floor.toNat
  let decimals := toString (units % 100000000)
  (if value < 0 then "-" else "") ++ toString (units / 100000000) ++ "." ++
    String.ofList (List.replicate (8 - decimals.length) '0') ++ decimals

/-- `getMany` and `find` make an object of each row. -/
def Driver.load (id : Uuid) (driver : Driver) : DriverEntity where
  id := id
  row := driver
  currentLat := driver.currentLat.map fun value => .text (numericText value)
  currentLon := driver.currentLon.map fun value => .text (numericText value)

/-- The conditions on a driver in all queries of `findAvailable`. -/
def Driver.Assignable (driver : Driver) : Prop :=
  driver.isActive = true ∧ driver.status = .available ∧ driver.registrationStatus = .approved

instance (driver : Driver) : Decidable driver.Assignable := inferInstanceAs (Decidable (_ ∧ _ ∧ _))

variable (distances : Distances) (redis : DriverIndex) (db : Db)

/-- `GEOSEARCH ... BYRADIUS ... WITHDIST COUNT`: the nearest members, in ascending distance. -/
def DriverIndex.geosearch (place : Rat × Rat) (radiusKm : Rat) (count : Nat) : List NearbyDriver :=
  let near := redis.members.filterMap fun (driverId, position) =>
    let distanceKm := distances.geosearch place position
    if distanceKm ≤ radiusKm then some { driverId, distanceKm } else none
  (near.mergeSort fun a b => a.distanceKm ≤ b.distanceKm).take count

namespace RedisService

def findAvailableDrivers (lat lon radiusKm : Rat) (limit : Nat) :
    Except Exception (List NearbyDriver) :=
  let safeRadiusKm := if radiusKm ≤ 100 then radiusKm else 100
  let results :=
    if redis.searchFails then [] else redis.geosearch distances (lat, lon) safeRadiusKm limit
  if results = [] then .ok []
  else if redis.pipelineFails then
    .error (.error "Cannot read properties of null")
  else
    .ok <| results.filter fun result =>
      !redis.commandFails result.driverId ∧ redis.status result.driverId = some "AVAILABLE" ∧
        redis.online result.driverId

end RedisService

namespace DriversService

/-- `ORDER BY last_active_at DESC`: PostgreSQL puts rows without a value first. -/
def laterActive (a b : DriverEntity) : Bool :=
  match a.row.lastActiveAt, b.row.lastActiveAt with
  | none, _ => true
  | some _, none => false
  | some first, some second => second ≤ first

/-- The rows that can be assigned, as the query loads them. -/
def assignable : List DriverEntity :=
  db.drivers.filterMap fun (id, driver) =>
    if driver.Assignable then some (driver.load id) else none

def findAvailableFromDb (lat lon radiusKm : Rat) (limit : Nat) :
    Except Exception (List DriverEntity) :=
  let located := (assignable db).filterMap fun driver =>
    match driver.row.currentLat, driver.row.currentLon with
    | some currentLat, some currentLon => some (driver, currentLat, currentLon)
    | _, _ => none
  let measured := located.mapM fun (driver, position) =>
    (distances.haversine (lat, lon) position).map fun distance => (driver, distance)
  match measured with
  | none => .error (.error "input is out of range")
  | some measured =>
    let near := (measured.filter (·.2 ≤ radiusKm)).mergeSort fun a b => a.2 ≤ b.2
    .ok ((near.take limit).map Prod.fst)

/-- `findAvailable`. The promise of `findAvailableFromDb` is returned and not awaited, so
its errors pass the `catch` by. -/
def findAvailable (place : Option (Rat × Rat)) (radiusKm : Option Rat) :
    Except Exception (List DriverEntity) :=
  let limit := 50
  let byActivity := ((assignable db).mergeSort laterActive).take limit
  match place with
  | none => .ok byActivity
  | some (lat, lon) =>
    let radiusKm := (radiusKm.filter (· ≠ 0)).getD 5
    match RedisService.findAvailableDrivers distances redis lat lon radiusKm limit with
    | .error _ => .ok byActivity
    | .ok redisDrivers =>
      if redisDrivers = [] then findAvailableFromDb distances db lat lon radiusKm limit
      else
        .ok <| redisDrivers.filterMap fun redisDriver =>
          (assignable db).find? (·.id = redisDriver.driverId)

end DriversService

namespace AssignmentService

/-- `findNearestAvailableDriver`, with the test for numbers. -/
def findNearestAvailableDriver (pickupLat pickupLon : Rat) :
    Except Exception (Option DriverEntity) :=
  match DriversService.findAvailable distances redis db (some (pickupLat, pickupLon)) (some 5) with
  | .error error => .error error
  | .ok availableDrivers =>
    let driversWithDistance := availableDrivers.filterMap fun driver =>
      match driver.currentLat.bind Coordinate.number?, driver.currentLon.bind Coordinate.number? with
      | some currentLat, some currentLon =>
        some (driver, distances.calculateDistance currentLat currentLon pickupLat pickupLon)
      | _, _ => none
    .ok (((driversWithDistance.mergeSort fun a b => a.2 ≤ b.2).head?).map Prod.fst)

end AssignmentService

/-- The driver can be assigned, and Redis has him available, online and at this distance
of the pickup, which is within 5 km. -/
def EligibleAt (pickup : Rat × Rat) (driverId : Uuid) (distanceKm : Rat) : Prop :=
  (∃ driver, db.driver driverId = some driver ∧ driver.Assignable) ∧
    redis.status driverId = some "AVAILABLE" ∧ redis.online driverId = true ∧ distanceKm ≤ 5 ∧
    ∃ position, (driverId, position) ∈ redis.members ∧
      distances.geosearch pickup position = distanceKm

variable {distances : Distances} {redis : DriverIndex} {db : Db}

open DriversService in
/-- No object that a query loads has a number for a coordinate. -/
theorem assignable_text {driver : DriverEntity} (listed : driver ∈ assignable db) :
    driver.currentLat.bind Coordinate.number? = none := by
  obtain ⟨⟨id, row⟩, -, chosen⟩ := List.mem_filterMap.mp listed
  dsimp only at chosen
  split at chosen
  · cases chosen
    cases held : row.currentLat <;> simp [Driver.load, held, Coordinate.number?]
  · cases chosen

/-- Where the results of a traversal come from. -/
theorem of_mapM {α β : Type} {f : α → Option β} {items : List α} {results : List β}
    (ran : items.mapM f = some results) : ∀ b ∈ results, ∃ a ∈ items, f a = some b := by
  induction items generalizing results with
  | nil =>
    cases ran
    simp
  | cons item rest ih =>
    rw [List.mapM_cons] at ran
    obtain ⟨first, here, ran⟩ := Option.bind_eq_some_iff.mp ran
    obtain ⟨others, there, ran⟩ := Option.bind_eq_some_iff.mp ran
    cases ran
    intro b member
    rcases List.mem_cons.mp member with rfl | member
    · exact ⟨item, List.mem_cons_self, here⟩
    · obtain ⟨a, listed, gives⟩ := ih there b member
      exact ⟨a, List.mem_cons_of_mem _ listed, gives⟩

open DriversService in
private theorem findAvailableFromDb_assignable {lat lon radiusKm : Rat} {limit : Nat}
    {found : List DriverEntity}
    (ended : findAvailableFromDb distances db lat lon radiusKm limit = .ok found) :
    ∀ driver ∈ found, driver ∈ assignable db := by
  unfold findAvailableFromDb at ended
  dsimp only at ended
  split at ended
  · cases ended
  · rename_i measured ran
    cases ended
    intro driver member
    obtain ⟨near, taken, rfl⟩ := List.mem_map.mp member
    have kept := List.mem_of_mem_filter (List.mem_mergeSort.mp (List.mem_of_mem_take taken))
    obtain ⟨⟨driver, position⟩, located, distance⟩ := of_mapM ran near kept
    obtain ⟨km, -, rfl⟩ := Option.map_eq_some_iff.mp distance
    obtain ⟨loaded, listed, placed⟩ := List.mem_filterMap.mp located
    split at placed
    · cases placed
      exact listed
    · cases placed

open DriversService in
/-- Whichever way the search takes, it finds drivers who can be assigned. -/
theorem findAvailable_assignable {place : Option (Rat × Rat)} {radiusKm : Option Rat}
    {found : List DriverEntity}
    (ended : findAvailable distances redis db place radiusKm = .ok found) :
    ∀ driver ∈ found, driver ∈ assignable db := by
  have byActivity : ∀ driver ∈ ((assignable db).mergeSort laterActive).take 50,
      driver ∈ assignable db :=
    fun driver member => List.mem_mergeSort.mp (List.mem_of_mem_take member)
  unfold findAvailable at ended
  split at ended
  · cases ended
    exact byActivity
  · dsimp only at ended
    split at ended
    · cases ended
      exact byActivity
    · split at ended
      · exact findAvailableFromDb_assignable ended
      · cases ended
        intro driver member
        obtain ⟨redisDriver, -, there⟩ := List.mem_filterMap.mp member
        exact List.mem_of_find?_eq_some there

/-- The search for the nearest driver finds nobody. -/
theorem findNearest_none {pickupLat pickupLon : Rat} {found : Option DriverEntity}
    (ended : AssignmentService.findNearestAvailableDriver distances redis db pickupLat pickupLon =
      .ok found) : found = none := by
  unfold AssignmentService.findNearestAvailableDriver at ended
  split at ended
  · cases ended
  · rename_i availableDrivers available
    cases ended
    have none_left : (availableDrivers.filterMap fun driver =>
        match driver.currentLat.bind Coordinate.number?, driver.currentLon.bind Coordinate.number? with
        | some currentLat, some currentLon =>
          some (driver, distances.calculateDistance currentLat currentLon pickupLat pickupLon)
        | _, _ => none) = [] := by
      refine List.filterMap_eq_nil_iff.mpr fun driver member => ?_
      rw [assignable_text (findAvailable_assignable available driver member)]
    rw [none_left]
    simp

/-- Wherever a driver is eligible, the search misses the nearest one. -/
theorem nearest_missed (distances : Distances) (redis : DriverIndex) (db : Db)
    (pickupLat pickupLon : Rat) :
    (∃ driverId distanceKm, EligibleAt distances redis db (pickupLat, pickupLon) driverId distanceKm) →
      ¬ ∃ driver distanceKm,
        AssignmentService.findNearestAvailableDriver distances redis db pickupLat pickupLon =
          .ok (some driver) ∧
        EligibleAt distances redis db (pickupLat, pickupLon) driver.id distanceKm ∧
        ∀ other otherKm, EligibleAt distances redis db (pickupLat, pickupLon) other otherKm →
          distanceKm ≤ otherKm := by
  rintro - ⟨driver, distanceKm, found, -⟩
  cases findNearest_none found

/-- One driver who is ready, at the pickup itself. -/
def standing : DriverIndex where
  members := [("x", 12, 77)]
  status := fun _ => some "AVAILABLE"
  online := fun _ => true

def degreesBetween (a b : Rat) : Rat := if a < b then b - a else a - b

/-- Distances on a flat map, where a degree counts for a kilometre. -/
def flat : Distances where
  geosearch := fun a b => degreesBetween a.1 b.1 + degreesBetween a.2 b.2
  haversine := fun a b => some (degreesBetween a.1 b.1 + degreesBetween a.2 b.2)
  calculateDistance := fun lat₁ lon₁ lat₂ lon₂ => degreesBetween lat₁ lat₂ + degreesBetween lon₁ lon₂

/-- The row of that driver. -/
def parked : Driver where
  registrationStatus := .approved
  currentLat := some 12
  currentLon := some 77

def pickupPlace : Db := (Transactions.Store.empty : Db).set (.driver "x") parked

theorem standing_eligible : EligibleAt flat standing pickupPlace (12, 77) "x" 0 := by
  refine ⟨⟨parked, ?_, by decide⟩, rfl, rfl, by decide, (12, 77), List.mem_singleton_self _,
    by decide +kernel⟩
  exact Transactions.Store.set_row_self ..

theorem nearest_missed_standing :
    ¬ ∃ driver distanceKm,
      AssignmentService.findNearestAvailableDriver flat standing pickupPlace 12 77 = .ok (some driver) ∧
        EligibleAt flat standing pickupPlace (12, 77) driver.id distanceKm ∧
        ∀ other otherKm, EligibleAt flat standing pickupPlace (12, 77) other otherKm →
          distanceKm ≤ otherKm :=
  nearest_missed flat standing pickupPlace 12 77 ⟨"x", 0, standing_eligible⟩

/-- The driver is found by both filters and lost to the test for numbers. -/
theorem nearest_null :
    EligibleAt flat standing pickupPlace (12, 77) "x" 0 ∧
      ((DriversService.findAvailable flat standing pickupPlace (some (12, 77)) (some 5)).toOption.map
        fun found => found.map fun driver => (driver.id, driver.currentLat)) =
          some [("x", some (.text "12.00000000"))] ∧
      (AssignmentService.findNearestAvailableDriver flat standing pickupPlace 12 77).toOption.map
        Option.isNone = some true := by
  refine ⟨standing_eligible, ?_, ?_⟩
  · decide +kernel
  · decide +kernel

end DriverMicroServices
