import DriverMicroServices.Capability
import DriverMicroServices.Deliveries

/-! `DriversService`: what a driver reports about himself. -/
namespace DriverMicroServices.DriversService
open Transactions Program

def findOne (id : Uuid) : Call Driver := do
  let some driver ← find (·.driver id)
    | throw (.notFound s!"Driver {id} not found")
  return driver

/-- `updateLocation`: read, set and save. It assigns no status. -/
def updateLocation (amb : Ambient) (id : Uuid) (lat lon : Rat) : Call Driver := do
  let driver ← findOne id
  let driver :=
    { driver with
      currentLat := some lat, currentLon := some lon
      lastActiveAt := some amb.now, lastLocationUpdateAt := some amb.now }
  saveDriverNow id driver
  return driver

/-- `updateStatus`: read, set and save, whatever deliveries the driver has. -/
def updateStatus (amb : Ambient) (id : Uuid) (status : DriverStatus) : Call Driver := do
  let driver ← findOne id
  let driver :=
    { driver with
      status, lastActiveAt := some amb.now, lastStatusUpdateAt := some amb.now }
  saveDriverNow id driver
  return driver

end DriverMicroServices.DriversService
