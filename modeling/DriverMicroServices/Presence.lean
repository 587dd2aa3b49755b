import DriverMicroServices.Entities
import DriverMicroServices.Expiring
import DriverMicroServices.Transitions

/-! The presence of drivers in `WebSocketGatewayHandler`. A disconnect leaves a key with
a time to live of 30 seconds, and a job that runs every 10 seconds reads how long
the keys still last. A key whose time is over is not there for the job to read, so
a driver goes offline only when the job comes in the moment before. -/
namespace DriverMicroServices
open Expiring Transitions

abbrev SocketId := String

/-- What `@WebSocketServer()` injects: the server or, where the gateway has a namespace,
that namespace, whose `sockets` are a map without a property `sockets`. -/
inductive WebSocketServer where
  | root
  | ofNamespace
  deriving DecidableEq, Repr

/-- The gateway, the sockets of drivers, the keys `driver:presence:ttl:` and the stored
status of drivers. -/
structure Gateway where
  now : Time := 0
  connectionAttempts : Uuid → List Time := fun _ => []
  driverSessions : Uuid → List SocketId := fun _ => []
  /-- The connected sockets, each with its `data.driverId`. -/
  sockets : List (SocketId × Uuid) := []
  keys : Keys Uuid := ∅
  /-- The column `status`, where there is a row. -/
  status : Uuid → Option DriverStatus
  /-- Since when the driver has had no socket, after his last one was closed. -/
  gone : Uuid → Option Time := fun _ => none
  /-- Another operation has set the status since then. -/
  setSince : Uuid → Bool := fun _ => false

inductive PresenceEvent where
  /-- A socket connects, with the driver that its token names if it is valid. -/
  | handleConnection (client : SocketId) (payload : Option Uuid) (redisFails : Bool)
  | handleDisconnect (client : SocketId) (redisFails : Bool)
  /-- A tick of the job, with the keys in the order of the `SCAN` and the time at which it
  asks for each. -/
  | processExpiredPresence (asked : List (Uuid × Time))
  /-- Another operation sets the status. -/
  | updateStatus (driverId : Uuid) (status : DriverStatus)
  /-- Time passes. -/
  | wait
  deriving DecidableEq, Repr

namespace Gateway

variable (g : Gateway)

def connectedTo (driverId : Uuid) : Bool := g.sockets.any (·.2 = driverId)

/-- `driversService.updateStatus(driverId, DriverStatus.OFFLINE)`, which throws when there is no row. -/
def markOffline (driverId : Uuid) : Option Gateway :=
  (g.status driverId).map fun _ =>
    { g with status := Function.update g.status driverId (some .offline) }

/-- The socket is closed. -/
def close (client : SocketId) (driverId : Uuid) : Gateway :=
  let sockets := g.sockets.filter (· ≠ (client, driverId))
  { g with
    sockets
    driverSessions :=
      Function.update g.driverSessions driverId ((g.driverSessions driverId).filter (· ≠ client))
    gone :=
      if sockets.any (·.2 = driverId) then g.gone
      else Function.update g.gone driverId (some g.now)
    setSince := Function.update g.setSince driverId false }

def handleDisconnect (client : SocketId) (redisFails : Bool) : Gateway :=
  match g.sockets.lookup client with
  | none => g
  | some driverId =>
    let g := g.close client driverId
    if redisFails then (g.markOffline driverId).getD g
    else { g with keys := g.keys.set g.now driverId 30000 }

/-- The socket is taken for the driver's. -/
def join (client : SocketId) (driverId : Uuid) : Gateway :=
  { g with
    sockets := (client, driverId) :: g.sockets
    driverSessions :=
      Function.update g.driverSessions driverId ((g.driverSessions driverId).insert client)
    gone := Function.update g.gone driverId none }

/-- `handleConnection`. A namespace has no `sockets.sockets`, so the loop over existing
sessions throws there, and the new socket is disconnected. -/
def handleConnection (server : WebSocketServer) (client : SocketId) (payload : Option Uuid)
    (redisFails : Bool) : Gateway :=
  match payload with
  | none => g
  | some driverId =>
    let recentAttempts := (g.connectionAttempts driverId).filter fun t => g.now - t < 60000
    if 30 ≤ recentAttempts.length then g
    else
      let g :=
        { g with
          connectionAttempts :=
            Function.update g.connectionAttempts driverId (recentAttempts ++ [g.now]) }
      let existingSessions := g.driverSessions driverId
      match server with
      | .ofNamespace => if existingSessions = [] then g.join client driverId else g
      | .root =>
        (existingSessions.foldl (fun g socketId => g.handleDisconnect socketId redisFails) g).join
          client driverId

/-- `TTL`, in seconds as the store rounds them, or -2 for a key that is not there. -/
def ttl (seconds : Int → Int) (t : Time) (driverId : Uuid) : Int :=
  ((g.keys.left? t driverId).map seconds).getD (-2)

/-- The turn of the loop in `processExpiredPresence` for one key, unless it throws. -/
def processKey (seconds : Int → Int) (connectedDrivers : List Uuid) (asked : Uuid × Time) :
    Option Gateway :=
  let (driverId, t) := asked
  if driverId ∈ connectedDrivers then some { g with keys := g.keys.del driverId }
  else if g.ttl seconds t driverId ≤ 0 then
    (g.markOffline driverId).map fun g => { g with keys := g.keys.del driverId }
  else some g

/-- The loop. What it throws ends the tick. -/
def processKeys (seconds : Int → Int) (connectedDrivers : List Uuid) :
    Gateway → List (Uuid × Time) → Gateway
  | g, [] => g
  | g, asked :: rest =>
    match g.processKey seconds connectedDrivers asked with
    | some next => processKeys seconds connectedDrivers next rest
    | none => g

/-- `processExpiredPresence`, after the `SCAN`. -/
def processExpiredPresence (server : WebSocketServer) (seconds : Int → Int)
    (asked : List (Uuid × Time)) : Gateway :=
  let connectedDrivers :=
    match server with
    | .root => g.sockets.map Prod.snd
    | .ofNamespace => []
  processKeys seconds connectedDrivers g asked

/-- One event at a time that is not before the last one. A new socket has a new id, and
a `SCAN` finds all keys that are there and no others, some of them twice. -/
def step (server : WebSocketServer) (seconds : Int → Int) (g : Gateway) :
    Time × PresenceEvent → Option Gateway
  | (t, event) =>
    if g.now ≤ t then
      let g := { g with now := t }
      match event with
      | .handleConnection client payload redisFails =>
        if g.sockets.any (·.1 = client) then none
        else some (g.handleConnection server client payload redisFails)
      | .handleDisconnect client redisFails => some (g.handleDisconnect client redisFails)
      | .processExpiredPresence asked =>
        if (∀ driverId ∈ g.keys.names t, driverId ∈ asked.map Prod.fst) ∧
            ∀ entry ∈ asked, entry.1 ∈ g.keys.names t ∧ t ≤ entry.2 then
          some (g.processExpiredPresence server seconds asked)
        else none
      | .updateStatus driverId status =>
        some
          { g with
            status := Function.update g.status driverId ((g.status driverId).map fun _ => status)
            setSince := Function.update g.setSince driverId true }
      | .wait => some g
    else none

/-- Nothing is left to do about a driver who has gone. -/
def Settled (driverId : Uuid) : Prop :=
  g.setSince driverId = true ∨ ∀ status ∈ g.status driverId, status = .offline

instance (driverId : Uuid) : Decidable (g.Settled driverId) := inferInstanceAs (Decidable (_ ∨ _))

/-- The key of a driver who has gone does not end before a tick has read it in its last
moment, and no tick reads the key of a connected driver in its last moment without
seeing his socket. -/
def Timely (server : WebSocketServer) (seconds : Int → Int) (driverId : Uuid) (g : Gateway) :
    Time × PresenceEvent → Prop
  | (t, event) =>
    ((g.gone driverId).isSome → ∀ ends ∈ g.keys.lookup driverId, ends ≤ t → g.Settled driverId) ∧
    match event with
    | .processExpiredPresence asked =>
      server = .root ∨ g.connectedTo driverId = false ∨
        ∀ entry ∈ asked, entry.1 = driverId → 0 < g.ttl seconds entry.2 driverId
    | _ => True

instance (server : WebSocketServer) (seconds : Int → Int) (driverId : Uuid) (g : Gateway) :
    (action : Time × PresenceEvent) → Decidable (g.Timely server seconds driverId action)
  | (_, event) => by
    unfold Timely
    cases event <;> infer_instance

variable {g}
variable {server : WebSocketServer} {seconds : Int → Int} {driverId : Uuid} {g' : Gateway}

/-- What the gateway and the stores say of one driver. -/
structure SameFor (driverId : Uuid) (g g' : Gateway) : Prop where
  now : g'.now = g.now
  connected : g'.connectedTo driverId = g.connectedTo driverId
  key : g'.keys.lookup driverId = g.keys.lookup driverId
  status : g'.status driverId = g.status driverId
  gone : g'.gone driverId = g.gone driverId
  setSince : g'.setSince driverId = g.setSince driverId

/-- A driver who has gone has no socket, and is settled unless his key still lasts. -/
def Awaited (driverId : Uuid) (g : Gateway) : Prop :=
  ∀ since, g.gone driverId = some since → g.connectedTo driverId = false ∧
    (g.Settled driverId ∨
      g.keys.lookup driverId = some (since + 30000) ∧ g.now < since + 30000)

theorem SameFor.awaited (same : SameFor driverId g g') (awaited : g.Awaited driverId) :
    g'.Awaited driverId := by
  intro since gone
  rw [same.gone] at gone
  obtain ⟨absent, settled | ⟨key, lasts⟩⟩ := awaited since gone
  · refine ⟨same.connected.trans absent, .inl ?_⟩
    rw [Settled, same.setSince, same.status]
    exact settled
  · exact ⟨same.connected.trans absent, .inr ⟨same.key.trans key, same.now ▸ lasts⟩⟩

private theorem markOffline_other {other : Uuid} (apart : driverId ≠ other)
    (marked : g.markOffline other = some g') : SameFor driverId g g' := by
  obtain ⟨status, -, rfl⟩ := Option.map_eq_some_iff.mp marked
  exact ⟨rfl, rfl, rfl, Function.update_of_ne apart .., rfl, rfl⟩

private theorem close_other {other : Uuid} (client : SocketId) (apart : driverId ≠ other) :
    SameFor driverId g (g.close client other) where
  now := rfl
  connected := by
    simp only [connectedTo, close, List.any_filter]
    congr 1
    funext socket
    by_cases mine : socket.2 = driverId
    · have kept : socket ≠ (client, other) := by
        rintro rfl
        exact apart mine.symm
      simp [mine, kept]
    · simp [mine]
  key := rfl
  status := rfl
  gone := by
    simp only [close]
    split
    · rfl
    · exact Function.update_of_ne apart ..
  setSince := Function.update_of_ne apart ..

private theorem connected_of_lookup {client : SocketId} (found : g.sockets.lookup client = some driverId) :
    g.connectedTo driverId = true := by
  obtain ⟨before, after, shape, -⟩ := List.lookup_eq_some_iff.mp found
  simp [connectedTo, shape]

/-- The driver's own socket is closed, and what follows settles him or sets the key. -/
theorem awaited_close {client : SocketId} {next : Gateway} (awaited : g.Awaited driverId)
    (found : g.sockets.lookup client = some driverId) (now : next.now = g.now)
    (sockets : next.sockets = (g.close client driverId).sockets)
    (gone : next.gone = (g.close client driverId).gone)
    (settled : next.Settled driverId ∨ next.keys.lookup driverId = some (g.now + 30000)) :
    next.Awaited driverId := by
  intro since left
  rw [gone] at left
  simp only [close] at left sockets
  split at left
  · have absent := (awaited since left).1
    rw [connected_of_lookup found] at absent
    cases absent
  · rename_i none
    rw [Function.update_self] at left
    cases left
    refine ⟨?_, settled.imp_right fun key => ⟨key, ?_⟩⟩
    · rw [connectedTo, sockets]
      exact Bool.eq_false_iff.mpr none
    · rw [now]
      exact Int.lt_add_of_pos_right _ (by decide)

theorem awaited_disconnect (client : SocketId) (redisFails : Bool)
    (awaited : g.Awaited driverId) : (g.handleDisconnect client redisFails).Awaited driverId := by
  unfold handleDisconnect
  split
  · exact awaited
  · rename_i other found
    by_cases apart : driverId = other
    · subst apart
      dsimp only
      split
      · cases held : g.status driverId with
        | none =>
          have unmarked : (g.close client driverId).markOffline driverId = none := by
            simp [markOffline, close, held]
          rw [unmarked]
          refine awaited_close awaited found rfl rfl rfl (.inl (.inr fun status here => ?_))
          have none : g.status driverId = some status := here
          rw [held] at none
          cases none
        | some status =>
          have marked : (g.close client driverId).markOffline driverId =
              some { g.close client driverId with
                status := Function.update g.status driverId (some .offline) } := by
            simp [markOffline, close, held]
          rw [marked]
          refine awaited_close awaited found rfl rfl rfl (.inl (.inr fun status here => ?_))
          simpa using here.symm
      · exact awaited_close awaited found rfl rfl rfl (.inr Keys.lookup_set_self)
    · have closed := (close_other client apart).awaited awaited
      dsimp only
      split
      · cases marked : (g.close client other).markOffline other with
        | none => exact closed
        | some next => exact (markOffline_other apart marked).awaited closed
      · have same : SameFor driverId (g.close client other)
            { g.close client other with
              keys := (g.close client other).keys.set (g.close client other).now other 30000 } :=
          ⟨rfl, rfl, Keys.lookup_set_ne apart, rfl, rfl, rfl⟩
        exact same.awaited closed

private theorem join_other {other : Uuid} {client : SocketId} (apart : driverId ≠ other) :
    SameFor driverId g (g.join client other) where
  now := rfl
  connected := by simp [connectedTo, join, apart.symm]
  key := rfl
  status := rfl
  gone := Function.update_of_ne apart ..
  setSince := rfl

theorem awaited_join (client : SocketId) (other : Uuid) (awaited : g.Awaited driverId) :
    (g.join client other).Awaited driverId := by
  by_cases apart : driverId = other
  · subst apart
    intro since gone
    simp [join] at gone
  · exact (join_other apart).awaited awaited

private theorem awaited_connection (client : SocketId) (payload : Option Uuid) (redisFails : Bool)
    (awaited : g.Awaited driverId) :
    (g.handleConnection server client payload redisFails).Awaited driverId := by
  unfold handleConnection
  cases payload with
  | none => exact awaited
  | some other =>
    dsimp only
    split
    · exact awaited
    · cases server with
      | ofNamespace =>
        dsimp only
        split
        · exact awaited_join client other awaited
        · exact awaited
      | root =>
        refine awaited_join client other ?_
        refine List.foldlRecOn _ _ ?_ fun g kept socketId _ => awaited_disconnect socketId redisFails kept
        exact awaited

/-- What the turn of the loop for one key may do. -/
theorem processKey_cases {connectedDrivers : List Uuid} {asked : Uuid × Time}
    (processed : g.processKey seconds connectedDrivers asked = some g') :
    (asked.1 ∈ connectedDrivers ∧ g' = { g with keys := g.keys.del asked.1 }) ∨
    asked.1 ∉ connectedDrivers ∧
      ((g.ttl seconds asked.2 asked.1 ≤ 0 ∧ (g.status asked.1).isSome ∧
        g' = { g with
          status := Function.update g.status asked.1 (some .offline)
          keys := g.keys.del asked.1 }) ∨
      0 < g.ttl seconds asked.2 asked.1 ∧ g' = g) := by
  unfold processKey at processed
  dsimp only at processed
  split at processed
  · rename_i connected
    cases processed
    exact .inl ⟨connected, rfl⟩
  · rename_i absent
    refine .inr ⟨absent, ?_⟩
    split at processed
    · rename_i elapsed
      obtain ⟨marked, offline, rfl⟩ := Option.map_eq_some_iff.mp processed
      obtain ⟨status, held, rfl⟩ := Option.map_eq_some_iff.mp offline
      exact .inl ⟨elapsed, by simp [held], rfl⟩
    · rename_i lasts
      cases processed
      exact .inr ⟨Int.not_le.mp lasts, rfl⟩

theorem processKey_other {connectedDrivers : List Uuid} {asked : Uuid × Time}
    (apart : driverId ≠ asked.1)
    (processed : g.processKey seconds connectedDrivers asked = some g') : SameFor driverId g g' := by
  rcases processKey_cases processed with ⟨-, rfl⟩ | ⟨-, ⟨-, -, rfl⟩ | ⟨-, rfl⟩⟩
  · exact ⟨rfl, rfl, Keys.lookup_del_ne apart, rfl, rfl, rfl⟩
  · exact ⟨rfl, rfl, Keys.lookup_del_ne apart, Function.update_of_ne apart .., rfl, rfl⟩
  · exact ⟨rfl, rfl, rfl, rfl, rfl, rfl⟩

/-- One key of a tick that does not take a driver who has gone for connected. -/
theorem awaited_key {connectedDrivers : List Uuid} {asked : Uuid × Time}
    (awaited : g.Awaited driverId) (unseen : (g.gone driverId).isSome → driverId ∉ connectedDrivers)
    (processed : g.processKey seconds connectedDrivers asked = some g') :
    g'.Awaited driverId ∧ g'.gone = g.gone := by
  by_cases apart : driverId = asked.1
  · subst apart
    rcases processKey_cases processed with ⟨seen, rfl⟩ | ⟨-, ⟨-, -, rfl⟩ | ⟨-, rfl⟩⟩
    · refine ⟨fun since gone => ?_, rfl⟩
      exact absurd seen (unseen (by rw [show g.gone asked.1 = some since from gone]; rfl))
    · refine ⟨fun since gone => ⟨(awaited since gone).1, .inl (.inr fun status here => ?_)⟩, rfl⟩
      simpa using here.symm
    · exact ⟨awaited, rfl⟩
  · refine ⟨(processKey_other apart processed).awaited awaited, ?_⟩
    rcases processKey_cases processed with ⟨-, rfl⟩ | ⟨-, ⟨-, -, rfl⟩ | ⟨-, rfl⟩⟩ <;> rfl

private theorem awaited_keys {connectedDrivers : List Uuid} (asked : List (Uuid × Time))
    (awaited : g.Awaited driverId) (unseen : (g.gone driverId).isSome → driverId ∉ connectedDrivers) :
    (processKeys seconds connectedDrivers g asked).Awaited driverId := by
  induction asked generalizing g with
  | nil => exact awaited
  | cons entry rest ih =>
    rw [processKeys]
    cases processed : g.processKey seconds connectedDrivers entry with
    | none => exact awaited
    | some next =>
      obtain ⟨kept, gone⟩ := awaited_key awaited unseen processed
      exact ih kept (by rwa [gone])

/-- A tick that knows a driver for connected, or finds his key lasting, leaves his status. -/
theorem keys_status {connectedDrivers : List Uuid} (asked : List (Uuid × Time))
    (spared : driverId ∈ connectedDrivers ∨
      ∀ entry ∈ asked, entry.1 = driverId → 0 < g.ttl seconds entry.2 driverId) :
    (processKeys seconds connectedDrivers g asked).status driverId = g.status driverId := by
  induction asked generalizing g with
  | nil => rfl
  | cons entry rest ih =>
    rw [processKeys]
    cases processed : g.processKey seconds connectedDrivers entry with
    | none => rfl
    | some next =>
      by_cases apart : driverId = entry.1
      · subst apart
        rcases processKey_cases processed with ⟨seen, rfl⟩ | ⟨unseen, ⟨elapsed, -, rfl⟩ | ⟨-, rfl⟩⟩
        · exact ih (.inl seen)
        · rcases spared with seen | lasts
          · exact absurd seen unseen
          · exact absurd elapsed (Int.not_le.mpr (lasts entry List.mem_cons_self rfl))
        · exact ih (spared.imp_right fun lasts later member => lasts later (List.mem_cons_of_mem _ member))
      · have same := processKey_other apart processed
        rw [ih, same.status]
        refine spared.imp_right fun lasts later member mine => ?_
        have kept := lasts later (List.mem_cons_of_mem _ member) mine
        rwa [ttl, Keys.left?, same.key]

/-- A tick in time leaves the status of a driver who is connected. -/
theorem tick_status {t : Time} {asked : List (Uuid × Time)}
    (spared : server = .root ∨ g.connectedTo driverId = false ∨
      ∀ entry ∈ asked, entry.1 = driverId → 0 < g.ttl seconds entry.2 driverId)
    (connected : g.connectedTo driverId = true)
    (stepped : step server seconds g (t, .processExpiredPresence asked) = some g') :
    g'.status driverId = g.status driverId := by
  simp only [step] at stepped
  split at stepped
  · split at stepped
    · cases stepped
      refine keys_status asked ?_
      rcases spared with rfl | absent | lasts
      · obtain ⟨socket, listed, mine⟩ := List.any_eq_true.mp connected
        exact .inl (List.mem_map.mpr ⟨socket, listed, by simpa using mine⟩)
      · rw [connected] at absent
        cases absent
      · exact .inr lasts
    · cases stepped
  · cases stepped

/-- The time of the next event comes. -/
theorem awaited_later {t : Time} (awaited : g.Awaited driverId)
    (timely : (g.gone driverId).isSome → ∀ ends ∈ g.keys.lookup driverId, ends ≤ t → g.Settled driverId) :
    Awaited driverId { g with now := t } := by
  intro since gone
  have left : g.gone driverId = some since := gone
  obtain ⟨absent, settled | ⟨key, -⟩⟩ := awaited since left
  · exact ⟨absent, .inl settled⟩
  · refine ⟨absent, ?_⟩
    by_cases lasts : t < since + 30000
    · exact .inr ⟨key, lasts⟩
    · exact .inl (timely (by simp [left]) _ key (Int.not_lt.mp lasts))

/-- One event in time. -/
theorem awaited_step {action : Time × PresenceEvent} (awaited : g.Awaited driverId)
    (timely : g.Timely server seconds driverId action)
    (stepped : step server seconds g action = some g') : g'.Awaited driverId := by
  obtain ⟨t, event⟩ := action
  have kept := awaited_later awaited timely.1
  simp only [step] at stepped
  split at stepped
  · cases event with
    | handleConnection client payload redisFails =>
      dsimp only at stepped
      split at stepped
      · cases stepped
      · cases stepped
        exact awaited_connection client payload redisFails kept
    | handleDisconnect client redisFails =>
      cases stepped
      exact awaited_disconnect client redisFails kept
    | processExpiredPresence asked =>
      dsimp only at stepped
      split at stepped
      · cases stepped
        refine awaited_keys asked kept fun gone => ?_
        obtain ⟨since, left⟩ := Option.isSome_iff_exists.mp gone
        have absent := (kept since left).1
        cases server with
        | ofNamespace => simp
        | root =>
          intro seen
          obtain ⟨socket, listed, mine⟩ := List.mem_map.mp seen
          exact absurd (by simpa using mine) (List.any_eq_false.mp absent socket listed)
      · cases stepped
    | updateStatus other status =>
      cases stepped
      by_cases apart : driverId = other
      · subst apart
        exact fun since gone => ⟨(kept since gone).1, .inl (.inl (Function.update_self ..))⟩
      · refine SameFor.awaited (g := { g with now := t }) ⟨rfl, rfl, rfl, ?_, rfl, ?_⟩ kept
        · exact Function.update_of_ne apart ..
        · exact Function.update_of_ne apart ..
    | wait =>
      cases stepped
      exact kept
  · cases stepped

end Gateway

open Gateway

/-- Disconnected drivers go offline: in a run that is timely for a driver, he is offline
once he has had no socket for more than the 30 seconds and one tick, unless another
operation has set his status since, and no tick sets him offline while he has one. -/
theorem driver_offline (server : WebSocketServer) (seconds : Int → Int)
    (status : Uuid → Option DriverStatus) (driverId : Uuid) {actions : List (Time × PresenceEvent)}
    {g : Gateway} (timely : Admits (step server seconds) (Timely server seconds driverId) { status } actions)
    (ran : run (step server seconds) { status } actions = some g) :
    (∀ since, g.gone driverId = some since → since + 40000 < g.now → g.setSince driverId = false →
      ∀ stored ∈ g.status driverId, stored = .offline) ∧
    ∀ taken ∈ trace (step server seconds) { status } actions, ∀ asked,
      taken.action.2 = .processExpiredPresence asked → taken.before.connectedTo driverId = true →
        taken.after.status driverId = taken.before.status driverId := by
  have keeps : ∀ {g : Gateway} {action g'}, g.Awaited driverId → g.Timely server seconds driverId action →
      step server seconds g action = some g' → g'.Awaited driverId :=
    fun awaited timely stepped => awaited_step awaited timely stepped
  have start : Awaited driverId { status } := fun since gone => by cases gone
  constructor
  · intro since gone elapsed unset
    obtain ⟨-, (set | offline) | ⟨-, lasts⟩⟩ := run_inv keeps start timely ran since gone
    · rw [unset] at set
      cases set
    · exact offline
    · exact absurd lasts (Int.not_lt.mpr (Int.le_of_lt (Int.lt_of_le_of_lt (Int.add_le_add_left (by decide) _) elapsed)))
  · rintro ⟨before, ⟨t, event⟩, after⟩ member asked rfl connected
    obtain ⟨-, now, stepped⟩ := trace_inv keeps start timely _ member
    dsimp only at *
    exact tick_status now.2 connected stepped

/-- What Redis answers to `TTL`: the milliseconds left, rounded to seconds. -/
def redisSeconds (left : Int) : Int := (left + 500) / 1000

/-- Every driver has a row and is available. -/
def allAvailable : Gateway := { status := fun _ => some .available }

/-- A tick 400 milliseconds before the key ends, so that 0 seconds are left. -/
def lastMoment : List (Time × PresenceEvent) :=
  [(0, .handleConnection "s" (some "x") false), (400, .handleDisconnect "s" false),
   (10000, .processExpiredPresence [("x", 10000)]), (20000, .processExpiredPresence [("x", 20001)]),
   (30000, .processExpiredPresence [("x", 30000)]), (40000, .processExpiredPresence []),
   (50000, .processExpiredPresence [])]

theorem driver_offline_last_moment :
    (run (step .ofNamespace redisSeconds) allAvailable lastMoment).isSome ∧
      ∀ g, run (step .ofNamespace redisSeconds) allAvailable lastMoment = some g →
        ∀ since, g.gone "x" = some since → since + 40000 < g.now → g.setSince "x" = false →
          ∀ stored ∈ g.status "x", stored = .offline :=
  ⟨by decide, fun g ran =>
    (driver_offline .ofNamespace redisSeconds allAvailable.status "x" (by decide) ran).1⟩

/-- The same ticks for a driver who has gone 600 milliseconds later. -/
def aSecondLeft : List (Time × PresenceEvent) :=
  [(0, .handleConnection "s" (some "x") false), (1000, .handleDisconnect "s" false),
   (10000, .processExpiredPresence [("x", 10000)]), (20000, .processExpiredPresence [("x", 20000)]),
   (30000, .processExpiredPresence [("x", 30000)]), (40000, .processExpiredPresence []),
   (50000, .processExpiredPresence [])]

/-- A driver who comes back on another socket before the last tick. -/
def reconnected : List (Time × PresenceEvent) :=
  [(0, .handleConnection "s" (some "x") false), (400, .handleDisconnect "s" false),
   (1000, .handleConnection "t" (some "x") false)]

/-- A driver who has gone stays available for good, whatever the gateway holds; and with a
namespace a tick sets a driver offline who is connected. -/
theorem driver_stays_available :
    (∀ server : WebSocketServer,
      (run (step server redisSeconds) allAvailable aSecondLeft).map
        (fun g => (g.gone "x", g.now, g.setSince "x", g.status "x")) =
          some (some 1000, 50000, false, some .available)) ∧
    ((run (step .ofNamespace redisSeconds) allAvailable reconnected).map fun g =>
      (g.connectedTo "x", g.status "x",
        (step .ofNamespace redisSeconds g (30000, .processExpiredPresence [("x", 30000)])).map
          (·.status "x"))) = some (true, some .available, some (some .offline)) := by
  refine ⟨fun server => ?_, by decide⟩
  cases server <;> decide

end DriverMicroServices
