import DriverMicroServices.DriverSearch
import DriverMicroServices.Expiring
import DriverMicroServices.Tables.Keyed
import DriverMicroServices.Transitions

/-! The index of drivers in Redis over time. Three keys are kept in step by the commands of
`RedisService`, and one of them runs out by itself, so what a search finds is what the
history of each driver says: the last command that placed or withdrew him, and the
heartbeats since. A heartbeat alone brings nobody back. -/
namespace DriverMicroServices
open Expiring Tables.Keyed Transitions

/-- The sorted set at `GEO_KEY`, the hash at `STATUS_KEY` and the keys at `ONLINE_KEY_PREFIX`. -/
structure RedisDrivers where
  now : Time := 0
  geo : List (Uuid × Rat × Rat) := []
  status : Uuid → Option String := fun _ => none
  online : Keys Uuid := ∅

namespace RedisDrivers

variable (s : RedisDrivers)

/-- `GEOADD`, `HSET` and `SET EX` in one pipeline. -/
def place (driverId : Uuid) (lat lon : Rat) (status : String) (ttlSeconds : Nat) : RedisDrivers :=
  { s with
    geo := put s.geo driverId (lat, lon)
    status := Function.update s.status driverId (some status)
    online := s.online.set s.now driverId (ttlSeconds * 1000) }

/-- `ZREM`, `HSET` and `DEL` in one pipeline. -/
def withdraw (driverId : Uuid) (status : String) : RedisDrivers :=
  { s with
    geo := remove s.geo driverId
    status := Function.update s.status driverId (some status)
    online := s.online.del driverId }

def updateDriverLocation (driverId : Uuid) (lat lon : Rat) (ttlSeconds : Nat) : RedisDrivers :=
  s.place driverId lat lon "AVAILABLE" ttlSeconds

def markDriverBusy (driverId : Uuid) : RedisDrivers := s.withdraw driverId "BUSY"

def markDriverOffline (driverId : Uuid) : RedisDrivers := s.withdraw driverId "OFFLINE"

def updateDriverPresence (driverId : Uuid) (lat lon : Rat) (status : String) (ttlSeconds : Nat) :
    RedisDrivers :=
  if status = "AVAILABLE" ∨ status = "BUSY" then s.place driverId lat lon status ttlSeconds
  else s.withdraw driverId "OFFLINE"

/-- The key that `handleHeartbeat` sets. -/
def handleHeartbeat (driverId : Uuid) : RedisDrivers :=
  { s with online := s.online.set s.now driverId 60000 }

/-- What a search at a later time meets, when every command of its pipeline succeeds. -/
def indexAt (t : Time) : DriverIndex where
  members := s.geo
  status := s.status
  online := s.online.present t

end RedisDrivers

inductive IndexCommand where
  | updateDriverLocation (driverId : Uuid) (lat lon : Rat) (ttlSeconds : Nat)
  | markDriverBusy (driverId : Uuid)
  | markDriverOffline (driverId : Uuid)
  | updateDriverPresence (driverId : Uuid) (lat lon : Rat) (status : String) (ttlSeconds : Nat)
  | handleHeartbeat (driverId : Uuid)
  deriving DecidableEq

def IndexCommand.driverId : IndexCommand → Uuid
  | .updateDriverLocation driverId .. | .markDriverBusy driverId | .markDriverOffline driverId
  | .updateDriverPresence driverId .. | .handleHeartbeat driverId => driverId

def RedisDrivers.execute (s : RedisDrivers) : IndexCommand → RedisDrivers
  | .updateDriverLocation driverId lat lon ttlSeconds => s.updateDriverLocation driverId lat lon ttlSeconds
  | .markDriverBusy driverId => s.markDriverBusy driverId
  | .markDriverOffline driverId => s.markDriverOffline driverId
  | .updateDriverPresence driverId lat lon status ttlSeconds =>
    s.updateDriverPresence driverId lat lon status ttlSeconds
  | .handleHeartbeat driverId => s.handleHeartbeat driverId

/-- One command at a time that is not before the last one. -/
def RedisDrivers.step (s : RedisDrivers) : Time × IndexCommand → Option RedisDrivers
  | (t, command) => if s.now ≤ t then some ({ s with now := t }.execute command) else none

/-! ## Histories -/

/-- The place that a command offers its driver at, and how long it lasts. -/
def IndexCommand.offer? : IndexCommand → Option ((Rat × Rat) × Time)
  | .updateDriverLocation _ lat lon ttlSeconds => some ((lat, lon), ttlSeconds * 1000)
  | .updateDriverPresence _ lat lon status ttlSeconds =>
    if status = "AVAILABLE" then some ((lat, lon), ttlSeconds * 1000) else none
  | _ => none

/-- When the heartbeats of a driver let his key end. -/
def beatsUntil (driverId : Uuid) (ends : Time) (after : List (Time × IndexCommand)) : Time :=
  after.foldl (fun ends entry => if entry.2.driverId = driverId then entry.1 + 60000 else ends) ends

/-- The last command of the driver but for heartbeats offers him there, and his key ends then. -/
def Offered (past : List (Time × IndexCommand)) (driverId : Uuid) (position : Rat × Rat) (ends : Time) :
    Prop :=
  ∃ before offeredAt command ttl after, past = before ++ (offeredAt, command) :: after ∧
    command.driverId = driverId ∧ command.offer? = some (position, ttl) ∧
    (∀ entry ∈ after, entry.2.driverId = driverId → entry.2 = .handleHeartbeat driverId) ∧
    beatsUntil driverId (offeredAt + ttl) after = ends

section Histories

variable {past : List (Time × IndexCommand)} {driverId : Uuid} {position : Rat × Rat} {ends t : Time}
  {command : IndexCommand}

theorem offered_concat : Offered (past ++ [(t, command)]) driverId position ends ↔
    (command.driverId = driverId ∧ ∃ ttl, command.offer? = some (position, ttl) ∧ t + ttl = ends) ∨
      (command = .handleHeartbeat driverId ∧ t + 60000 = ends ∧ ∃ earlier, Offered past driverId position earlier) ∨
      command.driverId ≠ driverId ∧ Offered past driverId position ends := by
  constructor
  · rintro ⟨before, offeredAt, command', ttl, after, parts, own, offers, beats, until_⟩
    induction after using List.reverseRecOn with
    | nil =>
      obtain ⟨_, same⟩ := List.append_inj' parts rfl
      cases same
      exact .inl ⟨own, ttl, offers, until_⟩
    | append_singleton after last _ =>
      rw [← List.cons_append, ← List.append_assoc] at parts
      obtain ⟨earlier, same⟩ := List.append_inj' parts rfl
      cases same
      have beats' : ∀ entry ∈ after, entry.2.driverId = driverId → entry.2 = .handleHeartbeat driverId :=
        fun entry member => beats entry (List.mem_append_left _ member)
      have offered : Offered past driverId position (beatsUntil driverId (offeredAt + ttl) after) :=
        ⟨before, offeredAt, command', ttl, after, earlier, own, offers, beats', rfl⟩
      rw [beatsUntil, List.foldl_append] at until_
      by_cases mine : command.driverId = driverId
      · refine .inr (.inl ⟨beats _ (List.mem_append_right _ (List.mem_singleton_self _)) mine, ?_, _, offered⟩)
        simpa [mine] using until_
      · refine .inr (.inr ⟨mine, ?_⟩)
        simp only [List.foldl_cons, List.foldl_nil, mine, ↓reduceIte] at until_
        exact until_ ▸ offered
  · rintro (⟨own, ttl, offers, until_⟩ | ⟨rfl, until_, _, before, offeredAt, command', ttl, after, rfl,
      own, offers, beats, _⟩ | ⟨other, before, offeredAt, command', ttl, after, rfl, own, offers, beats, until_⟩)
    · exact ⟨past, t, command, ttl, [], rfl, own, offers, by simp, until_⟩
    · refine ⟨before, offeredAt, command', ttl, after ++ [(t, .handleHeartbeat driverId)], by simp, own,
        offers, fun entry member mine => ?_, ?_⟩
      · rcases List.mem_append.mp member with member | member
        · exact beats entry member mine
        · cases List.mem_singleton.mp member
          rfl
      · rw [beatsUntil, List.foldl_append]
        simpa [IndexCommand.driverId] using until_
    · refine ⟨before, offeredAt, command', ttl, after ++ [(t, command)], by simp, own, offers,
        fun entry member mine => ?_, ?_⟩
      · rcases List.mem_append.mp member with member | member
        · exact beats entry member mine
        · cases List.mem_singleton.mp member
          exact absurd mine other
      · rw [beatsUntil, List.foldl_append]
        simp only [List.foldl_cons, List.foldl_nil, other, ↓reduceIte]
        exact until_

end Histories

namespace RedisDrivers

/-- The three keys say of every driver what the history says. -/
structure Follows (past : List (Time × IndexCommand)) (s : RedisDrivers) : Prop where
  offered : ∀ driverId position ends, (get s.geo driverId = some position ∧
    s.status driverId = some "AVAILABLE" ∧ s.online.lookup driverId = some ends) ↔
      Offered past driverId position ends
  /-- A member has had a key. -/
  keyed : ∀ driverId position, get s.geo driverId = some position → (s.online.lookup driverId).isSome
  distinct : Distinct s.geo

section Steps

variable {s s' : RedisDrivers} {past : List (Time × IndexCommand)} {driverId : Uuid} {t : Time}
  {command : IndexCommand}

/-- A command says nothing of other drivers. -/
theorem Follows.next (follow : Follows past s) (own : command.driverId = driverId)
    (others : ∀ other, other ≠ driverId → get s'.geo other = get s.geo other ∧
      s'.status other = s.status other ∧ s'.online.lookup other = s.online.lookup other)
    (mine : ∀ position ends, (get s'.geo driverId = some position ∧
      s'.status driverId = some "AVAILABLE" ∧ s'.online.lookup driverId = some ends) ↔
        Offered (past ++ [(t, command)]) driverId position ends)
    (keyed : ∀ position, get s'.geo driverId = some position → (s'.online.lookup driverId).isSome)
    (distinct : Distinct s'.geo) : Follows (past ++ [(t, command)]) s' := by
  refine ⟨fun other position ends => ?_, fun other position held => ?_, distinct⟩
  · by_cases same : other = driverId
    · exact same ▸ mine position ends
    · obtain ⟨geo, status, online⟩ := others other same
      have apart : command.driverId ≠ other := fun this => same (this.symm.trans own)
      have beat : command ≠ .handleHeartbeat other := by
        rintro rfl
        exact apart rfl
      rw [geo, status, online, follow.offered, offered_concat]
      simp [apart, beat]
  · by_cases same : other = driverId
    · exact same ▸ keyed position (same ▸ held)
    · obtain ⟨geo, _, online⟩ := others other same
      rw [geo] at held
      rw [online]
      exact follow.keyed other position held

theorem Follows.place {lat lon : Rat} {status : String} {ttlSeconds : Nat} (follow : Follows past s)
    (own : command.driverId = driverId) (offers : command.offer? =
      if status = "AVAILABLE" then some ((lat, lon), (ttlSeconds * 1000 : Time)) else none)
    (beat : command ≠ .handleHeartbeat driverId) :
    Follows (past ++ [(t, command)]) ({ s with now := t }.place driverId lat lon status ttlSeconds) := by
  refine follow.next own (fun other apart => ?_) (fun position ends => ?_) (fun position _ => ?_)
    (follow.distinct.put _ _)
  · exact ⟨get_put_ne apart, Function.update_of_ne apart .., Keys.lookup_set_ne apart⟩
  · rw [offered_concat]
    by_cases available : status = "AVAILABLE"
    · simp [RedisDrivers.place, available, own, beat, offers]
    · simp [RedisDrivers.place, available, own, beat, offers]
  · simp [RedisDrivers.place]

theorem Follows.withdraw {status : String} (follow : Follows past s) (own : command.driverId = driverId)
    (offers : command.offer? = none) (beat : command ≠ .handleHeartbeat driverId) :
    Follows (past ++ [(t, command)]) ({ s with now := t }.withdraw driverId status) := by
  refine follow.next own (fun other apart => ?_) (fun position ends => ?_) (fun position held => ?_)
    (follow.distinct.remove _)
  · exact ⟨get_remove_ne apart, Function.update_of_ne apart .., Keys.lookup_del_ne apart⟩
  · rw [offered_concat]
    simp [RedisDrivers.withdraw, own, beat, offers, get_remove_self]
  · simp [RedisDrivers.withdraw, get_remove_self] at held

/-- A heartbeat sets the key of a driver who is in the set, or of one who is not. -/
theorem Follows.beat (follow : Follows past s) :
    Follows (past ++ [(t, .handleHeartbeat driverId)]) ({ s with now := t }.handleHeartbeat driverId) := by
  refine follow.next rfl (fun other apart => ⟨rfl, rfl, Keys.lookup_set_ne apart⟩) (fun position ends => ?_)
    (fun position _ => ?_) follow.distinct
  · rw [offered_concat]
    simp only [RedisDrivers.handleHeartbeat, Keys.lookup_set_self, Option.some.injEq, IndexCommand.offer?,
      IndexCommand.driverId, reduceCtorEq, false_and, exists_false, and_false, true_and, ne_eq,
      not_true_eq_false, or_false, false_or]
    constructor
    · rintro ⟨held, available, until_⟩
      obtain ⟨earlier, key⟩ := Option.isSome_iff_exists.mp (follow.keyed driverId position held)
      exact ⟨until_, earlier, (follow.offered ..).mp ⟨held, available, key⟩⟩
    · rintro ⟨until_, earlier, offered⟩
      obtain ⟨held, available, _⟩ := (follow.offered ..).mpr offered
      exact ⟨held, available, until_⟩
  · simp [RedisDrivers.handleHeartbeat, IndexCommand.driverId]

theorem Follows.step (follow : Follows past s) (stepped : s.step (t, command) = some s') :
    Follows (past ++ [(t, command)]) s' := by
  unfold RedisDrivers.step at stepped
  dsimp only at stepped
  split at stepped
  case isFalse => cases stepped
  cases stepped
  cases command with
  | updateDriverLocation driverId lat lon ttlSeconds => exact follow.place rfl rfl (by simp)
  | markDriverBusy driverId => exact follow.withdraw rfl rfl (by simp)
  | markDriverOffline driverId => exact follow.withdraw rfl rfl (by simp)
  | updateDriverPresence driverId lat lon status ttlSeconds =>
    simp only [RedisDrivers.execute, updateDriverPresence]
    split
    · exact follow.place rfl rfl (by simp)
    · rename_i other
      rw [not_or] at other
      exact follow.withdraw rfl (if_neg other.1) (by simp)
  | handleHeartbeat driverId => exact follow.beat

theorem Follows.run {commands : List (Time × IndexCommand)} (follow : Follows past s)
    (ran : run RedisDrivers.step s commands = some s') : Follows (past ++ commands) s' := by
  induction commands generalizing s past with
  | nil =>
    cases ran
    rwa [List.append_nil]
  | cons command rest ih =>
    obtain ⟨next, stepped, ran⟩ := Option.bind_eq_some_iff.mp ran
    rw [List.append_cons]
    exact ih (follow.step stepped) ran

end Steps

/-! ## Searches -/

section Searches

variable (distances : Distances) (s : RedisDrivers) (t : Time) (lat lon radiusKm : Rat)

/-- The members within the radius, of whom the search looks at the first `limit`. Those whose
keys have ended are among them. -/
def membersNear : List (Uuid × Rat × Rat) :=
  s.geo.filter fun entry =>
    distances.geosearch (lat, lon) entry.2 ≤ if radiusKm ≤ 100 then radiusKm else 100

variable {distances s t lat lon radiusKm} {nearby : NearbyDriver} {found : List NearbyDriver} {limit : Nat}
  {radius : Rat}

theorem mem_findAvailable
    (ended : RedisService.findAvailableDrivers distances (s.indexAt t) lat lon radiusKm limit = .ok found) :
    nearby ∈ found ↔ nearby ∈ (s.indexAt t).geosearch distances (lat, lon)
        (if radiusKm ≤ 100 then radiusKm else 100) limit ∧
      s.status nearby.driverId = some "AVAILABLE" ∧ s.online.present t nearby.driverId = true := by
  unfold RedisService.findAvailableDrivers at ended
  dsimp only at ended
  generalize (if radiusKm ≤ 100 then radiusKm else 100) = radius at ended ⊢
  simp only [indexAt, Bool.false_eq_true, ↓reduceIte] at ended
  split at ended
  · rename_i nobody
    cases ended
    simp only [indexAt, nobody, List.not_mem_nil, false_and]
  · cases ended
    simp [indexAt]

variable (distances s t lat lon radiusKm limit) in
private theorem findAvailable_ok : ∃ found,
    RedisService.findAvailableDrivers distances (s.indexAt t) lat lon radiusKm limit = .ok found := by
  unfold RedisService.findAvailableDrivers
  dsimp only
  generalize (if radiusKm ≤ 100 then radiusKm else 100) = radius
  simp only [indexAt, Bool.false_eq_true, ↓reduceIte]
  split
  · exact ⟨_, rfl⟩
  · exact ⟨_, rfl⟩

/-- `GEOSEARCH` gives members within the radius, and all of them when there are no more than
`COUNT`. -/
theorem geosearch_sound (member : nearby ∈ (s.indexAt t).geosearch distances (lat, lon) radius limit) :
    ∃ position, (nearby.driverId, position) ∈ s.geo ∧
      distances.geosearch (lat, lon) position = nearby.distanceKm ∧ nearby.distanceKm ≤ radius := by
  have near := List.mem_mergeSort.mp (List.mem_of_mem_take member)
  obtain ⟨⟨driverId, position⟩, listed, close⟩ := List.mem_filterMap.mp near
  dsimp only at close
  split at close
  · cases close
    exact ⟨position, listed, rfl, ‹_›⟩
  · cases close

private theorem geosearch_complete {position : Rat × Rat} (member : (driverId, position) ∈ s.geo)
    (close : distances.geosearch (lat, lon) position ≤ radius)
    (room : (s.geo.filter fun entry => distances.geosearch (lat, lon) entry.2 ≤ radius).length ≤ limit) :
    { driverId, distanceKm := distances.geosearch (lat, lon) position } ∈
      (s.indexAt t).geosearch distances (lat, lon) radius limit := by
  unfold DriverIndex.geosearch
  dsimp only
  rw [List.take_of_length_le]
  · exact List.mem_mergeSort.mpr (List.mem_filterMap.mpr ⟨_, member, if_pos close⟩)
  · rw [List.length_mergeSort]
    refine Nat.le_trans (Nat.le_of_eq ?_) room
    rw [← List.countP_eq_length_filter, List.length_filterMap_eq_countP]
    exact List.countP_congr fun entry _ => by simp

end Searches

end RedisDrivers

open RedisDrivers

/-- A search finds only drivers whom their history offers at that place, with a key that has
not ended, and all of them when no more members are within the radius than it looks at. -/
theorem driver_found_iff (distances : Distances) {past : List (Time × IndexCommand)} {s : RedisDrivers}
    (ran : run RedisDrivers.step {} past = some s) (t : Time) (lat lon radiusKm : Rat) (limit : Nat) :
    ∃ found, RedisService.findAvailableDrivers distances (s.indexAt t) lat lon radiusKm limit = .ok found ∧
      (∀ nearby ∈ found, ∃ position ends, Offered past nearby.driverId position ends ∧ t < ends ∧
        distances.geosearch (lat, lon) position = nearby.distanceKm ∧
          nearby.distanceKm ≤ if radiusKm ≤ 100 then radiusKm else 100) ∧
      ((membersNear distances s lat lon radiusKm).length ≤ limit →
        ∀ driverId position ends, Offered past driverId position ends → t < ends →
          distances.geosearch (lat, lon) position ≤ (if radiusKm ≤ 100 then radiusKm else 100) →
            { driverId, distanceKm := distances.geosearch (lat, lon) position } ∈ found) := by
  have start : RedisDrivers.Follows [] {} := by
    constructor
    · refine fun driverId position ends => iff_of_false ?_ ?_
      · rintro ⟨held, _⟩
        cases held
      · rintro ⟨before, _, _, _, after, parts, _⟩
        simp at parts
    · intro driverId position held
      cases held
    · exact List.nodup_nil
  have follow := start.run ran
  obtain ⟨found, ended⟩ := findAvailable_ok distances s t lat lon radiusKm limit
  refine ⟨found, ended, fun nearby member => ?_, fun room driverId position ends offered lasts close => ?_⟩
  · obtain ⟨near, available, online⟩ := (mem_findAvailable ended).mp member
    obtain ⟨position, listed, distance, close⟩ := geosearch_sound near
    obtain ⟨ends, key, lasts⟩ := Keys.present_iff.mp online
    have placed := (mem_iff_get follow.distinct).mp listed
    exact ⟨position, ends, (follow.offered ..).mp ⟨placed, available, key⟩, lasts, distance, close⟩
  · obtain ⟨placed, available, key⟩ := (follow.offered ..).mpr offered
    have listed := (mem_iff_get follow.distinct).mpr placed
    refine (mem_findAvailable ended).mpr ⟨geosearch_complete listed close room, available, ?_⟩
    exact Keys.present_iff.mpr ⟨ends, key, lasts⟩

/-- A driver pings, is marked busy, and goes on with heartbeats; another one's key ends. -/
def onTheRoad : List (Time × IndexCommand) :=
  [(0, .updateDriverLocation "x" 12 77 60), (1000, .updateDriverLocation "y" 12 78 45),
   (2000, .markDriverBusy "x"), (40000, .handleHeartbeat "x"), (41000, .handleHeartbeat "y")]

theorem driver_found_road : ∃ s, run RedisDrivers.step {} onTheRoad = some s ∧
    ∃ found, RedisService.findAvailableDrivers flat (s.indexAt 100999) 12 77 5 50 = .ok found ∧
      { driverId := "y", distanceKm := 1 } ∈ found ∧ ∀ nearby ∈ found, nearby.driverId ≠ "x" := by
  have computes : (run RedisDrivers.step {} onTheRoad).any fun s =>
      (membersNear flat s 12 77 5).length ≤ 50 := by decide +kernel
  obtain ⟨s, ran, room⟩ := (Option.any_eq_true _ _).mp computes
  have offered : Offered onTheRoad "y" (12, 78) 101000 :=
    ⟨onTheRoad.take 1, 1000, _, 45000, onTheRoad.drop 2, rfl, rfl, rfl, by decide, by decide⟩
  have withdrawn (position : Rat × Rat) (ends : Time) : ¬ Offered onTheRoad "x" position ends := by
    change ¬ Offered ((((onTheRoad.take 2) ++ [(2000, .markDriverBusy "x")]) ++
      [(40000, .handleHeartbeat "x")]) ++ [(41000, .handleHeartbeat "y")]) "x" position ends
    simp only [offered_concat, IndexCommand.driverId, IndexCommand.offer?]
    simp
  obtain ⟨found, ended, sound, complete⟩ := driver_found_iff flat ran 100999 12 77 5 50
  refine ⟨s, ran, found, ended, ?_, fun nearby member same => ?_⟩
  · have here := complete (of_decide_eq_true room) "y" (12, 78) 101000 offered (by decide) (by decide +kernel)
    rwa [show flat.geosearch (12, 77) (12, 78) = 1 by decide +kernel] at here
  · obtain ⟨position, ends, standing, _⟩ := sound nearby member
    exact withdrawn position ends (same ▸ standing)

end DriverMicroServices
