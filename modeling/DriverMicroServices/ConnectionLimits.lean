import DriverMicroServices.Limits.SlidingWindow
import DriverMicroServices.Presence
import Mathlib.Algebra.Order.Group.Int

/-! The limit on connections in `WebSocketGatewayHandler.handleConnection`. The times of
a driver's connections are kept in a map, and pruned when the next one is let in. -/
namespace DriverMicroServices
open Limits Transitions

/-- `MAX_CONNECTIONS_PER_MINUTE`. -/
def maxConnectionsPerMinute : Nat := 30

def minute : Time := 60000

abbrev PresenceStep := Taken Gateway (Time × PresenceEvent)

namespace Gateway

/-- The driver tries to connect, with a valid token. -/
def attempt? (driverId : Uuid) (taken : PresenceStep) : Option SocketId :=
  match taken.action.2 with
  | .handleConnection client payload _ => if payload = some driverId then some client else none
  | _ => none

/-- Whether a socket is the driver's in the end. -/
def accepts (driverId : Uuid) (taken : PresenceStep) (client : SocketId) : Bool :=
  (client, driverId) ∈ taken.after.sockets

/-- When the driver tries to connect. -/
def attemptTimes (driverId : Uuid) (steps : List PresenceStep) : List Time :=
  steps.filterMap fun taken => (attempt? driverId taken).map fun _ => taken.action.1

/-- Whether each attempt of the driver is accepted. -/
def decisions (driverId : Uuid) (steps : List PresenceStep) : List Bool :=
  steps.filterMap fun taken => (attempt? driverId taken).map (accepts driverId taken)

/-- When the accepted attempts were made. -/
def acceptedTimes (driverId : Uuid) (steps : List PresenceStep) : List Time :=
  steps.filterMap fun taken =>
    ((attempt? driverId taken).filter (accepts driverId taken)).map fun _ => taken.action.1

def Refuses (driverId : Uuid) (taken : PresenceStep) : Prop :=
  ∃ client, attempt? driverId taken = some client ∧ accepts driverId taken client = false

/-- What a sliding window of a minute is to be for the connections of a driver. -/
structure SlidingLimit (server : WebSocketServer) (seconds : Int → Int) (driverId : Uuid)
    (steps : List PresenceStep) : Prop where
  bounded : Bounded minute maxConnectionsPerMinute (acceptedTimes driverId steps)
  /-- No attempt is refused without need. -/
  needed : ∀ earlier taken later, steps = earlier ++ taken :: later → Refuses driverId taken →
    maxConnectionsPerMinute ≤ (recent minute taken.action.1 (acceptedTimes driverId earlier)).length
  /-- A refused attempt changes nothing for what comes after it. -/
  unaffected : ∀ taken ∈ steps, Refuses driverId taken → ∀ action : Time × PresenceEvent,
    taken.action.1 ≤ action.1 →
      step server seconds taken.after action = step server seconds taken.before action
  /-- The decisions are those on the attempts of the driver alone. -/
  separate : decisions driverId steps =
    admissions minute maxConnectionsPerMinute [] (attemptTimes driverId steps)

/-- Where the server is a namespace, an attempt within the limit finds no earlier session
of the driver. -/
def Unhindered (server : WebSocketServer) (driverId : Uuid) (taken : PresenceStep) : Prop :=
  attempt? driverId taken = none ∨ server = .root ∨ taken.before.driverSessions driverId = [] ∨
    maxConnectionsPerMinute ≤
      (recent minute taken.action.1 (taken.before.connectionAttempts driverId)).length

section Steps

variable {server : WebSocketServer} {seconds : Int → Int} {driverId : Uuid} {g g' : Gateway}
  {t : Time} {event : PresenceEvent} {client : SocketId}

/-- The clock and the recorded attempts are the same. -/
def Steady (g g' : Gateway) : Prop :=
  g'.now = g.now ∧ g'.connectionAttempts = g.connectionAttempts

theorem handleDisconnect_steady (g : Gateway) (client : SocketId) (redisFails : Bool) :
    Steady g (g.handleDisconnect client redisFails) := by
  unfold handleDisconnect
  split
  · exact ⟨rfl, rfl⟩
  · rename_i other found
    dsimp only
    split
    · unfold markOffline
      cases (g.close client other).status other <;> exact ⟨rfl, rfl⟩
    · exact ⟨rfl, rfl⟩

private theorem disconnects_steady (g : Gateway) (sessions : List SocketId) (redisFails : Bool) :
    Steady g (sessions.foldl (fun g socketId => g.handleDisconnect socketId redisFails) g) := by
  induction sessions generalizing g with
  | nil => exact ⟨rfl, rfl⟩
  | cons socketId rest ih =>
    obtain ⟨now, attempts⟩ := handleDisconnect_steady g socketId redisFails
    obtain ⟨now', attempts'⟩ := ih (g.handleDisconnect socketId redisFails)
    exact ⟨now'.trans now, attempts'.trans attempts⟩

private theorem processKeys_steady (connectedDrivers : List Uuid) (g : Gateway) (asked : List (Uuid × Time)) :
    Steady g (processKeys seconds connectedDrivers g asked) := by
  induction asked generalizing g with
  | nil => exact ⟨rfl, rfl⟩
  | cons entry rest ih =>
    rw [processKeys]
    cases processed : g.processKey seconds connectedDrivers entry with
    | none => exact ⟨rfl, rfl⟩
    | some next =>
      obtain ⟨now, attempts⟩ := ih next
      have same : Steady g next := by
        rcases processKey_cases processed with ⟨-, rfl⟩ | ⟨-, ⟨-, -, rfl⟩ | ⟨-, rfl⟩⟩ <;>
          exact ⟨rfl, rfl⟩
      exact ⟨now.trans same.1, attempts.trans same.2⟩

/-- What `handleConnection` does for a driver: within the limit the attempt is recorded,
and accepted where no exception stands in the way. -/
theorem handleConnection_cases (g : Gateway) (client : SocketId) (driverId : Uuid) (redisFails : Bool) :
    let recentAttempts := recent minute g.now (g.connectionAttempts driverId)
    let after := g.handleConnection server client (some driverId) redisFails
    (maxConnectionsPerMinute ≤ recentAttempts.length ∧ after = g) ∨
    recentAttempts.length < maxConnectionsPerMinute ∧ after.now = g.now ∧
      after.connectionAttempts =
        Function.update g.connectionAttempts driverId (recentAttempts ++ [g.now]) ∧
      ((server = .root ∨ g.driverSessions driverId = []) ∧ (client, driverId) ∈ after.sockets ∨
        server = .ofNamespace ∧ g.driverSessions driverId ≠ [] ∧ after.sockets = g.sockets) := by
  dsimp only
  by_cases full : maxConnectionsPerMinute ≤ (recent minute g.now (g.connectionAttempts driverId)).length
  · left
    refine ⟨full, ?_⟩
    unfold handleConnection
    exact if_pos full
  · right
    let recorded := { g with
      connectionAttempts := Function.update g.connectionAttempts driverId
        (recent minute g.now (g.connectionAttempts driverId) ++ [g.now]) }
    refine ⟨Nat.lt_of_not_le full, ?_⟩
    cases server with
    | root =>
      have shape : g.handleConnection .root client (some driverId) redisFails =
          ((g.driverSessions driverId).foldl
            (fun g socketId => g.handleDisconnect socketId redisFails) recorded).join client driverId := by
        unfold handleConnection
        exact if_neg full
      rw [shape]
      obtain ⟨now, attempts⟩ := disconnects_steady { g with
        connectionAttempts := Function.update g.connectionAttempts driverId
          (recent minute g.now (g.connectionAttempts driverId) ++ [g.now]) }
        (g.driverSessions driverId) redisFails
      exact ⟨now, attempts, .inl ⟨.inl rfl, List.mem_cons_self⟩⟩
    | ofNamespace =>
      have shape : g.handleConnection .ofNamespace client (some driverId) redisFails =
          if g.driverSessions driverId = [] then recorded.join client driverId else recorded := by
        unfold handleConnection
        exact if_neg full
      rw [shape]
      by_cases alone : g.driverSessions driverId = []
      · rw [if_pos alone]
        exact ⟨rfl, rfl, .inl ⟨.inr alone, List.mem_cons_self⟩⟩
      · rw [if_neg alone]
        exact ⟨rfl, rfl, .inr ⟨rfl, alone, rfl⟩⟩

/-- An attempt of the driver. -/
theorem attempt_step {taken : PresenceStep}
    (stepped : step server seconds taken.before taken.action = some taken.after)
    (attempt : attempt? driverId taken = some client) :
    let recentAttempts := recent minute taken.action.1 (taken.before.connectionAttempts driverId)
    taken.before.now ≤ taken.action.1 ∧ taken.after.now = taken.action.1 ∧
    ((maxConnectionsPerMinute ≤ recentAttempts.length ∧
        taken.after = { taken.before with now := taken.action.1 } ∧
        accepts driverId taken client = false) ∨
      recentAttempts.length < maxConnectionsPerMinute ∧
        taken.after.connectionAttempts driverId = recentAttempts ++ [taken.action.1] ∧
        (accepts driverId taken client = true ↔
          server = .root ∨ taken.before.driverSessions driverId = [])) := by
  obtain ⟨g, ⟨t, event⟩, g'⟩ := taken
  cases event with
  | handleConnection client' payload redisFails =>
    simp only [attempt?] at attempt
    split at attempt
    · rename_i mine
      cases attempt
      subst mine
      simp only [step] at stepped
      split at stepped
      · rename_i later
        split at stepped
        · cases stepped
        · rename_i new
          cases stepped
          have absent : (client, driverId) ∉ g.sockets := by
            intro listed
            exact new (List.any_eq_true.mpr ⟨(client, driverId), listed, by simp⟩)
          refine ⟨later, ?_⟩
          rcases @handleConnection_cases server { g with now := t } client driverId redisFails with
            ⟨full, after⟩ | ⟨free, now, attempts, ⟨alone, joined⟩ | ⟨spaced, others, sockets⟩⟩
          · exact ⟨by rw [after], .inl ⟨full, after, by simp [accepts, after, absent]⟩⟩
          · refine ⟨now, .inr ⟨free, by simp [attempts], ?_⟩⟩
            exact iff_of_true (decide_eq_true joined) alone
          · refine ⟨now, .inr ⟨free, by simp [attempts], ?_⟩⟩
            refine iff_of_false (by simp [accepts, sockets, absent]) ?_
            rintro (root | none')
            · rw [spaced] at root
              cases root
            · exact others none'
      · cases stepped
    · cases attempt
  | _ => cases attempt

/-- Everything else leaves the recorded attempts of the driver alone. -/
theorem other_step {taken : PresenceStep}
    (stepped : step server seconds taken.before taken.action = some taken.after)
    (other : attempt? driverId taken = none) :
    taken.before.now ≤ taken.action.1 ∧ taken.after.now = taken.action.1 ∧
      taken.after.connectionAttempts driverId = taken.before.connectionAttempts driverId := by
  obtain ⟨g, ⟨t, event⟩, g'⟩ := taken
  simp only [step] at stepped
  split at stepped
  · rename_i later
    refine ⟨later, ?_⟩
    cases event with
    | handleConnection client payload redisFails =>
      dsimp only at stepped
      split at stepped
      · cases stepped
      · cases stepped
        cases payload with
        | none => exact ⟨rfl, rfl⟩
        | some named =>
          have apart : driverId ≠ named := by
            rintro rfl
            simp [attempt?] at other
          rcases @handleConnection_cases server { g with now := t } client named redisFails with
            ⟨-, after⟩ | ⟨-, now, attempts, -⟩
          · rw [after]
            exact ⟨rfl, rfl⟩
          · exact ⟨now, by rw [attempts, Function.update_of_ne apart]⟩
    | handleDisconnect client redisFails =>
      cases stepped
      obtain ⟨now, attempts⟩ := handleDisconnect_steady { g with now := t } client redisFails
      exact ⟨now, by rw [attempts]⟩
    | processExpiredPresence asked =>
      dsimp only at stepped
      split at stepped
      · cases stepped
        have steady : Steady { g with now := t }
            (processExpiredPresence { g with now := t } server seconds asked) := processKeys_steady ..
        exact ⟨steady.1, congrFun steady.2 driverId⟩
      · cases stepped
    | updateStatus other status =>
      cases stepped
      exact ⟨rfl, rfl⟩
    | wait =>
      cases stepped
      exact ⟨rfl, rfl⟩
  · cases stepped

/-- A refused attempt is not over the limit, or leaves the gateway as it was. -/
theorem refused_unaffected {taken : PresenceStep}
    (stepped : step server seconds taken.before taken.action = some taken.after)
    (refused : Refuses driverId taken) (unhindered : Unhindered server driverId taken)
    (action : Time × PresenceEvent) (later : taken.action.1 ≤ action.1) :
    step server seconds taken.after action = step server seconds taken.before action := by
  obtain ⟨client, attempt, refused⟩ := refused
  obtain ⟨earlier, -, ⟨-, after, -⟩ | ⟨free, -, accepted⟩⟩ := attempt_step stepped attempt
  · rw [after]
    have bound : taken.before.now ≤ action.1 := Int.le_trans earlier later
    unfold step
    simp only [later, bound, if_true]
  · rcases unhindered with none' | here | here | full
    · rw [attempt] at none'
      cases none'
    · rw [accepted.mpr (.inl here)] at refused
      cases refused
    · rw [accepted.mpr (.inr here)] at refused
      cases refused
    · exact absurd full (Nat.not_le.mpr free)

end Steps

/-! ## Runs -/

section Runs

variable {server : WebSocketServer} {seconds : Int → Int} {driverId : Uuid} {g : Gateway}
  {taken : PresenceStep} {earlier later : List PresenceStep} {accepted : List Time}
  {actions : List (Time × PresenceEvent)}

/-- What is recorded of the driver stands for his accepted attempts. -/
structure Counts (driverId : Uuid) (accepted : List Time) (g : Gateway) : Prop where
  stands : Stands minute (g.connectionAttempts driverId) accepted
  past : ∀ t ∈ accepted, t ≤ g.now

theorem Counts.recent_eq {t : Time} (counts : Counts driverId accepted g) (later : g.now ≤ t) :
    recent minute t (g.connectionAttempts driverId) = recent minute t accepted :=
  counts.stands t fun before member => Int.le_trans (counts.past before member) later

/-- An unhindered attempt is decided by the accepted ones of the last minute. -/
theorem Counts.decides {client : SocketId} (counts : Counts driverId accepted taken.before)
    (stepped : step server seconds taken.before taken.action = some taken.after)
    (attempt : attempt? driverId taken = some client) (unhindered : Unhindered server driverId taken) :
    accepts driverId taken client = true ↔
      (recent minute taken.action.1 accepted).length < maxConnectionsPerMinute := by
  obtain ⟨earlier, -, cases⟩ := attempt_step stepped attempt
  rw [← counts.recent_eq earlier]
  rcases cases with ⟨full, -, refused⟩ | ⟨free, -, accepted⟩
  · rw [refused]
    exact iff_of_false Bool.false_ne_true (Nat.not_lt.mpr full)
  · refine iff_of_true (accepted.mpr ?_) free
    rcases unhindered with none' | here | here | full
    · rw [attempt] at none'
      cases none'
    · exact .inl here
    · exact .inr here
    · exact absurd full (Nat.not_le.mpr free)

/-- The first of those that fail. -/
theorem first_of_exists {α : Type} {P : α → Prop} {l : List α} (fails : ∃ a ∈ l, ¬ P a) :
    ∃ first a last, l = first ++ a :: last ∧ (∀ b ∈ first, P b) ∧ ¬ P a := by
  classical
  obtain ⟨a, member, wrong⟩ := fails
  have found : (l.find? fun a => ¬ P a).isSome := List.find?_isSome.mpr ⟨a, member, by simpa using wrong⟩
  obtain ⟨b, here⟩ := Option.isSome_iff_exists.mp found
  obtain ⟨wrong, first, last, shape, before⟩ := List.find?_eq_some_iff_append.mp here
  exact ⟨first, b, last, shape, fun c member => by simpa using before c member, by simpa using wrong⟩

theorem acceptedTimes_cons (taken : PresenceStep) (rest : List PresenceStep) :
    acceptedTimes driverId (taken :: rest) =
      acceptedTimes driverId [taken] ++ acceptedTimes driverId rest := by
  rw [acceptedTimes, acceptedTimes, acceptedTimes, ← List.filterMap_append, List.singleton_append]

/-- One step that is not hindered. -/
theorem Counts.step (counts : Counts driverId accepted taken.before)
    (stepped : step server seconds taken.before taken.action = some taken.after)
    (unhindered : Unhindered server driverId taken) :
    Counts driverId (accepted ++ acceptedTimes driverId [taken]) taken.after := by
  cases attempt : attempt? driverId taken with
  | none =>
    obtain ⟨earlier, now, same⟩ := other_step stepped attempt
    have none' : acceptedTimes driverId [taken] = [] := by simp [acceptedTimes, attempt]
    rw [none', List.append_nil]
    refine ⟨same ▸ counts.stands, fun t member => ?_⟩
    rw [now]
    exact Int.le_trans (counts.past t member) earlier
  | some client =>
    obtain ⟨earlier, now, cases⟩ := attempt_step stepped attempt
    have decided := counts.decides stepped attempt unhindered
    have past : ∀ t ∈ accepted, t ≤ taken.action.1 :=
      fun t member => Int.le_trans (counts.past t member) earlier
    rcases cases with ⟨-, after, refused⟩ | ⟨free, recorded, -⟩
    · have none' : acceptedTimes driverId [taken] = [] := by simp [acceptedTimes, attempt, refused]
      rw [none', List.append_nil]
      refine ⟨?_, fun t member => ?_⟩
      · rw [after]
        exact counts.stands
      · rw [now]
        exact past t member
    · rw [counts.recent_eq earlier] at free
      have one : acceptedTimes driverId [taken] = [taken.action.1] := by
        simp [acceptedTimes, attempt, decided.mpr free]
      rw [one]
      refine ⟨?_, fun t member => ?_⟩
      · rw [recorded]
        exact counts.stands.admit past
      · rw [now]
        rcases List.mem_append.mp member with old | new
        · exact past t old
        · exact Int.le_of_eq (List.mem_singleton.mp new)

/-- Up to the first hindered attempt, what is recorded stands for what was accepted. -/
theorem counts_before (counts : Counts driverId accepted g)
    (shape : trace (Gateway.step server seconds) g actions = earlier ++ taken :: later)
    (unhindered : ∀ before ∈ earlier, Unhindered server driverId before) :
    Counts driverId (accepted ++ acceptedTimes driverId earlier) taken.before ∧
      Gateway.step server seconds taken.before taken.action = some taken.after := by
  induction actions generalizing g accepted earlier with
  | nil =>
    have empty := congrArg List.length shape
    simp [trace] at empty
  | cons action rest ih =>
    unfold trace at shape
    split at shape
    · rename_i next stepped
      cases earlier with
      | nil =>
        obtain ⟨rfl, -⟩ := List.cons.inj shape
        exact ⟨by simpa [acceptedTimes] using counts, stepped⟩
      | cons first earlier =>
        obtain ⟨rfl, following⟩ := List.cons.inj shape
        have kept := counts.step stepped (unhindered _ List.mem_cons_self)
        rw [acceptedTimes_cons, ← List.append_assoc]
        exact ih kept following fun before member => unhindered before (List.mem_cons_of_mem _ member)
    · have empty := congrArg List.length shape
      simp at empty

/-- A run without hindrance decides as a limiter that remembers everything. -/
theorem run_decides (counts : Counts driverId accepted g)
    (unhindered : ∀ taken ∈ trace (Gateway.step server seconds) g actions,
      Unhindered server driverId taken) :
    decisions driverId (trace (Gateway.step server seconds) g actions) =
        admissions minute maxConnectionsPerMinute accepted
          (attemptTimes driverId (trace (Gateway.step server seconds) g actions)) ∧
      (Bounded minute maxConnectionsPerMinute accepted → Bounded minute maxConnectionsPerMinute
        (accepted ++ acceptedTimes driverId (trace (Gateway.step server seconds) g actions))) := by
  induction actions generalizing g accepted with
  | nil => simp [trace, decisions, attemptTimes, acceptedTimes, admissions]
  | cons action rest ih =>
    unfold trace at unhindered ⊢
    cases stepped : Gateway.step server seconds g action with
    | none => simp [decisions, attemptTimes, acceptedTimes, admissions]
    | some next =>
      simp only [stepped, List.forall_mem_cons] at unhindered
      obtain ⟨here, following⟩ := unhindered
      have kept := counts.step stepped here
      obtain ⟨decided, bounded⟩ := ih kept following
      dsimp only
      rw [acceptedTimes_cons, ← List.append_assoc]
      cases attempt : attempt? driverId ⟨g, action, next⟩ with
      | none =>
        have none' : acceptedTimes driverId [⟨g, action, next⟩] = [] := by simp [acceptedTimes, attempt]
        rw [none', List.append_nil] at decided bounded ⊢
        refine ⟨?_, bounded⟩
        simpa [decisions, attemptTimes, attempt] using decided
      | some client =>
        have exact' := counts.decides stepped attempt here
        cases accepting : accepts driverId ⟨g, action, next⟩ client with
        | true =>
          have free := exact'.mp accepting
          have one : acceptedTimes driverId [⟨g, action, next⟩] = [action.1] := by
            simp [acceptedTimes, attempt, accepting]
          rw [one] at decided bounded ⊢
          refine ⟨?_, fun before => bounded (before.append free)⟩
          simpa [decisions, attemptTimes, attempt, accepting, admissions, free] using decided
        | false =>
          have full : ¬ (recent minute action.1 accepted).length < maxConnectionsPerMinute := by
            rw [← exact', accepting]
            exact Bool.false_ne_true
          have none' : acceptedTimes driverId [⟨g, action, next⟩] = [] := by
            simp [acceptedTimes, attempt, accepting]
          rw [none', List.append_nil] at decided bounded ⊢
          refine ⟨?_, bounded⟩
          simpa [decisions, attemptTimes, attempt, accepting, admissions, full] using decided

end Runs

end Gateway

open Gateway

/-- The limit on the connections of a driver is a sliding window just when no attempt
within it meets an earlier session that the server cannot look up. -/
theorem connection_limit_iff (server : WebSocketServer) (seconds : Int → Int)
    (status : Uuid → Option DriverStatus) (driverId : Uuid) (actions : List (Time × PresenceEvent)) :
    SlidingLimit server seconds driverId (trace (step server seconds) { status } actions) ↔
      ∀ taken ∈ trace (step server seconds) { status } actions, Unhindered server driverId taken := by
  have start : Gateway.Counts driverId [] { status } := ⟨stands_nil, by simp⟩
  constructor
  · intro sliding
    by_contra hindered
    push Not at hindered
    obtain ⟨earlier, taken, later, shape, before, hindered⟩ := first_of_exists hindered
    obtain ⟨counts, stepped⟩ := counts_before start shape before
    rw [List.nil_append] at counts
    simp only [Unhindered, not_or] at hindered
    obtain ⟨attempt, notRoot, others, free⟩ := hindered
    obtain ⟨client, attempt⟩ := Option.ne_none_iff_exists'.mp attempt
    obtain ⟨early, -, ⟨full, -⟩ | ⟨-, -, accepted⟩⟩ := attempt_step stepped attempt
    · exact free full
    · have refused : accepts driverId taken client = false := by
        rw [← Bool.not_eq_true, accepted]
        rintro (root | alone)
        · exact notRoot root
        · exact others alone
      have full := sliding.needed earlier taken later shape ⟨client, attempt, refused⟩
      rw [← counts.recent_eq early] at full
      exact free full
  · intro unhindered
    obtain ⟨separate, bounded⟩ := run_decides start unhindered
    refine ⟨by simpa using bounded bounded_nil, fun earlier taken later shape refused => ?_,
      fun taken member refused => ?_, separate⟩
    · have before : ∀ step ∈ earlier, Unhindered server driverId step :=
        fun step member => unhindered step (by simp [shape, member])
      obtain ⟨counts, stepped⟩ := counts_before start shape before
      obtain ⟨client, attempt, refused⟩ := refused
      rw [List.nil_append] at counts
      by_contra short
      have accepted := (counts.decides stepped attempt (unhindered taken (by simp [shape]))).mpr
        (Nat.lt_of_not_le short)
      rw [refused] at accepted
      cases accepted
    · have stepped := (trace_inv (fun _ _ _ => trivial) trivial admits_true taken member).2.2
      exact refused_unaffected stepped refused (unhindered taken member)

/-- A driver who comes back before his old socket is closed is turned away, and the attempt
counts. -/
theorem second_session_refused :
    ¬ SlidingLimit .ofNamespace redisSeconds "x"
      (trace (step .ofNamespace redisSeconds) { status := fun _ => some .available }
        [(0, .handleConnection "s" (some "x") false), (1000, .handleConnection "t" (some "x") false)]) := by
  intro sliding
  have separate := sliding.separate
  revert separate
  decide

end DriverMicroServices
