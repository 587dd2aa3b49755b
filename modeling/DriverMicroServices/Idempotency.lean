import DriverMicroServices.Entities
import DriverMicroServices.Transitions

/-! `IdempotencyInterceptor`: the requests with one `x-idempotency-key`, and the
record that Redis keeps for the key. A request holds the key from the command that
claims it to the command that stores its outcome, and the record says PROCESSING
all that time; what a request has read before it reclaims or deletes may be older. -/
namespace DriverMicroServices
open Transitions

inductive IdempotencyState where
  | processing | completed | failedRetryable
  deriving DecidableEq, Repr

structure CachedResponse where
  statusCode : Nat
  body : String
  headers : List (String × String) := []
  deriving DecidableEq, Repr

structure IdempotencyRecord where
  state : IdempotencyState
  response : Option CachedResponse := none
  retryAfter : Option Time := none
  deriving DecidableEq, Repr

/-! ## Redis commands -/

/-- A command on the key. -/
inductive KeyCommand where
  | setNx (payload : IdempotencyRecord)
  | setXx (payload : IdempotencyRecord)
  | set (payload : IdempotencyRecord)
  | get
  | del
  deriving DecidableEq, Repr

/-- What the command leaves under the key. -/
def KeyCommand.leaves (stored : Option IdempotencyRecord) : KeyCommand → Option IdempotencyRecord
  | .setNx payload => some (stored.getD payload)
  | .setXx payload => stored.map fun _ => payload
  | .set payload => some payload
  | .get => stored
  | .del => none

/-! ## The interceptor -/

/-- What the handler answers with. -/
structure HandlerResponse where
  statusCode : Nat
  body : String
  headers : List (String × String)
  deriving DecidableEq, Repr

inductive HandlerError where
  | http (status : Nat)
  | network (code : String)
  | other
  deriving DecidableEq, Repr

inductive HandlerOutcome where
  | returned (response : HandlerResponse)
  | threw (error : HandlerError)
  deriving DecidableEq, Repr

/-- Headers to preserve on replay. -/
def replayableHeaders : List String :=
  ["content-type", "content-length", "etag", "location", "x-request-id"]

def processingPayload : IdempotencyRecord where
  state := .processing

/-- 5xx errors, 429 and network errors are retryable. -/
def isRetryableError : HandlerError → Bool
  | .http status => 500 ≤ status || status = 429
  | .network code => code ∈ ["ECONNRESET", "ETIMEDOUT", "ECONNREFUSED", "ENOTFOUND"]
  | .other => false

def cachedResponse (response : HandlerResponse) : CachedResponse where
  statusCode := if response.statusCode = 0 then 200 else response.statusCode
  body := response.body
  headers := replayableHeaders.filterMap fun header =>
    (response.headers.lookup header).map fun value => (header, value)

/-- The command that stores the outcome of the handler. -/
def storeOutcome (now : Time) : HandlerOutcome → KeyCommand
  | .returned response => .set { state := .completed, response := some (cachedResponse response) }
  | .threw error =>
    if isRetryableError error then
      .set { state := .failedRetryable, retryAfter := some (now + 30000) }
    else .del

/-- How a request ends. -/
inductive RequestReply where
  /-- With what its own handler answered. -/
  | handled
  | replayed (response : CachedResponse)
  | conflict (message : String) (retryAfter : Option Int)
  /-- With an error of Redis or of the interceptor. -/
  | error
  deriving DecidableEq, Repr

inductive RequestPhase where
  /-- Before the first `SET NX`. -/
  | arrived
  /-- The key exists: before `GET`. -/
  | contending
  /-- The key was gone: before the second `SET NX`. -/
  | retrying
  /-- Before `SET XX` over the failed record that was read. -/
  | reclaiming (parsed : IdempotencyRecord)
  /-- Before `DEL` and a 409 with this message. -/
  | deleting (message : String)
  | handling
  /-- The handler has ended; its outcome is on the way. -/
  | storing (command : KeyCommand)
  | ended (reply : RequestReply)
  deriving DecidableEq, Repr

/-- `Math.ceil(milliseconds / 1000)`. -/
def ceilSeconds (milliseconds : Int) : Int := (milliseconds + 999) / 1000

/-- The switch over the record that was read. -/
def afterGet (idempotencyKey : String) (now : Time) : Option IdempotencyRecord → RequestPhase
  | none => .retrying
  | some parsed =>
    match parsed.state with
    | .completed =>
      match parsed.response with
      | some response => .ended (.replayed response)
      | none => .deleting (s!"Request with idempotency key '{idempotencyKey}' completed but " ++
          "has no cached response. Please retry.")
    | .processing =>
      let retryAfterSeconds :=
        match parsed.retryAfter with
        | some retryAfter => if retryAfter = 0 then 5 else ceilSeconds (retryAfter - now)
        | none => 5
      .ended (.conflict
        (s!"Request with idempotency key '{idempotencyKey}' is currently being processed. " ++
          s!"Retry after {retryAfterSeconds} seconds.")
        (some (max 1 retryAfterSeconds)))
    | .failedRetryable => .reclaiming parsed

/-- The key was gone when the request tried to reclaim it. -/
def afterReclaim (idempotencyKey : String) (now : Time) (parsed : IdempotencyRecord) :
    RequestPhase :=
  let expired := RequestPhase.deleting
    (s!"Request with idempotency key '{idempotencyKey}' retry window expired. " ++
      "Please submit a new request.")
  match parsed.retryAfter with
  | some retryAfter =>
    if retryAfter ≠ 0 ∧ now < retryAfter then
      let retryAfterSeconds := ceilSeconds (retryAfter - now)
      .ended (.conflict
        (s!"Request with idempotency key '{idempotencyKey}' previously failed. " ++
          s!"Retry after {retryAfterSeconds} seconds.")
        (some retryAfterSeconds))
    else expired
  | none => expired

namespace RequestPhase

/-- The command that the request sends next. -/
def command? : RequestPhase → Option KeyCommand
  | .arrived | .retrying => some (.setNx processingPayload)
  | .contending => some .get
  | .reclaiming _ => some (.setXx processingPayload)
  | .deleting _ => some .del
  | .storing command => some command
  | .handling | .ended _ => none

/-- Where the request goes on after its command has found this under the key. -/
def resume (idempotencyKey : String) (now : Time) (stored : Option IdempotencyRecord) :
    RequestPhase → RequestPhase
  | .arrived => if stored.isNone then .handling else .contending
  | .contending => afterGet idempotencyKey now stored
  -- `JSON.parse(null)` is `null`, which has no state
  | .retrying => if stored.isNone then .handling else .ended .error
  | .reclaiming parsed =>
    if stored.isSome then .handling else afterReclaim idempotencyKey now parsed
  | .deleting message => .ended (.conflict message none)
  | .storing _ => .ended .handled
  | phase => phase

/-- The request has claimed the key and not yet stored an outcome. -/
def holds : RequestPhase → Bool
  | .handling | .storing _ => true
  | _ => false

/-- The request is about to change a record on the strength of what it has read. -/
def overwrites : RequestPhase → Bool
  | .reclaiming _ | .deleting _ => true
  | _ => false

end RequestPhase

/-! ## Overlapping requests -/

structure IdempotencySystem where
  record : Option IdempotencyRecord := none
  requests : List RequestPhase := []
  deriving DecidableEq

inductive IdempotencyAction where
  | arrive
  /-- The next command of the request `n` is executed. -/
  | command (n : Nat) (now : Time)
  /-- The handler of the request `n` ends. -/
  | finish (n : Nat) (now : Time) (outcome : HandlerOutcome)
  /-- A command of the request `n` fails, or its process dies. -/
  | lose (n : Nat)
  /-- The time to live of the record runs out. -/
  | expire
  deriving DecidableEq

namespace IdempotencySystem

def step (idempotencyKey : String) (s : IdempotencySystem) :
    IdempotencyAction → Option IdempotencySystem
  | .arrive => some { s with requests := s.requests ++ [.arrived] }
  | .command n now =>
    s.requests[n]?.bind fun phase => phase.command?.map fun command =>
      { record := command.leaves s.record
        requests := s.requests.set n (phase.resume idempotencyKey now s.record) }
  | .finish n now outcome =>
    if s.requests[n]? = some .handling then
      some { s with requests := s.requests.set n (.storing (storeOutcome now outcome)) }
    else none
  | .lose n => s.requests[n]?.map fun _ => { s with requests := s.requests.set n (.ended .error) }
  | .expire => some { s with record := none }

/-- A request that reclaims or deletes the record finds it failed, as it had read it,
or gone. -/
def ReclaimsFailed (s : IdempotencySystem) : IdempotencyAction → Prop
  | .command n _ => s.requests[n]?.any RequestPhase.overwrites →
    ∀ record ∈ s.record, record.state = .failedRetryable
  | _ => True

instance {s : IdempotencySystem} {action : IdempotencyAction} :
    Decidable (ReclaimsFailed s action) :=
  match action with
  | .command n _ => inferInstanceAs (Decidable (s.requests[n]?.any RequestPhase.overwrites →
      ∀ record ∈ s.record, record.state = .failedRetryable))
  | .arrive | .finish _ _ _ | .lose _ | .expire => isTrue trivial

/-- The handlers that are running. -/
def handlers (s : IdempotencySystem) : Nat :=
  s.requests.countP fun request => request = .handling

/-- A request begins to run its handler: it has sent a command, and now does that. -/
def Starts (taken : Taken IdempotencySystem IdempotencyAction) : Prop :=
  ∃ n now, taken.action = .command n now ∧ taken.after.requests[n]? = some .handling

/-- The response of a handler is stored. -/
def StoresResponse (taken : Taken IdempotencySystem IdempotencyAction) : Prop :=
  ∃ n now response, taken.action = .command n now ∧
    taken.before.requests[n]? = some (.storing (.set { state := .completed, response }))

/-- At most one request holds the key, and the record says so. -/
structure Exclusive (s : IdempotencySystem) : Prop where
  single : s.requests.countP RequestPhase.holds ≤ 1
  claimed : ∀ request ∈ s.requests, request.holds = true →
    s.record.map IdempotencyRecord.state = some .processing

variable {idempotencyKey : String} {s s' : IdempotencySystem} {action : IdempotencyAction}
  {n : Nat} {now : Time} {phase : RequestPhase} {command : KeyCommand}

/-- What a command does. -/
theorem command_cases (stepped : step idempotencyKey s (.command n now) = some s') :
    ∃ phase command, s.requests[n]? = some phase ∧ phase.command? = some command ∧
      s' = { record := command.leaves s.record
             requests := s.requests.set n (phase.resume idempotencyKey now s.record) } := by
  obtain ⟨phase, found, stepped⟩ := Option.bind_eq_some_iff.mp stepped
  obtain ⟨command, next, rfl⟩ := Option.map_eq_some_iff.mp stepped
  exact ⟨phase, command, found, next, rfl⟩

/-- While the record does not say PROCESSING, no request holds the key. -/
theorem none_holds (exclusive : Exclusive s)
    (free : s.record.map IdempotencyRecord.state ≠ some .processing) :
    s.requests.countP RequestPhase.holds = 0 := by
  rw [List.countP_eq_zero]
  intro request member holds
  exact free (exclusive.claimed request member holds)

/-- A request that does not hold the key goes on without it. -/
theorem exclusive_pass (exclusive : Exclusive s) {next : RequestPhase}
    (found : s.requests[n]? = some phase) (without : next.holds = false) :
    Exclusive { s with requests := s.requests.set n next } where
  single := by
    have counted := countP_set next RequestPhase.holds found
    have single := exclusive.single
    rw [without] at counted
    simp only [Bool.false_eq_true, if_false] at counted ⊢
    omega
  claimed := by
    intro request member holds
    rcases List.mem_or_eq_of_mem_set member with old | rfl
    · exact exclusive.claimed request old holds
    · simp [without] at holds

/-- Any record may be put where no request holds the key. -/
theorem exclusive_record (exclusive : Exclusive s)
    (free : s.requests.countP RequestPhase.holds = 0) (record : Option IdempotencyRecord) :
    Exclusive { s with record } where
  single := exclusive.single
  claimed := by
    intro request member holds
    exact absurd holds (List.countP_eq_zero.mp free request member)

/-- A request claims the key that no other holds. -/
theorem exclusive_claim (free : s.requests.countP RequestPhase.holds = 0)
    (found : s.requests[n]? = some phase) {next : RequestPhase} :
    Exclusive { record := some processingPayload, requests := s.requests.set n next } where
  single := by
    have counted := countP_set next RequestPhase.holds found
    have bound : (if next.holds then 1 else 0) ≤ 1 := by split <;> omega
    rw [free] at counted
    simp only
    omega
  claimed := fun _ _ _ => rfl

/-- The request that holds the key lets go of it and leaves any record. -/
theorem exclusive_release (exclusive : Exclusive s) {next : RequestPhase}
    (found : s.requests[n]? = some phase) (holding : phase.holds = true)
    (without : next.holds = false) (record : Option IdempotencyRecord) :
    Exclusive { record, requests := s.requests.set n next } := by
  have passed := exclusive_pass exclusive found without
  have counted := countP_set next RequestPhase.holds found
  have single := exclusive.single
  rw [holding, without] at counted
  simp only [if_true, Bool.false_eq_true, if_false] at counted
  exact exclusive_record passed (by simp only; omega) record

/-- The request that holds the key goes on holding it. -/
theorem exclusive_keep (exclusive : Exclusive s) {next : RequestPhase}
    (found : s.requests[n]? = some phase) (holding : phase.holds = true)
    (still : next.holds = true) : Exclusive { s with requests := s.requests.set n next } where
  single := by
    have counted := countP_set next RequestPhase.holds found
    have single := exclusive.single
    rw [holding, still] at counted
    simp only [if_true] at counted ⊢
    omega
  claimed := by
    intro request member holds
    rcases List.mem_or_eq_of_mem_set member with old | rfl
    · exact exclusive.claimed request old holds
    · exact exclusive.claimed phase (List.mem_of_getElem? found) holding

theorem afterGet_holds (idempotencyKey : String) (now : Time) (stored : Option IdempotencyRecord) :
    (afterGet idempotencyKey now stored).holds = false := by
  unfold afterGet
  split
  · rfl
  · split
    · split <;> rfl
    · rfl
    · rfl

private theorem afterReclaim_holds (parsed : IdempotencyRecord) :
    (afterReclaim idempotencyKey now parsed).holds = false := by
  unfold afterReclaim
  split
  · split <;> rfl
  · rfl

/-- A record that is failed or gone is not PROCESSING. -/
theorem not_processing (failed : ∀ record ∈ s.record, record.state = .failedRetryable) :
    s.record.map IdempotencyRecord.state ≠ some .processing := by
  intro processing
  obtain ⟨record, here, state⟩ := Option.map_eq_some_iff.mp processing
  rw [failed record here] at state
  cases state

private theorem exclusive_command (exclusive : Exclusive s) (found : s.requests[n]? = some phase)
    (next : phase.command? = some command) (reclaims : ReclaimsFailed s (.command n now)) :
    Exclusive { record := command.leaves s.record
                requests := s.requests.set n (phase.resume idempotencyKey now s.record) } := by
  cases phase with
  | arrived | retrying =>
    cases next
    rcases Option.eq_none_or_eq_some s.record with here | ⟨record, here⟩
    · have free := none_holds exclusive (by simp [here])
      simpa [KeyCommand.leaves, here] using exclusive_claim free found
    · have kept : KeyCommand.leaves s.record (.setNx processingPayload) = s.record := by
        simp [KeyCommand.leaves, here]
      rw [kept]
      exact exclusive_pass exclusive found (by simp [RequestPhase.resume, here, RequestPhase.holds])
  | contending =>
    cases next
    exact exclusive_pass exclusive found (afterGet_holds _ _ s.record)
  | reclaiming parsed =>
    cases next
    have failed := reclaims (by simp [found, RequestPhase.overwrites])
    rcases Option.eq_none_or_eq_some s.record with here | ⟨record, here⟩
    · have kept : KeyCommand.leaves s.record (.setXx processingPayload) = s.record := by
        simp [KeyCommand.leaves, here]
      rw [kept]
      apply exclusive_pass exclusive found
      simp only [RequestPhase.resume, here, Option.isSome_none, Bool.false_eq_true, if_false]
      exact afterReclaim_holds parsed
    · have free := none_holds exclusive (not_processing failed)
      simpa [KeyCommand.leaves, here] using exclusive_claim free found
  | deleting message =>
    cases next
    have failed := reclaims (by simp [found, RequestPhase.overwrites])
    have free := none_holds exclusive (not_processing failed)
    exact exclusive_pass (exclusive_record exclusive free none) found rfl
  | storing command => exact exclusive_release exclusive found rfl rfl _
  | handling | ended => cases next

theorem exclusive_act (exclusive : Exclusive s)
    (allowed : ReclaimsFailed s action ∧ action ≠ .expire)
    (stepped : step idempotencyKey s action = some s') : Exclusive s' := by
  cases action with
  | arrive =>
    cases stepped
    constructor
    · simpa [RequestPhase.holds] using exclusive.single
    · intro request member holds
      rcases List.mem_append.mp member with old | new
      · exact exclusive.claimed request old holds
      · obtain rfl := List.mem_singleton.mp new
        cases holds
  | command n now =>
    obtain ⟨phase, command, found, next, rfl⟩ := command_cases stepped
    exact exclusive_command exclusive found next allowed.1
  | finish n now outcome =>
    simp only [step] at stepped
    split at stepped
    · rename_i found
      cases stepped
      exact exclusive_keep exclusive found rfl rfl
    · cases stepped
  | lose n =>
    obtain ⟨phase, found, rfl⟩ := Option.map_eq_some_iff.mp stepped
    exact exclusive_pass exclusive found rfl
  | expire => exact absurd rfl allowed.2

/-- No request claims a completed record, and none removes it. -/
theorem completed_command (idempotencyKey : String) (exclusive : Exclusive s)
    (completed : s.record.map IdempotencyRecord.state = some .completed)
    (found : s.requests[n]? = some phase) (next : phase.command? = some command)
    (reclaims : ReclaimsFailed s (.command n now)) :
    command.leaves s.record = s.record ∧
      phase.resume idempotencyKey now s.record ≠ .handling := by
  obtain ⟨record, here, state⟩ := Option.map_eq_some_iff.mp completed
  have unfailed : ¬ ∀ record ∈ s.record, record.state = .failedRetryable := by
    intro failed
    rw [failed record here] at state
    cases state
  cases phase with
  | arrived | retrying =>
    cases next
    simp [KeyCommand.leaves, RequestPhase.resume, here]
  | contending =>
    cases next
    refine ⟨rfl, fun handling => ?_⟩
    have holds := afterGet_holds idempotencyKey now s.record
    simp only [RequestPhase.resume] at handling
    rw [handling] at holds
    cases holds
  | reclaiming parsed =>
    exact absurd (reclaims (by simp [found, RequestPhase.overwrites])) unfailed
  | deleting message =>
    exact absurd (reclaims (by simp [found, RequestPhase.overwrites])) unfailed
  | storing command =>
    have processing := exclusive.claimed _ (List.mem_of_getElem? found) rfl
    rw [completed] at processing
    cases processing
  | handling | ended => cases next

theorem completed_step (exclusive : Exclusive s)
    (completed : s.record.map IdempotencyRecord.state = some .completed)
    (allowed : ReclaimsFailed s action ∧ action ≠ .expire)
    (stepped : step idempotencyKey s action = some s') :
    s'.record = s.record ∧ ¬ Starts ⟨s, action, s'⟩ := by
  cases action with
  | arrive =>
    cases stepped
    exact ⟨rfl, by rintro ⟨n, now, other, -⟩; cases other⟩
  | command n now =>
    obtain ⟨phase, command, found, next, rfl⟩ := command_cases stepped
    obtain ⟨kept, passes⟩ := completed_command idempotencyKey exclusive completed
      found next allowed.1
    refine ⟨kept, ?_⟩
    rintro ⟨m, later, same, handling⟩
    cases same
    obtain ⟨bound, -⟩ := List.getElem?_eq_some_iff.mp found
    simp only [List.getElem?_set_self bound, Option.some.injEq] at handling
    exact passes handling
  | finish n now outcome =>
    simp only [step] at stepped
    split at stepped
    · cases stepped
      exact ⟨rfl, by rintro ⟨n, now, other, -⟩; cases other⟩
    · cases stepped
  | lose n =>
    obtain ⟨phase, found, rfl⟩ := Option.map_eq_some_iff.mp stepped
    exact ⟨rfl, by rintro ⟨n, now, other, -⟩; cases other⟩
  | expire => exact absurd rfl allowed.2

private theorem exclusive_handlers (exclusive : Exclusive s) : s.handlers ≤ 1 := by
  refine Nat.le_trans (List.countP_mono_left ?_) exclusive.single
  intro request member handling
  rw [of_decide_eq_true handling]
  rfl

/-- Storing a response completes the record. -/
theorem completed_of_stores (stores : StoresResponse ⟨s, action, s'⟩)
    (stepped : step idempotencyKey s action = some s') :
    s'.record.map IdempotencyRecord.state = some .completed := by
  obtain ⟨n, now, response, rfl, found⟩ := stores
  obtain ⟨phase, command, here, next, rfl⟩ := command_cases stepped
  obtain rfl := Option.some.inj (here.symm.trans found)
  cases next
  rfl

end IdempotencySystem

section Runs
open IdempotencySystem

variable {idempotencyKey : String} {s : IdempotencySystem} {actions : List IdempotencyAction}

theorem exclusive_new : Exclusive {} where
  single := Nat.zero_le 1
  claimed := fun _ member => by cases member

/-- While the record does not expire, and no request reclaims or deletes a record
that another has claimed since it was read, one handler runs at a time, and none
begins once a response is stored. -/
theorem idempotency_at_most_once (ran : run (step idempotencyKey) {} actions = some s)
    (unexpired : ∀ action ∈ actions, action ≠ .expire)
    (reclaims : Admits (step idempotencyKey) ReclaimsFailed {} actions) :
    s.handlers ≤ 1 ∧
      ∀ earlier taken later, trace (step idempotencyKey) {} actions = earlier ++ taken :: later →
        StoresResponse taken → ∀ next ∈ later, ¬ Starts next := by
  have allowed := admits_and reclaims unexpired
  have keeps : ∀ {s action s'}, Exclusive s → ReclaimsFailed s action ∧ action ≠ .expire →
      step idempotencyKey s action = some s' → Exclusive s' := exclusive_act
  refine ⟨exclusive_handlers (run_inv keeps exclusive_new allowed ran), ?_⟩
  intro earlier taken later shape stores next member
  have here : taken ∈ trace (step idempotencyKey) {} actions := by simp [shape]
  obtain ⟨exclusive, held, stepped⟩ := trace_inv keeps exclusive_new allowed taken here
  obtain ⟨-, -, rest, rfl, following⟩ := trace_cut allowed shape
  have completed := completed_of_stores stores stepped
  have after := exclusive_act exclusive held stepped
  have both : ∀ {s action s'},
      Exclusive s ∧ s.record.map IdempotencyRecord.state = some .completed →
      ReclaimsFailed s action ∧ action ≠ .expire → step idempotencyKey s action = some s' →
      Exclusive s' ∧ s'.record.map IdempotencyRecord.state = some .completed := by
    rintro s action s' ⟨exclusive, completed⟩ allowed stepped
    rw [(completed_step exclusive completed allowed stepped).1]
    exact ⟨exclusive_act exclusive allowed stepped, completed⟩
  obtain ⟨⟨exclusive, completed⟩, held, stepped⟩ :=
    trace_inv both ⟨after, completed⟩ following next member
  exact (completed_step exclusive completed held stepped).2

/-- A request fails, and a later one reclaims its record and succeeds. -/
def failedThenRetried : List IdempotencyAction :=
  [.arrive, .command 0 0, .finish 0 10 (.threw (.http 503)), .command 0 11, .arrive,
   .command 1 40000, .command 1 40001, .command 1 40002,
   .finish 1 40010 (.returned ⟨201, "created", []⟩), .command 1 40011]

theorem idempotency_at_most_once_retry :
    (run (step "order-1") {} failedThenRetried).isSome ∧
      ∀ earlier taken later, trace (step "order-1") {} failedThenRetried =
          earlier ++ taken :: later →
        StoresResponse taken → ∀ next ∈ later, ¬ Starts next :=
  ⟨by decide, (idempotency_at_most_once rfl (by decide) (by decide)).2⟩

/-- Two requests have read the failed record: both reclaim it. -/
theorem both_reclaim :
    ∃ s, run (step "order-1") {}
        [.arrive, .command 0 0, .finish 0 10 (.threw (.http 503)), .command 0 11,
          .arrive, .arrive, .command 1 40000, .command 2 40000, .command 1 40001,
          .command 2 40001, .command 1 40002, .command 2 40002] = some s ∧ ¬ s.handlers ≤ 1 :=
  ⟨_, rfl, by decide⟩

end Runs

end DriverMicroServices
