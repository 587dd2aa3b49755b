import DriverMicroServices.Events
import DriverMicroServices.Requests
import DriverMicroServices.Transactions.Alone
import DriverMicroServices.Transactions.Phases
import DriverMicroServices.Transitions

/-! The fallback of one delivery under any number of dispatches at once. A claim in
`dispatch_decisions` is meant to keep all but one call from the callback, and it
does so as long as no call inserts a claim beside one that is still open, and no
call gives its claim up once the callback has returned. The code prevents
neither: a query that finds no row locks none, one that finds several tests only
the first, and the catch block also gives up the claim of a finished fallback. -/
namespace DriverMicroServices
open Transactions Program

variable {id id' deliveryId : Uuid}

/-! ## Claims -/

/-- A claim of the delivery that is in progress or done. -/
def DispatchDecision.OpenClaim (deliveryId : Uuid) (decision : DispatchDecision) : Prop :=
  decision.deliveryId = deliveryId ∧ decision.fallbackClaim = true ∧
    (decision.dispatchStatus = .pending ∨ decision.dispatchStatus = .assigned)

instance (decision : DispatchDecision) : Decidable (decision.OpenClaim deliveryId) :=
  inferInstanceAs (Decidable (_ ∧ _ ∧ _))

/-- The ids of the open claims of a delivery. -/
def Db.openClaims (db : Db) (deliveryId : Uuid) : List Uuid :=
  db.scan fun
    | .dispatchDecision id, decision => if decision.OpenClaim deliveryId then some id else none
    | _, _ => none

def Db.Open (db : Db) (deliveryId id : Uuid) : Prop :=
  ∃ row, db.decision id = some row ∧ row.OpenClaim deliveryId

/-- A query for the decisions that satisfy a test. -/
theorem mem_scan_decision (test : DispatchDecision → Prop) [DecidablePred test] {db : Db} :
    (id ∈ db.scan fun
      | .dispatchDecision id, decision => if test decision then some id else none
      | _, _ => none) ↔ ∃ row, db.decision id = some row ∧ test row := by
  rw [Store.mem_scan]
  constructor
  · rintro ⟨k, row, held, selected⟩
    cases k with
    | dispatchDecision id' =>
      dsimp only at selected
      split at selected <;> cases selected
      exact ⟨row, held, ‹_›⟩
    | _ => cases selected
  · rintro ⟨row, held, found⟩
    exact ⟨.dispatchDecision id, row, held, if_pos found⟩

private theorem mem_openClaims {db : Db} : id ∈ db.openClaims deliveryId ↔ db.Open deliveryId id :=
  mem_scan_decision (·.OpenClaim deliveryId)

/-! ## The check alone -/

/-! ## Watching the callback -/

/-- What the callback of a call does. -/
inductive Mark where
  | invoked
  | returned
  | threw
  deriving DecidableEq, Repr

def Mark.line : Mark → String
  | .invoked => "fallback callback invoked"
  | .returned => "fallback callback returned"
  | .threw => "fallback callback threw"

/-- The mark that a log line stands for. -/
def mark? (line : String) : Option Mark :=
  [Mark.invoked, .returned, .threw].find? fun mark => mark.line = line

theorem mark_line (mark : Mark) : mark? mark.line = some mark := by
  cases mark <;> decide

/-- The service's own lines begin with a capital letter, and the marks do not. -/
theorem silent_of_head (head : line.toList.head? ≠ some 'f') : mark? line = none := by
  rw [mark?, List.find?_eq_none]
  intro mark _ same
  rw [← of_decide_eq_true same] at head
  cases mark <;> exact head rfl

private theorem in_progress_silent (deliveryId : Uuid) :
    mark? s!"Fallback already in progress for delivery {deliveryId}, returning" = none := by
  apply silent_of_head
  simp [String.toList_append, toString]

private theorem selected_silent (deliveryId driverId : Uuid) (score : Rat) :
    mark? s!"Selected driver {driverId} with score {score} for delivery {deliveryId}" = none := by
  apply silent_of_head
  simp [String.toList_append, toString]

/-- The tables other than `dispatch_decisions`. -/
def Elsewhere (k : Key) : Prop := ∀ id, k ≠ .dispatchDecision id

/-- A fallback callback: any program that leaves the decisions to the service, and
logs no mark. -/
structure Fallback (ρ : Type) where
  run : FallbackAmbient → Call ρ
  touches : ∀ amb, (run amb).Touches Elsewhere
  logs : ∀ amb, (run amb).Logs fun line => mark? line = none

/-- The callback, with a log line where it begins and where it ends. -/
def Fallback.watched (fallback : Fallback ρ) (amb : FallbackAmbient) : Call ρ := do
  log Mark.invoked.line
  let result ← tryCatch (fallback.run amb) fun error => do
    log Mark.threw.line
    throw error
  log Mark.returned.line
  return result

theorem logs_throwIf {lines : String → Prop} [Decidable condition] {f : Unit → Call α}
    (rest : (f ()).Logs lines) : ((throwIf condition exception).bind f).Logs lines := by
  unfold throwIf
  split
  · trivial
  · exact rest

private theorem createOfferForDriver_logs {lines : String → Prop} (amb : Ambient) (driverId : Uuid)
    (expiresInSeconds : Option Nat) :
    (OffersService.createOfferForDriver amb driverId deliveryId expiresInSeconds).Logs lines := by
  have check : (checkDeliveryAcceptanceCapability driverId).Logs lines := by
    refine logs_bind (fun _ => trivial) fun driver => ?_
    split
    · exact logs_bind (fun _ => trivial) fun _ => trivial
    · trivial
  refine logs_bind (fun _ => trivial) fun driver => ?_
  cases driver with
  | none => trivial
  | some driver =>
    refine logs_throwIf (logs_bind check fun _ => ?_)
    refine logs_throwIf (logs_bind (fun _ => trivial) fun delivery => ?_)
    cases delivery with
    | none => trivial
    | some delivery =>
      refine logs_throwIf (logs_bind (fun found => ?_) fun _ => trivial)
      cases found <;> trivial

theorem attempt_touches {allowed : Key → Prop} {step : Call α} (fault : Fault)
    (touches : step.Touches allowed) : (attempt fault step).Touches allowed := by
  cases fault with
  | none => exact touches
  | before message => trivial
  | after message => exact touches_bind touches fun _ => trivial

theorem attempt_logs {lines : String → Prop} {step : Call α} (fault : Fault)
    (logs : step.Logs lines) : (attempt fault step).Logs lines := by
  cases fault with
  | none => exact logs
  | before message => trivial
  | after message => exact logs_bind logs fun _ => trivial

/-- The callback that the service is given is one. -/
def legacyFallback (deliveryId : Uuid) : Fallback Answer where
  run := legacyDispatch deliveryId
  touches := by
    intro amb
    refine touches_bind (attempt_touches _ trivial) fun nearestDriver => ?_
    cases nearestDriver with
    | none => trivial
    | some driverId =>
      refine touches_bind (touches_bind (attempt_touches _ ?_) fun _ => trivial) fun _ => trivial
      apply OffersService.createOfferForDriver_touches
      intro id same
      cases same
  logs := by
    intro amb
    refine logs_bind (attempt_logs _ trivial) fun nearestDriver => ?_
    cases nearestDriver with
    | none => trivial
    | some driverId =>
      refine logs_bind (logs_bind (attempt_logs _ ?_) fun _ => trivial) fun _ => trivial
      exact createOfferForDriver_logs amb.ambient driverId (some 90)

/-- What a call has made of its callback. -/
inductive CallbackState where
  | idle
  | running
  | returned
  deriving DecidableEq, Repr

def Mark.state : Mark → CallbackState
  | .invoked => .running
  | .returned => .returned
  | .threw => .idle

/-- The dispatches of one delivery, with what their callbacks have done so far. -/
structure Dispatches (ρ : Type) where
  system : System DispatchAmbient Row Exception (DispatchResult ρ)
  callback : Nat → CallbackState := fun _ => .idle
  /-- Some callback has returned. -/
  succeeded : Bool := false

namespace Dispatches

/-- The mark that the next step of a call logs. -/
def mark? (d : Dispatches ρ) (t : Nat) : Option Mark :=
  match d.system.effect? (.step t) with
  | some (_, .log line) => DriverMicroServices.mark? line
  | _ => none

/-- What is seen of a choice of the scheduler. -/
def observe (d : Dispatches ρ) (next : System DispatchAmbient Row Exception (DispatchResult ρ)) :
    Action DispatchAmbient → Dispatches ρ
  | .start t _ | .abort t => { d with system := next, callback := Function.update d.callback t .idle }
  | .step t =>
    match d.mark? t with
    | none => { d with system := next }
    | some mark =>
      { system := next, callback := Function.update d.callback t mark.state
        succeeded := d.succeeded || mark = .returned }

/-- One choice of the scheduler among the dispatches of the delivery. -/
def act (fallback : Fallback ρ) (deliveryId : Uuid) (d : Dispatches ρ)
    (action : Action DispatchAmbient) : Option (Dispatches ρ) :=
  (d.system.act (fun amb => executeSafeDispatch amb deliveryId fallback.watched) action).map
    fun next => d.observe next action

end Dispatches

/-- A row is stored without harm to the claims: a new claim finds no other open, and
none is given up after its callback has returned. -/
def Exclusive (deliveryId : Uuid) (callback : CallbackState) (db : Db) (id : Uuid)
    (decision : DispatchDecision) : Prop :=
  decision.fallbackClaim = true →
    (db.decision id = none → db.openClaims deliveryId = []) ∧
      (db.decision id ≠ none → decision.dispatchStatus = .failed → callback ≠ .returned)

instance : Decidable (Exclusive deliveryId callback db id decision) :=
  inferInstanceAs (Decidable (_ → (_ → _) ∧ (_ → _ → _)))

/-- The same of any row; the other tables hold no claims. -/
def ExclusiveWrite (deliveryId : Uuid) (callback : CallbackState) (db : Db) : Write Row → Prop
  | ⟨.dispatchDecision id, decision⟩ => Exclusive deliveryId callback db id decision
  | _ => True

instance (callback : CallbackState) (db : Db) :
    (entry : Write Row) → Decidable (ExclusiveWrite deliveryId callback db entry)
  | ⟨.dispatchDecision id, decision⟩ =>
    inferInstanceAs (Decidable (Exclusive deliveryId callback db id decision))
  | ⟨.delivery _, _⟩ | ⟨.sellerOrder _, _⟩ | ⟨.deliveryEvent _, _⟩ | ⟨.offer _, _⟩ | ⟨.driver _, _⟩
  | ⟨.assignment _, _⟩ | ⟨.outbox _, _⟩ | ⟨.driverStats _, _⟩ | ⟨.redis _, _⟩ => isTrue trivial

/-- The condition of a choice of the scheduler. -/
def Dispatches.ClaimsExclusive (deliveryId : Uuid) (d : Dispatches ρ) :
    Action DispatchAmbient → Prop
  | .step t => ∀ thread ∈ d.system.threads t, ∀ entry ∈ thread.writes d.system.store,
      ExclusiveWrite deliveryId (d.callback t) d.system.store entry
  | _ => True

instance (d : Dispatches ρ) :
    (action : Action DispatchAmbient) → Decidable (d.ClaimsExclusive deliveryId action)
  | .step t => inferInstanceAs (Decidable (∀ thread ∈ d.system.threads t, _))
  | .start _ _ | .abort _ => isTrue trivial

/-! ## The phases of a dispatch -/

/-- How far a call is with the claim it holds. -/
inductive ClaimStage where
  | claimed
  | running
  | threw
  | returned

/-- The decision that a call has made, and the claim it holds. -/
structure DispatchPhase where
  decision : Option Uuid := none
  claim : Option (Uuid × ClaimStage) := none

namespace DispatchPhase

def Owns (g : DispatchPhase) (id : Uuid) : Prop :=
  g.decision = some id ∨ ∃ stage, g.claim = some (id, stage)

/-- What its phase tells of the callback of a call. -/
def callback (g : DispatchPhase) : CallbackState :=
  match g.claim with
  | some (_, .running) => .running
  | some (_, .returned) => .returned
  | _ => .idle

theorem running_claim {g : DispatchPhase} (running : g.callback = .running) :
    ∃ id, g.claim = some (id, .running) := by
  unfold callback at running
  split at running
  · rename_i id held
    exact ⟨id, held⟩
  · cases running
  · cases running

/-- Its decision is no claim, and the claim that it holds is the only open one. -/
structure Knows (deliveryId : Uuid) (g : DispatchPhase) (db : Db) : Prop where
  decision : ∀ id, g.decision = some id → ∃ row, db.decision id = some row ∧ row.fallbackClaim = false
  claim : ∀ id stage, g.claim = some (id, stage) → ∀ id', db.Open deliveryId id' ↔ id' = id

/-- What a call does to one decision. -/
inductive Sets (deliveryId : Uuid) (before : Db) (g : DispatchPhase) (id : Uuid)
    (row : DispatchDecision) : DispatchPhase → Prop where
  | decides (fresh : before.decision id = none) (plain : row.fallbackClaim = false) :
    Sets deliveryId before g id row { g with decision := some id }
  | updates (own : g.decision = some id) (plain : row.fallbackClaim = false) :
    Sets deliveryId before g id row g
  | claims (fresh : before.decision id = none) (claim : row.OpenClaim deliveryId)
    (first : ∀ id', ¬ before.Open deliveryId id') :
    Sets deliveryId before g id row { g with claim := some (id, .claimed) }
  | assigns (own : g.claim = some (id, .returned)) (claim : row.OpenClaim deliveryId) :
    Sets deliveryId before g id row g
  | fails (own : g.claim = some (id, .threw)) (failed : ¬ row.OpenClaim deliveryId) :
    Sets deliveryId before g id row { g with claim := none }

/-- What a call stores: rows of other tables, or one decision. -/
inductive Stores (deliveryId : Uuid) (g : DispatchPhase) (before after : Db) :
    DispatchPhase → Prop where
  | aside (same : ∀ id, after.decision id = before.decision id) : Stores deliveryId g before after g
  | row {id : Uuid} {row : DispatchDecision} {g' : DispatchPhase}
    (others : ∀ id', id' ≠ id → after.decision id' = before.decision id')
    (here : after.decision id = some row) (sets : Sets deliveryId before g id row g') :
    Stores deliveryId g before after g'

/-- What a call logs: a mark where the callback begins and ends, or another line. -/
inductive Logs (g : DispatchPhase) : String → DispatchPhase → Prop where
  | invoked {id : Uuid} (own : g.claim = some (id, .claimed)) :
    Logs g Mark.invoked.line { g with claim := some (id, .running) }
  | returned {id : Uuid} (own : g.claim = some (id, .running)) :
    Logs g Mark.returned.line { g with claim := some (id, .returned) }
  | threw {id : Uuid} (own : g.claim = some (id, .running)) :
    Logs g Mark.threw.line { g with claim := some (id, .threw) }
  | other (silent : mark? line = none) : Logs g line g

variable {g g' h : DispatchPhase} {before after : Db}

theorem Knows.present (knows : g.Knows deliveryId before) (own : g.Owns id) :
    before.decision id ≠ none := by
  rcases own with own | ⟨stage, own⟩
  · obtain ⟨row, held, _⟩ := knows.decision id own
    simp [held]
  · obtain ⟨row, held, _⟩ := (knows.claim id stage own id).mpr rfl
    simp [held]

/-- The decision of a call is never a claim. -/
theorem Knows.plain (knows : g.Knows deliveryId before) (own : g.decision = some id) :
    ¬ before.Open deliveryId id := by
  rintro ⟨row, held, _, claim, _⟩
  obtain ⟨row', held', plain⟩ := knows.decision id own
  rw [held] at held'
  cases held'
  rw [claim] at plain
  cases plain

/-- A store leaves the decisions that are there and another's. -/
theorem Stores.spares (stored : Stores deliveryId g before after g')
    (present : before.decision id ≠ none) (foreign : ¬ g.Owns id) :
    after.decision id = before.decision id := by
  cases stored with
  | aside same => exact same id
  | @row id' row _ others here sets =>
    by_cases same : id = id'
    · subst same
      cases sets with
      | decides fresh | claims fresh => exact absurd fresh present
      | updates own => exact absurd (.inl own) foreign
      | assigns own | fails own => exact absurd (.inr ⟨_, own⟩) foreign
    · exact others id same

/-- A call comes to own only what it inserts. -/
theorem Stores.owns (stored : Stores deliveryId g before after g') (own : g'.Owns id) :
    g.Owns id ∨ before.decision id = none := by
  cases stored with
  | aside same => exact .inl own
  | row others here sets =>
    cases sets with
    | updates | assigns => exact .inl own
    | decides fresh =>
      rcases own with own | own
      · cases own
        exact .inr fresh
      · exact .inl (.inr own)
    | claims fresh =>
      rcases own with own | ⟨stage, own⟩
      · exact .inl (.inl own)
      · cases own
        exact .inr fresh
    | fails =>
      rcases own with own | ⟨stage, own⟩
      · exact .inl (.inl own)
      · cases own

/-- What a store does to the open claims. -/
inductive ClaimChange (deliveryId : Uuid) (g : DispatchPhase) (before after : Db)
    (g' : DispatchPhase) : Prop where
  | kept (phase : g'.claim = g.claim)
    (same : ∀ id, after.Open deliveryId id ↔ before.Open deliveryId id)
  | claimed {id : Uuid} (phase : g'.claim = some (id, .claimed)) (none : ∀ id', ¬ before.Open deliveryId id')
    (only : ∀ id', after.Open deliveryId id' ↔ id' = id)
  | failed {id : Uuid} (own : g.claim = some (id, .threw)) (phase : g'.claim = none)

theorem Stores.claims (stored : Stores deliveryId g before after g')
    (knows : g.Knows deliveryId before) : ClaimChange deliveryId g before after g' := by
  cases stored with
  | aside same => exact .kept rfl fun id => by simp only [Db.Open, same]
  | @row id row _ others here sets =>
    have elsewhere : ∀ id', id' ≠ id →
        (after.Open deliveryId id' ↔ before.Open deliveryId id') := by
      intro id' other
      simp only [Db.Open, others id' other]
    have there : after.Open deliveryId id ↔ row.OpenClaim deliveryId := by
      simp [Db.Open, here]
    have still (same : row.OpenClaim deliveryId ↔ before.Open deliveryId id) (id' : Uuid) :
        after.Open deliveryId id' ↔ before.Open deliveryId id' := by
      by_cases here : id' = id
      · subst here
        exact there.trans same
      · exact elsewhere id' here
    cases sets with
    | decides fresh plain =>
      exact .kept rfl (still (by simp [Db.Open, fresh, DispatchDecision.OpenClaim, plain]))
    | updates own plain =>
      have closed := knows.plain own
      exact .kept rfl (still (by simp [closed, DispatchDecision.OpenClaim, plain]))
    | assigns own claim =>
      have here := (knows.claim id _ own id).mpr rfl
      exact .kept rfl (still (iff_of_true claim here))
    | claims fresh claim first =>
      refine .claimed rfl first fun id' => ?_
      by_cases here : id' = id
      · subst here
        exact iff_of_true (there.mpr claim) rfl
      · exact (elsewhere id' here).trans (iff_of_false (first id') here)
    | fails own => exact .failed own rfl

private theorem Knows.after_store (knows : g.Knows deliveryId before)
    (stored : Stores deliveryId g before after g') : g'.Knows deliveryId after := by
  constructor
  · intro id own
    cases stored with
    | aside same =>
      rw [same]
      exact knows.decision id own
    | @row id' row _ others here sets =>
      have known : g.decision = some id → id ≠ id' →
          ∃ row, after.decision id = some row ∧ row.fallbackClaim = false := by
        intro own other
        rw [others id other]
        exact knows.decision id own
      cases sets with
      | decides fresh plain =>
        cases own
        exact ⟨row, here, plain⟩
      | updates own' plain =>
        rw [own'] at own
        cases own
        exact ⟨row, here, plain⟩
      | claims fresh =>
        refine known own ?_
        rintro rfl
        exact knows.present (.inl own) fresh
      | assigns own' | fails own' =>
        refine known own ?_
        rintro rfl
        exact knows.plain own ((knows.claim _ _ own' _).mpr rfl)
  · intro id stage own
    cases stored.claims knows with
    | kept phase same =>
      rw [phase] at own
      exact fun id' => (same id').trans (knows.claim id stage own id')
    | claimed phase none only =>
      rw [phase] at own
      cases own
      exact only
    | failed own' phase =>
      rw [phase] at own
      cases own

/-- What one call stores leaves another what it knows. -/
theorem Knows.after_other (apart : ∀ id, g.Owns id → ¬ h.Owns id)
    (own : g.Knows deliveryId before) (knows : h.Knows deliveryId before)
    (stored : Stores deliveryId g before after g') : h.Knows deliveryId after := by
  constructor
  · intro id decided
    have present := knows.present (.inl decided)
    rw [stored.spares present fun mine => apart id mine (.inl decided)]
    exact knows.decision id decided
  · intro id stage claim
    have only := knows.claim id stage claim
    cases stored.claims own with
    | kept phase same => exact fun id' => (same id').trans (only id')
    | claimed phase none => exact absurd ((only id).mpr rfl) (none id)
    | @failed id' own' phase =>
      have one : id' = id := (only id').mp ((own.claim id' _ own' id').mpr rfl)
      subst one
      exact absurd (.inr ⟨stage, claim⟩) (apart id' (.inr ⟨_, own'⟩))

theorem Logs.decision (logged : Logs g line g') : g'.decision = g.decision := by
  cases logged <;> rfl

/-- A log line leaves a call the claim it holds. -/
theorem Logs.claim (logged : Logs g line g') :
    (∃ stage, g'.claim = some (id, stage)) ↔ ∃ stage, g.claim = some (id, stage) := by
  cases logged with
  | invoked own | returned own | threw own => simp [own]
  | other => exact Iff.rfl

theorem Logs.owns (logged : Logs g line g') : g'.Owns id ↔ g.Owns id := by
  unfold Owns
  rw [logged.decision, logged.claim]

/-- Its stores say nothing of the callback of a call. -/
theorem Stores.callback (stored : Stores deliveryId g before after g')
    (knows : g.Knows deliveryId before) : g'.callback = g.callback := by
  cases stored.claims knows with
  | kept phase => simp only [DispatchPhase.callback, phase]
  | claimed phase none =>
    have free : g.claim = .none := by
      cases held : g.claim with
      | none => rfl
      | some claim => exact absurd ((knows.claim claim.1 claim.2 held claim.1).mpr rfl) (none claim.1)
    simp only [DispatchPhase.callback, phase, free]
  | failed own phase => simp only [DispatchPhase.callback, phase, own]

/-- Its marks do, and no other line. -/
theorem Logs.callback (logged : Logs g line g') :
    match mark? line with
    | none => g' = g
    | some mark => g'.callback = mark.state := by
  cases logged with
  | invoked | returned | threw =>
    rw [mark_line]
    rfl
  | other silent =>
    rw [silent]

end DispatchPhase

/-- The dispatches of a delivery as a protocol. -/
def dispatching (deliveryId : Uuid) : Protocol DispatchPhase Row where
  outset := {}
  knows g db := g.Knows deliveryId db
  apart g h := ∀ id, g.Owns id → ¬ h.Owns id
  admits g db entries := ∀ entry ∈ entries, ExclusiveWrite deliveryId g.callback db entry
  stores g before after g' := DispatchPhase.Stores deliveryId g before after g'
  logs g line g' := DispatchPhase.Logs g line g'
  symm apart id other own := apart id own other
  knows_outset := ⟨by simp, by simp⟩
  apart_outset id own := by
    rcases own with own | ⟨_, own⟩ <;> cases own
  own_store knows stored := knows.after_store stored
  other_store apart own knows stored := by
    refine ⟨.after_other apart own knows stored, fun id mine other => ?_⟩
    rcases stored.owns mine with mine | fresh
    · exact apart id mine other
    · exact knows.present other fresh
  own_line logged knows := by
    constructor
    · rw [logged.decision]
      exact knows.decision
    · intro id stage own
      obtain ⟨stage', own⟩ := logged.claim.mp ⟨stage, own⟩
      exact knows.claim id stage' own
  other_line logged apart id mine := apart id (logged.owns.mp mine)

/-! ## The programs obey -/

section Programs

variable {g : DispatchPhase} {pinned : Db → Prop} {buf : List (Write Row)}
  {decisionId claimId : Uuid}

theorem attempt_obeys {P : Protocol DispatchPhase Row} {post : Exit DispatchPhase Row Exception α}
    {step : Call α} (fault : Fault) (holds : step.Obeys P post g pinned buf)
    (unstarted : ∀ error, post (.error error) g pinned buf)
    (lost : ∀ value g pinned buf error, post (.ok value) g pinned buf →
      post (.error error) g pinned buf) :
    (attempt fault step).Obeys P post g pinned buf := by
  cases fault with
  | none => exact holds
  | before message => exact unstarted _
  | after message =>
    refine obeys_bind holds ?_ fun _ _ _ _ held => held
    exact fun value g pinned buf held => lost value g pinned buf _ held

/-- A step whose answer the call does not look at. -/
theorem discard_obeys {P : Protocol DispatchPhase Row} {post : Exit DispatchPhase Row Exception β}
    {kept : DispatchPhase → List (Write Row) → Prop} {step : Call α} {f : Unit → Call β}
    (fault : Fault) (start : kept g buf)
    (holds : step.Obeys P (fun _ g _ buf => kept g buf) g pinned buf)
    (rest : ∀ g pinned buf, kept g buf → (f ()).Obeys P post g pinned buf)
    (thrown : ∀ error g pinned buf, kept g buf → post (.error error) g pinned buf) :
    ((discard (attempt fault step) : Call Unit).bind f).Obeys P post g pinned buf := by
  have tried : (attempt fault step).Obeys P (fun _ g _ buf => kept g buf) g pinned buf :=
    attempt_obeys fault holds (fun _ => start) fun _ _ _ _ _ held => held
  have dropped : (discard (attempt fault step) : Call Unit).Obeys P (fun _ g _ buf => kept g buf)
      g pinned buf := obeys_bind tried (fun _ _ _ _ held => held) fun _ _ _ _ held => held
  exact obeys_bind dropped (fun _ => rest) thrown

/-- A query sees a store that the call knows. -/
theorem find_obeys {P : Protocol DispatchPhase Row} {post : Exit DispatchPhase Row Exception β}
    {query : Db → α} {f : α → Call β}
    (rest : ∀ now, P.knows g now → (f (query now)).Obeys P post g pinned buf) :
    ((find query).bind f).Obeys P post g pinned buf := rest

/-- What a transaction leaves that wrote no decision. -/
theorem stores_elsewhere {st : Db} (aside : ∀ entry ∈ buf, Elsewhere entry.1) :
    (dispatching deliveryId).stores g st (st.apply buf) g :=
  .aside fun id => Store.apply_row_untouched _ _ fun entry member => aside entry member id

/-- What a transaction leaves that inserted one. -/
theorem stores_insert {st : Db} {row : DispatchDecision} (aside : ∀ entry ∈ buf, Elsewhere entry.1)
    (sets : g.Sets deliveryId st id row g') :
    (dispatching deliveryId).stores g st (st.apply (buf ++ [⟨.dispatchDecision id, row⟩])) g' := by
  rw [Store.apply_append]
  refine .row (fun id' other => ?_) (Store.set_row_self ..) sets
  have different : Key.dispatchDecision id' ≠ .dispatchDecision id := fun same => other (by cases same; rfl)
  have kept := Store.apply_row_untouched st buf fun entry member => aside entry member id'
  exact (Store.set_row_ne _ _ different).trans kept

/-- An insert is followed by its commit, on a store without the row. -/
theorem insert_obeys {P : Protocol DispatchPhase Row} {post : Exit DispatchPhase Row Exception Unit}
    {row : DispatchDecision} (aside : ∀ entry ∈ buf, Elsewhere entry.1)
    (inserted : ∀ pinned' : Db → Prop, (∀ st, pinned' st → st.decision id = none) →
      post (.ok ()) g pinned' (buf ++ [⟨.dispatchDecision id, row⟩]))
    (taken : ∀ pinned' error, post (.error error) g pinned' buf) :
    (insert (.dispatchDecision id) row).Obeys P post g pinned buf := by
  intro now same
  have own := Store.apply_row_untouched now buf fun entry member => aside entry member id
  rw [own]
  cases found : now.row (.dispatchDecision id) with
  | some row => exact taken _ _
  | none => exact inserted _ fun st same => same.2

/-- The call has made its decision, and no open transaction of it has another. -/
def AtRest (decisionId : Uuid) (g : DispatchPhase) (buf : List (Write Row)) : Prop :=
  g.decision = some decisionId ∧ ∀ entry ∈ buf, Elsewhere entry.1

private theorem createDecision_obeys {amb : DispatchAmbient} :
    (createDecision amb deliveryId cohort).Obeys (dispatching deliveryId)
      (fun result g _ buf => result = .ok () → AtRest amb.decisionId g buf) {} pinned [] := by
  apply obeys_transaction
  refine insert_obeys (by simp) (fun pinned' free st same _ _ => ?_) fun _ _ thrown => by cases thrown
  exact ⟨_, stores_insert (by simp) (.decides (free st same) rfl), fun _ => ⟨rfl, by simp⟩⟩

/-- An update of a decision that the call owns. -/
theorem updateDispatchDecision_obeys {updates : DecisionUpdates}
    {post : Exit DispatchPhase Row Exception DispatchDecision} (own : g.Owns id)
    (sets : ∀ now row, g.Knows deliveryId now → now.decision id = some row →
      ∀ later, g.Knows deliveryId later →
        Exclusive deliveryId g.callback later id (row.assign updates) →
          ∃ g', g.Sets deliveryId later id (row.assign updates) g' ∧
            post (.ok (row.assign updates)) g' pinned buf) :
    (updateDispatchDecision id updates).Obeys (dispatching deliveryId) post g pinned buf := by
  refine find_obeys fun now knows => ?_
  obtain ⟨row, held⟩ := Option.ne_none_iff_exists'.mp (knows.present own)
  rw [held]
  intro later known admitted
  obtain ⟨old, there⟩ := Option.ne_none_iff_exists'.mp (known.present own)
  have there : later.row (.dispatchDecision id) = some old := there
  have exclusive := admitted ⟨.dispatchDecision id, row.assign updates⟩
    (by simp [Store.saved, there])
  obtain ⟨g', set, held⟩ := sets now row knows held later known exclusive
  refine ⟨g', .row (fun id' other => ?_) ?_ set, held⟩
  · exact Store.autosave_row_ne _ _ fun same => other (by cases same; rfl)
  · exact (Store.autosave_row_self _ _).trans (by simp [there])

/-- The decision of the call itself, which is no claim. -/
theorem updateDecision_obeys {updates : DecisionUpdates} (rest : AtRest id g buf)
    (plain : updates.fallbackClaim = none) :
    (updateDispatchDecision id updates).Obeys (dispatching deliveryId)
      (fun _ g _ buf => AtRest id g buf) g pinned buf := by
  refine updateDispatchDecision_obeys (.inl rest.1) fun now row knows held _ _ _ => ?_
  obtain ⟨row', held', none⟩ := knows.decision id rest.1
  rw [held] at held'
  cases held'
  exact ⟨g, .updates rest.1 (by simp [DispatchDecision.assign, plain, none]), rest⟩

/-- The claim of a call whose callback has returned. -/
theorem claimAssigned_obeys (rest : AtRest decisionId g buf)
    (own : g.claim = some (id, .returned)) :
    (updateDispatchDecision id { dispatchStatus := .assigned, fallbackClaim := some true }).Obeys
      (dispatching deliveryId)
      (fun _ g _ buf => AtRest decisionId g buf ∧ g.claim = some (id, .returned)) g pinned buf := by
  refine updateDispatchDecision_obeys (.inr ⟨_, own⟩) fun now row knows held _ _ _ => ?_
  obtain ⟨row', held', about, _⟩ := (knows.claim id _ own id).mpr rfl
  rw [held] at held'
  cases held'
  exact ⟨g, .assigns own ⟨about, rfl, .inr rfl⟩, rest, own⟩

/-- The claim of a call whose callback has ended: it is given up when the callback
threw, and not admitted to be given up when it returned. -/
theorem claimFailed_obeys {reason : String} (rest : AtRest decisionId g buf)
    (own : g.claim = some (id, .threw) ∨ g.claim = some (id, .returned)) :
    (updateDispatchDecision id
      { dispatchStatus := .failed, fallbackReason := some reason, fallbackClaim := some true }).Obeys
      (dispatching deliveryId) (fun _ g _ buf => AtRest decisionId g buf) g pinned buf := by
  have owns : g.Owns id := own.elim (fun own => .inr ⟨_, own⟩) fun own => .inr ⟨_, own⟩
  refine updateDispatchDecision_obeys owns fun now row _ _ later known exclusive => ?_
  rcases own with own | own
  · refine ⟨_, .fails own ?_, rest⟩
    rintro ⟨_, _, status | status⟩ <;> cases status
  · have kept := (exclusive rfl).2 (known.present owns) rfl
    simp [DispatchPhase.callback, own] at kept

/-- The rows under the lock say nothing that the claim rests on. -/
theorem lockDecisions_obeys {P : Protocol DispatchPhase Row}
    {post : Exit DispatchPhase Row Exception (List DispatchDecision)} (ids : List Uuid)
    (ends : ∀ locked pinned', post (.ok locked) g pinned' buf) :
    (lockDecisions deliveryId ids).Obeys P post g pinned buf := by
  induction ids generalizing post pinned with
  | nil => exact ends [] pinned
  | cons id rest ih =>
    intro now _
    refine obeys_onRet (ih fun locked pinned' => ?_)
    exact ends _ pinned'

/-- A claim is the only open one, or is not made. -/
theorem claimFallback_obeys {amb : FallbackAmbient} (rest : AtRest decisionId g buf) :
    (claimFallback amb deliveryId).Obeys (dispatching deliveryId) (fun result g _ buf =>
      AtRest decisionId g buf ∧ ∀ id, result = .ok (.claimed id) → g.claim = some (id, .claimed))
      g pinned buf := by
  have refused : ∀ (answer : ClaimResult) (pinned : Db → Prop), (∀ id, answer ≠ .claimed id) →
      ∀ st, pinned st → (dispatching deliveryId).knows g st → (dispatching deliveryId).admits g st buf →
        ∃ g', (dispatching deliveryId).stores g st (st.apply buf) g' ∧ AtRest decisionId g' [] ∧
          ∀ id, Except.ok (ε := Exception) answer = .ok (.claimed id) →
            g'.claim = some (id, .claimed) := by
    intro answer pinned other st _ _ _
    refine ⟨g, stores_elsewhere rest.2, ⟨rest.1, by simp⟩, fun id same => ?_⟩
    cases same
    exact absurd rfl (other id)
  refine obeys_transaction (find_obeys fun now _ => ?_)
  refine obeys_onRet (lockDecisions_obeys _ fun locked pinned' => ?_)
  dsimp only
  split
  · exact refused _ _ (by simp)
  · split
    · exact refused _ _ (by simp)
    · refine obeys_onRet (insert_obeys rest.2 (fun pinned' free st same knows admitted => ?_) ?_)
      · have fresh := free st same
        have exclusive := admitted ⟨.dispatchDecision amb.claimId, _⟩
          (List.mem_append_right _ (List.mem_singleton_self _))
        have none := (exclusive rfl).1 fresh
        have first : ∀ id, ¬ Db.Open st deliveryId id := by
          intro id claim
          have listed := mem_openClaims.mpr claim
          rw [none] at listed
          cases listed
        refine ⟨_, stores_insert rest.2 (.claims fresh ⟨rfl, rfl, .inl rfl⟩ first),
          ⟨rest.1, by simp⟩, fun id same => ?_⟩
        cases same
        rfl
      · exact fun _ _ => ⟨⟨rest.1, by simp⟩, fun _ same => by cases same⟩

theorem log_obeys {post : Exit DispatchPhase Row Exception α} {line : String} {f : Unit → Call α}
    (logged : g.Logs line g') (rest : (f ()).Obeys (dispatching deliveryId) post g' pinned buf) :
    ((log line).bind f).Obeys (dispatching deliveryId) post g pinned buf :=
  ⟨g', logged, rest⟩

/-- The callback of a call that has claimed it. -/
theorem watched_obeys {fallback : Fallback ρ} {amb : FallbackAmbient} (rest : AtRest decisionId g buf)
    (own : g.claim = some (id, .claimed)) :
    (fallback.watched amb).Obeys (dispatching deliveryId) (fun result g _ buf =>
      AtRest decisionId g buf ∧ match result with
        | .ok _ => g.claim = some (id, .returned)
        | .error _ => g.claim = some (id, .threw)) g pinned buf := by
  let running : DispatchPhase := { g with claim := some (id, .running) }
  have ran : (fallback.run amb).Obeys (dispatching deliveryId)
      (fun _ g' _ buf => g' = running ∧ ∀ entry ∈ buf, Elsewhere entry.1) running pinned buf := by
    refine obeys_touches (fallback.touches amb) (fallback.logs amb) (fun before after others => ?_)
      (fun line silent => .other silent) (fun _ _ _ aside => ⟨rfl, aside⟩) rest.2
    exact .aside fun id => others _ fun elsewhere => elsewhere id rfl
  refine log_obeys (.invoked own) ?_
  let ended : Exit DispatchPhase Row Exception ρ := fun result g' _ buf =>
    match result with
    | .ok _ => g' = running ∧ ∀ entry ∈ buf, Elsewhere entry.1
    | .error _ => AtRest decisionId g' buf ∧ g'.claim = some (id, .threw)
  have tried : (tryCatch (fallback.run amb) fun error => do
      log Mark.threw.line
      throw error : Call ρ).Obeys (dispatching deliveryId) ended running pinned buf := by
    refine obeys_tryCatch _ ran (fun _ _ _ _ held => held) ?_
    rintro error g' pinned buf ⟨rfl, aside⟩
    exact log_obeys (.threw rfl) ⟨⟨rest.1, aside⟩, rfl⟩
  refine obeys_bind tried ?_ ?_
  · rintro value g' pinned buf ⟨rfl, aside⟩
    exact log_obeys (.returned rfl) ⟨⟨rest.1, aside⟩, rfl⟩
  · exact fun _ _ _ _ held => held

theorem executeIdempotentFallback_obeys {fallback : Fallback ρ} {amb : FallbackAmbient}
    {reason : String} (rest : AtRest decisionId g buf) :
    (executeIdempotentFallback amb deliveryId reason fallback.watched).Obeys (dispatching deliveryId)
      (fun _ g _ buf => AtRest decisionId g buf) g pinned buf := by
  have claimed : (attempt amb.claimFault (claimFallback amb deliveryId)).Obeys
      (dispatching deliveryId) (fun result g _ buf => AtRest decisionId g buf ∧
        ∀ id, result = .ok (.claimed id) → g.claim = some (id, .claimed)) g pinned buf := by
    refine attempt_obeys _ (claimFallback_obeys rest) ?_ ?_
    · exact fun _ => ⟨rest, fun _ same => by cases same⟩
    · exact fun _ _ _ _ _ held => ⟨held.1, fun _ same => by cases same⟩
  refine obeys_bind claimed ?_ fun _ _ _ _ held => held.1
  rintro (_ | _ | claimId) g pinned buf ⟨rest, own⟩
  · exact rest
  · exact log_obeys (.other (in_progress_silent deliveryId)) rest
  · have own := own claimId rfl
    refine obeys_tryCatch (fun _ g _ buf => AtRest decisionId g buf ∧
      (g.claim = some (claimId, .threw) ∨ g.claim = some (claimId, .returned))) ?_ ?_ ?_
    · refine obeys_bind (watched_obeys rest own) ?_ ?_
      · rintro value g pinned buf ⟨rest, returned⟩
        refine discard_obeys _ ⟨rest, returned⟩ (claimAssigned_obeys rest returned) ?_ ?_
        · exact fun _ _ _ held => ⟨held.1, .inr held.2⟩
        · exact fun _ _ _ _ held => ⟨held.1, .inr held.2⟩
      · exact fun _ _ _ _ held => ⟨held.1, .inl held.2⟩
    · exact fun _ _ _ _ held => held.1
    · rintro error g pinned buf ⟨rest, ended⟩
      refine discard_obeys _ rest (claimFailed_obeys rest ended) ?_ ?_
      · exact fun _ _ _ held => held
      · exact fun _ _ _ _ held => held

private theorem executeScoringDispatch_obeys {eligibleDrivers : List EligibleDriver}
    (rest : AtRest decisionId g buf) :
    (executeScoringDispatch deliveryId eligibleDrivers : Call (DispatchResult ρ)).Obeys
      (dispatching deliveryId) (fun _ g _ buf => AtRest decisionId g buf) g pinned buf := by
  unfold executeScoringDispatch
  dsimp only
  split
  · exact log_obeys (.other (selected_silent deliveryId _ _)) rest
  · exact rest

private theorem dispatchCohort_obeys {fallback : Fallback ρ} {amb : DispatchAmbient}
    (rest : AtRest amb.decisionId g buf) :
    (dispatchCohort amb deliveryId cohort fallback.watched).Obeys (dispatching deliveryId)
      (fun _ g _ buf => AtRest amb.decisionId g buf) g pinned buf := by
  unfold dispatchCohort
  split
  · split
    · refine discard_obeys _ rest (updateDecision_obeys rest rfl) ?_ fun _ _ _ _ held => held
      exact fun _ _ _ held => executeIdempotentFallback_obeys held
    · refine obeys_bind (executeScoringDispatch_obeys rest) ?_ fun _ _ _ _ held => held
      intro result g pinned buf rest
      refine discard_obeys _ rest (updateDecision_obeys rest rfl) ?_ fun _ _ _ _ held => held
      exact fun _ _ _ held => held
  · refine obeys_bind (executeIdempotentFallback_obeys rest) ?_ fun _ _ _ _ held => held
    intro result g pinned buf rest
    refine discard_obeys _ rest (updateDecision_obeys rest rfl) ?_ fun _ _ _ _ held => held
    exact fun _ _ _ held => held

private theorem executeSafeDispatch_obeys (fallback : Fallback ρ) (amb : DispatchAmbient) :
    (executeSafeDispatch amb deliveryId fallback.watched).Obeys (dispatching deliveryId)
      (fun _ _ _ _ => True) {} (fun _ => True) [] := by
  refine obeys_bind (attempt_obeys _ createDecision_obeys (fun _ same => by cases same)
    fun _ _ _ _ _ _ same => by cases same) ?_ fun _ _ _ _ _ => trivial
  intro _ g pinned buf made
  refine obeys_tryCatch _ (dispatchCohort_obeys (made rfl)) (fun _ _ _ _ _ => trivial) ?_
  intro error g pinned buf rest
  split
  · trivial
  · refine discard_obeys _ rest (updateDecision_obeys rest rfl) ?_ fun _ _ _ _ _ => trivial
    intro g pinned buf rest
    exact obeys_mono (fun _ _ _ _ _ => trivial) (executeIdempotentFallback_obeys rest)

end Programs

/-! ## Runs -/

/-- What holds between two steps of the dispatches: once a callback has returned,
some claim is open, and no call holds one that it may yet act on. -/
structure Dispatches.Sound (deliveryId : Uuid) (d : Dispatches ρ) (phase : Nat → DispatchPhase) :
    Prop where
  kept : d.system.Kept (dispatching deliveryId) phase
  callback : ∀ t, d.callback t = (phase t).callback
  settled : d.succeeded = true → (∃ id, Db.Open d.system.store deliveryId id) ∧
    ∀ t id stage, (phase t).claim = some (id, stage) → stage = .returned

namespace Dispatches

variable {d d' : Dispatches ρ} {phase : Nat → DispatchPhase} {fallback : Fallback ρ}
  {action : Action DispatchAmbient} {actions : List (Action DispatchAmbient)}

theorem sound_initial (store : Db) :
    ({ system := { store } } : Dispatches ρ).Sound deliveryId fun _ => {} where
  kept := System.kept_initial store
  callback := fun _ => rfl
  settled := fun never => by cases never

private theorem callback_update {callback : Nat → CallbackState}
    (same : ∀ t, callback t = (phase t).callback) (t t' : Nat) (g : DispatchPhase) :
    Function.update callback t g.callback t' = (Function.update phase t g t').callback := by
  by_cases own : t' = t
  · subst own
    simp
  · simp [own, same]

private theorem settled_update
    (others : ∀ t', t' ≠ t → ∀ id stage, (phase t').claim = some (id, stage) → stage = .returned)
    (own : ∀ id stage, g.claim = some (id, stage) → stage = .returned) (t' : Nat) (id : Uuid)
    (stage : ClaimStage) (claim : (Function.update phase t g t').claim = some (id, stage)) :
    stage = .returned := by
  by_cases same : t' = t
  · subst same
    rw [Function.update_self] at claim
    exact own id stage claim
  · rw [Function.update_of_ne same] at claim
    exact others t' same id stage claim

/-- A call that stores does not close the claim that is open. -/
private theorem settled_store {g g' : DispatchPhase} {before after : Db}
    (knows : g.Knows deliveryId before) (stored : g.Stores deliveryId before after g')
    (claimed : ∃ id, before.Open deliveryId id)
    (own : ∀ id stage, g.claim = some (id, stage) → stage = .returned) :
    (∃ id, after.Open deliveryId id) ∧ ∀ id stage, g'.claim = some (id, stage) → stage = .returned := by
  obtain ⟨id, opened⟩ := claimed
  cases stored.claims knows with
  | kept phase same =>
    rw [phase]
    exact ⟨⟨id, (same id).mpr opened⟩, own⟩
  | claimed phase none => exact absurd opened (none id)
  | failed own' => cases own _ _ own'

/-- A step that logs no mark. -/
private theorem sound_unmarked {next : System DispatchAmbient Row Exception (DispatchResult ρ)}
    (sound : d.Sound deliveryId phase) (unmarked : d.mark? t = none)
    (kept : next.Kept (dispatching deliveryId) (Function.update phase t g))
    (callback : g.callback = (phase t).callback)
    (settled : (∃ id, Db.Open d.system.store deliveryId id) →
      (∀ id stage, (phase t).claim = some (id, stage) → stage = .returned) →
        (∃ id, Db.Open next.store deliveryId id) ∧
          ∀ id stage, g.claim = some (id, stage) → stage = .returned) :
    (d.observe next (.step t)).Sound deliveryId (Function.update phase t g) := by
  simp only [observe, unmarked]
  refine ⟨kept, fun t' => ?_, fun done => ?_⟩
  · have seen := callback_update sound.callback t t' g
    rwa [callback, ← sound.callback t, Function.update_eq_self] at seen
  · obtain ⟨claimed, returned⟩ := sound.settled done
    obtain ⟨claimed', own⟩ := settled claimed (returned t)
    exact ⟨claimed', settled_update (fun t' _ => returned t') own⟩

/-- A step that logs one: no callback begins once one has returned, and the call of
the one that returns holds the only claim. -/
private theorem sound_marked {next : System DispatchAmbient Row Exception (DispatchResult ρ)}
    (sound : d.Sound deliveryId phase) (marked : d.mark? t = some mark)
    (kept : next.Kept (dispatching deliveryId) (Function.update phase t g))
    (store : next.store = d.system.store) (logged : (phase t).Logs line g)
    (marks : DriverMicroServices.mark? line = some mark) :
    (d.observe next (.step t)).Sound deliveryId (Function.update phase t g) := by
  have seen := logged.callback
  rw [marks] at seen
  simp only [observe, marked]
  refine ⟨kept, fun t' => ?_, fun done => ?_⟩
  · rw [← seen]
    exact callback_update sound.callback t t' g
  · rw [store]
    cases logged with
    | invoked own | threw own =>
      rw [mark_line] at marks
      cases marks
      have before : d.succeeded = true := by simpa using done
      cases (sound.settled before).2 t _ _ own
    | @returned id own =>
      have only := (sound.kept.knows t).claim id _ own
      refine ⟨⟨id, (only id).mpr rfl⟩, settled_update (fun t' other id' stage claim => ?_) ?_⟩
      · have one : id = id' :=
          ((sound.kept.knows t').claim id' stage claim id).mp ((only id).mpr rfl)
        subst one
        exact absurd (.inr ⟨stage, claim⟩) (sound.kept.apart t t' other.symm id (.inr ⟨_, own⟩))
      · intro _ _ claim
        cases claim
        rfl
    | other silent =>
      rw [silent] at marks
      cases marks

/-- One choice of the scheduler keeps the dispatches sound. -/
theorem sound_act (sound : d.Sound deliveryId phase) (exclusive : d.ClaimsExclusive deliveryId action)
    (acted : d.act fallback deliveryId action = some d') :
    ∃ phase', d'.Sound deliveryId phase' := by
  obtain ⟨next, ran, rfl⟩ := Option.map_eq_some_iff.mp acted
  have allowed : d.system.Allows (dispatching deliveryId) phase action := by
    cases action with
    | step t =>
      intro thread found entry member
      rw [← sound.callback t]
      exact exclusive thread found entry member
    | _ => trivial
  obtain ⟨g, kept, choice⟩ := System.kept_act sound.kept (executeSafeDispatch_obeys fallback)
    allowed ran
  refine ⟨Function.update phase action.thread g, ?_⟩
  cases action with
  | start t label | abort t =>
    obtain ⟨store, rfl⟩ := choice
    refine ⟨kept, fun t' => callback_update sound.callback t t' {}, fun done => ?_⟩
    obtain ⟨claimed, returned⟩ := sound.settled done
    refine ⟨?_, settled_update (fun t' _ => returned t') fun _ _ claim => by cases claim⟩
    rwa [← store] at claimed
  | step t =>
    obtain ⟨thread, found, moved⟩ := choice
    have knows := sound.kept.knows t
    cases effect : thread.program.effect? with
    | none =>
      have silent : d.mark? t = none := by simp [mark?, System.effect?, found, effect]
      rw [effect] at moved
      obtain ⟨store, rfl⟩ := moved
      exact sound_unmarked sound silent kept rfl fun claimed own => ⟨store ▸ claimed, own⟩
    | some effect' =>
      rw [effect] at moved
      cases effect' with
      | log line =>
        have marks : d.mark? t = DriverMicroServices.mark? line := by
          simp [mark?, System.effect?, found, effect]
        obtain ⟨store, logged⟩ := moved
        cases marking : DriverMicroServices.mark? line with
        | none =>
          have still := logged.callback
          rw [marking] at still
          subst still
          exact sound_unmarked sound (marks.trans marking) kept rfl
            fun claimed own => ⟨store ▸ claimed, own⟩
        | some mark => exact sound_marked sound (marks.trans marking) kept store logged marking
      | autosave | commit =>
        have silent : d.mark? t = none := by simp [mark?, System.effect?, found, effect]
        exact sound_unmarked sound silent kept (DispatchPhase.Stores.callback moved knows)
          fun claimed own => settled_store knows moved claimed own

/-- A call whose callback is running holds the only open claim. -/
theorem Sound.running_once (sound : d.Sound deliveryId phase) (first : d.callback t = .running)
    (second : d.callback t' = .running) : t = t' := by
  obtain ⟨id, own⟩ := DispatchPhase.running_claim ((sound.callback t).symm.trans first)
  obtain ⟨id', own'⟩ := DispatchPhase.running_claim ((sound.callback t').symm.trans second)
  have one : id' = id :=
    ((sound.kept.knows t).claim id _ own id').mp (((sound.kept.knows t').claim id' _ own' id').mpr rfl)
  subst one
  by_contra other
  exact sound.kept.apart t t' other id' (.inr ⟨_, own⟩) (.inr ⟨_, own'⟩)

/-- Once a callback has returned, none is running. -/
theorem Sound.settled_idle (sound : d.Sound deliveryId phase) (done : d.succeeded = true) :
    d.callback t ≠ .running := by
  intro running
  obtain ⟨id, own⟩ := DispatchPhase.running_claim ((sound.callback t).symm.trans running)
  cases (sound.settled done).2 t id _ own

private theorem invoked_running (acted : d.act fallback deliveryId (.step t) = some d')
    (invoked : d.mark? t = some .invoked) :
    d'.callback t = .running ∧ d'.succeeded = d.succeeded := by
  obtain ⟨next, _, rfl⟩ := Option.map_eq_some_iff.mp acted
  simp [observe, invoked, Mark.state]

/-- Idempotent fallback dispatch: as long as claims are exclusive, no two calls run
the callback at once, and once it has returned no call invokes it again. -/
theorem fallback_exclusive (fallback : Fallback ρ) (deliveryId : Uuid) (store : Db)
    (actions : List (Action DispatchAmbient)) (d : Dispatches ρ)
    (exclusive : Transitions.Admits (act fallback deliveryId)
      (fun d action => d.ClaimsExclusive deliveryId action) { system := { store } } actions)
    (ran : Transitions.run (act fallback deliveryId) { system := { store } } actions = some d) :
    (∀ t t', d.callback t = .running → d.callback t' = .running → t = t') ∧
      ∀ taken ∈ Transitions.trace (act fallback deliveryId) { system := { store } } actions,
        taken.before.succeeded = true →
          ∀ t, taken.action = .step t → taken.before.mark? t ≠ some .invoked := by
  have keeps : ∀ {d : Dispatches ρ} {action d'}, (∃ phase, d.Sound deliveryId phase) →
      d.ClaimsExclusive deliveryId action → d.act fallback deliveryId action = some d' →
        ∃ phase, d'.Sound deliveryId phase :=
    fun ⟨_, sound⟩ exclusive acted => sound_act sound exclusive acted
  have start : ∃ phase, ({ system := { store } } : Dispatches ρ).Sound deliveryId phase :=
    ⟨_, sound_initial store⟩
  constructor
  · obtain ⟨phase, sound⟩ := Transitions.run_inv keeps start exclusive ran
    exact fun t t' first second => sound.running_once first second
  · rintro ⟨before, action, after⟩ member done t rfl invoked
    obtain ⟨sound, here, acted⟩ := Transitions.trace_inv keeps start exclusive _ member
    obtain ⟨phase, sound⟩ := keeps sound here acted
    obtain ⟨running, same⟩ := invoked_running acted invoked
    exact sound.settled_idle (same.trans done) running

end Dispatches

section Runs
open Sample

/-- The surroundings of the `n`th fallback, of which no step fails. -/
def nearest (n : Nat) : FallbackAmbient where
  ambient := ambient n 5
  claimId := "claim" ++ toString n
  first := 0
  nearestDriver := some "x"
  claimFault := .none
  nearestFault := .none
  offerFault := .none
  assignedFault := .none
  failedFault := .none

/-- The `n`th dispatch, of the control group. -/
def controlled (n : Nat) : DispatchAmbient where
  decisionId := "decision" ++ toString n
  rolloutPercentage := 0
  shouldFallback := none
  eligibleDrivers := []
  decisionFault := .none
  updateFault := .none
  failedFault := .none
  inTry := nearest n
  inCatch := { nearest n with ambient := ambient (n + 10) 5, claimId := "reclaim" ++ toString n }

abbrev Controlled := Dispatches Answer

def Controlled.initial : Controlled := { system := { store := shop } }

/-- A dispatch started and run for some steps. -/
def dispatched (t : Nat) (amb : DispatchAmbient) (steps : Nat) : List (Action DispatchAmbient) :=
  .start t amb :: List.replicate steps (.step t)

/-- Two dispatches, the second of which finds the first finished. -/
def oneByOne : List (Action DispatchAmbient) :=
  dispatched 0 (controlled 0) 19 ++ dispatched 1 (controlled 1) 10

theorem fallback_exclusive_shop :
    ∃ d, Transitions.run (Dispatches.act (legacyFallback "D1") "D1") Controlled.initial oneByOne =
        some d ∧ d.succeeded = true ∧
      (∀ t t', d.callback t = .running → d.callback t' = .running → t = t') ∧
      ∀ taken ∈ Transitions.trace (Dispatches.act (legacyFallback "D1") "D1") Controlled.initial
        oneByOne, taken.before.succeeded = true →
          ∀ t, taken.action = .step t → taken.before.mark? t ≠ some .invoked := by
  have succeeds : (Transitions.run (Dispatches.act (legacyFallback "D1") "D1") Controlled.initial
      oneByOne).map (·.succeeded) = some true := by
    decide
  obtain ⟨d, ran, succeeded⟩ := Option.map_eq_some_iff.mp succeeds
  have kept := Dispatches.fallback_exclusive (legacyFallback "D1") "D1" shop oneByOne d
    (by decide) ran
  exact ⟨d, ran, succeeded, kept⟩

/-- Two dispatches that both query before either has claimed. The rows that they lock
are the decisions of the control group, which tell the second nothing of the claim. -/
def sideBySide : List (Action DispatchAmbient) :=
  dispatched 0 (controlled 0) 4 ++ dispatched 1 (controlled 1) 4 ++
    List.replicate 5 (.step 0) ++ List.replicate 6 (.step 1)

/-- One dispatch whose callback returns, and whose claim is then not updated. It gives
the claim up and makes another. -/
def unrecorded : List (Action DispatchAmbient) :=
  dispatched 0
    { controlled 0 with inTry := { nearest 0 with assignedFault := .before "connection lost" } } 29

theorem fallback_repeated :
    (∃ d, Transitions.run (Dispatches.act (legacyFallback "D1") "D1") Controlled.initial
        sideBySide = some d ∧ d.callback 0 = .running ∧ d.callback 1 = .running) ∧
      ∃ taken ∈ Transitions.trace (Dispatches.act (legacyFallback "D1") "D1") Controlled.initial
        unrecorded, taken.before.succeeded = true ∧
          ∃ t, taken.action = .step t ∧ taken.before.mark? t = some .invoked := by
  constructor
  · have running : (Transitions.run (Dispatches.act (legacyFallback "D1") "D1") Controlled.initial
        sideBySide).map (fun d => (d.callback 0, d.callback 1)) = some (.running, .running) := by
      decide
    obtain ⟨d, ran, states⟩ := Option.map_eq_some_iff.mp running
    obtain ⟨first, second⟩ := Prod.mk.inj states
    exact ⟨d, ran, first, second⟩
  · have invoked : (Transitions.trace (Dispatches.act (legacyFallback "D1") "D1")
        Controlled.initial unrecorded).any (fun taken => taken.before.succeeded &&
          match taken.action with
          | .step t => taken.before.mark? t == some .invoked
          | _ => false) = true := by
      decide
    obtain ⟨⟨before, action, after⟩, member, again⟩ := List.any_eq_true.mp invoked
    obtain ⟨succeeded, again⟩ := (Bool.and_eq_true _ _).mp again
    cases action with
    | step t => exact ⟨_, member, succeeded, t, rfl, beq_iff_eq.mp again⟩
    | start t amb | abort t => cases again

end Runs

end DriverMicroServices
