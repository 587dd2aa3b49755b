import DriverMicroServices.Tables.Keyed

/-! The states of a migration and the records that keep them. A call that changes a record may
throw after it has changed it, so each call gives what it returns or throws, and the records. -/
namespace DriverMicroServices.SchemaEngine
open Tables.Keyed

inductive MigrationState where
  | PLANNED
  | VALIDATED
  | SIMULATED
  | APPROVED
  | REPLAYED
  | EXECUTING
  | COMPLETED
  | FAILED
  | ROLLED_BACK
deriving DecidableEq, Repr

/-- The number of the state, which is what a text shows of it. -/
def MigrationState.number : MigrationState → Nat
  | .PLANNED => 0
  | .VALIDATED => 1
  | .SIMULATED => 2
  | .APPROVED => 3
  | .REPLAYED => 4
  | .EXECUTING => 5
  | .COMPLETED => 6
  | .FAILED => 7
  | .ROLLED_BACK => 8

structure MigrationStateRecord where
  migrationId : String
  state : MigrationState
  startedAt : Int
  completedAt : Option Int := none
  checksum : Option String := none
  planHash : Option String := none
  error : Option String := none
  metadata : List (String × String) := []
deriving DecidableEq

namespace MigrationStateMachine

/-- `TRANSITIONS` -/
def transitions : MigrationState → List MigrationState
  | .PLANNED => [.VALIDATED]
  | .VALIDATED => [.SIMULATED]
  | .SIMULATED => [.APPROVED]
  | .APPROVED => [.REPLAYED]
  | .REPLAYED => [.EXECUTING]
  | .EXECUTING => [.COMPLETED, .FAILED]
  | .FAILED => [.ROLLED_BACK]
  | .COMPLETED => []
  | .ROLLED_BACK => []

def canTransition (current next : MigrationState) : Bool := next ∈ transitions current

structure MigrationStateTransition where
  current : MigrationState
  next : MigrationState
  allowed : Bool
  reason : String

def validateTransition (current next : MigrationState) : MigrationStateTransition where
  current := current
  next := next
  allowed := canTransition current next
  reason :=
    if canTransition current next then s!"Valid transition from {current.number} to {next.number}"
    else s!"Invalid transition: {current.number} → {next.number} " ++
      "(must follow lifecycle: PLANNED → VALIDATED → SIMULATED → APPROVED → EXECUTING → COMPLETED)"

def enforceTransition (current next : MigrationState) : Except String Unit :=
  let validation := validateTransition current next
  if validation.allowed then .ok ()
  else .error s!"Migration state transition blocked: {validation.reason}"

def canExecute (state : MigrationState) : Bool := state == .APPROVED

def isTerminal (state : MigrationState) : Bool := state == .COMPLETED || state == .ROLLED_BACK

end MigrationStateMachine

/-- `stateRecords` -/
abbrev MigrationRecords := List (String × MigrationStateRecord)

namespace MigrationStateRuntime

def createMigration (now : Int) (migrationId : String) (planHash : Option String)
    (records : MigrationRecords) : MigrationStateRecord × MigrationRecords :=
  let record : MigrationStateRecord := { migrationId, state := .PLANNED, startedAt := now, planHash }
  (record, put records migrationId record)

/-- `now` is what `new Date()` gives when the state is a last one. -/
def updateState (now : Int) (migrationId : String) (newState : MigrationState)
    (checksum error : Option String) (records : MigrationRecords) :
    Except String MigrationStateRecord × MigrationRecords :=
  match get records migrationId with
  | none => (.error s!"Migration {migrationId} not found", records)
  | some record =>
    match MigrationStateMachine.enforceTransition record.state newState with
    | .error message => (.error message, records)
    | .ok () =>
      let record := { record with
        state := newState
        checksum
        error
        completedAt := if MigrationStateMachine.isTerminal newState then some now else record.completedAt }
      (.ok record, put records migrationId record)

def getState (migrationId : String) (records : MigrationRecords) : Option MigrationStateRecord :=
  get records migrationId

def validatePlanHash (migrationId expectedHash : String) (records : MigrationRecords) : Bool :=
  match get records migrationId with
  | none => false
  | some record => record.planHash == some expectedHash

/-- The second call may throw when the first one has changed the record. -/
def rollbackState (now : Int) (migrationId error : String) (records : MigrationRecords) :
    Except String MigrationStateRecord × MigrationRecords :=
  match get records migrationId with
  | none => (.error s!"Migration {migrationId} not found", records)
  | some _ =>
    match updateState now migrationId .FAILED none (some error) records with
    | (.error message, records) => (.error message, records)
    | (.ok _, records) => updateState now migrationId .ROLLED_BACK none none records

/-- `record.completedAt && record.completedAt < cutoff`, where the cutoff may be no date. -/
def isExpired (cutoff : Option Int) (record : MigrationStateRecord) : Bool :=
  match record.completedAt, cutoff with
  | some completedAt, some cutoff => completedAt < cutoff
  | _, _ => false

/-- The cutoff is the date so many hours ago. -/
def cleanup (cutoff : Option Int) (records : MigrationRecords) : Nat × MigrationRecords :=
  ((records.filter fun entry => isExpired cutoff entry.2).length,
    records.filter fun entry => !isExpired cutoff entry.2)

end MigrationStateRuntime

namespace MigrationStateGuard

/-- A guard that asks for one state. -/
def guardState (verb : String) (wanted : String) (passes : MigrationState → Bool) (migrationId : String)
    (records : MigrationRecords) : Except String Unit :=
  match get records migrationId with
  | none => .error s!"Migration {migrationId} not found"
  | some record =>
    if passes record.state then .ok ()
    else .error s!"Migration {migrationId} cannot {verb}: current state is {record.state.number}, must be {wanted}"

def guardExecution : String → MigrationRecords → Except String Unit :=
  guardState "execute" "APPROVED" MigrationStateMachine.canExecute

def guardSimulation : String → MigrationRecords → Except String Unit :=
  guardState "simulate" "VALIDATED" (· == .VALIDATED)

def guardApproval : String → MigrationRecords → Except String Unit :=
  guardState "approve" "SIMULATED" (· == .SIMULATED)

def validatePlanConsistency (migrationId planHash : String) (records : MigrationRecords) : Except String Unit :=
  if MigrationStateRuntime.validatePlanHash migrationId planHash records then .ok ()
  else .error (s!"Migration {migrationId} plan hash mismatch: expected {planHash}, " ++ "but plan has changed")

end MigrationStateGuard

/-! ## What an update does -/

namespace MigrationStateRuntime
open MigrationStateMachine

variable {now : Int} {id : String} {newState : MigrationState} {checksum error : Option String}
  {records : MigrationRecords}

/-- The record after an accepted transition. -/
def moved (now : Int) (newState : MigrationState) (checksum error : Option String)
    (record : MigrationStateRecord) : MigrationStateRecord :=
  { record with
    state := newState
    checksum
    error
    completedAt := if isTerminal newState then some now else record.completedAt }

theorem enforce_ok : enforceTransition current next = .ok () ↔ next ∈ transitions current := by
  unfold enforceTransition validateTransition canTransition
  by_cases allowed : next ∈ transitions current <;> simp [allowed]

/-- An update changes one record along a transition, or throws and changes nothing. -/
theorem updateState_cases (now : Int) (id : String) (newState : MigrationState)
    (checksum error : Option String) (records : MigrationRecords) :
    (∃ record, get records id = some record ∧ newState ∈ transitions record.state ∧
      updateState now id newState checksum error records =
        (.ok (moved now newState checksum error record),
          put records id (moved now newState checksum error record))) ∨
    ((∀ record, get records id = some record → newState ∉ transitions record.state) ∧
      ∃ message, updateState now id newState checksum error records = (.error message, records)) := by
  unfold updateState
  cases found : get records id with
  | none => exact .inr ⟨by simp, _, rfl⟩
  | some record =>
    by_cases allowed : newState ∈ transitions record.state
    · exact .inl ⟨record, rfl, allowed, by simp only [enforce_ok.mpr allowed]; rfl⟩
    · refine .inr ⟨by simpa using allowed, ?_⟩
      cases enforced : enforceTransition record.state newState with
      | ok done => exact absurd (enforce_ok.mp enforced) allowed
      | error message => exact ⟨message, by simp only [enforced]⟩

theorem updateState_ok (found : get records id = some record) (allowed : newState ∈ transitions record.state) :
    updateState now id newState checksum error records =
      (.ok (moved now newState checksum error record),
        put records id (moved now newState checksum error record)) := by
  rcases updateState_cases now id newState checksum error records with
    ⟨other, found', -, result⟩ | ⟨refused, -⟩
  · rw [found] at found'
    cases found'
    exact result
  · exact absurd allowed (refused record found)

/-- A rollback takes both steps or none: from a failed migration, the second is always accepted. -/
theorem rollbackState_cases (now : Int) (id error : String) (records : MigrationRecords) :
    (∃ record, get records id = some record ∧ record.state = .EXECUTING ∧
      rollbackState now id error records =
        (.ok (moved now .ROLLED_BACK none none (moved now .FAILED none (some error) record)),
          put (put records id (moved now .FAILED none (some error) record)) id
            (moved now .ROLLED_BACK none none (moved now .FAILED none (some error) record)))) ∨
    ((∀ record, get records id = some record → record.state ≠ .EXECUTING) ∧
      ∃ message, rollbackState now id error records = (.error message, records)) := by
  unfold rollbackState
  cases found : get records id with
  | none => exact .inr ⟨by simp, _, rfl⟩
  | some record =>
    rcases updateState_cases now id .FAILED none (some error) records with
      ⟨same, found', allowed, result⟩ | ⟨refused, message, result⟩
    · rw [found] at found'
      cases found'
      have executing : record.state = .EXECUTING := by
        revert allowed
        cases record.state <;> simp [transitions]
      refine .inl ⟨record, rfl, executing, ?_⟩
      simp only [result]
      exact updateState_ok get_put_self (.head _)
    · refine .inr ⟨?_, message, by simp only [result]⟩
      rintro _ ⟨⟩ executing
      exact refused record found (by simp [executing, transitions])

end MigrationStateRuntime
end DriverMicroServices.SchemaEngine
