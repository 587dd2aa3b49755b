import DriverMicroServices.Offers

/-! `SafeDispatchService`: each dispatch is recorded as a decision, and the
legacy dispatch runs at most once for a delivery as far as the decisions tell.
Every step on a database or on Redis may fail. Of the log, the model has only
the lines of a branch that leaves the delivery to somebody else. -/
namespace DriverMicroServices
open Transactions Program

/-- How a step fails: before it took effect, or with its answer lost. The
message is that of the driver of the database or of Redis. -/
inductive Fault where
  | none
  | before (message : String)
  | after (message : String)
  deriving DecidableEq, Repr

def attempt (fault : Fault) (step : Call α) : Call α :=
  match fault with
  | .none => step
  | .before message => throw (.error message)
  | .after message => step.bind fun _ => throw (.error message)

/-- `logger.log`. -/
def log (line : String) : Call Unit := .log line (.ret (.ok ()))

/-! ## Decisions -/

/-- `Partial<DispatchDecision>`, as far as the service sets it. -/
structure DecisionUpdates where
  dispatchStatus : DispatchStatus
  dispatchMethod : Option DispatchMethod := none
  fallbackReason : Option String := none
  /-- `metadata: { fallbackClaim: true, ... }` takes the place of all metadata. -/
  fallbackClaim : Option Bool := none
  deriving DecidableEq, Repr

/-- `Object.assign(decision, updates)`. -/
def DispatchDecision.assign (decision : DispatchDecision) (updates : DecisionUpdates) :
    DispatchDecision :=
  { decision with
    dispatchStatus := updates.dispatchStatus
    dispatchMethod := updates.dispatchMethod.getD decision.dispatchMethod
    fallbackReason := updates.fallbackReason.or decision.fallbackReason
    fallbackClaim := updates.fallbackClaim.getD decision.fallbackClaim }

def Db.decision (db : Db) (id : Uuid) : Option DispatchDecision := db.row (.dispatchDecision id)

/-- `updateDispatchDecision`. -/
def updateDispatchDecision (decisionId : Uuid) (updates : DecisionUpdates) :
    Call DispatchDecision := do
  let some decision ← find (·.decision decisionId)
    | throw (.notFound s!"Dispatch decision not found: {decisionId}")
  let decision := decision.assign updates
  .autosave (.dispatchDecision decisionId) (·.map fun _ => decision) fun _ => .ret (.ok decision)

/-! ## The idempotent fallback -/

/-- What one run of the fallback meets outside the database, and which of its
steps fail. -/
structure FallbackAmbient where
  ambient : Ambient
  /-- The id of the claim. -/
  claimId : Uuid
  /-- Which of the locked decisions is the first of the result. -/
  first : Nat
  /-- What `findNearestAvailable` answers. -/
  nearestDriver : Option Uuid
  claimFault : Fault
  nearestFault : Fault
  offerFault : Fault
  assignedFault : Fault
  failedFault : Fault

/-- The ids of the legacy decisions about a delivery. -/
def Db.legacyDecisions (db : Db) (deliveryId : Uuid) : List Uuid :=
  db.scan fun
    | .dispatchDecision id, decision =>
      if decision.deliveryId = deliveryId ∧ decision.dispatchMethod = .legacy then some id else none
    | _, _ => none

/-- `SELECT ... FOR UPDATE`: lock each row that matched, and test it again. -/
def lockDecisions (deliveryId : Uuid) : List Uuid → Call (List DispatchDecision)
  | [] => return []
  | id :: rest => .lock (.dispatchDecision id) fun row => do
    let locked ← lockDecisions deliveryId rest
    let matching := row.filter fun decision =>
      decision.deliveryId = deliveryId ∧ decision.dispatchMethod = .legacy
    return matching.toList ++ locked

inductive ClaimResult where
  | alreadyExecuted
  | inProgress
  | claimed (claimId : Uuid)
  deriving DecidableEq, Repr

/-- The first transaction of `executeIdempotentFallback`. -/
def claimFallback (amb : FallbackAmbient) (deliveryId : Uuid) : Call ClaimResult :=
  transaction do
    let matched ← find (·.legacyDecisions deliveryId)
    let locked ← lockDecisions deliveryId matched
    let existingDecision := locked[amb.first % locked.length]?
    if existingDecision.any fun decision => decision.dispatchStatus = .assigned then
      return .alreadyExecuted
    if existingDecision.any fun decision =>
        decision.dispatchStatus = .pending ∧ decision.fallbackClaim then
      return .inProgress
    insert (.dispatchDecision amb.claimId)
      { deliveryId, cohort := .control, dispatchMethod := .legacy, dispatchStatus := .pending
        fallbackClaim := true }
    return .claimed amb.claimId

/-- What a dispatch answers. -/
inductive DispatchResult (ρ : Type) where
  | scored (driverId : Uuid) (score : Rat)
  | alreadyExecuted (reason : String)
  | inProgress (reason : String)
  | executed (reason : String) (result : ρ)

def DispatchResult.method : DispatchResult ρ → String
  | .scored _ _ => "SCORING_BASED"
  | _ => "LEGACY"

def executeIdempotentFallback (amb : FallbackAmbient) (deliveryId : Uuid) (reason : String)
    (fallbackCallback : FallbackAmbient → Call ρ) : Call (DispatchResult ρ) := do
  match ← attempt amb.claimFault (claimFallback amb deliveryId) with
  | .alreadyExecuted => return .alreadyExecuted reason
  | .inProgress =>
    log s!"Fallback already in progress for delivery {deliveryId}, returning"
    return .inProgress reason
  | .claimed claimId =>
    tryCatch
      (do
        let result ← fallbackCallback amb
        discard <| attempt amb.assignedFault <| updateDispatchDecision claimId
          { dispatchStatus := .assigned, fallbackClaim := some true }
        return .executed reason result)
      fun error => do
        discard <| attempt amb.failedFault <| updateDispatchDecision claimId
          { dispatchStatus := .failed, fallbackReason := some error.message
            fallbackClaim := some true }
        throw error

/-! ## Dispatch -/

structure EligibleDriver where
  driverId : Uuid
  score : Rat
  deriving DecidableEq

/-- `executeScoringDispatch`: it names a driver, and makes him no offer. -/
def executeScoringDispatch (deliveryId : Uuid) (eligibleDrivers : List EligibleDriver) :
    Call (DispatchResult ρ) := do
  let sortedDrivers := eligibleDrivers.mergeSort fun a b => b.score ≤ a.score
  let some selectedDriver := sortedDrivers.head?
    | throw (.badRequest "No eligible drivers found for scoring dispatch")
  let driverId := selectedDriver.driverId
  let score := selectedDriver.score
  log s!"Selected driver {driverId} with score {score} for delivery {deliveryId}"
  return .scored driverId score

/-- The code units of a text, as JavaScript holds them. -/
def codeUnits (text : String) : List UInt16 :=
  text.toList.flatMap fun c =>
    if c.toNat < 0x10000 then [UInt16.ofNat c.toNat]
    else
      [UInt16.ofNat (0xD800 + (c.toNat - 0x10000) / 0x400),
       UInt16.ofNat (0xDC00 + (c.toNat - 0x10000) % 0x400)]

/-- `hash & hash`. -/
def toInt32 (value : Int) : Int := value.bmod (2 ^ 32)

/-- One turn of the loop in `hashString`. -/
def hashStep (hash : Int) (char : UInt16) : Int := toInt32 (toInt32 (hash * 32) - hash + char.toNat)

def hashString (str : List UInt16) : Nat := (str.foldl hashStep 0).natAbs

/-- `assignToCohort`, once the percentage is read. -/
def assignToCohort (rolloutPercentage : Rat) (deliveryId : List UInt16) : DispatchCohort :=
  if ((hashString deliveryId % 100 : Nat) : Rat) < rolloutPercentage then .scoring else .control

/-- What one dispatch meets outside the database, and which of its steps fail. -/
structure DispatchAmbient where
  /-- The id of the decision. -/
  decisionId : Uuid
  rolloutPercentage : Rat
  /-- The reason of `shouldFallback`, which reads the metrics, when it says so. -/
  shouldFallback : Option String
  eligibleDrivers : List EligibleDriver
  decisionFault : Fault
  updateFault : Fault
  failedFault : Fault
  inTry : FallbackAmbient
  inCatch : FallbackAmbient

/-- The transaction that records the decision. -/
def createDecision (amb : DispatchAmbient) (deliveryId : Uuid) (cohort : DispatchCohort) :
    Call Unit :=
  transaction <| insert (.dispatchDecision amb.decisionId)
    { deliveryId, cohort, dispatchStatus := .pending
      dispatchMethod := if cohort = .scoring then .scoringBased else .legacy }

/-- The dispatch of one cohort. -/
def dispatchCohort (amb : DispatchAmbient) (deliveryId : Uuid) (cohort : DispatchCohort)
    (fallbackCallback : FallbackAmbient → Call ρ) : Call (DispatchResult ρ) := do
  if cohort = .scoring then
    match amb.shouldFallback with
    | some reason =>
      discard <| attempt amb.updateFault <| updateDispatchDecision amb.decisionId
        { dispatchStatus := .failed, fallbackReason := some reason }
      executeIdempotentFallback amb.inTry deliveryId reason fallbackCallback
    | none =>
      let result ← executeScoringDispatch deliveryId amb.eligibleDrivers
      discard <| attempt amb.updateFault <| updateDispatchDecision amb.decisionId
        { dispatchStatus := .assigned }
      return result
  else
    let result ← executeIdempotentFallback amb.inTry deliveryId "Control group" fallbackCallback
    discard <| attempt amb.updateFault <| updateDispatchDecision amb.decisionId
      { dispatchStatus := .assigned, dispatchMethod := some .legacy }
    return result

/-- `error?.status >= 400`. -/
def Exception.isHttp (error : Exception) : Bool := error.status.any (400 ≤ ·)

def executeSafeDispatch (amb : DispatchAmbient) (deliveryId : Uuid)
    (fallbackCallback : FallbackAmbient → Call ρ) : Call (DispatchResult ρ) := do
  let cohort := assignToCohort amb.rolloutPercentage (codeUnits deliveryId)
  attempt amb.decisionFault (createDecision amb deliveryId cohort)
  tryCatch (dispatchCohort amb deliveryId cohort fallbackCallback) fun error => do
    if error.isHttp then
      throw error
    discard <| attempt amb.failedFault <| updateDispatchDecision amb.decisionId
      { dispatchStatus := .failed, fallbackReason := some error.message }
    executeIdempotentFallback amb.inCatch deliveryId s!"Dispatch error: {error.message}"
      fallbackCallback

end DriverMicroServices
