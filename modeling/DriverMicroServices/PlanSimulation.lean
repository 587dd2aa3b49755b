import DriverMicroServices.ExecutionOrder
import DriverMicroServices.MigrationBoot
import DriverMicroServices.MigrationStates
import DriverMicroServices.Outbox

/-! The simulation of a plan. It orders the statements, checks them, and then writes the hash of
the simulation into the migration's record before it asks for the record's next state. -/
namespace DriverMicroServices.SchemaEngine
open Texts.Regex Texts.Regex.Pattern

structure SimulationResult where
  success : Bool
  errors : List String := []
  warnings : List String := []
  executionOrder : List String := []
  estimatedTime : String := "0s"
deriving DecidableEq

namespace ExecutionPlanner

/-- `sql.toUpperCase().includes(keywords)` -/
def mentions (sql keywords : String) : Bool := includes sql.toUpper keywords

/-- The tables of the operations that pass a test on their texts. -/
def tablesOf (operations : List SchemaOperation) (test : String → Bool) : List String :=
  (operations.filter fun op => test op.sql).filterMap fun op => extractTableName op.sql

def isCreation (sql : String) : Bool := mentions sql "CREATE TABLE"

def isDrop (sql : String) : Bool := !isCreation sql && mentions sql "DROP TABLE"

/-- The errors of `validateDependencies`; it never warns. -/
def validateDependencies (plan : MigrationExecutionPlan) (executionOrder : ExecutionOrder) : List String :=
  let missing := executionOrder.dependencies.flatMap fun entry =>
    (entry.2.filter (· ∉ executionOrder.operations)).map fun dep =>
      s!"Missing dependency: {entry.1} depends on {dep}"
  let tableCreations := tablesOf plan.operations isCreation
  let tableDrops := tablesOf plan.operations isDrop
  let untouched := plan.operations.filterMap fun op =>
    match extractTableName op.sql with
    | some table =>
      if table ∉ tableCreations ∧ table ∉ tableDrops then
        some s!"Operation on table {table} - table must exist before migration"
      else none
    | none => none
  missing ++ untouched

/-- `/(\d+)([smh])/` -/
def estimate : Pattern :=
  seq (group (plus Char.isDigit)) (seq (group (one fun c => c = 's' || c = 'm' || c = 'h')) empty)

def parseTimeEstimate (timeStr : String) : Nat :=
  match estimate.search timeStr with
  | some [value, unit] =>
    let value := value.toNat?.getD 0
    if unit = "s" then value else if unit = "m" then value * 60 else value * 3600
  | _ => 300

def operationSeconds (operation : SchemaOperation) : Nat :=
  match operation.metadata.bind (·.estimatedTime) with
  | some time => if time = "" then default else parseTimeEstimate time
  | none => default
where
  default : Nat :=
    match operation.category with
    | .SAFE => 30
    | .DATA => 300
    | .BREAKING => 600
    | .FIX => 0

def estimateExecutionTime (plan : MigrationExecutionPlan) : String :=
  let totalSeconds := plan.operations.foldl (fun totalSeconds op => totalSeconds + operationSeconds op) 0
  if totalSeconds < 60 then s!"{totalSeconds}s"
  else if totalSeconds < 3600 then s!"{totalSeconds / 60}m {totalSeconds % 60}s"
  else s!"{totalSeconds / 3600}h {totalSeconds % 3600 / 60}m"

/-- `record.metadata = { ...record.metadata, simulationHash }` -/
def writeHash (simulationHash migrationId : String) (record : MigrationStateRecord)
    (records : MigrationRecords) : MigrationRecords :=
  Tables.Keyed.put records migrationId
    { record with metadata := Tables.Keyed.put record.metadata "simulationHash" simulationHash }

/-- What is done with the records when a plan has passed. An update that throws ends the
simulation, but the hash has been written by then. -/
def storeSimulation (now : Int) (simulationHash migrationId : String) (records : MigrationRecords) :
    Except String Unit × MigrationRecords :=
  match MigrationStateRuntime.getState migrationId records with
  | none => (.ok (), records)
  | some record =>
    match MigrationStateRuntime.updateState now migrationId .SIMULATED none none
        (writeHash simulationHash migrationId record records) with
    | (.error message, records) => (.error message, records)
    | (.ok _, records) => (.ok (), records)

/-- The hash is that of the plan's own hash, the order and its dependencies. -/
def simulateExecution (hash : MigrationExecutionPlan → ExecutionOrder → String) (now : Int)
    (plan : MigrationExecutionPlan) (migrationId : String) (records : MigrationRecords) :
    SimulationResult × MigrationRecords :=
  match resolveExecutionOrder plan with
  | .error message => ({ success := false, errors := [message] }, records)
  | .ok executionOrder =>
    let errors := validateDependencies plan executionOrder
    if !errors.isEmpty then ({ success := false, errors }, records)
    else
      match storeSimulation now (hash plan executionOrder) migrationId records with
      | (.error message, records) => ({ success := false, errors := [message] }, records)
      | (.ok (), records) =>
        ({ success := true
           executionOrder := executionOrder.operations
           estimatedTime := estimateExecutionTime plan }, records)

end ExecutionPlanner
end DriverMicroServices.SchemaEngine
