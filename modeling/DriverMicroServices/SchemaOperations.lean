/-! The operations of a migration and the plan that its phases make. -/
namespace DriverMicroServices

inductive SqlCategory where
  | SAFE
  | DATA
  | BREAKING
  | FIX
deriving DecidableEq, Repr

/-- No classification gives `X_LARGE`; the size of a batch has a case for it. -/
inductive TableSize where
  | SMALL
  | MEDIUM
  | LARGE
  | X_LARGE
deriving DecidableEq, Repr

structure OperationMetadata where
  tableSize : Option TableSize := none
  estimatedTime : Option String := none
  requiresDowntime : Option Bool := none
  batchSize : Option Nat := none
deriving DecidableEq, Repr

structure SchemaOperation where
  sql : String
  category : SqlCategory
  reason : String
  metadata : Option OperationMetadata := none
  dependencies : List String := []
  conflicts : List String := []
deriving DecidableEq, Repr

inductive PhaseName where
  | EXPAND
  | DATA
  | CONTRACT
  | FIX
deriving DecidableEq, Repr

structure PhasePlan where
  phase : PhaseName
  operations : List SchemaOperation := []
  order : List String := []
deriving DecidableEq, Repr

structure MigrationExecutionPlan where
  operations : List SchemaOperation
  phases : List PhasePlan
  executionOrder : List String

/-- `buildExecutionOrder`, the phases one after the other. -/
def buildExecutionOrder (phases : List PhasePlan) : List String := phases.flatMap (·.order)

/-- `MigrationExecutionPlanBuilder.buildFromPhases`. -/
def buildFromPhases (phases : List PhasePlan) (operations : List SchemaOperation) :
    MigrationExecutionPlan where
  operations := operations
  phases := phases
  executionOrder := buildExecutionOrder phases

end DriverMicroServices
