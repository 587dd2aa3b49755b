import DriverMicroServices.CycleChecks

/-! The validation of a migration plan before it is used. It hands its phases to the validator of
execution plans, with a map of dependencies for that one's check for cycles. -/
namespace DriverMicroServices
open Graphs

inductive Severity where
  | LOW
  | MEDIUM
  | HIGH
  | CRITICAL
deriving DecidableEq, Repr

structure RiskReport where
  operation : String
  severity : Severity

structure CompatibilityReport where
  breakingChanges : List String := []

structure MigrationPlan where
  operations : List SchemaOperation
  phases : List PhasePlan
  graph : OperationGraph
  risks : List RiskReport := []
  compatibility : CompatibilityReport := {}

/-- An execution plan with its map of dependencies and its reports. -/
structure ReportedPlan extends MigrationExecutionPlan where
  dependencies : Dependencies
  risks : List RiskReport
  compatibility : CompatibilityReport

structure ValidationResult where
  isValid : Bool
  errors : List String
  warnings : List String
  score : Int
deriving DecidableEq

def isLarge (operation : SchemaOperation) : Bool :=
  operation.metadata.bind (·.tableSize) == some .LARGE

def riskPoints (risk : RiskReport) : Int :=
  match risk.severity with
  | .LOW => 5
  | .MEDIUM => 15
  | .HIGH => 30
  | .CRITICAL => 50

/-- The score of both validators. -/
def calculatePlanScore (risks : List RiskReport) (compatibility : CompatibilityReport)
    (operations : List SchemaOperation) : Int :=
  let score := risks.foldl (fun score risk => score - riskPoints risk) 100
  max 0 (score - compatibility.breakingChanges.length * 25 - (operations.filter isLarge).length * 20)

def validatePlan (plan : ReportedPlan) : ValidationResult :=
  let cycles := match findCycle plan.dependencies with
    | some cycle => ["Dependency cycle detected: " ++ " → ".intercalate cycle]
    | none => []
  let order := if plan.executionOrder ≠ plan.phases.flatMap (·.order) then
    ["Execution order does not match phase order"] else []
  let missing := (plan.operations.map (·.sql)).eraseDups.filter (· ∉ plan.executionOrder)
  { isValid := (cycles ++ order).isEmpty
    errors := cycles ++ order
    warnings := missing.map ("Operation not in execution order: " ++ ·)
    score := calculatePlanScore plan.risks plan.compatibility plan.operations }

def PhaseName.text : PhaseName → String
  | .EXPAND => "EXPAND"
  | .DATA => "DATA"
  | .CONTRACT => "CONTRACT"
  | .FIX => "FIX"

def isMixed (phase : PhasePlan) : Bool :=
  phase.operations.any (·.category == .BREAKING) && phase.operations.any (·.category != .BREAKING)

/-- A line for a check that found something. -/
def finding (message : String) (found : List String) : List String :=
  if found.isEmpty then [] else [message ++ ", ".intercalate found]

def validateMigrationPlan (plan : MigrationPlan) : ValidationResult :=
  let criticalRisks := plan.risks.filter (·.severity == .CRITICAL)
  let largeTableOps := plan.operations.filter isLarge
  let mixedPhaseOperations := plan.phases.filter isMixed
  let execution := validatePlan
    { operations := plan.operations
      phases := plan.phases
      executionOrder := plan.phases.flatMap (·.order)
      dependencies := []
      risks := plan.risks
      compatibility := plan.compatibility }
  let errors := finding "Critical risks detected: " (criticalRisks.map (·.operation)) ++
    finding "Breaking compatibility changes detected: " plan.compatibility.breakingChanges ++
    finding "Mixed phase operations detected in phases: " (mixedPhaseOperations.map (·.phase.text)) ++
    execution.errors
  { isValid := errors.isEmpty
    errors
    warnings := finding "Large table operations detected: " (largeTableOps.map (·.sql)) ++
      execution.warnings
    score := calculatePlanScore plan.risks plan.compatibility plan.operations }

/-- The execution plan in which each operation depends on what its statement has edges to. -/
def withEdges (plan : MigrationPlan) : MigrationExecutionPlan :=
  buildFromPhases plan.phases
    (plan.operations.map fun operation =>
      { operation with dependencies := plan.graph.edges.of operation.sql })

/-! ## What the validation checks -/

/-- What it rejects a plan for. -/
structure Unobjectionable (plan : MigrationPlan) : Prop where
  risks : ∀ risk ∈ plan.risks, risk.severity ≠ .CRITICAL
  compatible : plan.compatibility.breakingChanges = []
  unmixed : ∀ phase ∈ plan.phases, isMixed phase = false

private theorem finding_eq_nil (message : String) (found : List String) :
    finding message found = [] ↔ found = [] := by
  unfold finding
  cases found <;> simp

/-- An empty map has no cycle, and the order that is handed over is that of the phases. -/
theorem execution_accepts (plan : MigrationPlan) :
    (validatePlan
      { operations := plan.operations
        phases := plan.phases
        executionOrder := plan.phases.flatMap (·.order)
        dependencies := []
        risks := plan.risks
        compatibility := plan.compatibility }).errors = [] := by
  have none : findCycle [] = none := rfl
  simp [validatePlan, none]

/-- The graph of the plan has no part in whether it is valid. -/
theorem valid_iff (plan : MigrationPlan) :
    (validateMigrationPlan plan).isValid = true ↔ Unobjectionable plan := by
  simp only [validateMigrationPlan, execution_accepts, List.append_nil, List.isEmpty_iff,
    List.append_eq_nil_iff, finding_eq_nil, List.map_eq_nil_iff, List.filter_eq_nil_iff]
  constructor
  · rintro ⟨⟨risks, compatible⟩, unmixed⟩
    exact ⟨by simpa using risks, compatible, by simpa using unmixed⟩
  · rintro ⟨risks, compatible, unmixed⟩
    exact ⟨⟨by simpa using risks, compatible⟩, by simpa using unmixed⟩

/-! ## Orders of a plan -/

/-- Numbers that fall along a relation. -/
def Ranked {α : Type} (needs : α → α → Prop) : Prop :=
  ∃ rank : α → Nat, ∀ a b, needs a b → rank b < rank a

theorem Ranked.acyclic {α : Type} {needs : α → α → Prop} (ranked : Ranked needs) (a : α) :
    ¬ Relation.TransGen needs a a := by
  obtain ⟨rank, falls⟩ := ranked
  have descends : ∀ a b, Relation.TransGen needs a b → rank b < rank a := by
    intro a b path
    induction path with
    | single edge => exact falls _ _ edge
    | tail _ edge ih => exact Nat.lt_trans (falls _ _ edge) ih
  exact fun cycle => Nat.lt_irrefl _ (descends a a cycle)

/-- Statements that are no keys depend on nothing, so they rank lowest. -/
theorem acyclic_iff_ranked (dependencies : Dependencies) :
    dependencies.Acyclic ↔ Ranked fun s t => t ∈ dependencies.of s := by
  refine ⟨fun acyclic => ?_, fun ranked s => ranked.acyclic s⟩
  obtain ⟨order, sorted⟩ :=
    (topologicalSort_returns dependencies dependencies.keys fun _ key => key).mpr acyclic
  rcases DepthFirst.sort_spec dependencies.of dependencies.keys with
    ⟨node, -, stopped, -⟩ | ⟨found, returned, topological⟩
  · rw [topologicalSort, stopped] at sorted
    cases sorted
  · refine ⟨fun s => if s ∈ dependencies.keys then found.idxOf s + 1 else 0, fun s t edge => ?_⟩
    have key := (key_of_depends edge).1
    by_cases target : t ∈ dependencies.keys
    · have before := topological.after s t ⟨key, target, edge⟩
      simp only [key, target, if_true]
      omega
    · simp [key, target]

private theorem resolves_iff_ranked (plan : MigrationExecutionPlan) :
    (∃ order, resolveExecutionOrder plan = .ok order) ↔ Ranked (Needs plan) := by
  obtain ⟨throws, -, orders⟩ := execution_order_topological plan
  constructor
  · rintro ⟨order, returned⟩
    exact ⟨order.operations.idxOf, (orders order returned).2.2.1⟩
  · intro ranked
    cases resolved : resolveExecutionOrder plan with
    | ok order => exact ⟨order, rfl⟩
    | error message =>
      obtain ⟨s, cycle⟩ := throws.mp ⟨message, resolved⟩
      exact absurd cycle (ranked.acyclic s)

/-- A statement of the order needs what it has an edge to, and what the phase before orders. -/
def NeedsEdges (plan : MigrationPlan) (s t : String) : Prop :=
  s ∈ plan.phases.flatMap (·.order) ∧ t ∈ plan.phases.flatMap (·.order) ∧
    ((∃ operation ∈ plan.operations, operation.sql = s) ∧ t ∈ plan.graph.edges.of s ∨
      ∃ previous current, Follow plan.phases previous current ∧ Runs current s ∧ t ∈ previous.order)

/-- Where all operations of a text list the same, it does not matter which one is the last. -/
theorem listsLast_iff {operations : List SchemaOperation}
    (same : ∀ operation ∈ operations, operation.sql = s → operation.dependencies = texts) :
    ListsLast operations s t ↔ (∃ operation ∈ operations, operation.sql = s) ∧ t ∈ texts := by
  constructor
  · rintro ⟨earlier, operation, later, rfl, named, member, -⟩
    rw [same operation (by simp) named] at member
    exact ⟨⟨operation, by simp, named⟩, member⟩
  · rintro ⟨named, member⟩
    induction operations with
    | nil => simp at named
    | cons first rest ih =>
      by_cases again : ∃ operation ∈ rest, operation.sql = s
      · obtain ⟨earlier, operation, later, rfl, found⟩ :=
          ih (fun operation there => same operation (List.mem_cons_of_mem _ there)) again
        exact ⟨first :: earlier, operation, later, rfl, found⟩
      · have here : first.sql = s := by
          obtain ⟨operation, there, named⟩ := named
          rcases List.mem_cons.mp there with rfl | there
          · exact named
          · exact absurd ⟨operation, there, named⟩ again
        refine ⟨[], first, rest, rfl, here, ?_, fun other there named => again ⟨other, there, named⟩⟩
        rw [same first (by simp) here]
        exact member

private theorem needs_withEdges (plan : MigrationPlan) : Needs (withEdges plan) = NeedsEdges plan := by
  funext s t
  have listed : ListsLast (withEdges plan).operations s t ↔
      (∃ operation ∈ plan.operations, operation.sql = s) ∧ t ∈ plan.graph.edges.of s := by
    have same : ∀ operation ∈ (withEdges plan).operations, operation.sql = s →
        operation.dependencies = plan.graph.edges.of s := by
      simp only [withEdges, buildFromPhases, List.mem_map]
      rintro _ ⟨operation, -, rfl⟩ rfl
      rfl
    rw [listsLast_iff same]
    simp [withEdges, buildFromPhases]
  simp only [Needs, DependsOn, listed]
  rfl

/-- What a plan is missing when the validation accepts it and its statements cannot be ordered:
the validation never looks at the graph. -/
theorem valid_plan_orders (plan : MigrationPlan) :
    ((validateMigrationPlan plan).isValid = true → plan.graph.edges.Acyclic ∧
      ∃ order, resolveExecutionOrder (withEdges plan) = .ok order) ↔
    ¬ Unobjectionable plan ∨
      Ranked (fun s t => t ∈ plan.graph.edges.of s) ∧ Ranked (NeedsEdges plan) := by
  rw [valid_iff, acyclic_iff_ranked, resolves_iff_ranked, needs_withEdges, imp_iff_not_or]

/-- Two alterations of a table, each with an edge to the other. -/
def mutualPlan : MigrationPlan :=
  let first : SchemaOperation :=
    { sql := "ALTER TABLE \"t\" ADD \"a\" int", category := .SAFE, reason := "New column (additive)" }
  let second : SchemaOperation :=
    { sql := "ALTER TABLE \"t\" ADD \"b\" int", category := .SAFE, reason := "New column (additive)" }
  { operations := [first, second]
    phases := [{ phase := .EXPAND, operations := [first, second], order := [first.sql, second.sql] }]
    graph :=
      { nodes := [(first.sql, first), (second.sql, second)]
        edges := [(first.sql, [second.sql]), (second.sql, [first.sql])] } }

theorem mutual_plan_is_valid :
    (validateMigrationPlan mutualPlan).isValid = true ∧ ¬ mutualPlan.graph.edges.Acyclic ∧
    ∃ message, resolveExecutionOrder (withEdges mutualPlan) = .error message := by
  refine ⟨by decide, ?_, "Circular dependency detected at: ALTER TABLE \"t\" ADD \"a\" int", by decide⟩
  intro acyclic
  have forth : CycleSearch.Depends mutualPlan.graph.edges.of "ALTER TABLE \"t\" ADD \"a\" int"
      "ALTER TABLE \"t\" ADD \"b\" int" := .head _
  have back : CycleSearch.Depends mutualPlan.graph.edges.of "ALTER TABLE \"t\" ADD \"b\" int"
      "ALTER TABLE \"t\" ADD \"a\" int" := .head _
  exact acyclic _ (.tail (.single forth) back)

end DriverMicroServices
