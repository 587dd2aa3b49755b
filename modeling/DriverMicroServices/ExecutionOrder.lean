import DriverMicroServices.Graphs.DepthFirst
import DriverMicroServices.SchemaOperations
import DriverMicroServices.Tables.Keyed
import Mathlib.Data.List.Induction

/-! The order in which the statements of a plan are executed. Dependencies are kept under the
text of a statement: those of its operation, and the statements of the phase before. -/
namespace DriverMicroServices
open Tables.Keyed Graphs

abbrev Dependencies := List (String × List String)

/-- `dependencies.get(node) || []` -/
def Dependencies.of (dependencies : Dependencies) (node : String) : List String :=
  (get dependencies node).getD []

/-- `ExecutionOrder`, with the phases by their names. -/
structure ExecutionOrder where
  phases : List PhaseName
  operations : List String
  dependencies : Dependencies
deriving DecidableEq

/-- One operation after the other, each under its text. -/
def explicitDependencies (operations : List SchemaOperation) : Dependencies :=
  operations.foldl (fun dependencies operation => put dependencies operation.sql operation.dependencies) []

/-- The operations of a phase depend on the phase before. -/
def addPhase (dependencies : Dependencies) (previous current : PhasePlan) : Dependencies :=
  current.operations.foldl
    (fun dependencies operation =>
      put dependencies operation.sql (dependencies.of operation.sql ++ previous.order)) dependencies

def addPhases (dependencies : Dependencies) : List PhasePlan → Dependencies
  | previous :: current :: rest => addPhases (addPhase dependencies previous current) (current :: rest)
  | _ => dependencies

def buildDependencyGraph (plan : MigrationExecutionPlan) : Dependencies :=
  addPhases (explicitDependencies plan.operations) plan.phases

/-- What `topologicalSort` throws; the second is what the engine throws when calls nest too
deep. -/
def stopMessage : DepthFirst.Stop String → String
  | .circular node => s!"Circular dependency detected at: {node}"
  | .depth => "Maximum call stack size exceeded"

def topologicalSort (dependencies : Dependencies) (operations : List String) :
    Except String (List String) :=
  (DepthFirst.sort dependencies.of operations).mapError stopMessage

def groupByPhases (phases : List PhasePlan) (executionOrder : List String) : List PhaseName :=
  (phases.filter fun phase => executionOrder.any (phase.order.contains ·)).map (·.phase)

def resolveExecutionOrder (plan : MigrationExecutionPlan) : Except String ExecutionOrder := do
  let dependencies := buildDependencyGraph plan
  let executionOrder ← topologicalSort dependencies plan.executionOrder
  .ok { phases := groupByPhases plan.phases executionOrder
        operations := executionOrder
        dependencies }

/-! ## What a statement depends on -/

/-- A dependency of the last operation that has the text. -/
def ListsLast (operations : List SchemaOperation) (s t : String) : Prop :=
  ∃ earlier operation later, operations = earlier ++ operation :: later ∧ operation.sql = s ∧
    t ∈ operation.dependencies ∧ ∀ other ∈ later, other.sql ≠ s

/-- The second phase comes right after the first. -/
def Follow (phases : List PhasePlan) (previous current : PhasePlan) : Prop :=
  ∃ earlier later, phases = earlier ++ previous :: current :: later

/-- The statement is that of an operation of the phase. -/
def Runs (phase : PhasePlan) (s : String) : Prop := ∃ operation ∈ phase.operations, operation.sql = s

def DependsOn (plan : MigrationExecutionPlan) (s t : String) : Prop :=
  ListsLast plan.operations s t ∨
    ∃ previous current, Follow plan.phases previous current ∧ Runs current s ∧ t ∈ previous.order

/-- The dependencies between the statements of `executionOrder`. -/
def Needs (plan : MigrationExecutionPlan) (s t : String) : Prop :=
  s ∈ plan.executionOrder ∧ t ∈ plan.executionOrder ∧ DependsOn plan s t

theorem of_put (dependencies : Dependencies) (s node : String) (texts : List String) :
    Dependencies.of (put dependencies node texts) s =
      if s = node then texts else dependencies.of s := by
  unfold Dependencies.of
  by_cases same : s = node
  · subst same
    simp
  · simp [get_put_ne same, same]

private theorem mem_explicitDependencies (operations : List SchemaOperation) (s t : String) :
    t ∈ (explicitDependencies operations).of s ↔ ListsLast operations s t := by
  induction operations using List.reverseRecOn with
  | nil => simp [explicitDependencies, Dependencies.of, ListsLast]
  | append_singleton earlier last ih =>
    rw [explicitDependencies, List.foldl_append, List.foldl_cons, List.foldl_nil, of_put]
    split
    · rename_i same
      constructor
      · exact fun member => ⟨earlier, last, [], rfl, same.symm, member, by simp⟩
      · rintro ⟨before, operation, later, split, named, member, others⟩
        rcases List.eq_nil_or_concat later with rfl | ⟨rest, final, rfl⟩
        · obtain ⟨-, ended⟩ := List.append_inj' split rfl
          cases ended
          exact member
        · have split : earlier ++ [last] = (before ++ operation :: rest) ++ [final] := by simp [split]
          obtain ⟨-, ended⟩ := List.append_inj' split rfl
          cases ended
          exact absurd same.symm (others last (by simp))
    · rename_i apart
      refine ih.trans ⟨?_, ?_⟩
      · rintro ⟨before, operation, later, rfl, named, member, others⟩
        refine ⟨before, operation, later ++ [last], by simp, named, member, ?_⟩
        intro other there
        rcases List.mem_append.mp there with there | there
        · exact others other there
        · rw [List.mem_singleton.mp there]
          exact fun same => apart same.symm
      · rintro ⟨before, operation, later, split, named, member, others⟩
        rcases List.eq_nil_or_concat later with rfl | ⟨rest, final, rfl⟩
        · obtain ⟨-, ended⟩ := List.append_inj' split rfl
          cases ended
          exact absurd named.symm apart
        · have split : earlier ++ [last] = (before ++ operation :: rest) ++ [final] := by simp [split]
          obtain ⟨same, -⟩ := List.append_inj' split rfl
          exact ⟨before, operation, rest, same, named, member,
            fun other there => others other (by simp [there])⟩

private theorem mem_addPhase (dependencies : Dependencies) (previous current : PhasePlan) (s t : String) :
    t ∈ (addPhase dependencies previous current).of s ↔
      t ∈ dependencies.of s ∨ Runs current s ∧ t ∈ previous.order := by
  unfold addPhase Runs
  induction current.operations generalizing dependencies with
  | nil => simp
  | cons operation rest ih =>
    rw [List.foldl_cons, ih, of_put]
    split
    · rename_i same
      subst same
      simp only [List.mem_append, List.mem_cons, exists_eq_or_imp]
      tauto
    · rename_i apart
      have other : operation.sql ≠ s := fun same => apart same.symm
      simp only [List.mem_cons, exists_eq_or_imp, other, false_or]

theorem follow_cons (first : PhasePlan) (rest : List PhasePlan) (previous current : PhasePlan) :
    Follow (first :: rest) previous current ↔
      (first = previous ∧ rest.head? = some current) ∨ Follow rest previous current := by
  constructor
  · rintro ⟨earlier, later, split⟩
    cases earlier with
    | nil =>
      obtain ⟨rfl, rfl⟩ := List.cons.inj split
      exact .inl ⟨rfl, rfl⟩
    | cons head earlier =>
      obtain ⟨-, split⟩ := List.cons.inj split
      exact .inr ⟨earlier, later, split⟩
  · rintro (⟨rfl, next⟩ | ⟨earlier, later, rfl⟩)
    · obtain ⟨later, rfl⟩ := List.head?_eq_some_iff.mp next
      exact ⟨[], later, rfl⟩
    · exact ⟨first :: earlier, later, rfl⟩

private theorem mem_addPhases (phases : List PhasePlan) (dependencies : Dependencies) (s t : String) :
    t ∈ (addPhases dependencies phases).of s ↔ t ∈ dependencies.of s ∨
      ∃ previous current, Follow phases previous current ∧ Runs current s ∧ t ∈ previous.order := by
  induction phases generalizing dependencies with
  | nil => simp [addPhases, Follow]
  | cons previous rest ih =>
    cases rest with
    | nil =>
      simp only [addPhases, follow_cons]
      simp [Follow]
    | cons current rest =>
      rw [addPhases, ih, mem_addPhase, or_assoc]
      refine or_congr_right ⟨?_, ?_⟩
      · rintro (here | ⟨before, next, follow, there⟩)
        · exact ⟨previous, current, (follow_cons ..).mpr (.inl ⟨rfl, rfl⟩), here⟩
        · exact ⟨before, next, (follow_cons ..).mpr (.inr follow), there⟩
      · rintro ⟨before, next, follow, there⟩
        rcases (follow_cons ..).mp follow with ⟨rfl, head⟩ | follow
        · cases head
          exact .inl there
        · exact .inr ⟨before, next, follow, there⟩

theorem mem_dependencies (plan : MigrationExecutionPlan) (s t : String) :
    t ∈ (buildDependencyGraph plan).of s ↔ DependsOn plan s t := by
  rw [buildDependencyGraph, mem_addPhases, mem_explicitDependencies, DependsOn]

/-- The graph that is sorted is that of the statements' needs. -/
theorem edge_iff (plan : MigrationExecutionPlan) :
    DepthFirst.Edge (buildDependencyGraph plan).of plan.executionOrder = Needs plan := by
  funext s t
  simp only [DepthFirst.Edge, Needs, mem_dependencies]

private theorem resolve_spec (plan : MigrationExecutionPlan) :
    (∃ node, resolveExecutionOrder plan = .error s!"Circular dependency detected at: {node}" ∧
      Relation.TransGen (Needs plan) node node) ∨
    ∃ order, resolveExecutionOrder plan = .ok order ∧
      DepthFirst.Topological (buildDependencyGraph plan).of plan.executionOrder order.operations := by
  simp only [resolveExecutionOrder, topologicalSort]
  rcases DepthFirst.sort_spec (buildDependencyGraph plan).of plan.executionOrder with
    ⟨node, -, stopped, cycle⟩ | ⟨order, sorted, topological⟩
  · rw [edge_iff] at cycle
    rw [stopped]
    exact .inl ⟨node, rfl, cycle⟩
  · rw [sorted]
    exact .inr ⟨_, rfl, topological⟩

/-- The statements that a phase orders come before those of the next one, and of a later one
when each phase between has a statement to be executed. -/
def PhasesInOrder (plan : MigrationExecutionPlan) (operations : List String) : Prop :=
  ∀ earlier previous between current later,
    plan.phases = earlier ++ previous :: (between ++ current :: later) →
    (∀ phase ∈ between, ∃ u ∈ plan.executionOrder, Runs phase u ∧ u ∈ phase.order) →
    ∀ t ∈ previous.order, t ∈ plan.executionOrder →
    ∀ s, Runs current s → s ∈ plan.executionOrder → operations.idxOf t < operations.idxOf s

private theorem phasesInOrder {plan : MigrationExecutionPlan} {operations : List String}
    (after : ∀ s t, Needs plan s t → operations.idxOf t < operations.idxOf s) :
    PhasesInOrder plan operations := by
  intro earlier previous between current later split occupied t ordered t_listed s runs s_listed
  induction between generalizing earlier previous t with
  | nil => exact after s t ⟨s_listed, t_listed, .inr ⟨previous, current, ⟨earlier, later, split⟩, runs, ordered⟩⟩
  | cons next between ih =>
    obtain ⟨u, u_listed, u_runs, u_ordered⟩ := occupied next (by simp)
    have first := after u t ⟨u_listed, t_listed,
      .inr ⟨previous, next, ⟨earlier, between ++ current :: later, split⟩, u_runs, ordered⟩⟩
    have rest := ih (earlier ++ [previous]) next (by simp [split])
      (fun phase member => occupied phase (by simp [member])) u u_ordered u_listed
    exact Nat.lt_trans first rest

/-- The sort throws exactly at a cycle of needs. Otherwise it returns each statement once, after
what it needs, and the phases in their order. -/
theorem execution_order_topological (plan : MigrationExecutionPlan) :
    ((∃ message, resolveExecutionOrder plan = .error message) ↔
      ∃ s, Relation.TransGen (Needs plan) s s) ∧
    (∀ message, resolveExecutionOrder plan = .error message →
      ∃ s, message = s!"Circular dependency detected at: {s}" ∧ Relation.TransGen (Needs plan) s s) ∧
    ∀ order, resolveExecutionOrder plan = .ok order →
      order.operations.Nodup ∧ (∀ s, s ∈ order.operations ↔ s ∈ plan.executionOrder) ∧
      (∀ s t, Needs plan s t → order.operations.idxOf t < order.operations.idxOf s) ∧
      PhasesInOrder plan order.operations := by
  rcases resolve_spec plan with ⟨node, stopped, cycle⟩ | ⟨order, returned, topological⟩
  · refine ⟨⟨fun _ => ⟨node, cycle⟩, fun _ => ⟨_, stopped⟩⟩, ?_, ?_⟩
    · intro message thrown
      rw [stopped] at thrown
      cases thrown
      exact ⟨node, rfl, cycle⟩
    · intro order returned
      rw [stopped] at returned
      cases returned
  · refine ⟨⟨?_, ?_⟩, ?_, ?_⟩
    · rintro ⟨message, thrown⟩
      rw [returned] at thrown
      cases thrown
    · rintro ⟨s, cycle⟩
      rw [← edge_iff] at cycle
      exact absurd cycle (topological.acyclic s)
    · intro message thrown
      rw [returned] at thrown
      cases thrown
    · intro other same
      rw [returned] at same
      cases same
      have after := topological.after
      rw [edge_iff] at after
      exact ⟨topological.nodup, topological.mem_iff, after, phasesInOrder after⟩

/-- An index that waits for its table, and once more without that dependency. -/
def repeatedPlan : MigrationExecutionPlan :=
  let table : SchemaOperation :=
    { sql := "CREATE TABLE \"t\" (\"c\" int)", category := .SAFE, reason := "New table (additive)" }
  let index : SchemaOperation :=
    { sql := "CREATE INDEX \"i\" ON \"t\" (\"c\")", category := .SAFE, reason := "New index (additive)" }
  let operations := [{ index with dependencies := [table.sql] }, index, table]
  buildFromPhases [{ phase := .EXPAND, operations := operations, order := operations.map (·.sql) }]
    operations

/-- The first operation's dependency is forgotten: its statement comes before what it lists. -/
theorem forgets_dependency :
    ∃ order index table, resolveExecutionOrder repeatedPlan = .ok order ∧
      index ∈ repeatedPlan.executionOrder ∧ table ∈ repeatedPlan.executionOrder ∧
      (∃ operation ∈ repeatedPlan.operations,
        operation.sql = index ∧ table ∈ operation.dependencies) ∧
      ¬ order.operations.idxOf table < order.operations.idxOf index := by
  have resolved : resolveExecutionOrder repeatedPlan =
      .ok { phases := [.EXPAND]
            operations := ["CREATE INDEX \"i\" ON \"t\" (\"c\")", "CREATE TABLE \"t\" (\"c\" int)"]
            dependencies := [("CREATE INDEX \"i\" ON \"t\" (\"c\")", []),
              ("CREATE TABLE \"t\" (\"c\" int)", [])] } := by rfl
  exact ⟨_, "CREATE INDEX \"i\" ON \"t\" (\"c\")", "CREATE TABLE \"t\" (\"c\" int)", resolved,
    by decide, by decide, ⟨_, .head _, rfl, by decide⟩, by decide⟩

end DriverMicroServices
