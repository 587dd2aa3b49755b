import DriverMicroServices.ExecutionOrder
import DriverMicroServices.Graphs.CycleSearch

/-! The two checks of a plan's dependencies for cycles, beside the sort that throws at one. Each
of the three searches the same graph with marks of its own. -/
namespace DriverMicroServices
open Graphs

def Dependencies.keys (dependencies : Dependencies) : List String := dependencies.map (·.1)

structure OperationGraph where
  nodes : List (String × SchemaOperation) := []
  edges : Dependencies := []
  roots : List String := []
  leaves : List String := []

/-- Visits nest at most as deep as there are statements. -/
def nestingBound (dependencies : Dependencies) (nodes : List String) : Nat :=
  (nodes ++ dependencies.flatMap (·.2)).length + 1

/-- `MigrationExecutionPlanBuilder.findCycle`. The path is that of all visits together. -/
def findCycle (dependencies : Dependencies) : Option (List String) :=
  match dependencies.keys.foldlM
    (fun walk node => CycleSearch.dfs dependencies.of (nestingBound dependencies dependencies.keys) node walk)
    ({} : CycleSearch.Walk String) with
  | .error (.cycle nodes) => some nodes
  | .error .depth => some []
  | .ok _ => none

structure GraphValidation where
  isValid : Bool
  cycles : List (List String)
deriving DecidableEq

/-- Each visit of the loop begins with an empty path, at a node that was not visited. -/
def validateGraph (graph : OperationGraph) : GraphValidation :=
  let nodes := graph.nodes.map (·.1)
  match nodes.foldlM
    (fun walk node => if node ∈ walk.visited then .ok walk
      else CycleSearch.dfs graph.edges.of (nestingBound graph.edges nodes) node { walk with path := [] })
    ({} : CycleSearch.Walk String) with
  | .error (.cycle nodes) => { isValid := false, cycles := [nodes] }
  | .error .depth => { isValid := false, cycles := [] }
  | .ok _ => { isValid := true, cycles := [] }

/-- No statement depends on itself, through however many others. -/
def Dependencies.Acyclic (dependencies : Dependencies) : Prop :=
  ∀ s, ¬ Relation.TransGen (CycleSearch.Depends dependencies.of) s s

theorem key_of_depends {dependencies : Dependencies}
    (edge : CycleSearch.Depends dependencies.of s t) :
    s ∈ dependencies.keys ∧ t ∈ dependencies.flatMap (·.2) := by
  unfold CycleSearch.Depends Dependencies.of Tables.Keyed.get at edge
  cases found : dependencies.find? (·.1 = s) with
  | none => simp [found] at edge
  | some entry =>
    have there := List.mem_of_find?_eq_some found
    have named : entry.1 = s := by simpa using List.find?_some found
    rw [found] at edge
    exact ⟨List.mem_map.mpr ⟨entry, there, named⟩, List.mem_flatMap.mpr ⟨entry, there, edge⟩⟩

theorem key_of_cycle {dependencies : Dependencies}
    (cycle : Relation.TransGen (CycleSearch.Depends dependencies.of) s s) : s ∈ dependencies.keys := by
  obtain ⟨next, edge, -⟩ := Relation.TransGen.head'_iff.mp cycle
  exact (key_of_depends edge).1

/-- A visit in a graph's own bound. -/
theorem dfs_within (dependencies : Dependencies) (nodes : List String) (member : node ∈ nodes)
    (good : CycleSearch.Good dependencies.of walk) (outside : walk.path = []) :
    CycleSearch.Leaves dependencies.of walk [node]
      (CycleSearch.dfs dependencies.of (nestingBound dependencies nodes) node walk) := by
  have known : node ∈ nodes ++ dependencies.flatMap (·.2) := List.mem_append_left _ member
  have followed : ∀ a ∈ nodes ++ dependencies.flatMap (·.2), ∀ b,
      CycleSearch.Depends dependencies.of a b → b ∈ nodes ++ dependencies.flatMap (·.2) :=
    fun a _ b edge => List.mem_append_right _ (key_of_depends edge).2
  refine CycleSearch.dfs_leaves good (by simp [outside]) known followed ?_ (by simp [outside])
  simp only [nestingBound]
  omega

private theorem findCycle_spec (dependencies : Dependencies) :
    (findCycle dependencies = none ∧ dependencies.Acyclic) ∨
    ∃ nodes, findCycle dependencies = some nodes ∧ CycleSearch.Cycle dependencies.of nodes := by
  unfold findCycle
  rcases CycleSearch.loop_spec dependencies.keys _
      (fun walk good outside node member => dfs_within dependencies _ member good outside) with
    ⟨nodes, stopped, cycle⟩ | ⟨walk, ended, clear⟩
  · rw [stopped]
    exact .inr ⟨nodes, rfl, cycle⟩
  · rw [ended]
    exact .inl ⟨rfl, fun s cycle => clear s (key_of_cycle cycle) cycle⟩

theorem validateGraph_spec (graph : OperationGraph)
    (covered : ∀ s ∈ graph.edges.keys, s ∈ graph.nodes.map (·.1)) :
    (validateGraph graph = { isValid := true, cycles := [] } ∧ graph.edges.Acyclic) ∨
    ∃ nodes, validateGraph graph = { isValid := false, cycles := [nodes] } ∧
      CycleSearch.Cycle graph.edges.of nodes := by
  simp only [validateGraph]
  rcases CycleSearch.loop_spec (graph.nodes.map (·.1)) (fun walk node =>
      if node ∈ walk.visited then .ok walk
      else CycleSearch.dfs graph.edges.of (nestingBound graph.edges (graph.nodes.map (·.1))) node
        { walk with path := [] })
      (fun walk good outside node member => by
        split
        · rename_i visited
          exact ⟨good, rfl, fun _ done => done, by simpa [CycleSearch.Walk.Done, outside] using visited⟩
        · have reset : { walk with path := [] } = walk := by rw [← outside]
          rw [reset]
          exact dfs_within graph.edges _ member good outside) with
    ⟨nodes, stopped, cycle⟩ | ⟨walk, ended, clear⟩
  · rw [stopped]
    exact .inr ⟨nodes, rfl, cycle⟩
  · rw [ended]
    exact .inl ⟨rfl, fun s cycle => clear s (covered s (key_of_cycle cycle)) cycle⟩

/-- Among statements that have all keys of the map, a cycle is one of the sort's edges. -/
theorem cycle_among {dependencies : Dependencies} {operations : List String}
    (listed : ∀ s ∈ dependencies.keys, s ∈ operations)
    (cycle : Relation.TransGen (CycleSearch.Depends dependencies.of) s s) :
    Relation.TransGen (DepthFirst.Edge dependencies.of operations) s s := by
  have within : ∀ a b, Relation.TransGen (CycleSearch.Depends dependencies.of) a b →
      b ∈ dependencies.keys → Relation.TransGen (DepthFirst.Edge dependencies.of operations) a b := by
    intro a b path
    induction path with
    | single edge =>
      exact fun key => .single ⟨listed a (key_of_depends edge).1, listed _ key, edge⟩
    | tail _ edge ih =>
      have middle := (key_of_depends edge).1
      exact fun key => (ih middle).tail ⟨listed _ middle, listed _ key, edge⟩
  exact within s s cycle (key_of_cycle cycle)

theorem topologicalSort_returns (dependencies : Dependencies) (operations : List String)
    (listed : ∀ s ∈ dependencies.keys, s ∈ operations) :
    (∃ order, topologicalSort dependencies operations = .ok order) ↔ dependencies.Acyclic := by
  unfold topologicalSort
  rcases DepthFirst.sort_spec dependencies.of operations with
    ⟨node, -, stopped, cycle⟩ | ⟨order, sorted, topological⟩
  · rw [stopped]
    refine ⟨?_, fun acyclic => absurd (cycle.lift id fun a b edge => edge.2.2) (acyclic node)⟩
    rintro ⟨order, returned⟩
    cases returned
  · rw [sorted]
    refine ⟨fun _ s cycle => topological.acyclic s (cycle_among listed cycle), fun _ => ⟨order, rfl⟩⟩

/-- The three checks agree, also where a statement depends on one that is no key. What the two
report is a cycle of statements of the map. -/
theorem cycle_checks_agree (dependencies : Dependencies) (operations : List String)
    (graph : OperationGraph) (edges : graph.edges = dependencies)
    (listed : ∀ s, s ∈ operations ↔ s ∈ dependencies.keys)
    (nodes : ∀ s, s ∈ graph.nodes.map (·.1) ↔ s ∈ dependencies.keys) :
    (findCycle dependencies = none ↔ ∃ order, topologicalSort dependencies operations = .ok order) ∧
    (findCycle dependencies = none ↔ (validateGraph graph).isValid = true) ∧
    (∀ cycle, findCycle dependencies = some cycle →
      CycleSearch.Cycle dependencies.of cycle ∧ ∀ s ∈ cycle, s ∈ dependencies.keys) ∧
    ((validateGraph graph).isValid = false → (validateGraph graph).cycles ≠ []) ∧
    ∀ cycle ∈ (validateGraph graph).cycles,
      CycleSearch.Cycle dependencies.of cycle ∧ ∀ s ∈ cycle, s ∈ dependencies.keys := by
  subst edges
  have keyed : ∀ cycle, CycleSearch.Cycle graph.edges.of cycle → ∀ s ∈ cycle, s ∈ graph.edges.keys := by
    intro cycle closed s member
    obtain ⟨next, edge⟩ := closed.depends member
    exact (key_of_depends edge).1
  have broken : ∀ cycle, CycleSearch.Cycle graph.edges.of cycle → ¬ graph.edges.Acyclic := by
    intro cycle closed acyclic
    obtain ⟨s, -, again⟩ := closed.depends_on_itself
    exact acyclic s again
  have sorts := topologicalSort_returns graph.edges operations fun s key => (listed s).mpr key
  have validates := validateGraph_spec graph fun s key => (nodes s).mpr key
  rcases findCycle_spec graph.edges with ⟨none, acyclic⟩ | ⟨found, reported, cycle⟩
  · rcases validates with ⟨valid, -⟩ | ⟨other, -, closed⟩
    · rw [none, valid]
      simpa using sorts.mpr acyclic
    · exact absurd acyclic (broken other closed)
  · rcases validates with ⟨-, acyclic⟩ | ⟨other, invalid, closed⟩
    · exact absurd acyclic (broken found cycle)
    · have cyclic := broken found cycle
      rw [reported, invalid]
      refine ⟨by simpa using fun order sorted => cyclic (sorts.mp ⟨order, sorted⟩), by simp, ?_, by simp, ?_⟩
      · rintro _ ⟨⟩
        exact ⟨cycle, keyed found cycle⟩
      · intro listedCycle member
        rw [List.mem_singleton.mp member]
        exact ⟨closed, keyed other closed⟩

/-- Two statements that wait for each other. -/
def mutualGraph : OperationGraph where
  nodes := [("ALTER TABLE \"a\"", { sql := "ALTER TABLE \"a\"", category := .SAFE, reason := "" }),
    ("UPDATE \"a\"", { sql := "UPDATE \"a\"", category := .DATA, reason := "" })]
  edges := [("ALTER TABLE \"a\"", ["UPDATE \"a\""]), ("UPDATE \"a\"", ["ALTER TABLE \"a\""])]

theorem mutual_checks_agree :
    findCycle mutualGraph.edges = none ↔ (validateGraph mutualGraph).isValid = true :=
  (cycle_checks_agree mutualGraph.edges ["UPDATE \"a\"", "ALTER TABLE \"a\""] mutualGraph rfl
    (fun s => by simp [mutualGraph, Dependencies.keys, or_comm])
    (fun s => by simp [mutualGraph, Dependencies.keys])).2.1

example : findCycle mutualGraph.edges = some ["ALTER TABLE \"a\"", "UPDATE \"a\""] := by decide

end DriverMicroServices
