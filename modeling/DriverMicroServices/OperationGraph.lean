import DriverMicroServices.CycleChecks
import DriverMicroServices.OperationClasses
import DriverMicroServices.Outbox
import DriverMicroServices.Texts.Matches

/-! The graph of the operations of a plan. Its edges come from the texts of two statements: which
tables they name, and which keywords they contain. -/
namespace DriverMicroServices
open Texts.Regex Texts.Regex.Pattern Tables.Keyed Graphs

namespace GraphPattern

def isQuote (c : Char) : Bool := c = '"' || c = '\''

/-- `["']?(\w+)["']?` -/
def reference : Pattern :=
  seq (optional isQuote) (seq (group (plus isWord)) (optional isQuote))

/-- `A\s+(?:B|C)\s+["']?(\w+)["']?` -/
def after (word : String) (first second : String) : Pattern :=
  text word (seq (plus isSpace) (seq (either (text first empty) (text second empty))
    (seq (plus isSpace) reference)))

/-- `/(?:FROM|INTO|UPDATE|TABLE|JOIN)\s+["']?(\w+)["']?/gi` -/
def keyword : Pattern :=
  seq (either (text "FROM" empty) (either (text "INTO" empty) (either (text "UPDATE" empty)
    (either (text "TABLE" empty) (text "JOIN" empty))))) (seq (plus isSpace) reference)

/-- `/ALTER\s+TABLE\s+["']?(\w+)["']?/gi` -/
def alterTable : Pattern := words ["ALTER", "TABLE"] (seq (plus isSpace) reference)

/-- In the order in which they are tried. -/
def all : List Pattern :=
  [keyword, alterTable, after "DROP" "TABLE" "INDEX", after "CREATE" "TABLE" "INDEX"]

end GraphPattern

def extractTableReferences (sql : String) : List String :=
  (GraphPattern.all.flatMap (·.allMatches sql)).foldl
    (fun tables captures =>
      let tableName := (captures.headD "").toLower
      if tableName ∈ tables then tables else tables ++ [tableName]) []

def isConflictingOperation (op1 op2 : SchemaOperation) : Bool :=
  if includes op1.sql "DROP" && includes op2.sql "ADD" ||
      includes op1.sql "ADD" && includes op2.sql "DROP" then true
  else if includes op1.sql "ALTER" && includes op2.sql "ALTER" then true
  else if op1.category = .DATA ∧ op2.category = .SAFE then true
  else false

def hasTableConflict (op1 op2 : SchemaOperation) (tables1 tables2 : List String) : Bool :=
  let commonTables := tables1.filter (tables2.contains ·)
  if commonTables.isEmpty then false else commonTables.any fun _ => isConflictingOperation op1 op2

def hasForeignKeyDependency (op1 op2 : SchemaOperation) (tables1 tables2 : List String) : Bool :=
  if op1.category = .BREAKING ∧ op2.category = .SAFE then tables1.any (tables2.contains ·) else false

def hasConstraintDependency (op1 op2 : SchemaOperation) (tables1 tables2 : List String) : Bool :=
  if includes op1.sql "DROP CONSTRAINT" && includes op2.sql "ADD CONSTRAINT" then
    tables1.any (tables2.contains ·)
  else false

def findDependencies (operation : SchemaOperation) (allOperations : List SchemaOperation) :
    List String :=
  let operationTables := extractTableReferences operation.sql
  allOperations.flatMap fun otherOp =>
    if otherOp.sql = operation.sql then []
    else
      let otherTables := extractTableReferences otherOp.sql
      (if hasTableConflict operation otherOp operationTables otherTables then [otherOp.sql] else []) ++
      (if hasForeignKeyDependency operation otherOp operationTables otherTables then [otherOp.sql] else []) ++
      if hasConstraintDependency operation otherOp operationTables otherTables then [otherOp.sql] else []

/-- Nodes that no other node depends on, and nodes that depend on none. -/
def identifyRootsAndLeaves (graph : OperationGraph) : OperationGraph :=
  let nodesWithDependencies := graph.edges.flatMap (·.2)
  { graph with
    roots := graph.roots ++ (graph.nodes.map (·.1)).filter (· ∉ nodesWithDependencies)
    leaves := graph.leaves ++ (graph.edges.filter (·.2.isEmpty)).map (·.1) }

/-- `graph.nodes`: where operations have one text, the last counts. -/
def graphNodes (operations : List SchemaOperation) : List (String × SchemaOperation) :=
  operations.foldl (fun nodes operation => put nodes operation.sql operation) []

def graphEdges (nodes : List (String × SchemaOperation)) : Dependencies :=
  let allOperations := nodes.map (·.2)
  allOperations.foldl
    (fun edges operation => put edges operation.sql (findDependencies operation allOperations))
    (nodes.map fun node => (node.1, []))

def buildOperationGraph (phases : List PhasePlan) : OperationGraph :=
  let nodes := graphNodes (phases.flatMap (·.operations))
  identifyRootsAndLeaves { nodes, edges := graphEdges nodes }

/-! ## The edges -/

def SharesTable (s t : String) : Prop :=
  ∃ table ∈ extractTableReferences s, table ∈ extractTableReferences t

/-- The tests on keywords, which do not depend on the order of the two. -/
def Contends (s t : String) : Prop :=
  includes s "DROP" ∧ includes t "ADD" ∨ includes s "ADD" ∧ includes t "DROP" ∨
    includes s "ALTER" ∧ includes t "ALTER"

/-- The categories of an operation that has to wait, and of one that is waited for. -/
def WaitsFor (op1 op2 : SchemaOperation) : Prop :=
  (op1.category = .DATA ∨ op1.category = .BREAKING) ∧ op2.category = .SAFE

theorem SharesTable.symm (shares : SharesTable s t) : SharesTable t s := by
  obtain ⟨table, here, there⟩ := shares
  exact ⟨table, there, here⟩

theorem Contends.symm (contends : Contends s t) : Contends t s := by
  rcases contends with ⟨one, two⟩ | ⟨one, two⟩ | ⟨one, two⟩
  · exact .inr (.inl ⟨two, one⟩)
  · exact .inl ⟨two, one⟩
  · exact .inr (.inr ⟨two, one⟩)

theorem includes_of_includes {text part smaller : String} (found : includes text part)
    (within : smaller.toList <:+: part.toList) : includes text smaller := by
  unfold includes at found ⊢
  simp only [decide_eq_true_eq] at found ⊢
  exact within.trans found

theorem conflicting_iff (op1 op2 : SchemaOperation) :
    isConflictingOperation op1 op2 = true ↔
      Contends op1.sql op2.sql ∨ op1.category = .DATA ∧ op2.category = .SAFE := by
  unfold isConflictingOperation Contends
  generalize includes op1.sql "DROP" = drops, includes op2.sql "ADD" = added,
    includes op1.sql "ADD" = adds, includes op2.sql "DROP" = dropped,
    includes op1.sql "ALTER" = alters, includes op2.sql "ALTER" = altered
  by_cases waits : op1.category = .DATA ∧ op2.category = .SAFE <;>
    simp [waits, or_assoc]

private theorem hasTableConflict_iff (op1 op2 : SchemaOperation) (tables1 tables2 : List String) :
    hasTableConflict op1 op2 tables1 tables2 = true ↔
      (∃ table ∈ tables1, table ∈ tables2) ∧ isConflictingOperation op1 op2 = true := by
  unfold hasTableConflict
  cases conflicting : isConflictingOperation op1 op2 <;> simp

private theorem hasForeignKeyDependency_iff (op1 op2 : SchemaOperation) (tables1 tables2 : List String) :
    hasForeignKeyDependency op1 op2 tables1 tables2 = true ↔
      (∃ table ∈ tables1, table ∈ tables2) ∧ op1.category = .BREAKING ∧ op2.category = .SAFE := by
  unfold hasForeignKeyDependency
  split <;> simp_all

/-- What drops a constraint contends with what adds one anyway. -/
theorem hasConstraintDependency_contends {op1 op2 : SchemaOperation} {tables1 tables2 : List String}
    (depends : hasConstraintDependency op1 op2 tables1 tables2 = true) :
    (∃ table ∈ tables1, table ∈ tables2) ∧ Contends op1.sql op2.sql := by
  unfold hasConstraintDependency at depends
  split at depends
  · rename_i both
    rw [Bool.and_eq_true] at both
    exact ⟨by simpa using depends,
      .inl ⟨includes_of_includes both.1 (by decide), includes_of_includes both.2 (by decide)⟩⟩
  · cases depends

/-- A dependency is another statement with a table in common that it contends with or follows. -/
theorem mem_findDependencies (operation : SchemaOperation) (allOperations : List SchemaOperation)
    (t : String) :
    t ∈ findDependencies operation allOperations ↔
      ∃ otherOp ∈ allOperations, otherOp.sql = t ∧ t ≠ operation.sql ∧ SharesTable operation.sql t ∧
        (Contends operation.sql t ∨ WaitsFor operation otherOp) := by
  unfold findDependencies
  rw [List.mem_flatMap]
  refine exists_congr fun otherOp => and_congr_right fun _ => ?_
  by_cases same : otherOp.sql = operation.sql
  · simp only [same, if_true, List.not_mem_nil, false_iff]
    rintro ⟨rfl, apart, -⟩
    exact apart rfl
  · have listed (test : Bool) : t ∈ (if test then [otherOp.sql] else []) ↔ test = true ∧ otherOp.sql = t := by
      cases test <;> simp [eq_comm]
    simp only [same, if_false, List.mem_append, listed]
    simp only [hasTableConflict_iff, conflicting_iff, hasForeignKeyDependency_iff]
    constructor
    · rintro ((⟨⟨shares, why⟩, rfl⟩ | ⟨⟨shares, why⟩, rfl⟩) | ⟨depends, rfl⟩)
      · exact ⟨rfl, same, shares, why.imp_right fun waits => ⟨.inl waits.1, waits.2⟩⟩
      · exact ⟨rfl, same, shares, .inr ⟨.inr why.1, why.2⟩⟩
      · obtain ⟨shares, contends⟩ := hasConstraintDependency_contends depends
        exact ⟨rfl, same, shares, .inl contends⟩
    · rintro ⟨rfl, -, shares, contends | ⟨data | breaking, safe⟩⟩
      · exact .inl (.inl ⟨⟨shares, .inl contends⟩, rfl⟩)
      · exact .inl (.inl ⟨⟨shares, .inr ⟨data, safe⟩⟩, rfl⟩)
      · exact .inl (.inr ⟨⟨shares, breaking, safe⟩, rfl⟩)

/-- The operation that stands for a text, the last one that has it. -/
def StandsFor (operations : List SchemaOperation) (s : String) (operation : SchemaOperation) : Prop :=
  ∃ earlier later, operations = earlier ++ operation :: later ∧ operation.sql = s ∧
    ∀ other ∈ later, other.sql ≠ s

theorem standsFor_append (earlier : List SchemaOperation) (last : SchemaOperation) (s : String)
    (operation : SchemaOperation) :
    StandsFor (earlier ++ [last]) s operation ↔
      if last.sql = s then operation = last else StandsFor earlier s operation := by
  constructor
  · rintro ⟨before, later, split, named, others⟩
    rcases List.eq_nil_or_concat later with rfl | ⟨rest, final, rfl⟩
    · obtain ⟨-, ended⟩ := List.append_inj' split rfl
      cases ended
      simp [named]
    · have split : earlier ++ [last] = (before ++ operation :: rest) ++ [final] := by simp [split]
      obtain ⟨rfl, ended⟩ := List.append_inj' split rfl
      cases ended
      rw [if_neg (others last (by simp))]
      exact ⟨before, rest, rfl, named, fun other there => others other (by simp [there])⟩
  · split
    · rename_i here
      rintro rfl
      exact ⟨earlier, [], rfl, here, by simp⟩
    · rename_i apart
      rintro ⟨before, later, rfl, named, others⟩
      refine ⟨before, later ++ [last], by simp, named, fun other there => ?_⟩
      rcases List.mem_append.mp there with there | there
      · exact others other there
      · exact List.mem_singleton.mp there ▸ apart

theorem graphNodes_distinct (operations : List SchemaOperation) : Distinct (graphNodes operations) := by
  unfold graphNodes
  induction operations using List.reverseRecOn with
  | nil => exact List.nodup_nil
  | append_singleton earlier last ih =>
    rw [List.foldl_append, List.foldl_cons, List.foldl_nil]
    exact ih.put _ _

theorem get_graphNodes (operations : List SchemaOperation) (s : String) (operation : SchemaOperation) :
    get (graphNodes operations) s = some operation ↔ StandsFor operations s operation := by
  induction operations using List.reverseRecOn with
  | nil => simp [graphNodes, StandsFor]
  | append_singleton earlier last ih =>
    rw [standsFor_append, graphNodes, List.foldl_append, List.foldl_cons, List.foldl_nil]
    split
    · rename_i here
      subst here
      simp [eq_comm]
    · rename_i apart
      rw [get_put_ne (Ne.symm apart)]
      exact ih

/-- A statement of the operations, and only of those, is a node. -/
theorem standsFor_exists (operations : List SchemaOperation) (s : String) :
    (∃ operation, StandsFor operations s operation) ↔ ∃ operation ∈ operations, operation.sql = s := by
  constructor
  · rintro ⟨operation, earlier, later, rfl, named, -⟩
    exact ⟨operation, by simp, named⟩
  · rintro ⟨operation, member, named⟩
    induction operations using List.reverseRecOn with
    | nil => cases member
    | append_singleton earlier last ih =>
      simp only [standsFor_append]
      by_cases here : last.sql = s
      · exact ⟨last, by simp [here]⟩
      · simp only [here, if_false]
        rcases List.mem_append.mp member with member | member
        · exact ih member
        · exact absurd (List.mem_singleton.mp member ▸ named) here

theorem StandsFor.sql (stands : StandsFor operations s operation) : operation.sql = s := by
  obtain ⟨-, -, -, named, -⟩ := stands
  exact named

theorem StandsFor.mem (stands : StandsFor operations s operation) : operation ∈ operations := by
  obtain ⟨earlier, later, rfl, -, -⟩ := stands
  simp

theorem mem_values (operations : List SchemaOperation) (operation : SchemaOperation) :
    operation ∈ (graphNodes operations).map (·.2) ↔ StandsFor operations operation.sql operation := by
  have entry : ∀ s, (s, operation) ∈ graphNodes operations ↔ StandsFor operations s operation := fun s => by
    rw [mem_iff_get (graphNodes_distinct operations), get_graphNodes]
  constructor
  · intro member
    obtain ⟨⟨s, value⟩, there, rfl⟩ := List.mem_map.mp member
    have stands := (entry s).mp there
    rwa [stands.sql]
  · intro stands
    exact List.mem_map.mpr ⟨_, (entry _).mpr stands, rfl⟩

/-- An operation for each text is put under it. -/
def putAll (value : SchemaOperation → List String) (start : Dependencies)
    (operations : List SchemaOperation) : Dependencies :=
  operations.foldl (fun edges operation => put edges operation.sql (value operation)) start

private theorem mem_putAll (value : SchemaOperation → List String) (start : Dependencies)
    (operations : List SchemaOperation) (s t : String) (empty : start.of s = []) :
    t ∈ (putAll value start operations).of s ↔
      ∃ operation, StandsFor operations s operation ∧ t ∈ value operation := by
  induction operations using List.reverseRecOn with
  | nil => simp [putAll, StandsFor, empty]
  | append_singleton earlier last ih =>
    rw [putAll, List.foldl_append, List.foldl_cons, List.foldl_nil, of_put]
    simp only [standsFor_append]
    by_cases here : last.sql = s
    · simp [here]
    · rw [if_neg (Ne.symm here)]
      simp only [here, if_false]
      exact ih

private theorem keys_putAll (value : SchemaOperation → List String) (start : Dependencies)
    (operations : List SchemaOperation) (s : String) :
    s ∈ (putAll value start operations).keys ↔ s ∈ start.keys ∨ ∃ operation ∈ operations, operation.sql = s := by
  induction operations using List.reverseRecOn with
  | nil => simp [putAll]
  | append_singleton earlier last ih =>
    rw [putAll, List.foldl_append, List.foldl_cons, List.foldl_nil, Dependencies.keys, keys_put]
    change s ∈ (if last.sql ∈ (putAll value start earlier).keys then (putAll value start earlier).keys
      else (putAll value start earlier).keys ++ [last.sql]) ↔ _
    have split : s ∈ (if last.sql ∈ (putAll value start earlier).keys then (putAll value start earlier).keys
        else (putAll value start earlier).keys ++ [last.sql]) ↔
        s ∈ (putAll value start earlier).keys ∨ last.sql = s := by
      split
      · rename_i there
        exact ⟨.inl, fun known => known.elim id (· ▸ there)⟩
      · simp [eq_comm]
    rw [split, ih, or_assoc]
    simp only [List.mem_append, List.mem_singleton, or_and_right, exists_or, exists_eq_left]

theorem StandsFor.unique (one : StandsFor operations s first) (two : StandsFor operations s second) :
    first = second := by
  rw [← get_graphNodes] at one two
  exact Option.some.inj (one.symm.trans two)

private theorem standsFor_values (operations : List SchemaOperation) (s : String) (operation : SchemaOperation) :
    StandsFor ((graphNodes operations).map (·.2)) s operation ↔ StandsFor operations s operation := by
  constructor
  · intro stands
    have there := (mem_values operations operation).mp stands.mem
    rwa [stands.sql] at there
  · intro stands
    have member := (mem_values operations operation).mpr (stands.sql ▸ stands)
    obtain ⟨other, found⟩ := (standsFor_exists _ s).mpr ⟨operation, member, stands.sql⟩
    have there := (mem_values operations other).mp found.mem
    rw [found.sql] at there
    rwa [stands.unique there]

/-- The edges of a graph, by the operations that stand for the two statements. -/
theorem mem_edges (phases : List PhasePlan) (s t : String) :
    t ∈ (buildOperationGraph phases).edges.of s ↔
      ∃ op1 op2, StandsFor (phases.flatMap (·.operations)) s op1 ∧
        StandsFor (phases.flatMap (·.operations)) t op2 ∧ t ≠ s ∧ SharesTable s t ∧
        (Contends s t ∨ WaitsFor op1 op2) := by
  have empty :
      Dependencies.of ((graphNodes (phases.flatMap (·.operations))).map fun node => (node.1, [])) s = [] := by
    simp only [Dependencies.of, Tables.Keyed.get, List.find?_map, Option.map_map]
    generalize List.find? _ (graphNodes _) = found
    cases found <;> rfl
  have edges : (buildOperationGraph phases).edges =
      putAll (findDependencies · ((graphNodes (phases.flatMap (·.operations))).map (·.2)))
        ((graphNodes (phases.flatMap (·.operations))).map fun node => (node.1, []))
        ((graphNodes (phases.flatMap (·.operations))).map (·.2)) := rfl
  rw [edges, mem_putAll _ _ _ _ _ empty]
  simp only [standsFor_values, mem_findDependencies]
  constructor
  · rintro ⟨op1, stands, op2, member, rfl, apart, shares, why⟩
    obtain rfl := stands.sql
    exact ⟨op1, op2, stands, (mem_values _ _).mp member, apart, shares, why⟩
  · rintro ⟨op1, op2, stands, standsToo, apart, shares, why⟩
    obtain rfl := stands.sql
    obtain rfl := standsToo.sql
    exact ⟨op1, stands, op2, (mem_values _ _).mpr standsToo, rfl, apart, shares, why⟩

/-- Each statement that has edges is a node. -/
theorem edges_covered (phases : List PhasePlan) :
    ∀ s ∈ (buildOperationGraph phases).edges.keys, s ∈ (buildOperationGraph phases).nodes.map (·.1) := by
  intro s key
  rcases (keys_putAll _ _ _ s).mp key with there | ⟨operation, member, rfl⟩
  · simp only [Dependencies.keys, List.map_map] at there
    exact there
  · have stands := (mem_values _ _).mp member
    rw [← get_graphNodes, ← mem_iff_get (graphNodes_distinct _)] at stands
    exact List.mem_map.mpr ⟨_, stands, rfl⟩

end DriverMicroServices
