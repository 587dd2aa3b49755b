import DriverMicroServices.CompatibilityVerdicts
import DriverMicroServices.OperationConflicts
import DriverMicroServices.Tables.Pairs
import DriverMicroServices.Texts.TypeNames

/-! The graph of what changes need of and do to each other. Its rules go by the first words behind certain
keywords, and the keyword that a statement has before the name is one of them. -/
namespace DriverMicroServices.SchemaCompatibility
open Texts.Tokens SchemaClassification Tables.Pairs
open Policy.OperationalRules (Does statementTable)

structure Dependency where
  type : String
  reason : String

structure Edge where
  from_ : Nat
  to_ : Nat
  type : String
  reason : String

structure ConflictReport where
  type : String
  severity : RiskLevel
  description : String

structure GraphConflict where
  change1 : Nat
  change2 : Nat
  type : String
  severity : RiskLevel
  description : String

structure GraphNode where
  id : Nat
  type : SqlCategory
  operation : ChangeOperation
  target : ChangeTarget
  dependencies : List Nat := []
  conflicts : List Nat := []
  riskLevel : RiskLevel

structure Graph where
  nodes : List GraphNode
  edges : List Edge := []
  conflicts : List GraphConflict := []

/-- A name in a template. -/
def shown (name : Option String) : String := name.getD "undefined"

def ChangeOperation.text : ChangeOperation → String
  | .CREATE_TABLE => "CREATE_TABLE"
  | .DROP_TABLE => "DROP_TABLE"
  | .ADD_COLUMN => "ADD_COLUMN"
  | .DROP_COLUMN => "DROP_COLUMN"
  | .ALTER_COLUMN_TYPE => "ALTER_COLUMN_TYPE"
  | .ADD_CONSTRAINT => "ADD_CONSTRAINT"
  | .DROP_CONSTRAINT => "DROP_CONSTRAINT"
  | .ALTER_TABLE => "ALTER_TABLE"
  | .ADD_INDEX => "ADD_INDEX"
  | .DROP_INDEX => "DROP_INDEX"
  | .INSERT_DATA => "INSERT_DATA"
  | .UPDATE_DATA => "UPDATE_DATA"
  | .DELETE_DATA => "DELETE_DATA"
  | .TRUNCATE_TABLE => "TRUNCATE_TABLE"
  | .UNKNOWN => "UNKNOWN"
  | .ADD_TABLE => "ADD_TABLE"
  | .ADD_FOREIGN_KEY => "ADD_FOREIGN_KEY"

/-- The dependency, if there is one; nothing at all where columns are read that are `undefined`. -/
def analyzeDependency (change1 change2 : ClassifiedChange) : Option (Option Dependency) :=
  if change1.operation = .CREATE_TABLE ∧ (change2.operation = .ADD_COLUMN ∨ change2.operation = .ADD_INDEX) ∧
      change2.target.table = change1.target.table then
    some (some
      { type := "table_dependency"
        reason := "Change 2 depends on table created in Change 1: " ++ shown change1.target.table })
  else if change1.operation = .ADD_COLUMN ∧ change2.operation = .ADD_INDEX ∧
      change1.target.table = change2.target.table then
    change2.target.columns.map fun columns =>
      if change1.target.column.any (columns.contains ·) then
        some
          { type := "column_dependency"
            reason := "Change 2 depends on column created in Change 1: " ++ shown change1.target.column }
      else none
  else if change1.operation = .ADD_INDEX ∧ change2.operation = .ADD_FOREIGN_KEY ∧
      change1.target.table = change2.target.table then
    change2.target.columns.bind fun columns => change1.target.columns.map fun indexed =>
      if indexed.head?.any (columns.contains ·) then
        -- a target has no name
        some
          { type := "index_dependency"
            reason := "Change 2 depends on index created in Change 1: " ++ shown none }
      else none
  else some none

def analyzeConflict (change1 change2 : ClassifiedChange) : Option ConflictReport :=
  if change1.target.table = change2.target.table then
    if (change1.operation = .DROP_TABLE ∨ change1.operation = .DROP_COLUMN) ∧
        (change2.operation = .ADD_TABLE ∨ change2.operation = .ADD_COLUMN) then
      some
        { type := "drop_add_conflict"
          severity := .critical
          description := "Conflicting operations on table " ++ shown change1.target.table ++ ": " ++
            ChangeOperation.text change1.operation ++ " vs " ++ ChangeOperation.text change2.operation }
    else if change1.target.column.any (· ≠ "") ∧ change1.target.column = change2.target.column then
      some
        { type := "column_conflict"
          severity := .high
          description := "Multiple operations on column " ++ shown change1.target.column ++ ": " ++
            ChangeOperation.text change1.operation ++ " vs " ++ ChangeOperation.text change2.operation }
    else none
  else none

namespace Graph

def addEdge (graph : Graph) (i j : Nat) : Option Dependency → Graph
  | none => graph
  | some dependency =>
    { graph with
      edges := graph.edges ++ [{ from_ := i, to_ := j, type := dependency.type, reason := dependency.reason }]
      nodes := graph.nodes.modify j fun node => { node with dependencies := node.dependencies ++ [i] } }

def addConflict (graph : Graph) (i j : Nat) : Option ConflictReport → Graph
  | none => graph
  | some conflict =>
    { graph with
      conflicts := graph.conflicts ++
        [{ change1 := i
           change2 := j
           type := conflict.type
           severity := conflict.severity
           description := conflict.description }]
      nodes := (graph.nodes.modify i fun node => { node with conflicts := node.conflicts ++ [j] }).modify j
        fun node => { node with conflicts := node.conflicts ++ [i] } }

/-- Two changes with their places. -/
def addPair (graph : Graph) (pair : (ClassifiedChange × Nat) × (ClassifiedChange × Nat)) : Option Graph :=
  (analyzeDependency pair.1.1 pair.2.1).map fun dependency =>
    (graph.addEdge pair.1.2 pair.2.2 dependency).addConflict pair.1.2 pair.2.2
      (analyzeConflict pair.1.1 pair.2.1)

end Graph

def buildCompatibilityGraph (classifiedChanges : List ClassifiedChange) : Option Graph :=
  let nodes := classifiedChanges.mapIdx fun index change =>
    { id := index
      type := change.type
      operation := change.operation
      target := change.target
      riskLevel := calculateChangeRisk change }
  (pairs classifiedChanges.zipIdx).foldlM Graph.addPair { nodes }

/-! ## What statements need -/

/-- The statement with back quotes for quotes. -/
def asQuoted (sql : String) : String := String.ofList (sql.toList.map fun c => if isBackQuote c then '"' else c)

def createdTable (sql : String) : Option String := (createTable (tokens (asQuoted sql))).map Prod.fst

/-- What follows the name of an index, which may be left out. -/
def behindOn : List Token → Option (List Token)
  | .word "ON" :: rest => some rest
  | rest => (readName rest).bind fun named =>
    match named.2 with
    | .word "ON" :: rest => some rest
    | _ => none

/-- A column of an index; an expression is none. -/
def indexColumn : List Token → Option String
  | _ :: .symbol '(' :: _ => none
  | first :: _ => first.name?
  | [] => none

/-- The table and the columns of an index that is created. -/
def createdIndex (sql : String) : Option (String × List String) :=
  match tokens (asQuoted sql) with
  | .word "CREATE" :: rest =>
    match skip ["UNIQUE"] rest with
    | .word "INDEX" :: rest =>
      (behindOn (skip ["IF", "NOT", "EXISTS"] (skip ["CONCURRENTLY"] rest))).bind fun rest =>
        (readName (skip ["ONLY"] rest)).map fun named =>
          (named.1, (parts ',' (untilClosed 0 ((named.2.dropWhile (· ≠ .symbol '(')).drop 1))).filterMap indexColumn)
    | _ => none
  | _ => none

def AddsColumn (table column sql : String) : Prop := Does .add table column (asQuoted sql)

/-- The later statement needs the earlier one. -/
def Requires (earlier later : String) : Prop :=
  ∃ table,
    createdTable earlier = some table ∧
      ((∃ column, AddsColumn table column later) ∨ ∃ columns, createdIndex later = some (table, columns)) ∨
    ∃ column columns, AddsColumn table column earlier ∧ createdIndex later = some (table, columns) ∧
      column ∈ columns

/-- The table of a statement, which for an index is the indexed one. -/
def tableOf (sql : String) : Option String :=
  ((createdIndex sql).map Prod.fst).or (statementTable (asQuoted sql))

def OnOtherTables (sql other : String) : Prop :=
  ∃ table table', tableOf sql = some table ∧ tableOf other = some table' ∧ table ≠ table'

section Rules

variable (upper : UpperCase)

/-- The graph reports a conflict of these two statements. -/
def Conflicting (graph : Graph) (changes : List String) (a b : String) : Prop :=
  ∃ conflict ∈ graph.conflicts,
    changes[conflict.change1]? = some a ∧ changes[conflict.change2]? = some b ∨
      changes[conflict.change1]? = some b ∧ changes[conflict.change2]? = some a

/-- What a statement needs is an edge, and the conflicts are those of each order of the list, and within
one table. -/
structure GraphHolds (changes : List String) : Prop where
  complete : ∃ graph, buildCompatibilityGraph (classifyChanges upper changes) = some graph ∧
    ∀ (i j : Nat) a b, i < j → changes[i]? = some a → changes[j]? = some b → Requires a b →
      ∃ edge ∈ graph.edges, edge.from_ = i ∧ edge.to_ = j
  stable : ∀ other : List String, other.Perm changes → ∃ graph graph',
    buildCompatibilityGraph (classifyChanges upper changes) = some graph ∧
      buildCompatibilityGraph (classifyChanges upper other) = some graph' ∧
      ∀ a b, Conflicting graph' other a b ↔ Conflicting graph changes a b
  within : ∀ graph, buildCompatibilityGraph (classifyChanges upper changes) = some graph →
    ∀ a b, Conflicting graph changes a b → ¬ OnOtherTables a b

/-! ## What the rules look at -/

/-- The same first word stands behind a keyword, or none does. -/
def SameTable (a b : String) : Prop := (extractTarget upper a).table = (extractTarget upper b).table

/-- The later statement is taken to need the earlier one. -/
def Precedes (earlier later : String) : Prop :=
  SameTable upper earlier later ∧
    (extractOperation upper earlier = .CREATE_TABLE ∧
        (extractOperation upper later = .ADD_COLUMN ∨ extractOperation upper later = .ADD_INDEX) ∨
      extractOperation upper earlier = .ADD_COLUMN ∧ extractOperation upper later = .ADD_INDEX ∧
        ∃ word columns, (extractTarget upper earlier).column = some word ∧
          (extractTarget upper later).columns = some columns ∧ word ∈ columns)

/-- Columns are read of an index that has none in parentheses. -/
def Throws (earlier later : String) : Prop :=
  extractOperation upper earlier = .ADD_COLUMN ∧ extractOperation upper later = .ADD_INDEX ∧
    SameTable upper earlier later ∧ (extractTarget upper later).columns = none

/-- The two are taken to be in conflict, in this order. -/
def Clashes (a b : String) : Prop :=
  SameTable upper a b ∧
    ((extractOperation upper a = .DROP_TABLE ∨ extractOperation upper a = .DROP_COLUMN) ∧
        extractOperation upper b = .ADD_COLUMN ∨
      ∃ word, word ≠ "" ∧ (extractTarget upper a).column = some word ∧ (extractTarget upper b).column = some word)

/-- What the statements must be like for the graph to be right. -/
structure Legible (changes : List String) : Prop where
  required : ∀ a b, (a, b) ∈ pairs changes → Requires a b → Precedes upper a b
  within : ∀ a b, (a, b) ∈ pairs changes → OnOtherTables a b → ¬ Clashes upper a b
  symmetric : ∀ a ∈ changes, ∀ b ∈ changes, Clashes upper a b → Clashes upper b a
  listed : ∀ a ∈ changes, ∀ b ∈ changes, ¬ Throws upper a b

end Rules

section Statements

variable {upper : UpperCase}

/-- No statement is taken for one of these. -/
theorem operationOf_known (statement : String) :
    operationOf statement ≠ .ADD_TABLE ∧ operationOf statement ≠ .ADD_FOREIGN_KEY := by
  unfold operationOf
  constructor <;> grind

variable {change1 change2 : ClassifiedChange}

private theorem analyzeDependency_none (known : change2.operation ≠ .ADD_FOREIGN_KEY) :
    analyzeDependency change1 change2 = none ↔
      change1.operation = .ADD_COLUMN ∧ change2.operation = .ADD_INDEX ∧
        change1.target.table = change2.target.table ∧ change2.target.columns = none := by
  unfold analyzeDependency
  by_cases table : change1.operation = .CREATE_TABLE ∧
      (change2.operation = .ADD_COLUMN ∨ change2.operation = .ADD_INDEX) ∧
      change2.target.table = change1.target.table
  · rw [if_pos table, table.1]
    simp
  · rw [if_neg table]
    by_cases column : change1.operation = .ADD_COLUMN ∧ change2.operation = .ADD_INDEX ∧
        change1.target.table = change2.target.table
    · rw [if_pos column, Option.map_eq_none_iff]
      exact ⟨fun none => ⟨column.1, column.2.1, column.2.2, none⟩, fun all => all.2.2.2⟩
    · rw [if_neg column, if_neg fun index => known index.2.1]
      exact iff_of_false (Option.some_ne_none _) fun all => column ⟨all.1, all.2.1, all.2.2.1⟩

private theorem analyzeDependency_some (known : change2.operation ≠ .ADD_FOREIGN_KEY) :
    (∃ dependency, analyzeDependency change1 change2 = some (some dependency)) ↔
      change1.target.table = change2.target.table ∧
        (change1.operation = .CREATE_TABLE ∧ (change2.operation = .ADD_COLUMN ∨ change2.operation = .ADD_INDEX) ∨
          change1.operation = .ADD_COLUMN ∧ change2.operation = .ADD_INDEX ∧
            ∃ word columns, change1.target.column = some word ∧ change2.target.columns = some columns ∧
              word ∈ columns) := by
  unfold analyzeDependency
  by_cases table : change1.operation = .CREATE_TABLE ∧
      (change2.operation = .ADD_COLUMN ∨ change2.operation = .ADD_INDEX) ∧
      change2.target.table = change1.target.table
  · rw [if_pos table]
    exact iff_of_true ⟨_, rfl⟩ ⟨table.2.2.symm, .inl ⟨table.1, table.2.1⟩⟩
  · rw [if_neg table]
    by_cases column : change1.operation = .ADD_COLUMN ∧ change2.operation = .ADD_INDEX ∧
        change1.target.table = change2.target.table
    · obtain ⟨adds, indexes, same⟩ := column
      rw [if_pos ⟨adds, indexes, same⟩, adds, indexes]
      cases change2.target.columns with
      | none => simp
      | some columns =>
        cases change1.target.column with
        | none => simp
        | some word => by_cases member : word ∈ columns <;> simp [same, member]
    · rw [if_neg column, if_neg fun index => known index.2.1]
      refine iff_of_false (fun ⟨_, found⟩ => by simp at found) ?_
      rintro ⟨same, ⟨creates, later⟩ | ⟨adds, indexes, -⟩⟩
      · exact table ⟨creates, later, same.symm⟩
      · exact column ⟨adds, indexes, same⟩

private theorem analyzeConflict_isSome (known : change2.operation ≠ .ADD_TABLE) :
    (analyzeConflict change1 change2).isSome = true ↔
      change1.target.table = change2.target.table ∧
        ((change1.operation = .DROP_TABLE ∨ change1.operation = .DROP_COLUMN) ∧ change2.operation = .ADD_COLUMN ∨
          ∃ word, word ≠ "" ∧ change1.target.column = some word ∧ change2.target.column = some word) := by
  unfold analyzeConflict
  by_cases same : change1.target.table = change2.target.table
  · rw [if_pos same]
    by_cases drops : (change1.operation = .DROP_TABLE ∨ change1.operation = .DROP_COLUMN) ∧
        (change2.operation = .ADD_TABLE ∨ change2.operation = .ADD_COLUMN)
    · rw [if_pos drops]
      exact iff_of_true rfl ⟨same, .inl ⟨drops.1, drops.2.resolve_left known⟩⟩
    · rw [if_neg drops]
      by_cases column : change1.target.column.any (· ≠ "") ∧ change1.target.column = change2.target.column
      · rw [if_pos column]
        obtain ⟨word, equal⟩ := column
        obtain ⟨text, found, nonempty⟩ := (Option.any_eq_true _ _).mp word
        exact iff_of_true rfl ⟨same, .inr ⟨text, of_decide_eq_true nonempty, found, equal.symm.trans found⟩⟩
      · rw [if_neg column]
        refine iff_of_false Bool.false_ne_true ?_
        rintro ⟨-, dropped | ⟨word, nonempty, found, found'⟩⟩
        · exact drops ⟨dropped.1, .inr dropped.2⟩
        · apply column
          rw [found, found']
          exact ⟨decide_eq_true nonempty, rfl⟩
  · rw [if_neg same]
    exact iff_of_false Bool.false_ne_true fun all => same all.1

/-- Two classified statements, wherever they stand in the list. -/
theorem classified_none (i j : Nat) (a b : String) :
    analyzeDependency (classifyChange upper i a) (classifyChange upper j b) = none ↔ Throws upper a b := by
  have known : (classifyChange upper j b).operation ≠ .ADD_FOREIGN_KEY := by
    rw [operation_classifyChange]
    exact (operationOf_known _).2
  rw [analyzeDependency_none known]
  simp only [operation_classifyChange, target_classifyChange]
  rfl

private theorem classified_some (i j : Nat) (a b : String) :
    (∃ dependency, analyzeDependency (classifyChange upper i a) (classifyChange upper j b) =
      some (some dependency)) ↔ Precedes upper a b := by
  have known : (classifyChange upper j b).operation ≠ .ADD_FOREIGN_KEY := by
    rw [operation_classifyChange]
    exact (operationOf_known _).2
  rw [analyzeDependency_some known]
  simp only [operation_classifyChange, target_classifyChange]
  rfl

private theorem classified_conflict (i j : Nat) (a b : String) :
    (analyzeConflict (classifyChange upper i a) (classifyChange upper j b)).isSome = true ↔ Clashes upper a b := by
  have known : (classifyChange upper j b).operation ≠ .ADD_TABLE := by
    rw [operation_classifyChange]
    exact (operationOf_known _).1
  rw [analyzeConflict_isSome known]
  simp only [operation_classifyChange, target_classifyChange]
  rfl

end Statements

/-! ## What the loop leaves -/

namespace Graph

variable {graph result : Graph} {i j : Nat}

@[simp] theorem addEdge_conflicts (dependency : Option Dependency) :
    (graph.addEdge i j dependency).conflicts = graph.conflicts := by
  cases dependency <;> rfl

@[simp] theorem addConflict_edges (conflict : Option ConflictReport) :
    (graph.addConflict i j conflict).edges = graph.edges := by
  cases conflict <;> rfl

abbrev Pair := (ClassifiedChange × Nat) × (ClassifiedChange × Nat)

/-- The ends of an edge. -/
def Edged (graph : Graph) (i j : Nat) : Prop := ∃ edge ∈ graph.edges, edge.from_ = i ∧ edge.to_ = j

def Conflicted (graph : Graph) (i j : Nat) : Prop :=
  ∃ conflict ∈ graph.conflicts, conflict.change1 = i ∧ conflict.change2 = j

/-- A pair is an edge where its dependency says so, and nothing else changes. -/
theorem addPair_edged {pair : Pair} (added : graph.addPair pair = some result) (i j : Nat) :
    result.Edged i j ↔ graph.Edged i j ∨ pair.1.2 = i ∧ pair.2.2 = j ∧
      ∃ dependency, analyzeDependency pair.1.1 pair.2.1 = some (some dependency) := by
  obtain ⟨dependency, analyzed, rfl⟩ := Option.map_eq_some_iff.mp added
  unfold Edged
  rw [addConflict_edges, analyzed]
  cases dependency with
  | none => simp [addEdge]
  | some dependency => simp [addEdge, or_and_right, exists_or]

private theorem addPair_conflicted {pair : Pair} (added : graph.addPair pair = some result) (i j : Nat) :
    result.Conflicted i j ↔ graph.Conflicted i j ∨ pair.1.2 = i ∧ pair.2.2 = j ∧
      (analyzeConflict pair.1.1 pair.2.1).isSome = true := by
  obtain ⟨dependency, analyzed, rfl⟩ := Option.map_eq_some_iff.mp added
  unfold Conflicted
  cases analyzeConflict pair.1.1 pair.2.1 with
  | none => simp [addConflict]
  | some conflict => simp [addConflict, or_and_right, exists_or]

/-- What holds of the result of a loop is what held before it, or what a pair adds. -/
theorem foldlM_addPair {P : Graph → Prop} {Q : Pair → Prop}
    (step : ∀ graph pair result, graph.addPair pair = some result → (P result ↔ P graph ∨ Q pair))
    {list : List Pair} (looped : list.foldlM addPair graph = some result) :
    P result ↔ P graph ∨ ∃ pair ∈ list, Q pair := by
  induction list generalizing graph with
  | nil =>
    cases looped
    simp
  | cons pair rest ih =>
    rw [List.foldlM_cons] at looped
    obtain ⟨next, added, rest_looped⟩ := Option.bind_eq_some_iff.mp looped
    rw [ih rest_looped, step graph pair next added, List.exists_mem_cons_iff, or_assoc]

private theorem foldlM_addPair_isSome {list : List Pair} :
    (list.foldlM addPair graph).isSome = true ↔
      ∀ pair ∈ list, analyzeDependency pair.1.1 pair.2.1 ≠ none := by
  induction list generalizing graph with
  | nil => simp
  | cons pair rest ih =>
    rw [List.foldlM_cons, List.forall_mem_cons]
    cases analyzed : analyzeDependency pair.1.1 pair.2.1 with
    | none => simp [addPair, analyzed]
    | some dependency =>
      have added : graph.addPair pair = some ((graph.addEdge pair.1.2 pair.2.2 dependency).addConflict pair.1.2
          pair.2.2 (analyzeConflict pair.1.1 pair.2.1)) := by
        rw [addPair, analyzed, Option.map_some]
      rw [added]
      simpa using ih

end Graph

/-! ## The graph of a list -/

section Built

variable {upper : UpperCase} {changes : List String} {graph : Graph}

theorem classified_getElem? (i : Nat) :
    (classifyChanges upper changes)[i]? = changes[i]?.map (classifyChange upper i) := List.getElem?_mapIdx

/-- The loop goes over two statements with their places. -/
theorem exists_pair_iff {Q : Graph.Pair → Prop} :
    (∃ pair ∈ pairs (classifyChanges upper changes).zipIdx, Q pair) ↔
      ∃ (i j : Nat) (a b : String), i < j ∧ changes[i]? = some a ∧ changes[j]? = some b ∧
        Q ((classifyChange upper i a, i), (classifyChange upper j b, j)) := by
  constructor
  · rintro ⟨⟨⟨change1, i⟩, change2, j⟩, member, found⟩
    obtain ⟨before, one, other⟩ := mem_pairs_zipIdx.mp member
    rw [classified_getElem?, Option.map_eq_some_iff] at one other
    obtain ⟨a, one, rfl⟩ := one
    obtain ⟨b, other, rfl⟩ := other
    exact ⟨i, j, a, b, before, one, other, found⟩
  · rintro ⟨i, j, a, b, before, one, other, found⟩
    refine ⟨_, mem_pairs_zipIdx.mpr ⟨before, ?_, ?_⟩, found⟩
    · rw [classified_getElem?, one, Option.map_some]
    · rw [classified_getElem?, other, Option.map_some]

theorem edged_iff (built : buildCompatibilityGraph (classifyChanges upper changes) = some graph) (i j : Nat) :
    graph.Edged i j ↔ ∃ a b, i < j ∧ changes[i]? = some a ∧ changes[j]? = some b ∧ Precedes upper a b := by
  have loop := Graph.foldlM_addPair (fun _ _ _ added => Graph.addPair_edged added i j) built
  rw [loop, exists_pair_iff]
  simp only [classified_some]
  constructor
  · rintro (⟨edge, member, -⟩ | ⟨i, j, a, b, before, one, other, rfl, rfl, precedes⟩)
    · cases member
    · exact ⟨a, b, before, one, other, precedes⟩
  · rintro ⟨a, b, before, one, other, precedes⟩
    exact .inr ⟨i, j, a, b, before, one, other, rfl, rfl, precedes⟩

theorem conflicted_iff (built : buildCompatibilityGraph (classifyChanges upper changes) = some graph) (i j : Nat) :
    graph.Conflicted i j ↔ ∃ a b, i < j ∧ changes[i]? = some a ∧ changes[j]? = some b ∧ Clashes upper a b := by
  have loop := Graph.foldlM_addPair (fun _ _ _ added => Graph.addPair_conflicted added i j) built
  rw [loop, exists_pair_iff]
  simp only [classified_conflict]
  constructor
  · rintro (⟨conflict, member, -⟩ | ⟨i, j, a, b, before, one, other, rfl, rfl, clash⟩)
    · cases member
    · exact ⟨a, b, before, one, other, clash⟩
  · rintro ⟨a, b, before, one, other, clash⟩
    exact .inr ⟨i, j, a, b, before, one, other, rfl, rfl, clash⟩

theorem built_iff :
    (∃ graph, buildCompatibilityGraph (classifyChanges upper changes) = some graph) ↔
      ∀ a b, (a, b) ∈ pairs changes → ¬ Throws upper a b := by
  rw [← Option.isSome_iff_exists, buildCompatibilityGraph, Graph.foldlM_addPair_isSome]
  constructor
  · intro all a b pair throws
    obtain ⟨i, j, before, one, other⟩ := mem_pairs_iff_getElem?.mp pair
    obtain ⟨pair, member, none⟩ :
        ∃ pair ∈ pairs (classifyChanges upper changes).zipIdx, analyzeDependency pair.1.1 pair.2.1 = none := by
      rw [exists_pair_iff]
      exact ⟨i, j, a, b, before, one, other, (classified_none i j a b).mpr throws⟩
    exact all pair member none
  · intro listed pair member none
    have thrown : ∃ pair ∈ pairs (classifyChanges upper changes).zipIdx,
        analyzeDependency pair.1.1 pair.2.1 = Option.none := ⟨pair, member, none⟩
    obtain ⟨i, j, a, b, before, one, other, throws⟩ := exists_pair_iff.mp thrown
    exact listed a b (mem_pairs_iff_getElem?.mpr ⟨i, j, before, one, other⟩) ((classified_none i j a b).mp throws)

/-- The graph reports just the pairs that clash in the order of the list. -/
theorem conflicting_iff (built : buildCompatibilityGraph (classifyChanges upper changes) = some graph)
    (a b : String) : Conflicting graph changes a b ↔ Meets (Clashes upper) changes a b := by
  have directed (a b : String) :
      (∃ conflict ∈ graph.conflicts, changes[conflict.change1]? = some a ∧ changes[conflict.change2]? = some b) ↔
        (a, b) ∈ pairs changes ∧ Clashes upper a b := by
    constructor
    · rintro ⟨conflict, member, one, other⟩
      obtain ⟨c, d, before, one', other', clash⟩ :=
        (conflicted_iff built conflict.change1 conflict.change2).mp ⟨conflict, member, rfl, rfl⟩
      cases one.symm.trans one'
      cases other.symm.trans other'
      exact ⟨mem_pairs_iff_getElem?.mpr ⟨_, _, before, one, other⟩, clash⟩
    · rintro ⟨pair, clash⟩
      obtain ⟨i, j, before, one, other⟩ := mem_pairs_iff_getElem?.mp pair
      obtain ⟨conflict, member, rfl, rfl⟩ := (conflicted_iff built i j).mpr ⟨a, b, before, one, other, clash⟩
      exact ⟨conflict, member, one, other⟩
  unfold Conflicting Meets
  rw [← directed a b, ← directed b a, ← exists_or]
  simp only [← and_or_left]

end Built

private theorem onOtherTables_symm {a b : String} (apart : OnOtherTables a b) : OnOtherTables b a := by
  obtain ⟨table, table', one, other, ne⟩ := apart
  exact ⟨table', table, other, one, Ne.symm ne⟩

/-- The operations of a pair that throws are not the same. -/
theorem ne_of_throws {upper : UpperCase} {a b : String} (throws : Throws upper a b) : a ≠ b := by
  rintro rfl
  obtain ⟨adds, indexes, -⟩ := throws
  rw [adds] at indexes
  cases indexes

/-- The graph is right just when its rules read from the statements what they are about. -/
theorem graph_holds_iff (upper : UpperCase) (changes : List String) :
    GraphHolds upper changes ↔ Legible upper changes := by
  constructor
  · intro holds
    obtain ⟨graph, built, complete⟩ := holds.complete
    refine ⟨?_, ?_, ?_, ?_⟩
    · intro a b pair requires
      obtain ⟨i, j, before, one, other⟩ := mem_pairs_iff_getElem?.mp pair
      have edged := complete i j a b before one other requires
      obtain ⟨a', b', -, one', other', precedes⟩ := (edged_iff built i j).mp edged
      cases one.symm.trans one'
      cases other.symm.trans other'
      exact precedes
    · intro a b pair apart clash
      exact holds.within graph built a b ((conflicting_iff built a b).mpr (.inl ⟨pair, clash⟩)) apart
    · rw [← stable_iff]
      intro other perm a b
      obtain ⟨graph, graph', built, built', same⟩ := holds.stable other perm
      rw [← conflicting_iff built, ← conflicting_iff built', same]
    · intro a one b two throws
      obtain ⟨other, perm, absent⟩ := exists_order changes b a (Ne.symm (ne_of_throws throws))
      obtain ⟨-, graph', -, built', -⟩ := holds.stable other perm
      have pair := pair_of_ne (perm.mem_iff.mpr one) (perm.mem_iff.mpr two) (ne_of_throws throws)
      exact built_iff.mp ⟨graph', built'⟩ a b (pair.resolve_right absent) throws
  · intro legible
    have builds {other : List String} (perm : other.Perm changes) :
        ∃ graph, buildCompatibilityGraph (classifyChanges upper other) = some graph := by
      rw [built_iff]
      intro a b pair
      obtain ⟨one, two⟩ := mem_of_pair pair
      exact legible.listed a (perm.mem_iff.mp one) b (perm.mem_iff.mp two)
    obtain ⟨graph, built⟩ := builds (List.Perm.refl changes)
    refine ⟨⟨graph, built, ?_⟩, ?_, ?_⟩
    · intro i j a b before one other requires
      have pair := mem_pairs_iff_getElem?.mpr ⟨i, j, before, one, other⟩
      exact (edged_iff built i j).mpr ⟨a, b, before, one, other, legible.required a b pair requires⟩
    · intro other perm
      obtain ⟨graph', built'⟩ := builds perm
      refine ⟨graph, graph', built, built', fun a b => ?_⟩
      rw [conflicting_iff built, conflicting_iff built']
      exact (stable_iff _ _).mpr legible.symmetric other perm a b
    · intro graph built a b conflicting apart
      rcases (conflicting_iff built a b).mp conflicting with ⟨pair, clash⟩ | ⟨pair, clash⟩
      · exact legible.within a b pair apart clash
      · exact legible.within b a pair (onOtherTables_symm apart) clash

section Examples

private theorem index_without_edge :
    ¬ GraphHolds .basic
      ["CREATE TABLE `drivers` (`id` int)", "CREATE INDEX `drivers_phone` ON `drivers` (`phone`)"] := by
  intro holds
  obtain ⟨graph, built, complete⟩ := holds.complete
  have requires : Requires "CREATE TABLE `drivers` (`id` int)"
      "CREATE INDEX `drivers_phone` ON `drivers` (`phone`)" :=
    ⟨"drivers", .inl ⟨by decide, .inr ⟨["phone"], by decide⟩⟩⟩
  obtain ⟨a, b, -, one, other, precedes⟩ := (edged_iff built 0 1).mp (complete 0 1 _ _ (by decide) rfl rfl requires)
  cases one
  cases other
  have created : (extractTarget .basic "CREATE TABLE `drivers` (`id` int)").table = some "DRIVERS" := by decide
  have indexed : (extractTarget .basic "CREATE INDEX `drivers_phone` ON `drivers` (`phone`)").table =
      some "DRIVERS_PHONE" := by
    decide
  have same := created.symm.trans (precedes.1.trans indexed)
  exact absurd (Option.some.inj same) (by decide)

private theorem conflict_in_one_order :
    ¬ GraphHolds .basic ["DROP TABLE `drivers`", "ALTER TABLE `drivers` ADD COLUMN `phone` text"] := by
  intro holds
  obtain ⟨graph, graph', built, built', same⟩ := holds.stable
    ["ALTER TABLE `drivers` ADD COLUMN `phone` text", "DROP TABLE `drivers`"] (List.Perm.swap _ _ [])
  have dropped : (extractTarget .basic "DROP TABLE `drivers`").table = some "DRIVERS" := by decide
  have added : (extractTarget .basic "ALTER TABLE `drivers` ADD COLUMN `phone` text").table = some "DRIVERS" := by
    decide
  have clash : Clashes .basic "DROP TABLE `drivers`" "ALTER TABLE `drivers` ADD COLUMN `phone` text" :=
    ⟨dropped.trans added.symm, .inl ⟨.inl (by decide), by decide⟩⟩
  have found := (same _ _).mpr ((conflicting_iff built _ _).mpr (.inl ⟨List.mem_singleton_self _, clash⟩))
  rcases (conflicting_iff built' _ _).mp found with ⟨pair, -⟩ | ⟨-, -, drops | ⟨word, -, one, other⟩⟩
  · simp [pairs] at pair
  · have operation : extractOperation .basic "DROP TABLE `drivers`" = .DROP_TABLE := by decide
    rw [operation] at drops
    cases drops.2
  · have first : (extractTarget .basic "ALTER TABLE `drivers` ADD COLUMN `phone` text").column = some "COLUMN" := by
      decide
    have second : (extractTarget .basic "DROP TABLE `drivers`").column = some "TABLE" := by decide
    rw [first] at one
    rw [second] at other
    exact absurd (Option.some.inj (one.trans other.symm)) (by decide)

private theorem conflict_across_tables :
    ¬ GraphHolds .basic
      ["ALTER TABLE \"drivers\" ADD COLUMN \"phone\" text", "ALTER TABLE \"shops\" ADD COLUMN \"city\" text"] := by
  intro holds
  obtain ⟨graph, built, -⟩ := holds.complete
  have clash : Clashes .basic "ALTER TABLE \"drivers\" ADD COLUMN \"phone\" text"
      "ALTER TABLE \"shops\" ADD COLUMN \"city\" text" := by
    have none : (extractTarget .basic "ALTER TABLE \"drivers\" ADD COLUMN \"phone\" text").table = none := by
      decide
    have none' : (extractTarget .basic "ALTER TABLE \"shops\" ADD COLUMN \"city\" text").table = Option.none := by
      decide
    exact ⟨none.trans none'.symm, .inr ⟨"COLUMN", by decide, by decide, by decide⟩⟩
  have found := (conflicting_iff built _ _).mpr (.inl ⟨List.mem_singleton_self _, clash⟩)
  exact holds.within graph built _ _ found ⟨"drivers", "shops", by decide, by decide, by decide⟩

/-- An edge that is missing, a conflict in one order only, and one of two tables. -/
theorem graph_wrong :
    ¬ GraphHolds .basic
        ["CREATE TABLE `drivers` (`id` int)", "CREATE INDEX `drivers_phone` ON `drivers` (`phone`)"] ∧
      ¬ GraphHolds .basic ["DROP TABLE `drivers`", "ALTER TABLE `drivers` ADD COLUMN `phone` text"] ∧
      ¬ GraphHolds .basic
        ["ALTER TABLE \"drivers\" ADD COLUMN \"phone\" text",
          "ALTER TABLE \"shops\" ADD COLUMN \"city\" text"] :=
  ⟨index_without_edge, conflict_in_one_order, conflict_across_tables⟩

end Examples

end DriverMicroServices.SchemaCompatibility
