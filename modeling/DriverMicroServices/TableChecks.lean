import DriverMicroServices.PlanSimulation
import DriverMicroServices.Tables.PerKey

/-! What the simulation of a plan says of its tables. It collects which tables the operations
create and which they drop, without an order and without the tables that are there. -/
namespace DriverMicroServices.SchemaEngine
open Tables.Keyed Tables.PerKey Texts.Tokens Graphs ExecutionPlanner

/-! ## Statements on tables -/

inductive TableAction where
  | create
  | alter
  | update
  | drop
deriving DecidableEq

/-- A guarded statement, with `IF EXISTS` or `IF NOT EXISTS`, does nothing where it would fail. -/
structure TableStatement where
  action : TableAction
  table : String
  guarded : Bool
deriving DecidableEq

namespace TableStatement

/-- Whether there is the table afterwards. A table is not created twice, and nothing is done
with one that is not there. -/
def step (statement : TableStatement) (present : Bool) : Option Bool :=
  match statement.action, present with
  | .create, false => some true
  | .alter, true | .update, true => some true
  | .drop, true => some false
  | _, _ => if statement.guarded then some present else none

def change (statement : TableStatement) : Change String Bool := ⟨statement.table, statement.step⟩

def creates (statement : TableStatement) : Bool := statement.action = .create

/-- Whether there is a table is decided by what creates and drops it. -/
def decides (statement : TableStatement) : Bool := statement.creates || statement.action = .drop

end TableStatement

/-- The tables that a text of one of the four kinds names, and what it does to them. -/
def namedTables (sql : String) : List TableStatement :=
  match tokens sql with
  | .word "ALTER" :: .word "TABLE" :: rest =>
    (readName (skip ["ONLY"] (skip ["IF", "EXISTS"] rest))).toList.map fun named =>
      ⟨.alter, named.1, begins ["IF", "EXISTS"] rest⟩
  | .word "DROP" :: .word "TABLE" :: rest =>
    ((parts ',' (skip ["IF", "EXISTS"] rest)).filterMap readName).map fun named =>
      ⟨.drop, named.1, begins ["IF", "EXISTS"] rest⟩
  | .word "UPDATE" :: rest =>
    (readName (skip ["ONLY"] rest)).toList.map fun named => ⟨.update, named.1, false⟩
  | statement =>
    (createTable statement).toList.map fun named =>
      ⟨.create, named.1, Texts.Tokens.mentions ["IF", "NOT", "EXISTS"] (outer statement)⟩

/-- The statements one after the other, from the tables of a snapshot. What each text does to which tables
is as it is read. -/
def executeFrom (reads : String → List TableStatement) (snapshot texts : List String) : Option (String → Bool) :=
  applyAll ((texts.flatMap reads).map TableStatement.change) fun table => decide (table ∈ snapshot)

/-- Whether there is the table after these statements: the last one that decides it, or the snapshot. -/
def standing (present : Bool) (table : String) (before : List TableStatement) : Bool :=
  match before.reverse.find? fun statement => statement.table = table && statement.decides with
  | some last => last.creates
  | none => present

/-- What creates the table comes where it is not there, and what needs it where it is. -/
def Placed (present : Bool) (table : String) (list : List TableStatement) : Prop :=
  ∀ before statement after, list = before ++ statement :: after → statement.table = table →
    statement.guarded = false → statement.creates = !standing present table before

section Placed

variable {present : Bool} {table : String} {first : TableStatement} {list : List TableStatement}

theorem standing_cons (before : List TableStatement) : standing present table (first :: before) =
    standing (if first.table = table && first.decides then first.creates else present) table before := by
  unfold standing
  rw [List.reverse_cons, List.find?_append]
  cases before.reverse.find? fun statement => statement.table = table && statement.decides with
  | some last => rfl
  | none =>
    rw [Option.none_or, List.find?_singleton]
    cases (decide (first.table = table) && first.decides) <;> rfl

theorem placed_cons : Placed present table (first :: list) ↔
    (first.table = table → first.guarded = false → first.creates = !present) ∧
      Placed (if first.table = table && first.decides then first.creates else present) table list := by
  constructor
  · intro placed
    refine ⟨placed [] first list rfl, fun before statement after split => ?_⟩
    have later := placed (first :: before) statement after (by rw [split, List.cons_append])
    rwa [standing_cons] at later
  · rintro ⟨here, later⟩ before statement after split
    cases before with
    | nil =>
      cases split
      exact here
    | cons head before =>
      obtain ⟨same, split⟩ := List.cons.inj split
      rw [← same, standing_cons]
      exact later before statement after split

/-- A statement on its table fails where it is not placed. -/
theorem step_eq : first.step present =
    if first.guarded = false ∧ first.creates = present then none
    else some (if first.decides then first.creates else present) := by
  obtain ⟨action, table, guarded⟩ := first
  cases action <;> cases present <;> cases guarded <;> rfl

/-- The statements on one table succeed one after the other just when each is placed. -/
theorem along_isSome_iff : (along table (list.map TableStatement.change) present).isSome ↔ Placed present table list := by
  induction list generalizing present with
  | nil =>
    refine iff_of_true rfl fun before statement after split => ?_
    simp at split
  | cons first rest ih =>
    rw [List.map_cons, placed_cons]
    by_cases same : first.table = table
    · subst same
      rw [show first.change = ⟨first.table, first.step⟩ from rfl, along_cons_self, step_eq]
      split
      · rename_i fails
        obtain ⟨unguarded, wrong⟩ := fails
        simp [unguarded, wrong]
      · rename_i goes
        rw [Option.bind_some, ih, decide_eq_true rfl, Bool.true_and]
        refine (and_iff_right fun _ unguarded => ?_).symm
        exact Bool.eq_not_of_ne (not_and.mp goes unguarded)
    · rw [along_cons_ne same, ih]
      simp [same]

end Placed

theorem executes_iff (reads : String → List TableStatement) (snapshot texts : List String) :
    (executeFrom reads snapshot texts).isSome ↔
      ∀ table, Placed (decide (table ∈ snapshot)) table (texts.flatMap reads) := by
  simp only [executeFrom, Option.isSome_iff_exists, applyAll_iff, ← along_isSome_iff]
  constructor
  · rintro ⟨finish, each⟩ table
    exact ⟨finish table, each table⟩
  · intro each
    choose finish each using each
    exact ⟨finish, each⟩

/-! ## The order of a plan -/

/-- The statements of the plan as they are listed, each one after those that it depends on. -/
def listed (plan : MigrationExecutionPlan) : List String :=
  DepthFirst.firstPlaces (buildDependencyGraph plan).of plan.executionOrder

theorem resolved_listed (resolved : resolveExecutionOrder plan = .ok order) : order.operations = listed plan := by
  simp only [resolveExecutionOrder, topologicalSort] at resolved
  cases sorted : DepthFirst.sort (buildDependencyGraph plan).of plan.executionOrder with
  | error stop =>
    rw [sorted] at resolved
    cases resolved
  | ok statements =>
    rw [sorted] at resolved
    cases resolved
    exact DepthFirst.sort_listed sorted

section Plans

variable (reads : String → List TableStatement) (snapshot : List String) (plan : MigrationExecutionPlan)

def tableStatements : List TableStatement := (listed plan).flatMap reads

/-- The plan needs the table, and neither creates nor drops it. -/
def OnlyUsed (table : String) : Prop :=
  (∃ statement ∈ tableStatements reads plan, statement.table = table ∧ statement.guarded = false) ∧
    ∀ statement ∈ tableStatements reads plan, statement.table = table → statement.decides = false

/-- A table that is only used is one of the snapshot. One that the plan creates is created first and is not in
the snapshot, or is created right after a drop, and so on. -/
def InPlace (table : String) : Prop :=
  (OnlyUsed reads plan table → table ∈ snapshot) ∧
    (¬ OnlyUsed reads plan table → Placed (decide (table ∈ snapshot)) table (tableStatements reads plan))

variable {reads snapshot plan}

theorem inPlace_iff {table : String} :
    InPlace reads snapshot plan table ↔ Placed (decide (table ∈ snapshot)) table (tableStatements reads plan) := by
  unfold InPlace
  by_cases used : OnlyUsed reads plan table
  · simp only [used, forall_const, not_true, false_implies, and_true]
    obtain ⟨⟨statement, member, on, unguarded⟩, idle⟩ := used
    have undecided (before : List TableStatement) (among : ∀ other ∈ before, other ∈ tableStatements reads plan) :
        standing (decide (table ∈ snapshot)) table before = decide (table ∈ snapshot) := by
      have none : before.reverse.find? (fun other => other.table = table && other.decides) = none := by
        refine List.find?_eq_none.mpr fun other there => ?_
        have silent := idle other (among other (List.mem_reverse.mp there))
        simpa using silent
      rw [standing, none]
    have needs (other : TableStatement) (there : other ∈ tableStatements reads plan) (on : other.table = table) :
        other.creates = false := (Bool.or_eq_false_iff.mp (idle other there on)).1
    constructor
    · intro there before other after split on _
      have inside : ∀ earlier ∈ before, earlier ∈ tableStatements reads plan := fun earlier is => by
        rw [split]
        exact List.mem_append_left _ is
      rw [undecided before inside, needs other (by rw [split]; simp) on]
      simp [there]
    · intro placed
      obtain ⟨before, after, split⟩ := List.append_of_mem member
      have inside : ∀ earlier ∈ before, earlier ∈ tableStatements reads plan := fun earlier is => by
        rw [split]
        exact List.mem_append_left _ is
      have here := placed before statement after split on unguarded
      rw [undecided before inside, needs statement member on] at here
      simpa using here
  · simp [used]

end Plans

/-! ## What the simulation asks for -/

structure SimulationDemands (plan : MigrationExecutionPlan) (migrationId : String)
    (records : MigrationRecords) : Prop where
  /-- What statements depend on is executed too. -/
  listed : ∀ s t, DependsOn plan s t → t ∈ plan.executionOrder
  /-- By the texts of the operations, each table that one names is created or dropped by one. -/
  handled : ∀ op ∈ plan.operations, ∀ table, extractTableName op.sql = some table →
    ∃ other ∈ plan.operations, extractTableName other.sql = some table ∧
      (mentions other.sql "CREATE TABLE" ∨ mentions other.sql "DROP TABLE")
  admitted : ∀ record, get records migrationId = some record → record.state = .VALIDATED

theorem distinct_dependencies (plan : MigrationExecutionPlan) : Distinct (buildDependencyGraph plan) := by
  have puts (operations : List SchemaOperation) (value : Dependencies → SchemaOperation → List String)
      (start : Dependencies) (distinct : Distinct start) :
      Distinct (operations.foldl (fun dependencies operation =>
        put dependencies operation.sql (value dependencies operation)) start) := by
    induction operations generalizing start with
    | nil => exact distinct
    | cons operation rest ih => exact ih _ (distinct.put _ _)
  have phases (list : List PhasePlan) (start : Dependencies) (distinct : Distinct start) :
      Distinct (addPhases start list) := by
    induction list generalizing start with
    | nil => exact distinct
    | cons previous rest ih =>
      cases rest with
      | nil => exact distinct
      | cons current rest =>
        exact ih _ (puts current.operations
          (fun dependencies operation => dependencies.of operation.sql ++ previous.order) start distinct)
  exact phases _ _ (puts plan.operations (fun _ operation => operation.dependencies) [] List.nodup_nil)

/-- What is resolved keeps the graph, and has the statements of the plan. -/
theorem resolved_parts (resolved : resolveExecutionOrder plan = .ok order) :
    order.dependencies = buildDependencyGraph plan ∧ ∀ s, s ∈ order.operations ↔ s ∈ plan.executionOrder := by
  refine ⟨?_, ((execution_order_topological plan).2.2 order resolved).2.1⟩
  unfold resolveExecutionOrder at resolved
  cases sorted : topologicalSort (buildDependencyGraph plan) plan.executionOrder with
  | error message =>
    simp only [sorted] at resolved
    cases resolved
  | ok statements =>
    simp only [sorted] at resolved
    cases resolved
    rfl

theorem missing_iff (resolved : resolveExecutionOrder plan = .ok order) :
    (order.dependencies.flatMap fun entry => (entry.2.filter (· ∉ order.operations)).map fun dep =>
        s!"Missing dependency: {entry.1} depends on {dep}") = [] ↔
      ∀ s t, DependsOn plan s t → t ∈ plan.executionOrder := by
  obtain ⟨dependencies, same⟩ := resolved_parts resolved
  simp only [List.flatMap_eq_nil_iff, List.map_eq_nil_iff, List.filter_eq_nil_iff, decide_eq_true_eq,
    not_not, same, dependencies, ← mem_dependencies]
  constructor
  · intro each s t depends
    unfold Dependencies.of at depends
    cases held : get (buildDependencyGraph plan) s with
    | none => simp [held] at depends
    | some deps =>
      rw [held] at depends
      exact each (s, deps) ((mem_iff_get (distinct_dependencies plan)).mpr held) t depends
  · intro each entry member t depends
    have held := (mem_iff_get (distinct_dependencies plan)).mp member
    exact each entry.1 t (by simpa [Dependencies.of, held] using depends)

theorem mem_tablesOf (operations : List SchemaOperation) (test : String → Bool) (table : String) :
    table ∈ tablesOf operations test ↔
      ∃ op ∈ operations, extractTableName op.sql = some table ∧ test op.sql = true := by
  simp only [tablesOf, List.mem_filterMap, List.mem_filter]
  constructor
  · rintro ⟨op, ⟨member, passes⟩, named⟩
    exact ⟨op, member, named, passes⟩
  · rintro ⟨op, member, named, passes⟩
    exact ⟨op, ⟨member, passes⟩, named⟩

theorem handled_iff (plan : MigrationExecutionPlan) :
    (∀ op ∈ plan.operations, ∀ table, extractTableName op.sql = some table →
      table ∈ tablesOf plan.operations isCreation ∨ table ∈ tablesOf plan.operations isDrop) ↔
    ∀ op ∈ plan.operations, ∀ table, extractTableName op.sql = some table →
      ∃ other ∈ plan.operations, extractTableName other.sql = some table ∧
        (mentions other.sql "CREATE TABLE" ∨ mentions other.sql "DROP TABLE") := by
  refine forall₂_congr fun op _ => forall₂_congr fun table _ => ?_
  simp only [mem_tablesOf]
  constructor
  · rintro (⟨other, member, named, creates⟩ | ⟨other, member, named, drops⟩)
    · exact ⟨other, member, named, .inl creates⟩
    · exact ⟨other, member, named, .inr (Bool.and_eq_true_iff.mp drops).2⟩
  · rintro ⟨other, member, named, mentioned⟩
    cases creates : isCreation other.sql with
    | true => exact .inl ⟨other, member, named, creates⟩
    | false =>
      refine .inr ⟨other, member, named, ?_⟩
      unfold isCreation at creates
      rcases mentioned with again | drops
      · rw [creates] at again
        cases again
      · simp [isDrop, isCreation, creates, drops]

theorem validateDependencies_iff (resolved : resolveExecutionOrder plan = .ok order) :
    validateDependencies plan order = [] ↔
      (∀ s t, DependsOn plan s t → t ∈ plan.executionOrder) ∧
      ∀ op ∈ plan.operations, ∀ table, extractTableName op.sql = some table →
        ∃ other ∈ plan.operations, extractTableName other.sql = some table ∧
          (mentions other.sql "CREATE TABLE" ∨ mentions other.sql "DROP TABLE") := by
  unfold validateDependencies
  rw [List.append_eq_nil_iff, missing_iff resolved, ← handled_iff, List.filterMap_eq_nil_iff]
  refine and_congr_right fun _ => forall₂_congr fun op _ => ?_
  cases extractTableName op.sql with
  | none => simp
  | some table =>
    simp only [Option.some.injEq, forall_eq']
    split
    · rename_i untouched
      simp [untouched]
    · rename_i touched
      simpa [or_iff_not_imp_left] using touched

/-- The hash is stored where the record takes the next state; a migration without a record has
nothing to store. -/
theorem storeSimulation_ok (now : Int) (hash migrationId : String) (records : MigrationRecords) :
    (∃ after, storeSimulation now hash migrationId records = (.ok (), after)) ↔
      ∀ record, get records migrationId = some record → record.state = .VALIDATED := by
  unfold storeSimulation MigrationStateRuntime.getState
  cases found : get records migrationId with
  | none => simp
  | some record =>
    simp only [Option.some.injEq, forall_eq']
    unfold writeHash
    generalize hashed : ({ record with metadata := _ } : MigrationStateRecord) = stored
    have state : stored.state = record.state := by rw [← hashed]
    have before : MigrationState.SIMULATED ∈ MigrationStateMachine.transitions stored.state ↔
        record.state = .VALIDATED := by
      rw [state]
      cases record.state <;> simp [MigrationStateMachine.transitions]
    rcases MigrationStateRuntime.updateState_cases now migrationId .SIMULATED none none
        (put records migrationId stored) with ⟨other, held, allowed, result⟩ | ⟨refused, message, result⟩
    · rw [get_put_self] at held
      cases held
      simp only [result]
      exact ⟨fun _ => before.mp allowed, fun _ => ⟨_, rfl⟩⟩
    · simp only [result]
      constructor
      · rintro ⟨_, returned⟩
        simp at returned
      · exact fun validated => absurd (before.mpr validated) (refused stored get_put_self)

theorem simulation_succeeds_iff (hash : MigrationExecutionPlan → ExecutionOrder → String) (now : Int)
    (migrationId : String) (records : MigrationRecords) (resolved : resolveExecutionOrder plan = .ok order) :
    (simulateExecution hash now plan migrationId records).1.success = true ↔
      SimulationDemands plan migrationId records := by
  have checks := validateDependencies_iff resolved
  have stores := storeSimulation_ok now (hash plan order) migrationId records
  simp only [simulateExecution, resolved]
  cases errors : validateDependencies plan order with
  | cons error rest =>
    simp only [List.isEmpty_cons, Bool.not_false, if_true]
    refine ⟨fun success => (Bool.false_ne_true success).elim, fun demands => ?_⟩
    rw [errors] at checks
    cases checks.mpr ⟨demands.listed, demands.handled⟩
  | nil =>
    obtain ⟨listed, handled⟩ := checks.mp errors
    simp only [List.isEmpty_nil, Bool.not_true, Bool.false_eq_true, if_false]
    cases stored : storeSimulation now (hash plan order) migrationId records with
    | mk outcome after =>
      rw [stored] at stores
      cases outcome with
      | ok done => exact ⟨fun _ => ⟨listed, handled, stores.mp ⟨after, rfl⟩⟩, fun _ => rfl⟩
      | error message =>
        refine ⟨fun success => (Bool.false_ne_true success).elim, fun demands => ?_⟩
        obtain ⟨later, returned⟩ := stores.mpr demands.admitted
        cases returned

/-- The simulation's word on the tables is right just where the tables of a plan that meets its demands are
in place, and one of a plan that does not is out of place: it looks at no snapshot and at no order. -/
theorem simulation_checks_tables (reads : String → List TableStatement)
    (hash : MigrationExecutionPlan → ExecutionOrder → String) (now : Int)
    (plan : MigrationExecutionPlan) (migrationId : String) (records : MigrationRecords)
    (snapshot : List String) (order : ExecutionOrder) (resolved : resolveExecutionOrder plan = .ok order) :
    ((simulateExecution hash now plan migrationId records).1.success = true ↔
      (executeFrom reads snapshot order.operations).isSome) ↔
    (SimulationDemands plan migrationId records → ∀ table, InPlace reads snapshot plan table) ∧
      (¬ SimulationDemands plan migrationId records → ∃ table, ¬ InPlace reads snapshot plan table) := by
  have executes : (executeFrom reads snapshot order.operations).isSome ↔ ∀ table, InPlace reads snapshot plan table := by
    rw [executes_iff, resolved_listed resolved]
    exact forall_congr' fun table => inPlace_iff.symm
  rw [simulation_succeeds_iff hash now migrationId records resolved, executes, ← not_forall, not_imp_not]
  exact iff_def

/-- A plan of one phase. -/
def singlePhase (sqls : List String) : MigrationExecutionPlan :=
  let operations := sqls.map fun sql =>
    ({ sql, category := .SAFE, reason := "New column (must be nullable)" } : SchemaOperation)
  buildFromPhases [{ phase := .EXPAND, operations, order := sqls }] operations

/-- A table is created and gets a column. -/
def createdPlan : MigrationExecutionPlan :=
  singlePhase ["CREATE TABLE \"users\" (\"id\" int)", "ALTER TABLE \"users\" ADD COLUMN \"age\" int"]

def createdOrder : ExecutionOrder where
  phases := [.EXPAND]
  operations := createdPlan.executionOrder
  dependencies := createdPlan.executionOrder.map (·, [])

/-- The simulation of such a plan passes where there is no such table, and rightly so. -/
theorem created_table_is_judged :
    (executeFrom namedTables [] createdOrder.operations).isSome ∧
      ((simulateExecution (fun _ _ => "5feceb66ffc86f38") 0 createdPlan "m" []).1.success = true ↔
        (executeFrom namedTables [] createdOrder.operations).isSome) := by
  have resolved : resolveExecutionOrder createdPlan = .ok createdOrder := by rfl
  have runs : (executeFrom namedTables [] createdOrder.operations).isSome := by decide
  have passes : (simulateExecution (fun _ _ => "5feceb66ffc86f38") 0 createdPlan "m" []).1.success = true := by
    decide +kernel
  have demands := (simulation_succeeds_iff _ 0 "m" [] resolved).mp passes
  refine ⟨runs, (simulation_checks_tables namedTables _ 0 createdPlan "m" [] [] createdOrder resolved).mpr
    ⟨fun _ table => inPlace_iff.mpr ?_, fun refused => absurd demands refused⟩⟩
  have placed := (executes_iff ..).mp runs table
  rwa [resolved_listed resolved] at placed

/-- A column is added to a table of the snapshot. -/
def addedColumnPlan : MigrationExecutionPlan := singlePhase ["ALTER TABLE \"users\" ADD COLUMN \"age\" int"]

def addedColumnOrder : ExecutionOrder where
  phases := [.EXPAND]
  operations := addedColumnPlan.executionOrder
  dependencies := addedColumnPlan.executionOrder.map (·, [])

theorem existing_table_is_refused :
    ∃ order, resolveExecutionOrder addedColumnPlan = .ok order ∧
      (executeFrom namedTables ["users"] order.operations).isSome ∧
      ∀ hash now, (simulateExecution hash now addedColumnPlan "m" []).1.success = false := by
  have resolved : resolveExecutionOrder addedColumnPlan = .ok addedColumnOrder := by rfl
  refine ⟨_, resolved, by decide, fun hash now => ?_⟩
  rw [Bool.eq_false_iff, ne_eq, simulation_succeeds_iff hash now "m" [] resolved]
  intro demands
  obtain ⟨other, member, -, mentioned⟩ := demands.handled _ (.head _) "users" (by decide)
  rw [List.mem_singleton.mp member] at mentioned
  revert mentioned
  decide +kernel

end DriverMicroServices.SchemaEngine
