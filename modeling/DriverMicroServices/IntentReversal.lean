import DriverMicroServices.IntentReadings
import DriverMicroServices.IntentTranslation
import DriverMicroServices.Transactions.Compensation

/-! What intents ask for, and what their phases do. The phases write every column that they add for
another one as `VARCHAR(255)`, whatever type that one has. -/
namespace DriverMicroServices.Intents
open Texts Texts.Json Texts.Tokens Intents.Part IntentTranslator SchemaIntentParser Transactions.Compensation Tables.Keyed

/-! ## What is asked for -/

inductive Wish (τ : Type) where
  | renameColumn (table column newColumn : String)
  | changeColumnType (table column : String) (type : τ)
  /-- The rows are given a text where a strategy is given. -/
  | addColumn (table column : String) (type : τ) (backfilled : Bool)
  | dropColumn (table column : String)
  | renameTable (table newTable : String)
  | splitTable (table newTable : String) (columns : List String)
deriving DecidableEq

variable {ν τ : Type} [Numerals ν]

/-- What a payload asks for, where its fields are names and types. -/
def Database.wish (db : Database τ) (payload : Value ν) : IntentType → Option (Wish τ)
  | .RENAME_COLUMN => do
    let table ← db.named (peek payload "table")
    let column ← db.named (peek payload "column")
    let newColumn ← db.named (peek payload "newColumn")
    some (.renameColumn table column newColumn)
  | .CHANGE_COLUMN_TYPE => do
    let table ← db.named (peek payload "table")
    let column ← db.named (peek payload "column")
    let type ← db.typed (peek payload "newType")
    some (.changeColumnType table column type)
  | .ADD_COLUMN => do
    let table ← db.named (peek payload "table")
    let column ← db.named (peek payload "column")
    let type ← db.typed (peek payload "newType")
    some (.addColumn table column type (truthy (peek (peek payload "options") "backfillStrategy")))
  | .DROP_COLUMN => do
    let table ← db.named (peek payload "table")
    let column ← db.named (peek payload "column")
    some (.dropColumn table column)
  | .RENAME_TABLE => do
    let table ← db.named (peek payload "table")
    let newTable ← db.named (peek payload "newTable")
    some (.renameTable table newTable)
  | .SPLIT_TABLE => do
    let table ← db.named (peek payload "table")
    let newTable ← db.named (peek payload "newTable")
    let columns ← db.namedAll (peek payload "columns")
    some (.splitTable table newTable columns)
  | _ => none

def Database.asked (db : Database τ) (intent : Intent ν) : Option (Wish τ) :=
  (IntentType.of (get intent "type")).bind (db.wish (get intent "payload"))

/-- Another value for one table. -/
def onTable (seen : View τ) (table : String) (change : (String → Option τ) → String → Option τ) : View τ :=
  Function.update seen table ((seen table).map change)

namespace Wish

/-- The tables and columns are there, and the new ones are not. -/
def Applies (seen : View τ) : Wish τ → Prop
  | renameColumn table column newColumn =>
    ∃ columns, seen table = some columns ∧ (columns column).isSome = true ∧ columns newColumn = none
  | changeColumnType table column _ | dropColumn table column =>
    ∃ columns, seen table = some columns ∧ (columns column).isSome = true
  | addColumn table column _ _ => ∃ columns, seen table = some columns ∧ columns column = none
  | renameTable table newTable => (seen table).isSome = true ∧ seen newTable = none
  | splitTable table newTable names =>
    ∃ columns, seen table = some columns ∧ seen newTable = none ∧ names.Nodup ∧
      ∀ column ∈ names, (columns column).isSome = true

/-- The schema that is asked for. -/
def intended (seen : View τ) : Wish τ → View τ
  | renameColumn table column newColumn =>
    onTable seen table fun columns =>
      Function.update (Function.update columns column none) newColumn (columns column)
  | changeColumnType table column type | addColumn table column type _ =>
    onTable seen table fun columns => Function.update columns column (some type)
  | dropColumn table column => onTable seen table fun columns => Function.update columns column none
  | renameTable table newTable => Function.update (Function.update seen table none) newTable (seen table)
  | splitTable table newTable names =>
    Function.update (onTable seen table fun columns => setAll columns names none) newTable
      ((seen table).map fun columns column => if column ∈ names then columns column else none)

/-- The columns that are written anew have the one type that is written for all of them. -/
def Kept (db : Database τ) (seen : View τ) : Wish τ → Prop
  | renameColumn table column _ | dropColumn table column => (seen table).bind (· column) = some db.varchar
  | changeColumnType .. => False
  | addColumn _ _ type backfilled => backfilled = true → db.takesText type = true
  | renameTable .. => True
  | splitTable table _ names => ∀ column ∈ names, (seen table).bind (· column) = some db.varchar

end Wish

/-! ## Phases -/

/-- The statements of phases in their order. -/
def forwardSql (phases : List (IntentPhase String)) : List String :=
  phases.flatMap fun phase => phase.operations.map (·.sql)

/-- The statements that take phases back, the last phase first. -/
def rollbackSql (phases : List (IntentPhase String)) : List String :=
  phases.reverse.flatMap fun phase => phase.rollbackOperations.map (·.sql)

/-- All phases lead to the schema that is meant, and from after any of them the way back leads to the
schema before. -/
structure MeansAndReverts (db : Database τ) (phases : List (IntentPhase String)) (meant : View τ)
    (schema : Schema τ) : Prop where
  means : (executeSql db (forwardSql phases) schema).map view = some meant
  reverts : ∀ executed, executed <+: phases → ∃ reached, executeSql db (forwardSql executed) schema = some reached ∧
    (executeSql db (rollbackSql executed) reached).map view = some (view schema)

def IntentPhase.step (db : Database τ) (phase : IntentPhase String) : Step (Schema τ) where
  forth := executeSql db (phase.operations.map (·.sql))
  back := executeSql db (phase.rollbackOperations.map (·.sql))

section Phases

variable {db : Database τ}

theorem executeSql_append (first second : List String) (schema : Schema τ) :
    executeSql db (first ++ second) schema = (executeSql db first schema).bind (executeSql db second) := by
  induction first generalizing schema with
  | nil => rfl
  | cons sql rest ih =>
    simp only [List.cons_append, executeSql, Option.bind_assoc]
    congr 1
    funext statement
    congr 1
    funext middle
    exact ih middle

theorem executeSql_forward (phases : List (IntentPhase String)) (schema : Schema τ) :
    executeSql db (forwardSql phases) schema = forthAll (phases.map (IntentPhase.step db)) schema := by
  induction phases generalizing schema with
  | nil => rfl
  | cons phase rest ih =>
    have parts : forwardSql (phase :: rest) = phase.operations.map (·.sql) ++ forwardSql rest := rfl
    rw [parts, executeSql_append, List.map_cons, forthAll]
    congr 1
    funext middle
    exact ih middle

theorem executeSql_rollback (phases : List (IntentPhase String)) (schema : Schema τ) :
    executeSql db (rollbackSql phases) schema = backAll (phases.map (IntentPhase.step db)) schema := by
  induction phases with
  | nil => rfl
  | cons phase rest ih =>
    have parts : rollbackSql (phase :: rest) = rollbackSql rest ++ phase.rollbackOperations.map (·.sql) := by
      simp [rollbackSql]
    rw [parts, executeSql_append, ih, List.map_cons, backAll]
    rfl

theorem meansAndReverts_of_leads {phases : List (IntentPhase String)} {meant : View τ} {schema : Schema τ}
    (leads : Leads view meant (phases.map (IntentPhase.step db)) schema) :
    MeansAndReverts db phases meant schema := by
  refine ⟨by rw [executeSql_forward]; exact leads.forthAll, fun executed stopped => ?_⟩
  obtain ⟨reached, arrived, returns⟩ := leads.backAll (stopped.map (IntentPhase.step db))
  exact ⟨reached, by rw [executeSql_forward, arrived], by rw [executeSql_rollback]; exact returns reached rfl⟩

/-- The way back after all phases, from the schema that is meant. -/
theorem MeansAndReverts.back {phases : List (IntentPhase String)} {meant : View τ} {schema : Schema τ}
    (holds : MeansAndReverts db phases meant schema) :
    ∃ reached, forthAll (phases.map (IntentPhase.step db)) schema = some reached ∧ view reached = meant ∧
      (backAll (phases.map (IntentPhase.step db)) reached).map view = some (view schema) := by
  obtain ⟨reached, arrived, returns⟩ := holds.reverts phases (List.prefix_refl phases)
  have means := holds.means
  rw [arrived] at means
  rw [executeSql_forward] at arrived
  rw [executeSql_rollback] at returns
  exact ⟨reached, arrived, Option.some.inj means, returns⟩

/-! ## Written phases -/

/-- A phase with the statements of its operations and of its way back. -/
def PhaseReads (db : Database τ) (phase : IntentPhase (Template ν)) (plan : List Statement × List Statement) : Prop :=
  List.Forall₂ db.Reads (phase.operations.map (·.sql)) plan.1 ∧
    List.Forall₂ db.Reads (phase.rollbackOperations.map (·.sql)) plan.2

def planned (db : Database τ) (plan : List Statement × List Statement) : Step (Schema τ) where
  forth := Statement.performAll db plan.1
  back := Statement.performAll db plan.2

theorem executeSql_written {operations : List (IntentOperation (Template ν))}
    {texts : List (IntentOperation String)} {statements : List Statement}
    (written : operations.mapM IntentOperation.write = some texts)
    (reads : List.Forall₂ db.Reads (operations.map (·.sql)) statements) :
    executeSql db (texts.map (·.sql)) = Statement.performAll db statements := by
  induction operations generalizing texts statements with
  | nil =>
    cases written
    cases reads
    rfl
  | cons operation rest ih =>
    rw [List.mapM_cons] at written
    obtain ⟨text, first, written⟩ := Option.bind_eq_some_iff.mp written
    obtain ⟨others, later, written⟩ := Option.bind_eq_some_iff.mp written
    cases written
    cases reads with
    | cons read reads =>
      unfold IntentOperation.write at first
      obtain ⟨sql, same, first⟩ := Option.bind_eq_some_iff.mp first
      obtain ⟨description, -, first⟩ := Option.bind_eq_some_iff.mp first
      obtain ⟨estimatedTime, -, first⟩ := Option.bind_eq_some_iff.mp first
      cases first
      funext schema
      simp only [List.map_cons, executeSql, read sql same, Option.bind_some, Statement.performAll, ih later reads]

private theorem step_written {phase : IntentPhase (Template ν)} {text : IntentPhase String}
    {plan : List Statement × List Statement} (written : phase.write = some text) (reads : PhaseReads db phase plan) :
    text.step db = planned db plan := by
  unfold IntentPhase.write at written
  obtain ⟨operations, forth, written⟩ := Option.bind_eq_some_iff.mp written
  obtain ⟨duration, -, written⟩ := Option.bind_eq_some_iff.mp written
  obtain ⟨rollbackOperations, back, written⟩ := Option.bind_eq_some_iff.mp written
  cases written
  rw [IntentPhase.step, planned, executeSql_written forth reads.1, executeSql_written back reads.2]

theorem steps_written {templates : List (IntentPhase (Template ν))} {phases : List (IntentPhase String)}
    {plans : List (List Statement × List Statement)} (written : templates.mapM IntentPhase.write = some phases)
    (reads : List.Forall₂ (PhaseReads db) templates plans) :
    phases.map (IntentPhase.step db) = plans.map (planned db) := by
  induction reads generalizing phases with
  | nil =>
    cases written
    rfl
  | @cons phase plan rest plans first later ih =>
    rw [List.mapM_cons] at written
    obtain ⟨text, here, written⟩ := Option.bind_eq_some_iff.mp written
    obtain ⟨texts, further, written⟩ := Option.bind_eq_some_iff.mp written
    cases written
    rw [List.map_cons, List.map_cons, step_written here first, ih further]

end Phases

/-! ## Single tables -/

section OneTable

variable {db : Database τ} {schema after : Schema τ} {seen : View τ} {t c a b : String} {names : List String}
  {columns : String → Option τ} {type : List Token} {named own : τ}

theorem setAll_single (columns : String → Option τ) (column : String) (type : Option τ) :
    setAll columns [column] type = Function.update columns column type := by
  rw [setAll_cons, setAll_nil]

/-- A column is set to what it is. -/
theorem update_held {value : Option τ} (held : columns c = value) : Function.update columns c value = columns := by
  rw [← held, Function.update_eq_self]

theorem update_table (there : view schema t = some columns) :
    Function.update (view schema) t (some columns) = view schema := by
  rw [← there, Function.update_eq_self]

theorem at_table (shows : view schema = Function.update seen t (some columns)) : view schema t = some columns := by
  rw [shows, Function.update_self]

theorem performAll_single (statement : Statement) (schema : Schema τ) :
    Statement.performAll db [statement] schema = statement.perform db schema := Option.bind_fun_some _

theorem adds_at (shows : view schema = Function.update seen t (some columns))
    (fresh : ∀ column ∈ names, columns column = none) (distinct : names.Nodup)
    (typed : db.typeOf type = some named) :
    (Statement.performAll db [.alter t (names.map (.add · type))] schema).map view =
      some (Function.update seen t (some (setAll columns names (some named)))) := by
  rw [performAll_single, perform_adds (at_table shows) fresh distinct typed, shows, Function.update_idem]

theorem drops_at (db : Database τ) (shows : view schema = Function.update seen t (some columns))
    (present : ∀ column ∈ names, (columns column).isSome = true) (distinct : names.Nodup) :
    (Statement.performAll db [.alter t (names.map .drop)] schema).map view =
      some (Function.update seen t (some (setAll columns names none))) := by
  rw [performAll_single, perform_drops db (at_table shows) present distinct, shows, Function.update_idem]

theorem add_at (shows : view schema = Function.update seen t (some columns)) (fresh : columns c = none)
    (typed : db.typeOf type = some named) :
    (Statement.performAll db [.alter t [.add c type]] schema).map view =
      some (Function.update seen t (some (Function.update columns c (some named)))) := by
  rw [← setAll_single columns]
  exact adds_at shows (List.forall_mem_singleton.mpr fresh) (List.nodup_singleton c) typed

theorem drop_at (db : Database τ) (shows : view schema = Function.update seen t (some columns))
    (present : (columns c).isSome = true) :
    (Statement.performAll db [.alter t [.drop c]] schema).map view =
      some (Function.update seen t (some (Function.update columns c none))) := by
  rw [← setAll_single columns]
  exact drops_at db shows (List.forall_mem_singleton.mpr present) (List.nodup_singleton c)

/-- A statement on rows after another statement. -/
theorem performAll_then {statement second : Statement} {shown : View τ}
    (first : (Statement.performAll db [statement] schema).map view = some shown)
    (kept : ∀ after, view after = shown → second.perform db after = some after) :
    (Statement.performAll db [statement, second] schema).map view = some shown := by
  rw [performAll_single] at first
  obtain ⟨after, done, shows⟩ := Option.map_eq_some_iff.mp first
  rw [Statement.performAll, done, Option.bind_some, performAll_single, kept after shows, Option.map_some, shows]

end OneTable

/-! ## Renamed columns -/

section RenameColumn

variable {db : Database τ} {payload : Value ν} {schema : Schema τ} {t a b : String} {columns : String → Option τ}

/-- The phases of a renamed column. -/
def renamePlan (t a b : String) : List (List Statement × List Statement) :=
  [([.alter t [.add b varcharTokens]], [.alter t [.drop b]]),
    ([.update t b (.column a)], [.update t b .null]),
    ([.alter t [.drop a]], [.alter t [.add a varcharTokens], .update t a (.column b)])]

private theorem renameColumn_reads (table : db.named (peek payload "table") = some t)
    (column : db.named (peek payload "column") = some a) (newColumn : db.named (peek payload "newColumn") = some b) :
    List.Forall₂ (PhaseReads db) (translateRenameColumn payload) (renamePlan t a b) := by
  refine .cons ⟨?_, ?_⟩ (.cons ⟨?_, ?_⟩ (.cons ⟨?_, ?_⟩ .nil))
  · exact .cons (reads_addVarchar table newColumn) .nil
  · exact .cons (reads_drop table newColumn) .nil
  · exact .cons (reads_copy table column newColumn) .nil
  · exact .cons (reads_clear table newColumn) .nil
  · exact .cons (reads_drop table column) .nil
  · exact .cons (reads_addVarchar table column) (.cons (reads_copy table newColumn column) .nil)

/-- A column of the type that is written comes through, and back. -/
theorem renameColumn_leads (there : view schema t = some columns) (old : columns a = some db.varchar)
    (fresh : columns b = none) :
    Leads view (Wish.intended (view schema) (.renameColumn t a b)) ((renamePlan t a b).map (planned db)) schema := by
  have apart : a ≠ b := by
    rintro rfl
    rw [old] at fresh
    cases fresh
  have start := (update_table there).symm
  have both : Function.update columns b (some db.varchar) a = some db.varchar := by
    rw [Function.update_of_ne apart, old]
  obtain ⟨s₁, added, seen₁⟩ := Option.map_eq_some_iff.mp (add_at start fresh db.typeOf_varchar)
  have new : (Function.update columns b (some db.varchar) b) = some db.varchar := Function.update_self ..
  obtain ⟨s₃, dropped, seen₃⟩ := Option.map_eq_some_iff.mp (drop_at db seen₁ (by rw [both]; rfl))
  refine ⟨s₁, added, fun s same => ?_, s₁, ?_, fun s same => ?_, s₃, dropped, fun s same => ?_, ?_⟩
  · have back := drop_at db (same.trans seen₁) (by rw [new]; rfl)
    rwa [Function.update_idem, update_held fresh, ← start] at back
  · exact (performAll_single ..).trans (perform_copy (at_table seen₁) new both (db.assigns_self _))
  · have kept := perform_clear db (at_table (same.trans seen₁)) new
    show (Statement.performAll db [_] s).map view = _
    rw [performAll_single, kept, Option.map_some, same]
  · have back := add_at (same.trans seen₃) (Function.update_self ..) db.typeOf_varchar
    rw [Function.update_idem, update_held both, ← seen₁] at back
    refine performAll_then back fun s' shows => ?_
    exact perform_copy (at_table (shows.trans seen₁)) both new (db.assigns_self _)
  · show view s₃ = Wish.intended _ _
    rw [seen₃, Wish.intended, onTable, there, Option.map_some, old, Function.update_comm apart]

/-- The new column has the type that is written. -/
theorem renameColumn_kept (there : view schema t = some columns) (old : (columns a).isSome = true)
    (fresh : columns b = none) {phases : List (IntentPhase String)}
    (steps : phases.map (IntentPhase.step db) = (renamePlan t a b).map (planned db))
    (holds : MeansAndReverts db phases (Wish.intended (view schema) (.renameColumn t a b)) schema) :
    columns a = some db.varchar := by
  obtain ⟨reached, arrived, shown, -⟩ := holds.back
  rw [steps] at arrived
  have start := (update_table there).symm
  have apart : a ≠ b := by
    rintro rfl
    rw [fresh] at old
    cases old
  obtain ⟨s₁, added, arrived⟩ := Option.bind_eq_some_iff.mp arrived
  obtain ⟨s₂, copied, arrived⟩ := Option.bind_eq_some_iff.mp arrived
  obtain ⟨s₃, dropped, arrived⟩ := Option.bind_eq_some_iff.mp arrived
  cases arrived
  obtain rfl := schema_of_update ((performAll_single ..).symm.trans copied)
  have seen₁ := add_at start fresh db.typeOf_varchar
  rw [show Statement.performAll db [.alter t [.add b varcharTokens]] schema = some s₂ from added] at seen₁
  have there₁ : (Function.update columns b (some db.varchar) a).isSome = true := by
    rwa [Function.update_of_ne apart]
  have seen₃ := drop_at db (Option.some.inj seen₁) there₁
  rw [show Statement.performAll db [.alter t [.drop a]] s₂ = some reached from dropped] at seen₃
  have same := congrFun (shown.symm.trans (Option.some.inj seen₃)) t
  simp only [Wish.intended, onTable, there, Option.map_some, Function.update_self, Option.some.injEq] at same
  have type := congrFun same b
  rwa [Function.update_self, Function.update_of_ne apart.symm, Function.update_self] at type

end RenameColumn

/-! ## Added and dropped columns -/

section OneColumn

variable {db : Database τ} {payload : Value ν} {schema : Schema τ} {t c text : String}
  {columns : String → Option τ} {named : τ} {phases : List (IntentPhase String)}

def dropPlan (t c : String) : List (List Statement × List Statement) :=
  [([.query], []), ([.alter t [.drop c]], [.alter t [.add c varcharTokens]])]

private theorem dropColumn_reads (table : db.named (peek payload "table") = some t)
    (column : db.named (peek payload "column") = some c) :
    List.Forall₂ (PhaseReads db) (translateDropColumn payload) (dropPlan t c) := by
  refine .cons ⟨?_, .nil⟩ (.cons ⟨?_, ?_⟩ .nil)
  · exact .cons (reads_select _ (by decide)) .nil
  · exact .cons (reads_drop table column) .nil
  · exact .cons (reads_addVarchar table column) .nil

private theorem dropColumn_leads (there : view schema t = some columns) (old : columns c = some db.varchar) :
    Leads view (Wish.intended (view schema) (.dropColumn t c)) ((dropPlan t c).map (planned db)) schema := by
  have start := (update_table there).symm
  obtain ⟨after, dropped, seen⟩ := Option.map_eq_some_iff.mp (drop_at db start (by rw [old]; rfl))
  refine ⟨schema, rfl, fun s same => congrArg some same, after, dropped, fun s same => ?_, ?_⟩
  · have back := add_at (same.trans seen) (Function.update_self ..) db.typeOf_varchar
    rwa [Function.update_idem, update_held old, ← start] at back
  · show view after = Wish.intended _ _
    rw [seen, Wish.intended, onTable, there, Option.map_some]

private theorem dropColumn_kept (there : view schema t = some columns)
    (steps : phases.map (IntentPhase.step db) = (dropPlan t c).map (planned db))
    (holds : MeansAndReverts db phases (Wish.intended (view schema) (.dropColumn t c)) schema) :
    columns c = some db.varchar := by
  obtain ⟨reached, -, shown, back⟩ := holds.back
  rw [steps] at back
  have seen : view reached = Function.update (view schema) t (some (Function.update columns c none)) := by
    rw [shown, Wish.intended, onTable, there, Option.map_some]
  have added := add_at seen (Function.update_self ..) db.typeOf_varchar
  obtain ⟨after, restored, seen'⟩ := Option.map_eq_some_iff.mp added
  have whole : backAll ((dropPlan t c).map (planned db)) reached = some after := by
    show ((some reached).bind (Statement.performAll db [.alter t [.add c varcharTokens]])).bind _ = _
    rw [Option.bind_some, restored]
    rfl
  rw [whole, Option.map_some, seen', Function.update_idem] at back
  have same := congrFun (Option.some.inj back) t
  rw [Function.update_self, there, Option.some.injEq] at same
  rw [← same, Function.update_self]

/-- The phases of an added column, with the one for its rows. -/
def addPlan (t c : String) (type : List Token) (backfilled : Bool) : List (List Statement × List Statement) :=
  ([.alter t [.add c type]], [.alter t [.drop c]]) ::
    if backfilled then [([.update t c .text], [.update t c .null])] else []

private theorem addColumn_reads (table : db.named (peek payload "table") = some t)
    (column : db.named (peek payload "column") = some c) (written : render (peek payload "newType") = some text)
    (typed : db.typeOf (tokens text) = some named) :
    List.Forall₂ (PhaseReads db) (translateAddColumn payload)
      (addPlan t c (tokens text) (truthy (peek (peek payload "options") "backfillStrategy"))) := by
  refine .cons ⟨?_, ?_⟩ ?_
  · exact .cons (reads_add table column written typed) .nil
  · exact .cons (reads_drop table column) .nil
  · split
    · refine .cons ⟨?_, ?_⟩ .nil
      · exact .cons (reads_default table column) .nil
      · exact .cons (reads_clear table column) .nil
    · exact .nil

private theorem addColumn_leads {backfilled : Bool} (there : view schema t = some columns) (fresh : columns c = none)
    (typed : db.typeOf (tokens text) = some named) (takes : backfilled = true → db.takesText named = true) :
    Leads view (Wish.intended (view schema) (.addColumn t c named backfilled))
      ((addPlan t c (tokens text) backfilled).map (planned db)) schema := by
  have start := (update_table there).symm
  obtain ⟨after, added, seen⟩ := Option.map_eq_some_iff.mp (add_at start fresh typed)
  have new : Function.update columns c (some named) c = some named := Function.update_self ..
  have final : view after = Wish.intended (view schema) (.addColumn t c named backfilled) := by
    rw [seen, Wish.intended, onTable, there, Option.map_some]
  refine ⟨after, added, fun s same => ?_, ?_⟩
  · have back := drop_at db (same.trans seen) (by rw [new]; rfl)
    rwa [Function.update_idem, update_held fresh, ← start] at back
  · cases backfilled with
    | false => exact final
    | true =>
      refine ⟨after, ?_, fun s same => ?_, final⟩
      · refine (performAll_single ..).trans ((perform_text db (at_table seen) new).trans ?_)
        rw [if_pos (takes rfl)]
      · have kept := perform_clear db (at_table (same.trans seen)) new
        show (Statement.performAll db [_] s).map view = _
        rw [performAll_single, kept, Option.map_some, same]

private theorem addColumn_kept {backfilled : Bool} (there : view schema t = some columns) (fresh : columns c = none)
    (typed : db.typeOf (tokens text) = some named)
    (steps : phases.map (IntentPhase.step db) = (addPlan t c (tokens text) backfilled).map (planned db))
    (holds : MeansAndReverts db phases (Wish.intended (view schema) (.addColumn t c named backfilled)) schema)
    (filled : backfilled = true) : db.takesText named = true := by
  subst filled
  obtain ⟨reached, arrived, -, -⟩ := holds.back
  rw [steps] at arrived
  obtain ⟨s₁, added, arrived⟩ := Option.bind_eq_some_iff.mp arrived
  obtain ⟨s₂, written, -⟩ := Option.bind_eq_some_iff.mp arrived
  have seen := add_at (update_table there).symm fresh typed
  rw [show Statement.performAll db [.alter t [.add c (tokens text)]] schema = some s₁ from added] at seen
  have new : Function.update columns c (some named) c = some named := Function.update_self ..
  have checked := (perform_text db (at_table (Option.some.inj seen)) new).symm.trans
    ((performAll_single ..).symm.trans written)
  split at checked
  · assumption
  · cases checked

/-- The first statement of the way back of a phase. -/
theorem back_none {phase : IntentPhase (Template ν)} {first : IntentOperation (Template ν)}
    {others : List (IntentOperation (Template ν))} {written : IntentPhase String} {statement : Statement}
    (write : phase.write = some written) (operations : phase.rollbackOperations = first :: others)
    (reads : db.Reads first.sql statement) (fails : statement.perform db schema = none) :
    (written.step db).back schema = none := by
  unfold IntentPhase.write at write
  obtain ⟨forward, -, write⟩ := Option.bind_eq_some_iff.mp write
  obtain ⟨duration, -, write⟩ := Option.bind_eq_some_iff.mp write
  obtain ⟨rollbackOperations, back, write⟩ := Option.bind_eq_some_iff.mp write
  cases write
  rw [operations, List.mapM_cons] at back
  obtain ⟨operation, same, back⟩ := Option.bind_eq_some_iff.mp back
  obtain ⟨rest, -, back⟩ := Option.bind_eq_some_iff.mp back
  cases back
  unfold IntentOperation.write at same
  obtain ⟨sql, text, same⟩ := Option.bind_eq_some_iff.mp same
  obtain ⟨description, -, same⟩ := Option.bind_eq_some_iff.mp same
  obtain ⟨estimatedTime, -, same⟩ := Option.bind_eq_some_iff.mp same
  cases same
  simp only [IntentPhase.step, List.map_cons, executeSql, reads sql text, Option.bind_some, fails, Option.bind_none]

/-- The column with the new type has the name of the old one, so the old one is not added again. -/
theorem changeColumnType_fails (table : db.named (peek payload "table") = some t)
    (column : db.named (peek payload "column") = some c)
    (written : (translateChangeColumnType payload).mapM IntentPhase.write = some phases)
    (there : view schema t = some columns) :
    ¬ MeansAndReverts db phases (Wish.intended (view schema) (.changeColumnType t c named)) schema := by
  intro holds
  obtain ⟨reached, -, shown, back⟩ := holds.back
  unfold translateChangeColumnType at written
  rw [List.mapM_cons, List.mapM_cons, List.mapM_cons] at written
  obtain ⟨expand, -, written⟩ := Option.bind_eq_some_iff.mp written
  obtain ⟨later, second, same⟩ := Option.bind_eq_some_iff.mp written
  cases same
  obtain ⟨data, -, second⟩ := Option.bind_eq_some_iff.mp second
  obtain ⟨last, third, same⟩ := Option.bind_eq_some_iff.mp second
  cases same
  obtain ⟨contract, write, third⟩ := Option.bind_eq_some_iff.mp third
  obtain ⟨none, empty, same⟩ := Option.bind_eq_some_iff.mp third
  cases empty
  cases same
  have seen : view reached t = some (Function.update columns c (some named)) := by
    rw [shown, Wish.intended, onTable, there, Option.map_some, Function.update_self]
  have fails : (Statement.alter t [.add c varcharTokens]).perform db reached = none :=
    perform_add_present seen (by rw [Function.update_self]; rfl)
  have stuck := back_none write rfl (reads_addVarchar table column) fails
  have whole : backAll ([expand, data, contract].map (IntentPhase.step db)) reached = none := by
    simp only [List.map_cons, List.map_nil, backAll, Option.bind_some, stuck, Option.bind_none]
  obtain ⟨after, returned, -⟩ := Option.map_eq_some_iff.mp back
  cases whole.symm.trans returned

end OneColumn

/-! ## Tables -/

section Tables

variable {db : Database τ} {payload : Value ν} {schema : Schema τ} {t n : String} {cs : List String}
  {columns : String → Option τ} {phases : List (IntentPhase String)}

def renameTablePlan (t n : String) : List (List Statement × List Statement) :=
  [([.query], []), ([.renameTable t n], [.renameTable n t])]

private theorem renameTable_reads (table : db.named (peek payload "table") = some t)
    (newTable : db.named (peek payload "newTable") = some n) :
    List.Forall₂ (PhaseReads db) (translateRenameTable payload) (renameTablePlan t n) := by
  refine .cons ⟨?_, .nil⟩ (.cons ⟨?_, ?_⟩ .nil)
  · exact .cons (reads_select _ (by decide)) .nil
  · exact .cons (reads_renameTable table newTable) .nil
  · exact .cons (reads_renameTable newTable table) .nil

theorem apart_of_fresh (there : view schema t = some columns) (fresh : view schema n = none) : t ≠ n := by
  rintro rfl
  rw [there] at fresh
  cases fresh

private theorem renameTable_leads (there : view schema t = some columns) (fresh : view schema n = none) :
    Leads view (Wish.intended (view schema) (.renameTable t n)) ((renameTablePlan t n).map (planned db)) schema := by
  have apart := apart_of_fresh there fresh
  obtain ⟨after, renamed, seen⟩ := Option.map_eq_some_iff.mp (perform_renameTable db there fresh)
  refine ⟨schema, rfl, fun s same => congrArg some same, after, (performAll_single ..).trans renamed,
    fun s same => ?_, ?_⟩
  · have new : view s n = some columns := by rw [same, seen, Function.update_self]
    have old : view s t = none := by rw [same, seen, Function.update_of_ne apart, Function.update_self]
    have back := perform_renameTable db new old
    have restored : Function.update (Function.update (view s) n none) t (some columns) = view schema := by
      rw [same, seen, Function.update_idem, Function.update_comm apart.symm, Function.update_idem,
        update_table there, ← fresh, Function.update_eq_self]
    show (Statement.performAll db [_] s).map view = _
    rw [performAll_single, back, restored]
  · show view after = Wish.intended _ _
    rw [seen, Wish.intended, there]

def splitTablePlan (t n : String) (cs : List String) : List (List Statement × List Statement) :=
  [([.createFrom n cs t], [.dropTable n]), ([.insertFrom n cs t], [.truncate n]),
    ([.alter t (cs.map .drop)], [.alter t (cs.map (.add · varcharTokens))])]

private theorem splitTable_reads (table : db.named (peek payload "table") = some t)
    (newTable : db.named (peek payload "newTable") = some n) (each : db.namedAll (peek payload "columns") = some cs)
    (nonempty : cs ≠ []) :
    List.Forall₂ (PhaseReads db) (translateSplitTable payload) (splitTablePlan t n cs) := by
  refine .cons ⟨?_, ?_⟩ (.cons ⟨?_, ?_⟩ (.cons ⟨?_, ?_⟩ .nil))
  · exact .cons (reads_createFrom table newTable each nonempty) .nil
  · exact .cons (reads_dropTable newTable) .nil
  · exact .cons (reads_insertFrom table newTable each nonempty) .nil
  · exact .cons (reads_truncate newTable) .nil
  · exact .cons (reads_drops table each nonempty) .nil
  · exact .cons (reads_adds table each nonempty) .nil

/-- Columns that all have the type are set to it. -/
theorem setAll_held {type : Option τ} (held : ∀ column ∈ cs, columns column = type) : setAll columns cs type = columns := by
  funext column
  unfold setAll
  split
  · rename_i member
    exact (held column member).symm
  · rfl

theorem setAll_setAll (columns : String → Option τ) (first second : Option τ) :
    setAll (setAll columns cs first) cs second = setAll columns cs second := by
  funext column
  by_cases member : column ∈ cs <;> simp [setAll, member]

private theorem splitTable_leads (there : view schema t = some columns) (fresh : view schema n = none) (distinct : cs.Nodup)
    (old : ∀ column ∈ cs, columns column = some db.varchar) :
    Leads view (Wish.intended (view schema) (.splitTable t n cs)) ((splitTablePlan t n cs).map (planned db)) schema := by
  have apart := apart_of_fresh there fresh
  have present : ∀ column ∈ cs, (columns column).isSome = true := fun column member => by rw [old column member]; rfl
  obtain ⟨s₁, created, seen₁, filled⟩ := perform_createFrom db there fresh present distinct
  have there₁ : view s₁ t = some columns := by rw [seen₁, Function.update_of_ne apart, there]
  obtain ⟨moved, new₁⟩ : ∃ moved, view s₁ n = some moved := ⟨_, by rw [seen₁, Function.update_self]⟩
  obtain ⟨s₃, dropped, seen₃⟩ := Option.map_eq_some_iff.mp
    (drops_at db (update_table there₁).symm present distinct)
  refine ⟨s₁, (performAll_single ..).trans created, fun s same => ?_, s₁, (performAll_single ..).trans filled,
    fun s same => ?_, s₃, dropped, fun s same => ?_, ?_⟩
  · have back := perform_dropTable db (same ▸ new₁)
    rw [same, seen₁, Function.update_idem, ← fresh, Function.update_eq_self] at back
    show (Statement.performAll db [_] s).map view = _
    rw [performAll_single, back]
  · have kept := perform_truncate db (same ▸ new₁)
    show (Statement.performAll db [_] s).map view = _
    rw [performAll_single, kept, Option.map_some, same]
  · have gone : ∀ column ∈ cs, setAll columns cs none column = none := fun column member => if_pos member
    have back := adds_at (same.trans seen₃) gone distinct db.typeOf_varchar
    rw [setAll_setAll, setAll_held old, update_table there₁] at back
    exact back
  · show view s₃ = Wish.intended _ _
    rw [seen₃, seen₁, Wish.intended, onTable, there, Option.map_some, Option.map_some, Function.update_comm apart]

private theorem splitTable_kept (there : view schema t = some columns) (fresh : view schema n = none) (distinct : cs.Nodup)
    (steps : phases.map (IntentPhase.step db) = (splitTablePlan t n cs).map (planned db))
    (holds : MeansAndReverts db phases (Wish.intended (view schema) (.splitTable t n cs)) schema) :
    ∀ column ∈ cs, columns column = some db.varchar := by
  have apart := apart_of_fresh there fresh
  obtain ⟨reached, -, shown, back⟩ := holds.back
  rw [steps] at back
  have left : view reached t = some (setAll columns cs none) := by
    rw [shown, Wish.intended, Function.update_of_ne apart, onTable, there, Function.update_self, Option.map_some]
  have gone : ∀ column ∈ cs, setAll columns cs none column = none := fun column member => if_pos member
  obtain ⟨s₂, added, seen₂⟩ := Option.map_eq_some_iff.mp
    (adds_at (update_table left).symm gone distinct db.typeOf_varchar)
  obtain ⟨moved, new⟩ : ∃ moved, view s₂ n = some moved := ⟨_, by
    rw [seen₂, Function.update_of_ne apart.symm, shown, Wish.intended, Function.update_self, there, Option.map_some]⟩
  obtain ⟨s₃, removed, seen₃⟩ := Option.map_eq_some_iff.mp (perform_dropTable db new)
  have whole : backAll ((splitTablePlan t n cs).map (planned db)) reached = some s₃ := by
    show (((some reached).bind (Statement.performAll db [.alter t (cs.map (.add · varcharTokens))])).bind
      (Statement.performAll db [.truncate n])).bind (Statement.performAll db [.dropTable n]) = _
    rw [Option.bind_some, added, Option.bind_some, performAll_single, perform_truncate db new, Option.bind_some,
      performAll_single, removed]
  rw [whole, Option.map_some, seen₃, seen₂] at back
  have same := congrFun (Option.some.inj back) t
  rw [Function.update_of_ne apart, Function.update_self, there, Option.some.injEq, setAll_setAll] at same
  intro column member
  rw [← same]
  exact if_pos member

end Tables

/-! ## Intents -/

section Intents

variable {intent : Intent ν} {payload : Value ν} {type : IntentType} {translation : IntentTranslation}
  {validation : IntentValidation} {db : Database τ} {wish : Wish τ} {schema : Schema τ} {phases : List (IntentPhase String)}

theorem phases_of_translate (translated : translate intent = some translation)
    (known : IntentType.of (get intent "type") = some type) :
    (translateType (get intent "payload") type).mapM IntentPhase.write = some translation.phases := by
  unfold IntentTranslator.translate at translated
  obtain ⟨log, -, translated⟩ := Option.bind_eq_some_iff.mp translated
  obtain ⟨planned, plan, translated⟩ := Option.bind_eq_some_iff.mp translated
  obtain ⟨phases, written, result⟩ := Option.bind_eq_some_iff.mp translated
  simp only [plannedPhases, known] at plan
  split at plan
  · cases plan
  · rw [Option.some.inj plan, written]
    simp only at result
    split at result
    · cases result
    · cases result
      rfl

private theorem complete_of_valid (parsed : parse intent = some validation) (valid : validation.valid = true) :
    Complete intent := by
  by_cases supported : SUPPORTED_VERSIONS.any (isText (get intent "version")) = true
  · obtain ⟨validation', parsed', complete⟩ := parse_inspectable supported (inspectable_of_parse supported parsed)
    rw [parsed] at parsed'
    cases parsed'
    exact complete.mp valid
  · rw [Bool.not_eq_true] at supported
    unfold parse at parsed
    simp only [supported, Bool.not_false, if_true] at parsed
    split at parsed
    · cases parsed
      cases valid
    · obtain ⟨text, -, rfl⟩ := Option.map_eq_some_iff.mp parsed
      cases valid

private theorem texts_nil {elements : List (Json ν)} (none : texts elements = some []) : elements = [] := by
  cases elements with
  | nil => rfl
  | cons element rest =>
    unfold texts at none
    split at none
    · rename_i same
      cases same
    · obtain ⟨names, -, same⟩ := Option.map_eq_some_iff.mp none
      cases same
    · obtain ⟨first, -, same⟩ := Option.bind_eq_some_iff.mp none
      obtain ⟨names, -, same⟩ := Option.map_eq_some_iff.mp same
      cases same

/-- The columns of a table that is split are some. -/
theorem columns_nonempty {cs : List String} (checked : validateSplitTable payload = [])
    (each : db.namedAll (peek payload "columns") = some cs) : cs ≠ [] := by
  rintro rfl
  have some := (List.append_eq_nil_iff.mp checked).2
  unfold Database.namedAll at each
  split at each
  · rename_i elements given
    obtain ⟨names, written, each⟩ := Option.bind_eq_some_iff.mp each
    obtain ⟨named, reads, all⟩ := named_of_mapM each
    cases all
    cases reads
    obtain rfl := texts_nil written
    simp [requiredColumns, given, hasLengthZero] at some
  · cases each

theorem wish_holds_iff (checked : validateType payload type = []) (asks : db.wish payload type = some wish)
    (written : (translateType payload type).mapM IntentPhase.write = some phases)
    (applies : wish.Applies (view schema)) :
    MeansAndReverts db phases (wish.intended (view schema)) schema ↔ wish.Kept db (view schema) := by
  cases type with
  | RENAME_COLUMN =>
    obtain ⟨t, table, asks⟩ := Option.bind_eq_some_iff.mp asks
    obtain ⟨a, column, asks⟩ := Option.bind_eq_some_iff.mp asks
    obtain ⟨b, newColumn, asks⟩ := Option.bind_eq_some_iff.mp asks
    cases asks
    obtain ⟨columns, there, old, fresh⟩ := applies
    have steps := steps_written written (renameColumn_reads table column newColumn)
    rw [Wish.Kept, there, Option.bind_some]
    constructor
    · exact renameColumn_kept there old fresh steps
    · intro kept
      exact meansAndReverts_of_leads (steps ▸ renameColumn_leads there kept fresh)
  | CHANGE_COLUMN_TYPE =>
    obtain ⟨t, table, asks⟩ := Option.bind_eq_some_iff.mp asks
    obtain ⟨c, column, asks⟩ := Option.bind_eq_some_iff.mp asks
    obtain ⟨named, typed, asks⟩ := Option.bind_eq_some_iff.mp asks
    cases asks
    obtain ⟨columns, there, old⟩ := applies
    exact iff_of_false (changeColumnType_fails table column written there) id
  | ADD_COLUMN =>
    obtain ⟨t, table, asks⟩ := Option.bind_eq_some_iff.mp asks
    obtain ⟨c, column, asks⟩ := Option.bind_eq_some_iff.mp asks
    obtain ⟨named, typed, asks⟩ := Option.bind_eq_some_iff.mp asks
    cases asks
    obtain ⟨columns, there, fresh⟩ := applies
    obtain ⟨text, rendered, typed⟩ := Option.bind_eq_some_iff.mp typed
    have steps := steps_written written (addColumn_reads table column rendered typed)
    constructor
    · exact addColumn_kept there fresh typed steps
    · intro kept
      exact meansAndReverts_of_leads (steps ▸ addColumn_leads there fresh typed kept)
  | DROP_COLUMN =>
    obtain ⟨t, table, asks⟩ := Option.bind_eq_some_iff.mp asks
    obtain ⟨c, column, asks⟩ := Option.bind_eq_some_iff.mp asks
    cases asks
    obtain ⟨columns, there, old⟩ := applies
    have steps := steps_written written (dropColumn_reads table column)
    rw [Wish.Kept, there, Option.bind_some]
    constructor
    · exact dropColumn_kept there steps
    · intro kept
      exact meansAndReverts_of_leads (steps ▸ dropColumn_leads there kept)
  | RENAME_TABLE =>
    obtain ⟨t, table, asks⟩ := Option.bind_eq_some_iff.mp asks
    obtain ⟨n, newTable, asks⟩ := Option.bind_eq_some_iff.mp asks
    cases asks
    obtain ⟨present, fresh⟩ := applies
    obtain ⟨columns, there⟩ := Option.isSome_iff_exists.mp present
    have steps := steps_written written (renameTable_reads table newTable)
    exact iff_of_true (meansAndReverts_of_leads (steps ▸ renameTable_leads there fresh)) trivial
  | SPLIT_TABLE =>
    obtain ⟨t, table, asks⟩ := Option.bind_eq_some_iff.mp asks
    obtain ⟨n, newTable, asks⟩ := Option.bind_eq_some_iff.mp asks
    obtain ⟨cs, each, asks⟩ := Option.bind_eq_some_iff.mp asks
    cases asks
    obtain ⟨columns, there, fresh, distinct, present⟩ := applies
    have steps := steps_written written
      (splitTable_reads table newTable each (columns_nonempty checked each))
    simp only [Wish.Kept, there, Option.bind_some]
    constructor
    · exact splitTable_kept there fresh distinct steps
    · intro kept
      exact meansAndReverts_of_leads (steps ▸ splitTable_leads there fresh distinct kept)
  | ADD_INDEX | DROP_INDEX | ADD_CONSTRAINT | DROP_CONSTRAINT | MERGE_TABLES => cases asks

/-- A valid intent does what it asks for, and can be taken back from after each phase, just when every
column that is written anew has the type that is written, and the text of a backfill fits. -/
theorem means_and_reverts_iff (parsed : parse intent = some validation) (valid : validation.valid = true)
    (translated : translate intent = some translation) (asks : db.asked intent = some wish)
    (applies : wish.Applies (view schema)) :
    MeansAndReverts db translation.phases (wish.intended (view schema)) schema ↔ wish.Kept db (view schema) := by
  obtain ⟨type, known, asks⟩ := Option.bind_eq_some_iff.mp asks
  exact wish_holds_iff ((complete_of_valid parsed valid).2 type known) asks (phases_of_translate translated known) applies

end Intents

/-! ## Columns of two types -/

inductive ColumnType where
  | integer | varchar
deriving DecidableEq

/-- A database with two types, where numbers can be put into columns of texts. -/
def postgres : Database ColumnType where
  reserved word := word ∈ ["FROM", "NULL", "TABLE", "USER", "WHERE"]
  keywords := by decide
  typeOf list :=
    if list = [.word "INTEGER"] then some .integer else if list = varcharTokens then some .varchar else none
  single type named typed := by
    split at typed
    · rename_i same
      rw [same]
      rfl
    · split at typed
      · rename_i same
        rw [same]
        rfl
      · cases typed
  varchar := .varchar
  typeOf_varchar := rfl
  assigns own target := own = target ∨ target = .varchar
  assigns_self type := by simp
  casts _ _ := true
  takesText type := type = .varchar

/-- An intent that a user writes down. -/
def exampleIntent (type : String) (payload : List (String × Json Nat)) : Intent Nat :=
  [("version", .str "1.0"), ("type", .str type),
    ("metadata", .obj [("author", .str "dev"), ("description", .str "a change"), ("priority", .str "LOW")]),
    ("payload", .obj (("table", .str "users") :: payload))]

def usersWith (type : ColumnType) : Schema ColumnType :=
  Function.update (fun _ => none) "users" (some [("id", .integer), ("login", type)])

def renameLogin : Intent Nat :=
  exampleIntent "RENAME_COLUMN" [("column", .str "login"), ("newColumn", .str "user_name")]

def retypeLogin : Intent Nat :=
  exampleIntent "CHANGE_COLUMN_TYPE" [("column", .str "login"), ("newType", .str "VARCHAR(255)")]

/-- A column of the type that is written is renamed, and back from after each phase. -/
theorem varchar_renamed :
    ∃ translation, translate renameLogin = some translation ∧
      MeansAndReverts postgres translation.phases
        (Wish.intended (view (usersWith .varchar)) (.renameColumn "users" "login" "user_name")) (usersWith .varchar) := by
  obtain ⟨translation, translated⟩ := Option.isSome_iff_exists.mp
    (show (translate renameLogin).isSome = true by decide)
  obtain ⟨validation, parsed⟩ := Option.isSome_iff_exists.mp (show (parse renameLogin).isSome = true by decide)
  have valid : ((parse renameLogin).map (·.valid)) = some true := by decide
  rw [parsed, Option.map_some, Option.some.injEq] at valid
  have asks : postgres.asked renameLogin = some (.renameColumn "users" "login" "user_name") := by decide +kernel
  have applies : Wish.Applies (view (usersWith .varchar)) (.renameColumn "users" "login" "user_name") :=
    ⟨get [("id", .integer), ("login", .varchar)], rfl, rfl, rfl⟩
  have kept : Wish.Kept postgres (view (usersWith .varchar)) (.renameColumn "users" "login" "user_name") := rfl
  exact ⟨translation, translated, (means_and_reverts_iff parsed valid translated asks applies).mpr kept⟩

/-- A column of numbers is renamed into one of texts. A column that becomes one of texts cannot be taken back,
as it is added again under its own name. -/
theorem column_types_lost :
    (∃ translation, translate renameLogin = some translation ∧
      (parse renameLogin).map (·.valid) = some true ∧
      ¬ MeansAndReverts postgres translation.phases
        (Wish.intended (view (usersWith .integer)) (.renameColumn "users" "login" "user_name")) (usersWith .integer)) ∧
    (∃ translation, translate retypeLogin = some translation ∧
      (parse retypeLogin).map (·.valid) = some true ∧
      ¬ MeansAndReverts postgres translation.phases
        (Wish.intended (view (usersWith .integer)) (.changeColumnType "users" "login" .varchar)) (usersWith .integer)) ∧
    (Statement.performAll postgres ((renamePlan "users" "login" "user_name").flatMap (·.1)) (usersWith .integer)).map
      (· "users") = some (some [("id", .integer), ("user_name", .varchar)]) := by
  refine ⟨?_, ?_, by decide⟩
  · obtain ⟨translation, translated⟩ := Option.isSome_iff_exists.mp
      (show (translate renameLogin).isSome = true by decide)
    have asks : postgres.wish (get renameLogin "payload") .RENAME_COLUMN =
        some (.renameColumn "users" "login" "user_name") := by decide +kernel
    have applies : Wish.Applies (view (usersWith .integer)) (.renameColumn "users" "login" "user_name") :=
      ⟨get [("id", .integer), ("login", .integer)], rfl, rfl, rfl⟩
    have known : IntentType.of (get renameLogin "type") = some .RENAME_COLUMN := by decide
    have written := phases_of_translate translated known
    refine ⟨translation, translated, by decide, fun holds => ?_⟩
    have kept := (wish_holds_iff (by decide) asks written applies).mp holds
    exact absurd kept (by show ¬ some ColumnType.integer = some ColumnType.varchar; decide)
  · obtain ⟨translation, translated⟩ := Option.isSome_iff_exists.mp
      (show (translate retypeLogin).isSome = true by decide)
    have asks : postgres.wish (get retypeLogin "payload") .CHANGE_COLUMN_TYPE =
        some (.changeColumnType "users" "login" .varchar) := by decide +kernel
    have applies : Wish.Applies (view (usersWith .integer)) (.changeColumnType "users" "login" .varchar) :=
      ⟨get [("id", .integer), ("login", .integer)], rfl, rfl⟩
    have known : IntentType.of (get retypeLogin "type") = some .CHANGE_COLUMN_TYPE := by decide
    have written := phases_of_translate translated known
    refine ⟨translation, translated, by decide, fun holds => ?_⟩
    exact (wish_holds_iff (by decide) asks written applies).mp holds

end DriverMicroServices.Intents
