import DriverMicroServices.PhasedColumns

/-! What the splitter makes of operations on columns. As long as it reads the statements for what
they are, its phases lead to the schema of the list just when every column survives them. -/
namespace DriverMicroServices
open Texts.Regex Texts.Tokens LifecycleSplitter

/-! ## How a statement is read -/

/-- The phase that gets the operation as it is, unless other statements replace it. -/
def phase? (sql : String) : Option PhaseName :=
  if isNotNullViolation sql then
    if (readWithTable SplitPattern.addedColumn sql).isSome then none else some .EXPAND
  else if isColumnRename sql then
    if (readWithTable SplitPattern.renamedColumn sql).isSome then none else some .EXPAND
  else if isTypeChange sql then
    if (readWithTable SplitPattern.retypedColumn sql).isSome then none else some .EXPAND
  else if isEnumIndexDependency sql then
    if rebuildsEnum sql then none else some .EXPAND
  else
    match classify sql with
    | .SAFE => some .EXPAND
    | .DATA => some .DATA
    | _ => some .CONTRACT

/-- The table and the two columns of a rename that is replaced. -/
def renames? (sql : String) : Option (String × List String) :=
  if isNotNullViolation sql then none
  else if isColumnRename sql then readWithTable SplitPattern.renamedColumn sql
  else none

/-- The table, the column and the type of a change of type that is replaced. -/
def retypes? (sql : String) : Option (String × List String) :=
  if isNotNullViolation sql || isColumnRename sql then none
  else if isTypeChange sql then readWithTable SplitPattern.retypedColumn sql
  else none

namespace ColumnOp

/-- The type that is captured from a change of type. -/
def captured (table : String) (op : ColumnOp) : List Token :=
  match retypes? (op.sql table) with
  | some (_, [_, newType]) => tokens newType
  | _ => []

/-- The operation with its place. -/
def placed (table : String) (op : ColumnOp) : PlacedOp :=
  match op with
  | addColumn column type nullable => .add column type.tokens nullable
  | dropColumn column => .drop column (phase? (op.sql table) = some .DATA)
  | renameColumn oldCol newCol => .rename oldCol newCol
  | alterType column type =>
    if phase? (op.sql table) = some .EXPAND then .retype column type.tokens
    else .replace column type.tokens (op.captured table)
  | setNotNull column => .setNotNull column ((phase? (op.sql table)).getD .CONTRACT)

/-- The splitter reads the operation for what it is: an added column goes to EXPAND, a dropped
one comes later, and what is replaced has been read with its own names. -/
def recognised (table : String) (op : ColumnOp) : Bool :=
  Unquoted table && op.names.all (fun name => Unquoted name) &&
    match op with
    | addColumn _ _ _ => phase? (op.sql table) = some .EXPAND
    | dropColumn _ => phase? (op.sql table) = some .DATA || phase? (op.sql table) = some .CONTRACT
    | renameColumn oldCol newCol => renames? (op.sql table) = some (table, [oldCol, newCol])
    | alterType column _ =>
      phase? (op.sql table) = some .EXPAND ||
        match retypes? (op.sql table) with
        | some (table', [column', _]) => table' = table && column' = column
        | _ => false
    | setNotNull _ => (phase? (op.sql table)).isSome

end ColumnOp

/-! ## What the splitter puts into the phases -/

/-- The operation as it is in a phase. -/
def asItIsIn (phase : PhaseName) (operation : SchemaOperation) : MigrationLifecycleSet :=
  match phase with
  | .EXPAND => { safe := [operation] }
  | .DATA => { data := [operation] }
  | _ => { breaking := [operation] }

section Place

variable {operation : SchemaOperation} {phase : PhaseName} {table : String} {captures : List String}
  {typeMap : TypeMap}

private theorem rewriteNotNull_unread (unread : readWithTable SplitPattern.addedColumn operation.sql = none) :
    rewriteNotNullViolation operation = asItIs operation := by
  rw [rewriteNotNullViolation, unread]

private theorem rewriteRename_unread (unread : readWithTable SplitPattern.renamedColumn operation.sql = none) :
    rewriteColumnRename typeMap operation = asItIs operation := by
  rw [rewriteColumnRename, unread]

private theorem rewriteType_unread (unread : readWithTable SplitPattern.retypedColumn operation.sql = none) :
    rewriteTypeChange operation = asItIs operation := by
  rw [rewriteTypeChange, unread]

private theorem rewriteEnum_unread (unread : rebuildsEnum operation.sql = false) :
    rewriteEnumIndexDependency operation = asItIs operation := by
  rcases rewriteEnum_cases operation with ⟨-, same⟩ | ⟨rebuilt, -⟩
  · exact same
  · exact absurd (unread.symm.trans rebuilt) Bool.false_ne_true

theorem place_phase (found : phase? operation.sql = some phase) :
    place typeMap operation = asItIsIn phase operation := by
  have unread {read : Option (String × List String)}
      (found : (if read.isSome then none else some PhaseName.EXPAND) = some phase) :
      read = none ∧ phase = .EXPAND := by
    cases read with
    | none => exact ⟨rfl, (Option.some.inj found).symm⟩
    | some names => cases found
  unfold phase? at found
  unfold place
  split
  · rename_i violation
    rw [if_pos violation] at found
    obtain ⟨none, rfl⟩ := unread found
    exact rewriteNotNull_unread none
  · rename_i violation
    rw [if_neg violation] at found
    split
    · rename_i rename
      rw [if_pos rename] at found
      obtain ⟨none, rfl⟩ := unread found
      exact rewriteRename_unread none
    · rename_i rename
      rw [if_neg rename] at found
      split
      · rename_i retype
        rw [if_pos retype] at found
        obtain ⟨none, rfl⟩ := unread found
        exact rewriteType_unread none
      · rename_i retype
        rw [if_neg retype] at found
        split
        · rename_i enum
          rw [if_pos enum] at found
          cases rebuilt : rebuildsEnum operation.sql <;> rw [rebuilt] at found <;> cases found
          exact rewriteEnum_unread rebuilt
        · rename_i enum
          rw [if_neg enum] at found
          cases kind : classify operation.sql <;> rw [kind] at found <;> cases found <;> rfl

theorem place_renames (found : renames? operation.sql = some (table, captures)) :
    place typeMap operation = rewriteColumnRename typeMap operation ∧
      readWithTable SplitPattern.renamedColumn operation.sql = some (table, captures) := by
  unfold renames? at found
  unfold place
  split at found
  · cases found
  · rename_i violation
    split at found
    · rename_i rename
      rw [if_neg violation, if_pos rename]
      exact ⟨rfl, found⟩
    · cases found

theorem place_retypes (found : retypes? operation.sql = some (table, captures)) :
    place typeMap operation = rewriteTypeChange operation ∧
      readWithTable SplitPattern.retypedColumn operation.sql = some (table, captures) := by
  unfold retypes? at found
  unfold place
  split at found
  · cases found
  · rename_i others
    obtain ⟨violation, rename⟩ := Bool.or_eq_false_iff.mp (Bool.eq_false_iff.mpr others)
    split at found
    · rename_i retype
      rw [if_neg (by simp [violation]), if_neg (by simp [rename]), if_pos retype]
      exact ⟨rfl, found⟩
    · cases found

end Place

/-! ## The statements of the phases -/

/-- The database reads the texts as the statements. -/
def Reads (table : String) (sqls : List String) (statements : List ColumnStatement) : Prop :=
  List.Forall₂ (fun sql statement => readStatement table sql = some statement) sqls statements

section Written

variable {table column oldCol newCol type : String}

theorem readStatement_add (t_clean : Unquoted table) (c_clean : Unquoted column)
    (bare : splitNotNull (tokens type) = (tokens type, true)) :
    readStatement table ("ALTER TABLE \"" ++ table ++ "\" ADD COLUMN \"" ++ column ++ "\" " ++ type) =
      some (.add column (tokens type) true) := by
  refine (readStatement_alter (tokens_addColumn t_clean c_clean)).trans ((readChange_add _).trans ?_)
  show some (ColumnStatement.add column (splitNotNull (tokens type)).1 (splitNotNull (tokens type)).2) = _
  rw [bare]

theorem readStatement_update {value : List Token} {target : String}
    (same : tokens sql = [.word "UPDATE", .name table, .word "SET", .name target, .symbol '='] ++ value) :
    readStatement table sql = (readSource value).map (.copy target) := by
  unfold readStatement
  rw [same]
  exact if_pos rfl

private theorem readStatement_copy (t_clean : Unquoted table) (o_clean : Unquoted oldCol) (n_clean : Unquoted newCol) :
    readStatement table ("UPDATE \"" ++ table ++ "\" SET \"" ++ newCol ++ "\" = \"" ++ oldCol ++ "\"") =
      some (.copy newCol oldCol) :=
  readStatement_update (tokens_copy t_clean o_clean n_clean)

private theorem readStatement_cast (t_clean : Unquoted table) (n_clean : Unquoted newCol) (c_clean : Unquoted column)
    (nonempty : type.toList ≠ []) (all : ∀ c ∈ type.toList, isWord c) :
    readStatement table ("UPDATE \"" ++ table ++ "\" SET \"" ++ newCol ++ "\" = CAST(\"" ++ column ++ "\" AS " ++
        type ++ ")") = some (.copy newCol column) :=
  readStatement_update (tokens_cast t_clean n_clean c_clean nonempty all)

theorem readStatement_drop (t_clean : Unquoted table) (c_clean : Unquoted column) :
    readStatement table ("ALTER TABLE \"" ++ table ++ "\" DROP COLUMN \"" ++ column ++ "\"") =
      some (.drop column) :=
  readStatement_alter (tokens_dropColumn t_clean c_clean)

private theorem readStatement_rename (t_clean : Unquoted table) (o_clean : Unquoted oldCol) (n_clean : Unquoted newCol) :
    readStatement table ("ALTER TABLE \"" ++ table ++ "\" RENAME COLUMN \"" ++ oldCol ++ "\" TO \"" ++ newCol ++
        "\"") = some (.rename oldCol newCol) :=
  readStatement_alter (tokens_renameColumn t_clean o_clean n_clean)

/-- A single word is a type without more. -/
theorem splitNotNull_word (token : Token) : splitNotNull [token] = ([token], true) := by
  simp [splitNotNull]

end Written

section Recognised

variable {table : String} {op : ColumnOp} {operation : SchemaOperation}

private theorem placed_statement (table : String) (op : ColumnOp) : (op.placed table).statement = op.statement := by
  cases op with
  | alterType column type =>
    simp only [ColumnOp.placed]
    split <;> rfl
  | _ => rfl

theorem recognised_reads (recognised : op.recognised table) :
    readStatement table (op.sql table) = some op.statement := by
  simp only [ColumnOp.recognised, Bool.and_eq_true, decide_eq_true_eq, List.all_eq_true] at recognised
  exact readStatement_sql recognised.1.1 op recognised.1.2

/-- What the splitter puts into the phases for a recognised operation. -/
theorem place_reads (recognised : op.recognised table) (text : operation.sql = op.sql table) :
    Reads table ((place [] operation).safe.map (·.sql)) (op.placed table).expand ∧
      Reads table ((place [] operation).data.map (·.sql)) (op.placed table).migrate ∧
      Reads table ((place [] operation).breaking.map (·.sql)) (op.placed table).contract := by
  have asked : readStatement table operation.sql = some op.statement := by
    rw [text]
    exact recognised_reads recognised
  simp only [ColumnOp.recognised, Bool.and_eq_true, decide_eq_true_eq, List.all_eq_true] at recognised
  obtain ⟨⟨t_clean, clean⟩, read⟩ := recognised
  have alone : Reads table [operation.sql] [op.statement] := .cons asked .nil
  cases op with
  | addColumn column type nullable =>
    rw [← text] at read
    simp only [decide_eq_true_eq] at read
    rw [place_phase read]
    exact ⟨alone, .nil, .nil⟩
  | dropColumn column =>
    rw [← text] at read
    simp only [Bool.or_eq_true, decide_eq_true_eq] at read
    simp only [ColumnOp.placed, ← text]
    rcases read with read | read
    · rw [place_phase read, read]
      exact ⟨.nil, alone, .nil⟩
    · rw [place_phase read, read]
      exact ⟨.nil, .nil, alone⟩
  | renameColumn oldCol newCol =>
    rw [← text] at read
    simp only [decide_eq_true_eq] at read
    obtain ⟨splits, found⟩ := place_renames read
    have o_clean := clean oldCol (by simp [ColumnOp.names])
    have n_clean := clean newCol (by simp [ColumnOp.names])
    rw [splits, rewriteColumnRename, found]
    exact ⟨.cons (@readStatement_add table newCol "VARCHAR" t_clean n_clean rfl) .nil,
      .cons (readStatement_copy t_clean o_clean n_clean) .nil,
      .cons (readStatement_drop t_clean o_clean) .nil⟩
  | alterType column type =>
    rw [← text] at read
    simp only [Bool.or_eq_true, decide_eq_true_eq] at read
    simp only [ColumnOp.placed, ← text]
    have c_clean := clean column (by simp [ColumnOp.names])
    by_cases early : phase? operation.sql = some .EXPAND
    · rw [if_pos early, place_phase early]
      exact ⟨alone, .nil, .nil⟩
    · rw [if_neg early]
      have read := read.resolve_left early
      cases found : retypes? operation.sql with
      | none => simp [found] at read
      | some names =>
        obtain ⟨table', captures⟩ := names
        obtain ⟨splits, retyped⟩ := place_retypes found
        obtain ⟨-, column', newType, rfl, -, nonempty, all⟩ := retypedColumn_sound retyped
        simp only [found, Bool.and_eq_true, decide_eq_true_eq] at read
        obtain ⟨rfl, rfl⟩ := read
        have second := unquoted_v2 c_clean
        have captured : (ColumnOp.alterType column' type).captured table' = tokens newType := by
          rw [ColumnOp.captured, ← text, found]
        have bare : splitNotNull (tokens newType) = (tokens newType, true) := by
          rw [tokens_type nonempty all]
          exact splitNotNull_word _
        rw [splits, rewriteTypeChange, retyped, captured]
        exact ⟨.cons (readStatement_add t_clean second bare) .nil,
          .cons (readStatement_cast t_clean second c_clean nonempty all) .nil,
          .cons (readStatement_drop t_clean c_clean) (.cons (readStatement_rename t_clean second c_clean) .nil)⟩
  | setNotNull column =>
    rw [← text] at read
    obtain ⟨phase, read⟩ := Option.isSome_iff_exists.mp read
    simp only [ColumnOp.placed, ← text]
    rw [place_phase read, read, Option.getD_some]
    cases phase with
    | EXPAND => exact ⟨alone, .nil, .nil⟩
    | DATA => exact ⟨.nil, alone, .nil⟩
    | _ => exact ⟨.nil, .nil, alone⟩

end Recognised

/-! ## The splitter -/

section Split

variable {τ : Type} {typeOf : List Token → Option τ} {table : String} {operations : List SchemaOperation}
  {ops : List ColumnOp} {start finish : TableSchema τ}

/-- The texts of the operations, read one by one. -/
theorem operations_read (texts : operations.map (·.sql) = ops.map (·.sql table))
    (recognised : ∀ op ∈ ops, op.recognised table) :
    List.Forall₂ (fun operation op => op.recognised table ∧ operation.sql = op.sql table) operations ops := by
  induction ops generalizing operations with
  | nil =>
    cases List.map_eq_nil_iff.mp texts
    exact .nil
  | cons op rest ih =>
    obtain ⟨operation, others, rfl, text, texts⟩ := List.map_eq_cons_iff.mp texts
    obtain ⟨here, later⟩ := List.forall_mem_cons.mp recognised
    exact .cons ⟨here, text⟩ (ih texts later)

/-- The texts of the phases, read one by one. -/
theorem phases_read (texts : operations.map (·.sql) = ops.map (·.sql table))
    (recognised : ∀ op ∈ ops, op.recognised table) :
    Reads table (buildExecutionOrder (split operations)) (PlacedOp.phased (ops.map (·.placed table))) := by
  have paired : List.Forall₂ (fun operation placed =>
      Reads table ((place [] operation).safe.map (·.sql)) placed.expand ∧
        Reads table ((place [] operation).data.map (·.sql)) placed.migrate ∧
        Reads table ((place [] operation).breaking.map (·.sql)) placed.contract)
      operations (ops.map (·.placed table)) := by
    rw [List.forall₂_map_right_iff]
    exact (operations_read texts recognised).imp fun operation op both => place_reads both.1 both.2
  rw [executionOrder_split]
  have expands := List.rel_flatMap paired fun _ _ reads => reads.1
  have migrates := List.rel_flatMap paired fun _ _ reads => reads.2.1
  have contracts := List.rel_flatMap paired fun _ _ reads => reads.2.2
  exact List.rel_append expands (List.rel_append migrates contracts)

/-- Recognised operations, executed in phases, lead to the schema of the list just when every
column survives them. -/
theorem split_executes (texts : operations.map (·.sql) = ops.map (·.sql table))
    (recognised : ∀ op ∈ ops, op.recognised table)
    (ran : executeSql typeOf table (operations.map (·.sql)) start = some finish) :
    executeSql typeOf table (buildExecutionOrder (split operations)) start = some finish ↔
      Survives typeOf (ops.map (·.placed table)) start finish := by
  have listed : Reads table (operations.map (·.sql)) ((ops.map (·.placed table)).map PlacedOp.statement) := by
    rw [Reads, texts, List.map_map, List.forall₂_map_left_iff, List.forall₂_map_right_iff, List.forall₂_same]
    intro op member
    rw [Function.comp_apply, placed_statement]
    exact recognised_reads (recognised op member)
  rw [executeSql_eq listed] at ran
  rw [executeSql_eq (phases_read texts recognised)]
  exact PlacedOp.performAll_phased ran

end Split

def bigint : TypeName where
  text := "bigint"
  ends := by decide
  bare := by decide

def varchar255 : TypeName where
  text := "character varying(255)"
  ends := by decide
  bare := by decide

/-- An operation with the text of a column operation. -/
def columnOperation (op : ColumnOp) : SchemaOperation where
  sql := op.sql "users"
  category := .BREAKING
  reason := "Column change"

/-- A table of users. -/
def users : TableSchema (List Token) := fun name =>
  if name = "age" then some ⟨[.word "INTEGER"], false⟩
  else if name = "name" then some ⟨[.word "TEXT"], true⟩
  else none

/-- A column is added and required, and another one dropped. -/
def userChanges : List ColumnOp :=
  [.addColumn "score" bigint true, .dropColumn "name", .setNotNull "score"]

theorem split_executes_users : ∃ finish,
    executeSql some "users" ((userChanges.map columnOperation).map (·.sql)) users = some finish ∧
      executeSql some "users" (buildExecutionOrder (split (userChanges.map columnOperation))) users = some finish ∧
      Survives some (userChanges.map (·.placed "users")) users finish := by
  have executable :
      (executeSql some "users" ((userChanges.map columnOperation).map (·.sql)) users).isSome := by
    decide
  obtain ⟨finish, ran⟩ := Option.isSome_iff_exists.mp executable
  have recognised : userChanges.all (ColumnOp.recognised "users") := by decide
  have phases : buildExecutionOrder (split (userChanges.map columnOperation)) =
      (userChanges.map columnOperation).map (·.sql) := by decide
  have executed := phases ▸ ran
  exact ⟨finish, ran, executed, (split_executes rfl (List.all_eq_true.mp recognised) ran).mp executed⟩

/-- A renamed column loses its type and is nullable, and a type loses its arguments. -/
theorem split_loses_types :
    (executeSql some "users" [(columnOperation (.renameColumn "age" "years")).sql] users).map (· "years") =
        some (some ⟨[.word "INTEGER"], false⟩) ∧
      (executeSql some "users" (buildExecutionOrder (split [columnOperation (.renameColumn "age" "years")]))
          users).map (· "years") = some (some ⟨[.word "VARCHAR"], true⟩) ∧
      (executeSql some "users" [(columnOperation (.alterType "name" varchar255)).sql] users).map (· "name") =
        some (some ⟨varchar255.tokens, true⟩) ∧
      (executeSql some "users" (buildExecutionOrder (split [columnOperation (.alterType "name" varchar255)]))
          users).map (· "name") = some (some ⟨[.word "CHARACTER"], true⟩) := by
  decide

end DriverMicroServices
