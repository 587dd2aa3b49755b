import DriverMicroServices.SchemaOperations
import DriverMicroServices.Tables.Keyed
import DriverMicroServices.Texts.Regex

/-! The splitter of migrations. Each operation is looked at alone: one regular expression
detects its kind, others read the names for the statements that replace it, and where these do
not match, the operation goes to the first phase as it is. -/
namespace DriverMicroServices
open Texts.Regex Texts.Regex.Pattern Tables.Keyed

/-- `MigrationLifecycleSet` -/
structure MigrationLifecycleSet where
  safe : List SchemaOperation := []
  data : List SchemaOperation := []
  breaking : List SchemaOperation := []
deriving DecidableEq

/-- The types of columns by table and column. -/
abbrev TypeMap := List (String × List (String × String))

/-! ## The regular expressions -/

namespace SplitPattern

/-- `\s+` -/
def spaces (next : Pattern) : Pattern := seq (plus isSpace) next

/-- `.*` -/
def anything (next : Pattern) : Pattern := seq (many isDot) next

/-- `/ADD\s+COLUMN.*NOT\s+NULL/i` -/
def notNullViolation : Pattern := words ["ADD", "COLUMN"] (anything (words ["NOT", "NULL"] empty))

/-- `/RENAME\s+COLUMN/i` -/
def columnRename : Pattern := words ["RENAME", "COLUMN"] empty

/-- `/ALTER\s+COLUMN.*TYPE/i` -/
def typeChange : Pattern := words ["ALTER", "COLUMN"] (anything (text "TYPE" empty))

/-- `outbox_(status|priority)_enum` -/
def outboxEnum (next : Pattern) : Pattern :=
  text "outbox_" (seq (either (text "status" empty) (text "priority" empty)) (text "_enum" next))

/-- `\s+"public"\."outbox_(status|priority)_enum` -/
def publicEnum (next : Pattern) : Pattern := spaces (text "\"public\".\"" (outboxEnum next))

/-- `/ALTER\s+TYPE\s+"public"\."outbox_(status|priority)_enum"\s+RENAME\s+TO/i` -/
def enumRename : Pattern :=
  words ["ALTER", "TYPE"] (publicEnum (text "\"" (spaces (words ["RENAME", "TO"] empty))))

/-- `/CREATE\s+TYPE\s+"public"\."outbox_(status|priority)_enum"\s+AS\s+ENUM/i` -/
def enumCreate : Pattern :=
  words ["CREATE", "TYPE"] (publicEnum (text "\"" (spaces (words ["AS", "ENUM"] empty))))

/-- `/DROP\s+TYPE\s+"public"\."outbox_(status|priority)_enum_old"/i` -/
def enumDrop : Pattern := words ["DROP", "TYPE"] (publicEnum (text "_old\"" empty))

/-- `/ALTER\s+TABLE\s+"([^"]+)"/i` -/
def tableName : Pattern := words ["ALTER", "TABLE"] (spaces (quoted empty))

/-- `/ADD\s+"([^"]+)"\s+(.+?)(?:\s+NOT\s+NULL|$)/i` -/
def addedColumn : Pattern :=
  text "ADD" (spaces (quoted (spaces (seq (group (plusFew isDot))
    (either (spaces (words ["NOT", "NULL"] empty)) finish)))))

/-- `/RENAME\s+COLUMN\s+"([^"]+)"\s+TO\s+"([^"]+)"/i` -/
def renamedColumn : Pattern :=
  words ["RENAME", "COLUMN"] (spaces (quoted (spaces (text "TO" (spaces (quoted empty))))))

/-- `/ALTER\s+COLUMN\s+"([^"]+)"\s+TYPE\s+(\w+)/i` -/
def retypedColumn : Pattern :=
  words ["ALTER", "COLUMN"] (spaces (quoted (spaces (text "TYPE" (spaces
    (seq (group (plus isWord)) empty))))))

/-- `/outbox_(status|priority)_enum/i`, with the whole match. -/
def enumType : Pattern := seq (group (outboxEnum empty)) empty

/-- `/ALTER\s+TYPE.*RENAME.*TO.*_old/i` -/
def renamesOld : Pattern :=
  words ["ALTER", "TYPE"] (anything (text "RENAME" (anything (text "TO" (anything (text "_old" empty))))))

/-- `/CREATE\s+TYPE.*ENUM/i` -/
def createsEnum : Pattern := words ["CREATE", "TYPE"] (anything (text "ENUM" empty))

/-- `/DROP\s+TYPE.*_old/i` -/
def dropsOld : Pattern := words ["DROP", "TYPE"] (anything (text "_old" empty))

/-- `/CREATE\s+TABLE|CREATE\s+INDEX|ADD\s+COLUMN/i` -/
def additive : Pattern :=
  either (words ["CREATE", "TABLE"] empty)
    (either (words ["CREATE", "INDEX"] empty) (words ["ADD", "COLUMN"] empty))

/-- `/NOT\s+NULL/i` -/
def notNull : Pattern := words ["NOT", "NULL"] empty

/-- `/UPDATE|INSERT|DELETE/i` -/
def rowLevel : Pattern :=
  either (text "UPDATE" empty) (either (text "INSERT" empty) (text "DELETE" empty))

end SplitPattern

/-! ## The rewrites -/

namespace LifecycleSplitter

def isNotNullViolation (sql : String) : Bool := SplitPattern.notNullViolation.test sql

def isColumnRename (sql : String) : Bool := SplitPattern.columnRename.test sql

def isTypeChange (sql : String) : Bool := SplitPattern.typeChange.test sql

def isEnumIndexDependency (sql : String) : Bool :=
  SplitPattern.enumRename.test sql || SplitPattern.enumCreate.test sql || SplitPattern.enumDrop.test sql

/-- An operation that replaces another one. -/
def rewritten (operation : SchemaOperation) (sql : String) (category : SqlCategory) (reason : String) :
    SchemaOperation where
  sql := sql
  category := category
  reason := reason
  metadata := operation.metadata

/-- The operation as it is, in the first phase. -/
def asItIs (operation : SchemaOperation) : MigrationLifecycleSet := { safe := [operation] }

/-- `tableMatch[1]` and the captures of another pattern. -/
def readWithTable (pattern : Pattern) (sql : String) : Option (String × List String) :=
  (SplitPattern.tableName.search sql).bind fun table =>
    (pattern.search sql).map fun captures => (table.headD "", captures)

/-- `String.prototype.trim` -/
def trim (text : String) : String :=
  String.ofList ((text.toList.dropWhile isSpace).reverse.dropWhile isSpace).reverse

def rewriteNotNullViolation (operation : SchemaOperation) : MigrationLifecycleSet :=
  match readWithTable SplitPattern.addedColumn operation.sql with
  | some (table, [column, type]) =>
    { safe := [rewritten operation
        ("ALTER TABLE \"" ++ table ++ "\" ADD \"" ++ column ++ "\" " ++ trim type)
        .SAFE "Add nullable column"]
      data := [rewritten operation
        ("UPDATE \"" ++ table ++ "\" SET \"" ++ column ++ "\" = 'TODO_BACKFILL' WHERE \"" ++ column ++
          "\" IS NULL")
        .DATA "Backfill data before NOT NULL"]
      breaking := [rewritten operation
        ("ALTER TABLE \"" ++ table ++ "\" ALTER COLUMN \"" ++ column ++ "\" SET NOT NULL")
        .BREAKING "Enforce NOT NULL constraint"] }
  | _ => asItIs operation

/-- `this.typeMap.get(table)?.get(oldCol) || "VARCHAR"` -/
def detectedType (typeMap : TypeMap) (table oldCol : String) : String :=
  match (get typeMap table).bind (get · oldCol) with
  | some type => if type = "" then "VARCHAR" else type
  | none => "VARCHAR"

def rewriteColumnRename (typeMap : TypeMap) (operation : SchemaOperation) : MigrationLifecycleSet :=
  match readWithTable SplitPattern.renamedColumn operation.sql with
  | some (table, [oldCol, newCol]) =>
    { safe := [rewritten operation
        ("ALTER TABLE \"" ++ table ++ "\" ADD COLUMN \"" ++ newCol ++ "\" " ++
          detectedType typeMap table oldCol)
        .SAFE "Add new column for rename operation"]
      data := [rewritten operation
        ("UPDATE \"" ++ table ++ "\" SET \"" ++ newCol ++ "\" = \"" ++ oldCol ++ "\"")
        .DATA "Copy data from old column to new column"]
      breaking := [rewritten operation
        ("ALTER TABLE \"" ++ table ++ "\" DROP COLUMN \"" ++ oldCol ++ "\"")
        .BREAKING "Remove old column after rename"] }
  | _ => asItIs operation

def rewriteTypeChange (operation : SchemaOperation) : MigrationLifecycleSet :=
  match readWithTable SplitPattern.retypedColumn operation.sql with
  | some (table, [column, newType]) =>
    let tempColumn := column ++ "_v2"
    { safe := [rewritten operation
        ("ALTER TABLE \"" ++ table ++ "\" ADD COLUMN \"" ++ tempColumn ++ "\" " ++ newType)
        .SAFE "Add temporary column for type change"]
      data := [rewritten operation
        ("UPDATE \"" ++ table ++ "\" SET \"" ++ tempColumn ++ "\" = CAST(\"" ++ column ++ "\" AS " ++
          newType ++ ")")
        .DATA "Cast data to new type"]
      breaking := [
        rewritten operation ("ALTER TABLE \"" ++ table ++ "\" DROP COLUMN \"" ++ column ++ "\"")
          .BREAKING "Remove old column",
        rewritten operation
          ("ALTER TABLE \"" ++ table ++ "\" RENAME COLUMN \"" ++ tempColumn ++ "\" TO \"" ++ column ++ "\"")
          .BREAKING "Rename temp column to original name"] }
  | _ => asItIs operation

/-- The indexes that hang on the type are dropped before the operation and made again after it. -/
def aroundIndexes (operation : SchemaOperation) (enumType word : String) : MigrationLifecycleSet where
  safe := [
    rewritten operation "DROP INDEX IF EXISTS idx_outbox_worker" .SAFE
      ("Drop partial index depending on " ++ enumType ++ " before enum " ++ word),
    rewritten operation "DROP INDEX IF EXISTS idx_outbox_locked" .SAFE
      ("Drop partial index depending on " ++ enumType ++ " before enum " ++ word)]
  data := [operation]
  breaking := [
    rewritten operation
      ("CREATE INDEX idx_outbox_worker ON \"outbox\" (\"status\", \"next_retry_at\") WHERE (status = 'PENDING'::" ++
        enumType ++ ")")
      .BREAKING ("Recreate partial index after " ++ enumType ++ " " ++ word),
    rewritten operation
      ("CREATE INDEX idx_outbox_locked ON \"outbox\" (\"locked_at\") WHERE (status = 'PROCESSING'::" ++
        enumType ++ ")")
      .BREAKING ("Recreate partial index after " ++ enumType ++ " " ++ word)]

def rewriteEnumIndexDependency (operation : SchemaOperation) : MigrationLifecycleSet :=
  match SplitPattern.enumType.search operation.sql with
  | some [enumType] =>
    if SplitPattern.renamesOld.test operation.sql then aroundIndexes operation enumType "rename"
    else if SplitPattern.createsEnum.test operation.sql then aroundIndexes operation enumType "create"
    else if SplitPattern.dropsOld.test operation.sql then aroundIndexes operation enumType "drop"
    else asItIs operation
  | _ => asItIs operation

/-- The operations on an outbox enum that are put between the index operations. -/
def rebuildsEnum (sql : String) : Bool :=
  (SplitPattern.enumType.search sql).isSome &&
    (SplitPattern.renamesOld.test sql || SplitPattern.createsEnum.test sql || SplitPattern.dropsOld.test sql)

def classify (sql : String) : SqlCategory :=
  if SplitPattern.additive.test sql && !SplitPattern.notNull.test sql then .SAFE
  else if SplitPattern.rowLevel.test sql then .DATA
  else .BREAKING

/-- The turn of the loop for one operation. -/
def place (typeMap : TypeMap) (operation : SchemaOperation) : MigrationLifecycleSet :=
  if isNotNullViolation operation.sql then rewriteNotNullViolation operation
  else if isColumnRename operation.sql then rewriteColumnRename typeMap operation
  else if isTypeChange operation.sql then rewriteTypeChange operation
  else if isEnumIndexDependency operation.sql then rewriteEnumIndexDependency operation
  else
    match classify operation.sql with
    | .SAFE => { safe := [operation] }
    | .DATA => { data := [operation] }
    | _ => { breaking := [operation] }

def phaseOf (phase : PhaseName) (operations : List SchemaOperation) : PhasePlan where
  phase := phase
  operations := operations
  order := operations.map (·.sql)

/-- The phases that have an operation. Nothing is ever put in the last one. -/
def split (operations : List SchemaOperation) (typeMap : TypeMap := []) : List PhasePlan :=
  [phaseOf .EXPAND (operations.flatMap fun operation => (place typeMap operation).safe),
    phaseOf .DATA (operations.flatMap fun operation => (place typeMap operation).data),
    phaseOf .CONTRACT (operations.flatMap fun operation => (place typeMap operation).breaking),
    phaseOf .FIX []].filter fun phase => !phase.operations.isEmpty

/-- The texts of the phases one after the other; an empty phase that is left out has none. -/
theorem executionOrder_split (operations : List SchemaOperation) (typeMap : TypeMap) :
    buildExecutionOrder (split operations typeMap) =
      operations.flatMap (fun operation => (place typeMap operation).safe.map (·.sql)) ++
        (operations.flatMap (fun operation => (place typeMap operation).data.map (·.sql)) ++
          operations.flatMap fun operation => (place typeMap operation).breaking.map (·.sql)) := by
  have unfiltered (phases : List PhasePlan) (ordered : ∀ phase ∈ phases, phase.order = phase.operations.map (·.sql)) :
      buildExecutionOrder (phases.filter fun phase => !phase.operations.isEmpty) = buildExecutionOrder phases := by
    induction phases with
    | nil => rfl
    | cons phase rest ih =>
      have later := ih fun phase member => ordered phase (by simp [member])
      have here := ordered phase (by simp)
      unfold buildExecutionOrder at later ⊢
      cases empty : phase.operations with
      | nil => simp [empty, here, later]
      | cons first others => simp [empty, later]
  rw [split, unfiltered _ (by simp [phaseOf])]
  simp only [buildExecutionOrder, phaseOf, List.flatMap_cons, List.flatMap_nil, List.map_nil, List.append_nil,
    List.map_flatMap]

/-- What holds of all operations of the phases, by the operations that they come from. -/
theorem forall_split {holds : PhaseName → SchemaOperation → Prop} {typeMap : TypeMap}
    {operations : List SchemaOperation} :
    (∀ phase ∈ split operations typeMap, ∀ operation ∈ phase.operations, holds phase.phase operation) ↔
      ∀ original ∈ operations,
        (∀ operation ∈ (place typeMap original).safe, holds .EXPAND operation) ∧
        (∀ operation ∈ (place typeMap original).data, holds .DATA operation) ∧
        ∀ operation ∈ (place typeMap original).breaking, holds .CONTRACT operation := by
  have unfiltered (phase : PhasePlan) :
      ((!phase.operations.isEmpty) = true → ∀ operation ∈ phase.operations, holds phase.phase operation) ↔
        ∀ operation ∈ phase.operations, holds phase.phase operation := by
    cases phase.operations with
    | nil => simp
    | cons first rest => simp
  simp only [split, List.mem_filter, and_imp, unfiltered, List.forall_mem_cons, List.not_mem_nil,
    false_implies, implies_true, and_true, phaseOf, List.mem_flatMap, forall_exists_index, and_imp]
  constructor
  · rintro ⟨safe, data, breaking⟩ original member
    exact ⟨fun operation => safe operation original member, fun operation => data operation original member,
      fun operation => breaking operation original member⟩
  · intro each
    exact ⟨fun operation original member => (each original member).1 operation,
      fun operation original member => (each original member).2.1 operation,
      fun operation original member => (each original member).2.2 operation⟩

end LifecycleSplitter
end DriverMicroServices
