import DriverMicroServices.SplitStatements

/-! What the phases of a migration may contain: statements that only expand the schema come
first, and between them and the contracting ones stand statements on rows. -/
namespace DriverMicroServices
open Texts.Regex Texts.Regex.Pattern Texts.Tokens LifecycleSplitter

/-! ## Statements by their tokens -/

/-- `ADD [COLUMN] name …`, which is no constraint and no value of an enum. -/
def addsColumn : List Token → Bool
  | .word "ADD" :: .word kind :: _ =>
    kind ∉ ["CONSTRAINT", "PRIMARY", "UNIQUE", "FOREIGN", "CHECK", "EXCLUDE", "NOT", "VALUE"]
  | .word "ADD" :: _ :: _ => true
  | _ => false

/-- A column has a default, if only by its type or because it is generated. What a foreign key does to it
when a row goes is none. -/
def hasDefault : List Token → Bool
  | .word "SET" :: .word "DEFAULT" :: rest => hasDefault rest
  | .word text :: rest =>
    text ∈ ["DEFAULT", "GENERATED", "SERIAL", "SERIAL2", "SERIAL4", "SERIAL8", "BIGSERIAL", "SMALLSERIAL"] ||
      hasDefault rest
  | _ :: rest => hasDefault rest
  | [] => false

/-- A column is not null, if only as the primary key. -/
def excludesNull (column : List Token) : Bool := mentions ["NOT", "NULL"] column || mentions ["PRIMARY", "KEY"] column

/-- A column that is not null, without a default. -/
def addsRequired (change : List Token) : Bool :=
  addsColumn change && excludesNull (outer change) && !hasDefault (outer change)

/-- `RENAME [COLUMN] name TO name` -/
def renames : List Token → Bool
  | .word "RENAME" :: .word kind :: _ => kind ∉ ["TO", "CONSTRAINT", "VALUE"]
  | .word "RENAME" :: _ => true
  | _ => false

/-- `ALTER [COLUMN] name [SET DATA] TYPE …` -/
def retypes : List Token → Bool
  | .word "ALTER" :: rest =>
    (readName (skipOne ["COLUMN", "ATTRIBUTE"] rest)).any fun named =>
      (skip ["SET", "DATA"] named.2).head? = some (.word "TYPE")
  | _ => false

/-- A part is dropped, and not only a default or `NOT NULL`. -/
def dropsPart : List Token → Bool
  | .word "DROP" :: .word kind :: _ => kind ∉ ["DEFAULT", "NOT"]
  | .word "DROP" :: _ => true
  | _ => false

/-- Something other than an index is dropped. -/
def dropsObject : List Token → Bool
  | .word "DROP" :: .word "INDEX" :: _ => false
  | .word "DROP" :: _ => true
  | _ => false

def contracts (change : List Token) : Bool :=
  addsRequired change || renames change || retypes change || dropsPart change

/-- What has columns or other parts that are altered. -/
def alteredKinds : List (List String) :=
  [["TABLE"], ["FOREIGN", "TABLE"], ["VIEW"], ["MATERIALIZED", "VIEW"], ["TYPE"], ["DOMAIN"]]

/-- The statement adds no required column, renames and retypes none, and drops at most an index. -/
def expandsOnly (statement : List Token) : Bool :=
  match alteration alteredKinds statement with
  | some (_, changes) => changes.all fun change => !contracts change
  | none => !dropsObject statement && !(begins ["ALTER"] statement && mentions ["DROP"] statement)

/-- An `UPDATE`, an `INSERT` or a `DELETE`, with or without queries before it. -/
def onRows (statement : List Token) : Bool := (verb statement).any (· ∈ ["UPDATE", "INSERT", "DELETE"])

def expanding (sql : String) : Bool := (statements sql).all expandsOnly

def rowLevel (sql : String) : Bool := (statements sql).all onRows

/-- Expand-migrate-contract safety of phases. -/
def SafePhases (phases : List PhasePlan) : Prop :=
  ∀ phase ∈ phases, ∀ operation ∈ phase.operations,
    (phase.phase = .EXPAND → expanding operation.sql) ∧ (phase.phase = .DATA → rowLevel operation.sql)

/-- A text that may follow the name of a column that is added. -/
def plainType (type : String) : Bool := expanding ("ALTER TABLE \"" ++ "t" ++ "\" ADD COLUMN \"" ++ "c" ++ "\" " ++ type)

/-! ## The condition on an operation -/

/-- What is replaced has a plain type. What goes to the first phase as it is only expands the
schema, and what goes to the second one as it is works on rows. -/
def SplitsSafely (typeMap : TypeMap) (sql : String) : Prop :=
  if isNotNullViolation sql then
    match readWithTable SplitPattern.addedColumn sql with
    | some (_, [_, type]) => plainType (trim type)
    | _ => expanding sql
  else if isColumnRename sql then
    match readWithTable SplitPattern.renamedColumn sql with
    | some (table, [oldCol, _]) => plainType (detectedType typeMap table oldCol)
    | _ => expanding sql
  else if isTypeChange sql then
    (readWithTable SplitPattern.retypedColumn sql).isSome ∨ expanding sql
  else if isEnumIndexDependency sql then
    if rebuildsEnum sql then rowLevel sql else expanding sql
  else
    match classify sql with
    | .SAFE => expanding sql
    | .DATA => rowLevel sql
    | _ => True

/-! ## The statements that the splitter writes -/

section Written

variable {table column table' column' type : String}

/-- An added column is judged by what follows its name. -/
theorem contracts_add (rest : List Token) :
    contracts (.word "ADD" :: .name column :: rest) =
      (excludesNull (outer rest) && !hasDefault (outer rest)) := by
  simp [contracts, addsRequired, excludesNull, addsColumn, outer, outerFrom, mentions, begins, hasDefault, renames,
    retypes, dropsPart]

theorem contracts_addColumn (rest : List Token) :
    contracts (.word "ADD" :: .word "COLUMN" :: .name column :: rest) =
      (excludesNull (outer rest) && !hasDefault (outer rest)) := by
  simp [contracts, addsRequired, excludesNull, addsColumn, outer, outerFrom, mentions, begins, hasDefault, renames,
    retypes, dropsPart]

/-- The changes to a table, when they begin with a word. -/
theorem alteration_word (word : String) (rest : List Token) :
    alteration alteredKinds (.word "ALTER" :: .word "TABLE" :: .name table :: .word word :: rest) =
      some (table, parts ',' (.word word :: rest)) := rfl

/-- Whatever the names, and with or without `COLUMN`. -/
theorem expandsOnly_add (first : List Token) :
    expandsOnly (.word "ALTER" :: .word "TABLE" :: .name table :: .word "ADD" :: .name column :: first) =
      expandsOnly (.word "ALTER" :: .word "TABLE" :: .name table' :: .word "ADD" :: .word "COLUMN" ::
        .name column' :: first) := by
  obtain ⟨change, changes, split, -⟩ := partsFrom_before ',' 0 [] first
  have begun : parts ',' first = change :: changes := split
  simp only [expandsOnly, alteration_word, parts_cons, begun, onFirst, ne_eq, reduceCtorEq,
    not_false_eq_true, implies_true, List.all_cons, contracts_add, contracts_addColumn]

private theorem expandsOnly_addColumn (first : List Token) :
    expandsOnly (.word "ALTER" :: .word "TABLE" :: .name table :: .word "ADD" :: .word "COLUMN" ::
        .name column :: first) =
      expandsOnly (.word "ALTER" :: .word "TABLE" :: .name table' :: .word "ADD" :: .word "COLUMN" ::
        .name column' :: first) := by
  rw [← @expandsOnly_add table column table column, expandsOnly_add]

/-- A text that adds a column is judged by what follows the column's name. -/
private theorem expanding_typed {text : String} {optional : List Token}
    (either : optional = [] ∨ optional = [.word "COLUMN"])
    (read : tokens text =
      .word "ALTER" :: .word "TABLE" :: .name table :: .word "ADD" :: (optional ++ .name column :: tokens type)) :
    expanding text = plainType type := by
  obtain ⟨first, rest, split, -⟩ := partsFrom_before ';' 0 [] (tokens type)
  have begun : parts ';' (tokens type) = first :: rest := split
  have model := @tokens_addColumn "t" "c" type (by decide) (by decide)
  rcases either with rfl | rfl <;>
    simp only [plainType, expanding, statements, read, model, parts_cons, begun, onFirst, List.cons_append,
      List.nil_append, ne_eq, reduceCtorEq, not_false_eq_true, implies_true, List.filter_cons, List.isEmpty_cons,
      Bool.not_false, if_true, List.all_cons]
  · rw [expandsOnly_add]
  · rw [expandsOnly_addColumn]

/-- A single word is a type. -/
theorem plainType_word (nonempty : type.toList ≠ []) (all : ∀ c ∈ type.toList, isWord c) :
    plainType type := by
  have model := @tokens_addColumn "t" "c" type (by decide) (by decide)
  rw [tokens_type nonempty all] at model
  simp only [plainType, expanding, statements, model]
  simp [parts, partsFrom, expandsOnly, alteration_word, Token.ofWord, contracts_addColumn, outer, outerFrom,
    excludesNull, mentions, begins]

theorem onRows_update (rest : List Token) : onRows (.word "UPDATE" :: rest) := rfl

private theorem rowLevel_backfill (t_clean : Unquoted table) (c_clean : Unquoted column) :
    rowLevel ("UPDATE \"" ++ table ++ "\" SET \"" ++ column ++ "\" = 'TODO_BACKFILL' WHERE \"" ++ column ++
      "\" IS NULL") := by
  simp [rowLevel, statements, tokens_backfill t_clean c_clean, parts, partsFrom, onRows_update]

private theorem rowLevel_copy (t_clean : Unquoted table) (o_clean : Unquoted column') (n_clean : Unquoted column) :
    rowLevel ("UPDATE \"" ++ table ++ "\" SET \"" ++ column ++ "\" = \"" ++ column' ++ "\"") := by
  simp [rowLevel, statements, tokens_copy t_clean o_clean n_clean, parts, partsFrom, onRows_update]

private theorem rowLevel_cast (t_clean : Unquoted table) (n_clean : Unquoted column') (c_clean : Unquoted column)
    (nonempty : type.toList ≠ []) (all : ∀ c ∈ type.toList, isWord c) :
    rowLevel ("UPDATE \"" ++ table ++ "\" SET \"" ++ column' ++ "\" = CAST(\"" ++ column ++ "\" AS " ++ type ++
      ")") := by
  simp [rowLevel, statements, tokens_cast t_clean n_clean c_clean nonempty all, parts, partsFrom,
    Token.ofWord, onRows_update]

end Written

/-! ## The splitter -/

/-- What one operation adds to the first two phases is as it should be. -/
def Contributes (set : MigrationLifecycleSet) : Prop :=
  (∀ operation ∈ set.safe, expanding operation.sql) ∧ ∀ operation ∈ set.data, rowLevel operation.sql

section Rewrites

variable {typeMap : TypeMap} {operation : SchemaOperation}

theorem asItIs_contributes : Contributes (asItIs operation) ↔ expanding operation.sql := by
  simp [Contributes, asItIs]

private theorem rewriteNotNull_contributes :
    Contributes (rewriteNotNullViolation operation) ↔
      match readWithTable SplitPattern.addedColumn operation.sql with
      | some (_, [_, type]) => plainType (trim type)
      | _ => expanding operation.sql := by
  unfold rewriteNotNullViolation
  cases found : readWithTable SplitPattern.addedColumn operation.sql with
  | none => exact asItIs_contributes
  | some names =>
    obtain ⟨table, captures⟩ := names
    obtain ⟨t_clean, column, type, rfl, c_clean⟩ := addedColumn_sound found
    simp [Contributes, rewritten, expanding_typed (.inl rfl) (tokens_add t_clean c_clean),
      rowLevel_backfill t_clean c_clean]

private theorem rewriteRename_contributes :
    Contributes (rewriteColumnRename typeMap operation) ↔
      match readWithTable SplitPattern.renamedColumn operation.sql with
      | some (table, [oldCol, _]) => plainType (detectedType typeMap table oldCol)
      | _ => expanding operation.sql := by
  unfold rewriteColumnRename
  cases found : readWithTable SplitPattern.renamedColumn operation.sql with
  | none => exact asItIs_contributes
  | some names =>
    obtain ⟨table, captures⟩ := names
    obtain ⟨t_clean, oldCol, newCol, rfl, o_clean, n_clean⟩ := renamedColumn_sound found
    simp [Contributes, rewritten, expanding_typed (.inr rfl) (tokens_addColumn t_clean n_clean),
      rowLevel_copy t_clean o_clean n_clean]

/-- The new type is one word, so that the replacement is always safe. -/
theorem rewriteType_contributes :
    Contributes (rewriteTypeChange operation) ↔
      (readWithTable SplitPattern.retypedColumn operation.sql).isSome ∨ expanding operation.sql := by
  unfold rewriteTypeChange
  cases found : readWithTable SplitPattern.retypedColumn operation.sql with
  | none => simpa using asItIs_contributes
  | some names =>
    obtain ⟨table, captures⟩ := names
    obtain ⟨t_clean, column, newType, rfl, c_clean, nonempty, all⟩ := retypedColumn_sound found
    have temporary := unquoted_v2 c_clean
    simp [Contributes, rewritten, expanding_typed (.inr rfl) (tokens_addColumn t_clean temporary),
      plainType_word nonempty all, rowLevel_cast t_clean temporary c_clean nonempty all]

private theorem aroundIndexes_contributes (enumType word : String) :
    Contributes (aroundIndexes operation enumType word) ↔ rowLevel operation.sql := by
  have worker : expanding "DROP INDEX IF EXISTS idx_outbox_worker" := by decide
  have locked : expanding "DROP INDEX IF EXISTS idx_outbox_locked" := by decide
  simp [Contributes, aroundIndexes, rewritten, worker, locked]

private theorem rewriteEnum_contributes :
    Contributes (rewriteEnumIndexDependency operation) ↔
      if rebuildsEnum operation.sql then rowLevel operation.sql else expanding operation.sql := by
  rcases rewriteEnum_cases operation with ⟨stays, same⟩ | ⟨rebuilt, enumType, word, same⟩
  · simpa [stays, same] using asItIs_contributes
  · simpa [rebuilt, same] using aroundIndexes_contributes enumType word

private theorem place_contributes :
    Contributes (place typeMap operation) ↔ SplitsSafely typeMap operation.sql := by
  unfold place SplitsSafely
  split
  · exact rewriteNotNull_contributes
  · split
    · exact rewriteRename_contributes
    · split
      · exact rewriteType_contributes
      · split
        · exact rewriteEnum_contributes
        · cases classify operation.sql <;> simp [Contributes]

end Rewrites

/-- The phases are safe if and only if each operation of the list splits safely. -/
theorem split_safe (operations : List SchemaOperation) (typeMap : TypeMap) :
    SafePhases (split operations typeMap) ↔
      ∀ operation ∈ operations, SplitsSafely typeMap operation.sql := by
  unfold SafePhases
  have stated := @forall_split (fun phase operation =>
    (phase = .EXPAND → expanding operation.sql) ∧ (phase = .DATA → rowLevel operation.sql)) typeMap operations
  rw [stated]
  refine forall₂_congr fun operation _ => ?_
  rw [← place_contributes]
  simp [Contributes]

/-- A required column. -/
def requiredColumn : SchemaOperation where
  sql := "ALTER TABLE \"users\" ADD COLUMN \"email\" varchar NOT NULL"
  category := .SAFE
  reason := "New column (must be nullable)"

/-- A foreign key whose rows go with the rows they refer to. -/
def cascadingKey : SchemaOperation where
  sql := "ALTER TABLE \"users\" ADD CONSTRAINT \"fk\" FOREIGN KEY (\"a\") REFERENCES \"b\" (\"id\") ON DELETE CASCADE"
  category := .SAFE
  reason := "New constraint (check data first)"

/-- The first one is found, but not rewritten, and the second one is taken for a statement on rows. -/
theorem unsafe_phases :
    ¬ SafePhases (split [requiredColumn]) ∧ ¬ SafePhases (split [cascadingKey]) := by
  have expands : (split [requiredColumn]).any fun phase =>
      phase.phase = .EXPAND && phase.operations.any fun operation => !expanding operation.sql := by
    decide +kernel
  have misplaced : (split [cascadingKey]).any fun phase =>
      phase.phase = .DATA && phase.operations.any fun operation => !rowLevel operation.sql := by
    decide +kernel
  simp only [List.any_eq_true, Bool.and_eq_true, decide_eq_true_eq, Bool.not_eq_true'] at expands misplaced
  constructor
  · intro safe
    obtain ⟨phase, member, first, operation, there, contracting⟩ := expands
    simp [(safe phase member operation there).1 first] at contracting
  · intro safe
    obtain ⟨phase, member, second, operation, there, other⟩ := misplaced
    simp [(safe phase member operation there).2 second] at other

end DriverMicroServices
