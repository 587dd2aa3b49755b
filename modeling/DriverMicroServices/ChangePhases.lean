import DriverMicroServices.BuiltChanges
import DriverMicroServices.MigrationRoundTrip

/-! The phases that the splitter puts plain changes in. -/
namespace DriverMicroServices.BuiltSchema
open Texts.Regex Texts.Regex.Pattern LifecycleSplitter MigrationGenerator

namespace Change

variable {typeMap : TypeMap} {change : Change}

/-- The pairs that the detections of the splitter begin with. -/
def detected : List (String × String) :=
  [("ADD", "COLUMN"), ("RENAME", "COLUMN"), ("ALTER", "COLUMN"), ("ALTER", "TYPE"), ("CREATE", "TYPE"),
    ("DROP", "TYPE")]

/-- The pairs that make an operation additive. -/
def additive : List (String × String) := [("CREATE", "TABLE"), ("CREATE", "INDEX"), ("ADD", "COLUMN")]

/-- None of the pairs is in one of the literals. -/
def misses (pairs : List (String × String)) (literals : List String) : Bool :=
  pairs.all fun two => literals.all fun literal => !(pair two.1 two.2).test literal

/-- A statement that is none of these is put where it is classified. -/
theorem phase_classified (plain : change.Plain typeMap) (missed : misses detected change.literals) :
    phase? change.sql = match classify change.sql with
      | .SAFE => some .EXPAND
      | .DATA => some .DATA
      | _ => some .CONTRACT := by
  have listed : ∀ two ∈ detected, two ∈ commands := by decide
  have absent {two : String × String} (member : two ∈ detected) : Absent (pair two.1 two.2) change.sql.toList :=
    absent_sql plain (listed two member) (List.all_eq_true.mp missed two member)
  have unread (word second : String) {pattern : Pattern} (member : (word, second) ∈ detected)
      (begins : Begins (pair word second) pattern) : pattern.test change.sql = false :=
    test_of_absent (begins.contains.absent (absent member))
  refine phase_undetected (unread "ADD" "COLUMN" (by decide) begins_notNull)
    (unread "RENAME" "COLUMN" (by decide) begins_rename) (unread "ALTER" "COLUMN" (by decide) begins_type) ?_
  rw [isEnumIndexDependency, unread "ALTER" "TYPE" (by decide) begins_enumRename,
    unread "CREATE" "TYPE" (by decide) begins_enumCreate, unread "DROP" "TYPE" (by decide) begins_enumDrop]
  rfl

theorem spells_words (word second : String) : (pair word second).Spells (word.toList ++ ' ' :: second.toList) := by
  have last : (Pattern.text second empty).Spells (second.toList ++ []) := spells_followed_of rfl spells_nothing
  rw [List.append_nil] at last
  exact spells_followed_of rfl ⟨[' '], second.toList, rfl, spells_blank, last⟩

/-- What creates a table or an index is taken for safe unless it says `NOT NULL`. -/
theorem classify_created {sql second : String} {rest : List Char} (kind : second = "TABLE" ∨ second = "INDEX")
    (begun : sql.toList = ("CREATE".toList ++ ' ' :: second.toList) ++ rest) :
    SplitPattern.additive.test sql := by
  have plain : SplitPattern.additive.anchorless := by decide
  have spelled : SplitPattern.additive.Spells ("CREATE".toList ++ ' ' :: second.toList) := by
    rcases kind with rfl | rfl
    · exact .inl (spells_words "CREATE" "TABLE")
    · exact .inr (.inl (spells_words "CREATE" "INDEX"))
  by_contra unread
  exact absent_of_test plain (Bool.not_eq_true _ ▸ unread) [] _ rest begun spelled

theorem classify_other (plain : change.Plain typeMap) (missed : misses additive change.literals) :
    SplitPattern.additive.test change.sql = false := by
  have listed : ∀ two ∈ additive, two ∈ commands := by decide
  have absent (word second : String) (member : (word, second) ∈ additive) :
      Absent (pair word second) change.sql.toList :=
    absent_sql plain (listed _ member) (List.all_eq_true.mp missed _ member)
  have tables := absent "CREATE" "TABLE" (by decide)
  have indexes := absent "CREATE" "INDEX" (by decide)
  have columns := absent "ADD" "COLUMN" (by decide)
  exact test_of_absent (absent_either tables (absent_either indexes columns))

/-- An addition, a table or an index that is not taken for safe comes later. -/
theorem phase_created {sql : String}
    (placed : phase? sql = match classify sql with
      | .SAFE => some .EXPAND
      | .DATA => some .DATA
      | _ => some .CONTRACT) :
    (phase? sql = some .EXPAND ↔ SplitPattern.additive.test sql ∧ SplitPattern.notNull.test sql = false) ∧
      (phase? sql = some .EXPAND ∨ phase? sql = some .DATA ∨ phase? sql = some .CONTRACT) := by
  rw [placed, classify]
  cases SplitPattern.additive.test sql <;> cases SplitPattern.notNull.test sql <;>
    cases SplitPattern.rowLevel.test sql <;> simp

/-! ### Types -/

section Types

variable {table column : Identifier} {type : String}

/-- A change of type, from `ALTER COLUMN` on. -/
def typeTail (column : Identifier) (type : String) : List Char :=
  "ALTER".toList ++ ' ' :: ("COLUMN".toList ++ ' ' :: '"' :: (column.text.toList ++ '"' ::
    ' ' :: ("TYPE".toList ++ ' ' :: type.toList)))

theorem toList_changeType : (changeType table column type).sql.toList =
    quotedParts ["ALTER TABLE ", table.text] ++ '"' :: ' ' :: typeTail column type := by
  have third : " ALTER COLUMN ".toList = ' ' :: ("ALTER".toList ++ ' ' :: ("COLUMN".toList ++ [' '])) := by decide
  have last : " TYPE ".toList = ' ' :: ("TYPE".toList ++ [' ']) := by decide
  rw [toList_sql, typeTail]
  show "ALTER TABLE ".toList ++ '"' :: (table.text.toList ++ '"' :: (" ALTER COLUMN ".toList ++ '"' ::
      (column.text.toList ++ '"' :: (" TYPE " ++ type).toList))) =
    ("ALTER TABLE ".toList ++ '"' :: table.text.toList) ++ _
  rw [String.toList_append, third, last]
  simp only [List.append_assoc, List.cons_append, List.nil_append]

/-- A pattern for a change of type matches no earlier than where it is. -/
theorem search_changeType {pattern : Pattern} (begins : Begins (pair "ALTER" "COLUMN") pattern)
    (begun : ∀ before rest, pattern.ways ⟨before, '"' :: rest⟩ = [] ∧ pattern.ways ⟨before, ' ' :: rest⟩ = [])
    (named : table.Plain) :
    pattern.search (changeType table column type).sql = pattern.searchFrom (some ' ') (typeTail column type) := by
  have bare : Bare (pair "ALTER" "COLUMN") := bare_pair (by decide) (by decide)
  have literal : Absent (pair "ALTER" "COLUMN") "ALTER TABLE ".toList :=
    absent_of_test (anchorless_pair _ _) (by decide)
  have front : Absent (pair "ALTER" "COLUMN") (quotedParts ["ALTER TABLE ", table.text]) := by
    refine absent_quotedParts bare ?_
    simp only [List.forall_mem_cons]
    exact ⟨literal, absent_unspaced named.dark, List.forall_mem_nil _⟩
  obtain ⟨before, skipped⟩ := searchFrom_skip begins bare front none (' ' :: typeTail column type)
  rw [searchFrom_cons, (begun _ _).1, searchFrom_cons, (begun _ _).2] at skipped
  rw [search, toList_changeType]
  exact skipped

private theorem dot_of_dark {c : Char} (dark : isSpace c = false) : isDot c := by
  rw [isDot, Bool.not_eq_true', ← Bool.not_eq_true]
  intro ends
  rw [isLineEnd, Bool.or_eq_true, Bool.or_eq_true, Bool.or_eq_true] at ends
  rcases ends with ((newline | return') | line) | paragraph
  · rw [of_decide_eq_true newline] at dark
    exact Bool.noConfusion dark
  · rw [of_decide_eq_true return'] at dark
    exact Bool.noConfusion dark
  · simp [isSpace, of_decide_eq_true line] at dark
  · simp [isSpace, of_decide_eq_true paragraph] at dark

theorem detects_changeType (named : column.Plain) : isTypeChange (changeType table column type).sql := by
  have plain : SplitPattern.typeChange.anchorless := by decide
  have dots : (many isDot).Spells (' ' :: '"' :: (column.text.toList ++ ['"', ' '])) := by
    intro c member
    rw [List.mem_cons, List.mem_cons, List.mem_append, List.mem_cons, List.mem_singleton] at member
    rcases member with rfl | rfl | inside | rfl | rfl
    · decide
    · decide
    · exact dot_of_dark (named.dark c inside)
    · decide
    · decide
  have last : (Pattern.text "TYPE" empty).Spells ("TYPE".toList ++ []) := spells_followed_of rfl spells_nothing
  have spelled : SplitPattern.typeChange.Spells _ := spells_followed_of (rfl : "ALTER".toList.map Char.toLower = _)
    ⟨[' '], _, rfl, spells_blank, spells_followed_of (rfl : "COLUMN".toList.map Char.toLower = _) ⟨_, _, rfl, dots, last⟩⟩
  by_contra unread
  refine absent_of_test plain (Bool.not_eq_true _ ▸ unread) (quotedParts ["ALTER TABLE ", table.text] ++ ['"', ' ']) _
    (' ' :: type.toList) ?_ spelled
  rw [toList_changeType, typeTail]
  simp only [List.append_assoc, List.cons_append, List.nil_append]

theorem ways_retyped (before : Option Char) : SplitPattern.retypedColumn.ways ⟨before, typeTail column type⟩ =
    ((seq (plus isSpace) (seq (group (plus isWord)) empty)).ways ⟨some 'E', ' ' :: type.toList⟩).map
      fun way => (way.1, column.text :: way.2) := by
  have quoted : isSpace '"' = false := by decide
  rw [typeTail, SplitPattern.retypedColumn, SplitPattern.spaces, ways_words rfl (by decide), ways_blank quoted,
    ways_quoted column.nonempty column.unquoted, SplitPattern.spaces,
    @ways_blank_text "TYPE" 'T' ['Y', 'P', 'E'] rfl (by decide), ways_text, SplitPattern.spaces, String.ofList_toList]
  rfl

theorem begins_retyped : Begins (pair "ALTER" "COLUMN") SplitPattern.retypedColumn := begins_pair

/-- A type that begins with a word is read up to its end. -/
theorem reads_changeType {c : Char} {cs : List Char} (named : table.Plain) (split : type.toList = c :: cs)
    (word : isWord c) (dark : isSpace c = false) :
    ∃ newType, readWithTable SplitPattern.retypedColumn (changeType table column type).sql =
      some (table.text, [column.text, newType]) := by
  have begun : ∃ place more, stretch isWord (some c) cs = place :: more :=
    List.exists_cons_of_ne_nil (List.ne_nil_of_mem (stretch_self isWord (some c) cs))
  obtain ⟨place, more, longest⟩ := begun
  refine ⟨String.ofList (between ⟨some ' ', c :: cs⟩ place), ?_⟩
  have found : SplitPattern.retypedColumn.search (changeType table column type).sql =
      some [column.text, String.ofList (between ⟨some ' ', c :: cs⟩ place)] := by
    rw [search_changeType begins_retyped (fun _ _ => ⟨rfl, rfl⟩) named]
    refine searchFrom_here ?_
    rw [ways_retyped, split, ways_blank dark, ways_group_plus word, longest, List.flatMap_cons, ways_empty]
    rfl
  have read : SplitPattern.tableName.search (changeType table column type).sql = some [table.text] :=
    table_read named.unspaced (toList_sql _)
  rw [readWithTable, read, found]
  rfl

/-- Another type is not read. -/
theorem unread_changeType {c : Char} {cs : List Char} {typeMap : TypeMap}
    (plain : (changeType table column type).Plain typeMap) (split : type.toList = c :: cs) (other : isWord c = false)
    (dark : isSpace c = false) :
    readWithTable SplitPattern.retypedColumn (changeType table column type).sql = none := by
  obtain ⟨named, named', calm, -⟩ := plain
  have nowhere : SplitPattern.retypedColumn.ways ⟨some ' ', typeTail column type⟩ = [] := by
    rw [ways_retyped, split, ways_blank dark]
    simp [ways, plus, other]
  have later : Absent (pair "ALTER" "COLUMN") (quotedParts ["LTER COLUMN ", column.text, " TYPE " ++ type]) := by
    have listed : ("ALTER", "COLUMN") ∈ commands := by decide
    have last := absent_behind " TYPE " (mem_strict listed) (by simp) (calm.absent listed)
    refine absent_quotedParts (bare_pair (by decide) (by decide)) ?_
    simp only [List.forall_mem_cons]
    exact ⟨absent_of_test (anchorless_pair _ _) (by decide), absent_unspaced named'.dark, last,
      List.forall_mem_nil _⟩
  have tail : typeTail column type = 'A' :: quotedParts ["LTER COLUMN ", column.text, " TYPE " ++ type] := by
    have first : "LTER COLUMN ".toList = "LTER".toList ++ ' ' :: ("COLUMN".toList ++ [' ']) := by decide
    have last : " TYPE ".toList = ' ' :: ("TYPE".toList ++ [' ']) := by decide
    show "ALTER".toList ++ _ = 'A' :: ("LTER COLUMN ".toList ++ '"' :: (column.text.toList ++ '"' ::
      (" TYPE " ++ type).toList))
    rw [String.toList_append, first, last]
    simp only [List.append_assoc, List.cons_append, List.nil_append]
    rfl
  have unfound : SplitPattern.retypedColumn.search (changeType table column type).sql = none := by
    rw [search_changeType begins_retyped (fun _ _ => ⟨rfl, rfl⟩) named]
    rw [tail] at nowhere ⊢
    rw [searchFrom_cons, nowhere, searchFrom_absent (begins_retyped.contains.absent later)]
    rfl
  rw [readWithTable, unfound]
  exact Option.bind_fun_none _

end Types

/-! ### Phases -/

section Phases

variable {operation : BuiltOperation}

theorem phase_operation : phase? operation.sql = phase? operation.change.sql := congrArg phase? operation.written

theorem phase_add {table column : Identifier} {type rest : String}
    (plain : (addColumnNotNull table column type rest).Plain typeMap) :
    phase? (addColumnNotNull table column type rest).sql = some .DATA ∨
      phase? (addColumnNotNull table column type rest).sql = some .CONTRACT := by
  have missed : misses detected ["ALTER TABLE ", " ADD "] ∧ misses additive ["ALTER TABLE ", " ADD "] := by
    decide
  have other := classify_other plain missed.2
  obtain ⟨early, phases⟩ := phase_created (phase_classified plain missed.1)
  refine phases.resolve_left fun expand => ?_
  rw [other] at early
  exact Bool.noConfusion (early.mp expand).1

theorem phase_table {table : Identifier} {columns : String} (plain : (createTable table columns).Plain typeMap) :
    (phase? (createTable table columns).sql = some .EXPAND ↔ (createTable table columns).Exposed) ∧
      (phase? (createTable table columns).sql = some .EXPAND ∨ phase? (createTable table columns).sql = some .DATA ∨
        phase? (createTable table columns).sql = some .CONTRACT) := by
  have created := @classify_created (createTable table columns).sql "TABLE" (' ' :: '"' :: (table.text.toList ++ '"' ::
    (" (" ++ columns ++ ")").toList)) (.inl rfl) (by
      rw [toList_sql]
      rfl)
  have missed : misses detected ["CREATE TABLE "] := by decide
  obtain ⟨early, phases⟩ := phase_created (phase_classified plain missed)
  exact ⟨early.trans (and_iff_right created), phases⟩

theorem phase_index {unique : Bool} {index table : Identifier} {columns rest : String}
    (plain : (createIndex unique index table columns rest).Plain typeMap) :
    (phase? (createIndex unique index table columns rest).sql = some .EXPAND ↔
        (createIndex unique index table columns rest).Exposed) ∧
      (phase? (createIndex unique index table columns rest).sql = some .EXPAND ∨
        phase? (createIndex unique index table columns rest).sql = some .DATA ∨
        phase? (createIndex unique index table columns rest).sql = some .CONTRACT) := by
  cases unique with
  | true =>
    have missed : misses detected ["CREATE UNIQUE INDEX ", " ON "] ∧
        misses additive ["CREATE UNIQUE INDEX ", " ON "] := by
      decide
    have other := classify_other plain missed.2
    obtain ⟨early, phases⟩ := phase_created (phase_classified plain missed.1)
    refine ⟨⟨fun expand => ?_, fun exposed => Bool.noConfusion exposed.1⟩, phases⟩
    rw [other] at early
    exact Bool.noConfusion (early.mp expand).1
  | false =>
    have created := @classify_created (createIndex false index table columns rest).sql "INDEX" (' ' :: '"' ::
      (index.text.toList ++ '"' :: (" ON ".toList ++ '"' :: (table.text.toList ++ '"' ::
        (" (" ++ columns ++ ")" ++ rest).toList)))) (.inr rfl) (by
          rw [toList_sql]
          rfl)
    have missed : misses detected ["CREATE INDEX ", " ON "] := by decide
    obtain ⟨early, phases⟩ := phase_created (phase_classified plain missed)
    exact ⟨early.trans ((and_iff_right created).trans (and_iff_right rfl).symm), phases⟩

/-- The statements of a phase that an operation is put into. -/
def placed (typeMap : TypeMap) (operation : SchemaOperation) : Prefix → List String
  | .SAFE_ => (place typeMap operation).safe.map (·.sql)
  | .DATA_ => (place typeMap operation).data.map (·.sql)
  | .BREAKING_ => (place typeMap operation).breaking.map (·.sql)

theorem placed_expand (phase : phase? operation.sql = some .EXPAND) (type : Prefix) :
    placed typeMap operation.toSchemaOperation type = if type = .SAFE_ then [operation.sql] else [] := by
  rw [placed.eq_def, place_phase phase]
  cases type <;> rfl

theorem placed_later (phase : phase? operation.sql = some .DATA ∨ phase? operation.sql = some .CONTRACT)
    (type : Prefix) :
    ∀ sql ∈ placed typeMap operation.toSchemaOperation type, type ≠ .SAFE_ ∧ sql = operation.sql := by
  rcases phase with phase | phase <;> rw [placed.eq_def, place_phase phase] <;>
    cases type <;> simp [asItIsIn]

variable {table column oldCol newCol : Identifier}

theorem placed_renameColumn (same : operation.change = renameColumn table oldCol newCol)
    (plain : operation.change.Plain typeMap) (type : Prefix) :
    placed typeMap operation.toSchemaOperation type = match type with
      | .SAFE_ => ["ALTER TABLE \"" ++ table.text ++ "\" ADD COLUMN \"" ++ newCol.text ++ "\" " ++
          detectedType typeMap table.text oldCol.text]
      | .DATA_ => ["UPDATE \"" ++ table.text ++ "\" SET \"" ++ newCol.text ++ "\" = \"" ++ oldCol.text ++ "\""]
      | .BREAKING_ => ["ALTER TABLE \"" ++ table.text ++ "\" DROP COLUMN \"" ++ oldCol.text ++ "\""] := by
  rw [same] at plain
  obtain ⟨named, named', named'', -⟩ := plain
  have text : operation.sql = (ColumnOp.renameColumn oldCol.text newCol.text).sql table.text := by
    rw [operation.written, same]
    exact String.toList_injective ((toList_sql _).trans toList_rename.symm)
  have read : renames? operation.sql = some (table.text, [oldCol.text, newCol.text]) := by
    rw [text]
    exact renames_read named.unspaced named'.unspaced named''.unspaced
  obtain ⟨splits, found⟩ := @place_renames operation.toSchemaOperation _ _ typeMap read
  rw [placed.eq_def, splits, rewriteColumnRename, found]
  cases type <;> rfl

theorem unread_before {type : String} (plain : (changeType table column type).Plain typeMap) :
    isNotNullViolation (changeType table column type).sql = false ∧
      isColumnRename (changeType table column type).sql = false := by
  have missed : misses [("ADD", "COLUMN"), ("RENAME", "COLUMN")] ["ALTER TABLE ", " ALTER COLUMN "] := by
    decide
  have listed : ("ADD", "COLUMN") ∈ commands ∧ ("RENAME", "COLUMN") ∈ commands := by decide
  have added := absent_sql plain listed.1 (List.all_eq_true.mp missed _ (by simp))
  have renamed := absent_sql plain listed.2 (List.all_eq_true.mp missed _ (by simp))
  exact ⟨test_of_absent (begins_notNull.contains.absent added), test_of_absent (begins_rename.contains.absent renamed)⟩

/-- A change of type that is read is rewritten with a word for the type. -/
theorem placed_changeType {type : String} (same : operation.change = changeType table column type)
    (plain : operation.change.Plain typeMap) (hidden : ¬ operation.change.Exposed) :
    ∃ newType : String, (∀ c ∈ newType.toList, isWord c) ∧ ∀ type : Prefix,
      placed typeMap operation.toSchemaOperation type = match type with
        | .SAFE_ => ["ALTER TABLE \"" ++ table.text ++ "\" ADD COLUMN \"" ++ (column.text ++ "_v2") ++ "\" " ++
            newType]
        | .DATA_ => ["UPDATE \"" ++ table.text ++ "\" SET \"" ++ (column.text ++ "_v2") ++ "\" = CAST(\"" ++
            column.text ++ "\" AS " ++ newType ++ ")"]
        | .BREAKING_ => ["ALTER TABLE \"" ++ table.text ++ "\" DROP COLUMN \"" ++ column.text ++ "\"",
            "ALTER TABLE \"" ++ table.text ++ "\" RENAME COLUMN \"" ++ (column.text ++ "_v2") ++ "\" TO \"" ++
              column.text ++ "\""] := by
  have text : operation.sql = (changeType table column type).sql := same ▸ operation.written
  rw [same] at plain hidden
  obtain ⟨added, renamed⟩ := unread_before plain
  obtain ⟨named, named', -, dark⟩ := plain
  have begun : type.toList.head?.any isWord := not_not.mp hidden
  obtain ⟨c, head, word⟩ := (Option.any_eq_true _ _).mp begun
  obtain ⟨cs, split⟩ := List.head?_eq_some_iff.mp head
  rw [head, Option.any_some, Bool.not_eq_true'] at dark
  obtain ⟨newType, read⟩ := @reads_changeType table column type c cs named split word dark
  have retyped : retypes? operation.sql = some (table.text, [column.text, newType]) := by
    rw [text, retypes?, added, renamed, detects_changeType named']
    exact read
  obtain ⟨splits, found⟩ := @place_retypes operation.toSchemaOperation _ _ typeMap retyped
  obtain ⟨-, column', newType', captured, -, -, all⟩ := retypedColumn_sound found
  obtain rfl : newType = newType' := (List.cons.inj (List.cons.inj captured).2).1
  refine ⟨newType, all, fun type => ?_⟩
  rw [placed.eq_def, splits, rewriteTypeChange, found]
  cases type <;> rfl

/-- A change whose type is not read is left as it is. -/
theorem phase_changeType {type : String} (plain : (changeType table column type).Plain typeMap)
    (exposed : (changeType table column type).Exposed) :
    phase? (changeType table column type).sql = some .EXPAND := by
  obtain ⟨added, renamed⟩ := unread_before plain
  obtain ⟨named, named', calm, dark⟩ := plain
  obtain ⟨c, head, solid⟩ := (Option.any_eq_true _ _).mp dark
  obtain ⟨cs, split⟩ := List.head?_eq_some_iff.mp head
  have other : isWord c = false := by
    have unread : ¬ type.toList.head?.any isWord := exposed
    rw [head, Option.any_some] at unread
    exact Bool.not_eq_true _ ▸ unread
  rw [Bool.not_eq_true'] at solid
  have unread := @unread_changeType table column type c cs typeMap ⟨named, named', calm, dark⟩ split other solid
  rw [phase?, added, renamed, detects_changeType named', unread]
  rfl

end Phases

end Change

end DriverMicroServices.BuiltSchema
