import DriverMicroServices.LifecycleSplit
import DriverMicroServices.Texts.Tokens

/-! The names that the splitter reads from a statement, and the tokens of the statements that
it writes with them. -/
namespace DriverMicroServices
open Texts.Regex Texts.Regex.Pattern Texts.Tokens LifecycleSplitter

/-- What a pair of quotes may hold. -/
def Unquoted (name : String) : Prop := '"' ∉ name.toList

instance (name : String) : Decidable (Unquoted name) := inferInstanceAs (Decidable (_ ∉ _))

theorem unquoted_v2 {column : String} (clean : Unquoted column) : Unquoted (column ++ "_v2") := by
  unfold Unquoted
  rw [String.toList_append, List.mem_append, not_or]
  exact ⟨clean, by decide⟩

/-! ## What is read -/

section Read

variable {sql table : String} {captures : List String} {pattern : Pattern}

theorem readWithTable_sound (found : readWithTable pattern sql = some (table, captures)) :
    Unquoted table ∧ pattern.Captures captures := by
  obtain ⟨tables, named, found⟩ := Option.bind_eq_some_iff.mp found
  obtain ⟨texts, searched, same⟩ := Option.map_eq_some_iff.mp found
  obtain ⟨rfl, rfl⟩ := Prod.mk.inj same
  have parsed := search_sound named
  simp only [SplitPattern.tableName, SplitPattern.spaces, captures_words, captures_plus,
    captures_quoted] at parsed
  obtain ⟨name, rest, rfl, clean, -⟩ := parsed
  exact ⟨clean.2, search_sound searched⟩

theorem addedColumn_sound (found : readWithTable SplitPattern.addedColumn sql = some (table, captures)) :
    Unquoted table ∧ ∃ column type, captures = [column, type] ∧ Unquoted column := by
  obtain ⟨clean, parsed⟩ := readWithTable_sound found
  simp only [SplitPattern.addedColumn, SplitPattern.spaces, captures_text, captures_plus,
    captures_quoted] at parsed
  obtain ⟨column, rest, rfl, named, early, late, rfl, ⟨type, none, rfl, -, silent⟩, ends⟩ := parsed
  have nothing : none = [] := by
    obtain ⟨a, b, rfl, rfl, rfl⟩ := silent
    rfl
  have last : late = [] := by
    rcases ends with ends | rfl
    · simpa [captures_words] using ends
    · rfl
  exact ⟨clean, column, type, by simp [nothing, last], named.2⟩

theorem renamedColumn_sound (found : readWithTable SplitPattern.renamedColumn sql = some (table, captures)) :
    Unquoted table ∧ ∃ oldCol newCol, captures = [oldCol, newCol] ∧ Unquoted oldCol ∧ Unquoted newCol := by
  obtain ⟨clean, parsed⟩ := readWithTable_sound found
  simp only [SplitPattern.renamedColumn, SplitPattern.spaces, captures_words, captures_text, captures_plus,
    captures_quoted, captures_empty] at parsed
  obtain ⟨oldCol, rest, rfl, old, newCol, rest, rfl, new, rfl⟩ := parsed
  exact ⟨clean, oldCol, newCol, rfl, old.2, new.2⟩

theorem retypedColumn_sound (found : readWithTable SplitPattern.retypedColumn sql = some (table, captures)) :
    Unquoted table ∧ ∃ column newType, captures = [column, newType] ∧ Unquoted column ∧
      newType.toList ≠ [] ∧ ∀ c ∈ newType.toList, isWord c := by
  obtain ⟨clean, parsed⟩ := readWithTable_sound found
  simp only [SplitPattern.retypedColumn, SplitPattern.spaces, captures_words, captures_text, captures_plus,
    captures_quoted, captures_group_plus, captures_empty] at parsed
  obtain ⟨column, rest, rfl, named, newType, rest, rfl, typed, rfl⟩ := parsed
  exact ⟨clean, column, newType, rfl, named.2, typed⟩

theorem enumType_sound (found : SplitPattern.enumType.search sql = some captures) :
    ∃ enumType, captures = [enumType] := by
  have parsed := search_sound found
  obtain ⟨early, late, rfl, ⟨enumType, rest, rfl, -, silent⟩, rfl⟩ := parsed
  have nothing : rest = [] := by
    simp only [SplitPattern.outboxEnum, captures_text] at silent
    obtain ⟨a, b, rfl, either, last⟩ := silent
    simp only [captures_text, captures_empty] at last
    rcases either with either | either <;> simp only [captures_text, captures_empty] at either <;>
      simp [either, last]
  exact ⟨enumType, by simp [nothing]⟩

/-- An operation on an outbox enum stays as it is, or is put between the index operations. -/
theorem rewriteEnum_cases (operation : SchemaOperation) :
    rebuildsEnum operation.sql = false ∧ rewriteEnumIndexDependency operation = asItIs operation ∨
      rebuildsEnum operation.sql = true ∧
        ∃ enumType word, rewriteEnumIndexDependency operation = aroundIndexes operation enumType word := by
  unfold rewriteEnumIndexDependency rebuildsEnum
  cases found : SplitPattern.enumType.search operation.sql with
  | none => exact .inl ⟨rfl, rfl⟩
  | some captures =>
    obtain ⟨enumType, rfl⟩ := enumType_sound found
    cases SplitPattern.renamesOld.test operation.sql with
    | true => exact .inr ⟨rfl, enumType, "rename", rfl⟩
    | false =>
      cases SplitPattern.createsEnum.test operation.sql with
      | true => exact .inr ⟨rfl, enumType, "create", rfl⟩
      | false =>
        cases SplitPattern.dropsOld.test operation.sql with
        | true => exact .inr ⟨rfl, enumType, "drop", rfl⟩
        | false => exact .inl ⟨rfl, rfl⟩

end Read

/-! ## What is written -/

section Written

variable {table column oldCol newCol type : String}

/-- A text of word characters is one word. -/
theorem scan_type (nonempty : type.toList ≠ []) (all : ∀ c ∈ type.toList, isWord c) :
    scan .plain type.toList = ([], .word type.toList.reverse) := by
  have wider (c : Char) (word : isWord c) : isWordChar c := by
    unfold isWord at word
    unfold isWordChar
    simp only [Bool.or_eq_true] at word ⊢
    exact .inl (.inl word)
  obtain ⟨c, cs, split⟩ := List.exists_cons_of_ne_nil nonempty
  rw [split] at all ⊢
  obtain ⟨here, later⟩ := List.forall_mem_cons.mp all
  have begun : start c = ([], .word [c]) := by
    have quote : c ≠ '"' := by rintro rfl; exact absurd here (by decide)
    have tick : c ≠ '\'' := by rintro rfl; exact absurd here (by decide)
    have dash : c ≠ '-' := by rintro rfl; exact absurd here (by decide)
    have slash : c ≠ '/' := by rintro rfl; exact absurd here (by decide)
    have dollar : c ≠ '$' := by rintro rfl; exact absurd here (by decide)
    simp [start, quote, tick, dash, slash, dollar, wider c here]
  simp [scan, Mode.step, begun, scan_word fun d member => wider d (later d member)]

theorem tokens_type (nonempty : type.toList ≠ []) (all : ∀ c ∈ type.toList, isWord c) :
    tokens type = [.ofWord type.toList.reverse] := by
  have whole := lex_append .plain type.toList []
  rw [List.append_nil, scan_type nonempty all] at whole
  exact whole

theorem lexes_alterTable : Lexes .plain "ALTER TABLE \"" [.word "ALTER", .word "TABLE"] (.name []) := .of_scan rfl

theorem lexes_update : Lexes .plain "UPDATE \"" [.word "UPDATE"] (.name []) := .of_scan rfl

theorem tokens_addColumn (t_clean : Unquoted table) (c_clean : Unquoted column) :
    tokens ("ALTER TABLE \"" ++ table ++ "\" ADD COLUMN \"" ++ column ++ "\" " ++ type) =
      [.word "ALTER", .word "TABLE", .name table, .word "ADD", .word "COLUMN", .name column] ++
        tokens type :=
  ((lexes_alterTable.quoted t_clean "\" ADD COLUMN \"" rfl).quoted c_clean "\" " rfl).tokens_append type

theorem tokens_add (t_clean : Unquoted table) (c_clean : Unquoted column) :
    tokens ("ALTER TABLE \"" ++ table ++ "\" ADD \"" ++ column ++ "\" " ++ type) =
      [.word "ALTER", .word "TABLE", .name table, .word "ADD", .name column] ++ tokens type :=
  ((lexes_alterTable.quoted t_clean "\" ADD \"" rfl).quoted c_clean "\" " rfl).tokens_append type

theorem tokens_backfill (t_clean : Unquoted table) (c_clean : Unquoted column) :
    tokens ("UPDATE \"" ++ table ++ "\" SET \"" ++ column ++ "\" = 'TODO_BACKFILL' WHERE \"" ++ column ++
        "\" IS NULL") =
      [.word "UPDATE", .name table, .word "SET", .name column, .symbol '=', .literal, .word "WHERE",
        .name column, .word "IS", .word "NULL"] :=
  (((lexes_update.quoted t_clean "\" SET \"" rfl).quoted c_clean "\" = 'TODO_BACKFILL' WHERE \"" rfl).quoted
    c_clean "\" IS NULL" rfl).tokens_eq

theorem tokens_copy (t_clean : Unquoted table) (o_clean : Unquoted oldCol) (n_clean : Unquoted newCol) :
    tokens ("UPDATE \"" ++ table ++ "\" SET \"" ++ newCol ++ "\" = \"" ++ oldCol ++ "\"") =
      [.word "UPDATE", .name table, .word "SET", .name newCol, .symbol '=', .name oldCol] :=
  ((lexes_update.quoted t_clean "\" SET \"" rfl).quoted n_clean "\" = \"" rfl).tokens_closed o_clean

theorem tokens_cast (t_clean : Unquoted table) (n_clean : Unquoted newCol) (c_clean : Unquoted column)
    (nonempty : type.toList ≠ []) (all : ∀ c ∈ type.toList, isWord c) :
    tokens ("UPDATE \"" ++ table ++ "\" SET \"" ++ newCol ++ "\" = CAST(\"" ++ column ++ "\" AS " ++ type ++
        ")") =
      [.word "UPDATE", .name table, .word "SET", .name newCol, .symbol '=', .word "CAST", .symbol '(',
        .name column, .word "AS", .ofWord type.toList.reverse, .symbol ')'] :=
  ((((lexes_update.quoted t_clean "\" SET \"" rfl).quoted n_clean "\" = CAST(\"" rfl).quoted c_clean "\" AS "
    rfl).append (.of_scan (scan_type nonempty all))).tokens_append ")"

theorem tokens_setNotNull (t_clean : Unquoted table) (c_clean : Unquoted column) :
    tokens ("ALTER TABLE \"" ++ table ++ "\" ALTER COLUMN \"" ++ column ++ "\" SET NOT NULL") =
      [.word "ALTER", .word "TABLE", .name table, .word "ALTER", .word "COLUMN", .name column, .word "SET",
        .word "NOT", .word "NULL"] :=
  ((lexes_alterTable.quoted t_clean "\" ALTER COLUMN \"" rfl).quoted c_clean "\" SET NOT NULL" rfl).tokens_eq

theorem tokens_dropColumn (t_clean : Unquoted table) (c_clean : Unquoted column) :
    tokens ("ALTER TABLE \"" ++ table ++ "\" DROP COLUMN \"" ++ column ++ "\"") =
      [.word "ALTER", .word "TABLE", .name table, .word "DROP", .word "COLUMN", .name column] :=
  (lexes_alterTable.quoted t_clean "\" DROP COLUMN \"" rfl).tokens_closed c_clean

theorem tokens_renameColumn (t_clean : Unquoted table) (o_clean : Unquoted oldCol) (n_clean : Unquoted newCol) :
    tokens ("ALTER TABLE \"" ++ table ++ "\" RENAME COLUMN \"" ++ oldCol ++ "\" TO \"" ++ newCol ++ "\"") =
      [.word "ALTER", .word "TABLE", .name table, .word "RENAME", .word "COLUMN", .name oldCol, .word "TO",
        .name newCol] :=
  ((lexes_alterTable.quoted t_clean "\" RENAME COLUMN \"" rfl).quoted o_clean "\" TO \"" rfl).tokens_closed
    n_clean

end Written

end DriverMicroServices
