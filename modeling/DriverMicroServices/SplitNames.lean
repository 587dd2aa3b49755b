import DriverMicroServices.SplitMeaning
import DriverMicroServices.Texts.Search

/-! Names without white space are read as they are: a column may be called after a keyword, and
the splitter still finds the statements that drop, rename and require it. -/
namespace DriverMicroServices
open Texts.Regex Texts.Regex.Pattern Texts.Tokens LifecycleSplitter

/-- A name that the quotes hold as it is, with no white space in it. -/
structure Unspaced (name : String) : Prop where
  nonempty : name.toList ≠ []
  clean : Unquoted name
  unspaced : ∀ c ∈ name.toList, isSpace c = false

/-! ## What the patterns look for -/

section Patterns

theorem begins_notNull : Begins (pair "ADD" "COLUMN") SplitPattern.notNullViolation := begins_pair

theorem begins_rename : Begins (pair "RENAME" "COLUMN") SplitPattern.columnRename := begins_pair

theorem begins_renamed : Begins (pair "RENAME" "COLUMN") SplitPattern.renamedColumn := begins_pair

theorem begins_type : Begins (pair "ALTER" "COLUMN") SplitPattern.typeChange := begins_pair

theorem begins_enumRename : Begins (pair "ALTER" "TYPE") SplitPattern.enumRename := begins_pair

theorem begins_enumCreate : Begins (pair "CREATE" "TYPE") SplitPattern.enumCreate := begins_pair

theorem begins_enumDrop : Begins (pair "DROP" "TYPE") SplitPattern.enumDrop := begins_pair

end Patterns

section Parts

variable {word second sql : String} {literals parts : List String} {pattern : Pattern}

theorem Unspaced.unread {name : String} (unspaced : Unspaced name) : (pair word second).test name = false :=
  congrArg Option.isSome (searchFrom_absent (absent_unspaced unspaced.unspaced) none)

/-- The words are without quotes, and not in the literal parts. -/
def missing (word second : String) (literals : List String) : Bool :=
  '"' ∉ word.toList.map Char.toLower && '"' ∉ second.toList.map Char.toLower &&
    literals.all fun literal => !(pair word second).test literal

theorem missing_bare (missed : missing word second literals) : Bare (pair word second) := by
  simp only [missing, Bool.and_eq_true, decide_eq_true_eq] at missed
  exact bare_pair missed.1.1 missed.1.2

theorem absent_written (missed : missing word second literals)
    (written : ∀ part ∈ parts, part ∈ literals ∨ Unspaced part) :
    Absent (pair word second) (quotedParts parts) := by
  refine absent_parts (missing_bare missed) fun part member => ?_
  simp only [missing, Bool.and_eq_true, List.all_eq_true, Bool.not_eq_true'] at missed
  rcases written part member with literal | unspaced
  · exact missed.2 part literal
  · exact unspaced.unread

/-- A pattern that looks for the two words is not found. -/
theorem search_written (contains : Contains (pair word second) pattern) (missed : missing word second literals)
    (text : sql.toList = quotedParts parts) (written : ∀ part ∈ parts, part ∈ literals ∨ Unspaced part) :
    pattern.search sql = none := by
  have absent := contains.absent (absent_written missed written)
  rw [← text] at absent
  exact searchFrom_absent absent none

theorem test_written (begins : Begins (pair word second) pattern) (missed : missing word second literals)
    (text : sql.toList = quotedParts parts) (written : ∀ part ∈ parts, part ∈ literals ∨ Unspaced part) :
    pattern.test sql = false :=
  congrArg Option.isSome (search_written begins.contains missed text written)

end Parts

/-! ## The operations -/

section Operations

variable {table column oldCol newCol sql : String}

/-- A statement that no pattern of the splitter detects. -/
theorem phase_undetected (required : isNotNullViolation sql = false) (renamed : isColumnRename sql = false)
    (retyped : isTypeChange sql = false) (enum : isEnumIndexDependency sql = false) :
    phase? sql =
      match classify sql with
      | .SAFE => some .EXPAND
      | .DATA => some .DATA
      | _ => some .CONTRACT := by
  rw [phase?, required, renamed, retyped, enum]
  rfl

theorem toList_drop : ((ColumnOp.dropColumn column).sql table).toList =
    quotedParts ["ALTER TABLE ", table, " DROP COLUMN ", column, ""] := by
  show ("ALTER TABLE \"" ++ table ++ "\" DROP COLUMN \"" ++ column ++ "\"").toList = _
  simp [quotedParts]

theorem toList_rename : ((ColumnOp.renameColumn oldCol newCol).sql table).toList =
    quotedParts ["ALTER TABLE ", table, " RENAME COLUMN ", oldCol, " TO ", newCol, ""] := by
  show ("ALTER TABLE \"" ++ table ++ "\" RENAME COLUMN \"" ++ oldCol ++ "\" TO \"" ++ newCol ++ "\"").toList = _
  simp [quotedParts]

/-- The table that the splitter reads from a statement. -/
theorem table_read {rest : List Char} (t_clean : Unspaced table)
    (text : sql.toList = "ALTER TABLE ".toList ++ '"' :: (table.toList ++ '"' :: rest)) :
    SplitPattern.tableName.search sql = some [table] := by
  have quoted : isSpace '"' = false := by decide
  have spelled : sql.toList =
      "ALTER".toList ++ ' ' :: ("TABLE".toList ++ ' ' :: '"' :: (table.toList ++ '"' :: rest)) := text
  refine searchFrom_here ?_
  rw [SplitPattern.tableName, SplitPattern.spaces, spelled, ways_words rfl (by decide), ways_blank quoted,
    ways_quoted t_clean.nonempty t_clean.clean, ways_empty]
  simp

/-- From `RENAME` on. -/
def renameTail (oldCol newCol : String) : List Char :=
  "RENAME".toList ++ ' ' :: ("COLUMN".toList ++ ' ' :: '"' :: (oldCol.toList ++ '"' ::
    ' ' :: ("TO".toList ++ ' ' :: '"' :: (newCol.toList ++ '"' :: []))))

theorem renameTail_eq : renameTail oldCol newCol =
    "RENAME".toList ++ ' ' :: ("COLUMN".toList ++ ' ' :: '"' :: (oldCol.toList ++ '"' ::
      ' ' :: ("TO".toList ++ ' ' :: '"' :: (newCol.toList ++ '"' :: [])))) := rfl

/-- A pattern for a rename matches no earlier than where the rename is. -/
theorem search_rename {pattern : Pattern} (begins : Begins (pair "RENAME" "COLUMN") pattern)
    (begun : ∀ before rest, pattern.ways ⟨before, '"' :: rest⟩ = [] ∧ pattern.ways ⟨before, ' ' :: rest⟩ = [])
    (t_clean : Unspaced table) :
    pattern.search ((ColumnOp.renameColumn oldCol newCol).sql table) =
      pattern.searchFrom (some ' ') (renameTail oldCol newCol) := by
  have missed : missing "RENAME" "COLUMN" ["ALTER TABLE "] := by decide
  have written : ∀ part ∈ ["ALTER TABLE ", table], part ∈ ["ALTER TABLE "] ∨ Unspaced part := by
    simp [t_clean]
  obtain ⟨before, skipped⟩ := searchFrom_skip begins (missing_bare missed) (absent_written missed written) none
    (' ' :: renameTail oldCol newCol)
  rw [searchFrom_cons, (begun _ _).1, searchFrom_cons, (begun _ _).2] at skipped
  have third : " RENAME COLUMN ".toList = ' ' :: ("RENAME".toList ++ ' ' :: ("COLUMN".toList ++ [' '])) := by
    decide
  have fifth : " TO ".toList = ' ' :: ("TO".toList ++ [' ']) := by decide
  have joined (start first second target : List Char) :
      start ++ '"' :: (table.toList ++ '"' :: (' ' :: (first ++ ' ' :: (second ++ [' '])) ++ '"' ::
        (oldCol.toList ++ '"' :: (' ' :: (target ++ [' ']) ++ '"' :: (newCol.toList ++ '"' :: []))))) =
      (start ++ '"' :: table.toList) ++ '"' :: ' ' :: (first ++ ' ' :: (second ++ ' ' :: '"' :: (oldCol.toList ++
        '"' :: ' ' :: (target ++ ' ' :: '"' :: (newCol.toList ++ '"' :: []))))) := by
    simp only [List.append_assoc, List.cons_append, List.nil_append]
  have text : ((ColumnOp.renameColumn oldCol newCol).sql table).toList =
      quotedParts ["ALTER TABLE ", table] ++ '"' :: ' ' :: renameTail oldCol newCol :=
    (toList_rename.trans (congrArg₂ (fun rename target => "ALTER TABLE ".toList ++ '"' :: (table.toList ++ '"' ::
      (rename ++ '"' :: (oldCol.toList ++ '"' :: (target ++ '"' :: (newCol.toList ++ '"' :: []))))))
      third fifth)).trans (joined ..)
  rw [search, text]
  exact skipped

/-- `RENAME COLUMN` is read with its names. -/
theorem renames_read (t_clean : Unspaced table) (o_clean : Unspaced oldCol) (n_clean : Unspaced newCol) :
    renames? ((ColumnOp.renameColumn oldCol newCol).sql table) = some (table, [oldCol, newCol]) := by
  have written : ∀ part ∈ ["ALTER TABLE ", table, " RENAME COLUMN ", oldCol, " TO ", newCol, ""],
      part ∈ ["ALTER TABLE ", " RENAME COLUMN ", " TO ", ""] ∨ Unspaced part := by
    simp [t_clean, o_clean, n_clean]
  have required : isNotNullViolation _ = false :=
    test_written begins_notNull (by decide) toList_rename written
  have quoted : isSpace '"' = false := by decide
  have detected : SplitPattern.columnRename.search ((ColumnOp.renameColumn oldCol newCol).sql table) = some [] := by
    rw [search_rename begins_rename (fun _ _ => ⟨rfl, rfl⟩) t_clean]
    refine searchFrom_here ?_
    rw [renameTail_eq, SplitPattern.columnRename, ways_words rfl (by decide), ways_empty]
    rfl
  have read : SplitPattern.renamedColumn.search ((ColumnOp.renameColumn oldCol newCol).sql table) =
      some [oldCol, newCol] := by
    rw [search_rename begins_renamed (fun _ _ => ⟨rfl, rfl⟩) t_clean]
    refine searchFrom_here ?_
    rw [renameTail_eq, SplitPattern.renamedColumn, SplitPattern.spaces, ways_words rfl (by decide), ways_blank quoted,
      ways_quoted o_clean.nonempty o_clean.clean, SplitPattern.spaces, @ways_blank_text "TO" 'T' ['O'] rfl (by decide),
      ways_text, SplitPattern.spaces, ways_blank quoted, ways_quoted n_clean.nonempty n_clean.clean, ways_empty]
    simp
  rw [renames?, required, isColumnRename, test, detected, readWithTable, table_read t_clean toList_rename, read]
  rfl

end Operations

end DriverMicroServices
