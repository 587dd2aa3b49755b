import DriverMicroServices.PolicyRules
import DriverMicroServices.Texts.Phrases
import DriverMicroServices.Texts.Tokens

/-! The rule on conflicts between two statements. What it takes for the column of a statement is
the last word on the line, which as a rule belongs to the type. -/
namespace DriverMicroServices.Policy.OperationalRules
open Texts Texts.Tokens Texts.Regex Texts.Regex.Pattern CompatibilityRules

/-! ## What statements do to columns -/

inductive ColumnAction where
  | add
  | drop
  | alter
deriving DecidableEq

/-- What a change of a table does to which column. -/
def columnChange : List Token → Option (ColumnAction × String)
  | .word "ADD" :: rest =>
    if ["CONSTRAINT", "PRIMARY", "UNIQUE", "FOREIGN", "CHECK", "EXCLUDE"].any fun kind => begins [kind] rest then none
    else (readName (skip ["IF", "NOT", "EXISTS"] (skip ["COLUMN"] rest))).map fun named => (.add, named.1)
  | .word "DROP" :: rest =>
    if begins ["CONSTRAINT"] rest then none
    else (readName (skip ["IF", "EXISTS"] (skip ["COLUMN"] rest))).map fun named => (.drop, named.1)
  | .word "ALTER" :: rest =>
    if begins ["CONSTRAINT"] rest then none
    else (readName (skip ["COLUMN"] rest)).map fun named => (.alter, named.1)
  | _ => none

/-- The statement does this to the column of the table. -/
def Does (action : ColumnAction) (table column sql : String) : Prop :=
  ∃ changes, alterTable (tokens sql) = some (table, changes) ∧ (action, column) ∈ changes.filterMap columnChange

/-- One statement adds the column and the other one drops it, or both alter it. -/
def Clash (op1 op2 : String) : Prop :=
  ∃ table column, Does .add table column op1 ∧ Does .drop table column op2 ∨
    Does .drop table column op1 ∧ Does .add table column op2 ∨
    Does .alter table column op1 ∧ Does .alter table column op2

/-- The table that a statement is on. -/
def statementTable (sql : String) : Option String :=
  match tokens sql with
  | .word "DROP" :: .word "FOREIGN" :: .word "TABLE" :: rest
  | .word "DROP" :: .word "TABLE" :: rest => (readName (skip ["IF", "EXISTS"] rest)).map Prod.fst
  | .word "INSERT" :: .word "INTO" :: rest => (readName rest).map Prod.fst
  | .word "UPDATE" :: rest => (readName (skip ["ONLY"] rest)).map Prod.fst
  | .word "DELETE" :: .word "FROM" :: rest => (readName (skip ["ONLY"] rest)).map Prod.fst
  | statement => ((createTable statement).map Prod.fst).or ((alterTable statement).map Prod.fst)

def Apart (op1 op2 : String) : Prop :=
  ∃ table1 table2, statementTable op1 = some table1 ∧ statementTable op2 = some table2 ∧ table1 ≠ table2

def Reported (op1 op2 : String) : Prop := checkOperationConflicts ⟨[op1, op2]⟩ ≠ []

/-- A clash is reported in either order, and nothing is for two tables. -/
structure Detected (op1 op2 : String) : Prop where
  complete : Clash op1 op2 → Reported op1 op2 ∧ Reported op2 op1
  apart : Apart op1 op2 → ¬ Reported op1 op2 ∧ ¬ Reported op2 op1

/-! ## What is compared -/

section Columns

variable {op1 op2 action1 action2 : String}

/-- The last word behind the one action stands behind the other one. -/
def Repeats (action1 action2 op1 op2 : String) : Prop :=
  ∃ last, lastBehind action1 "COLUMN" op1 = some last ∧
    ∃ found ∈ wordsBehind action2 "COLUMN" op2, found.map Char.toLower = last.map Char.toLower

private theorem hasColumnConflict_iff :
    hasColumnConflict op1 op2 action1 action2 ↔ Repeats action1 action2 op1 op2 := by
  unfold hasColumnConflict Repeats lastWord columnNamed
  rw [search_lastWord (by decide)]
  cases found : lastBehind action1 "COLUMN" op1 with
  | none => simp
  | some last =>
    obtain ⟨nonempty, word⟩ := lastBehind_word found
    dsimp only [Option.map_some, List.headD_cons]
    rw [test_named (by decide) (by simpa using nonempty) (by simpa using word), String.toList_ofList]
    simp

/-- One statement adds a constraint and the other one drops one. -/
def ConstraintConflict (op1 op2 : String) : Prop :=
  phrased ["ADD", "CONSTRAINT"] op1 ∧ phrased ["DROP", "CONSTRAINT"] op2 ∨
    phrased ["DROP", "CONSTRAINT"] op1 ∧ phrased ["ADD", "CONSTRAINT"] op2

/-- The same table is read from both statements, and the last word behind `ADD COLUMN` or
`ALTER COLUMN` of the one stands behind `DROP COLUMN` or `ALTER COLUMN` of the other one. -/
structure Alike (op1 op2 : String) : Prop where
  table : ∃ table, extractTableName op1 = some table ∧ extractTableName op2 = some table
  word : Repeats "ADD" "DROP" op1 op2 ∨ Repeats "ADD" "DROP" op2 op1 ∨ Repeats "ALTER" "ALTER" op1 op2 ∨
    ConstraintConflict op1 op2

private theorem isConflictingOperations_iff : isConflictingOperations op1 op2 ↔ Alike op1 op2 := by
  have tables : Alike op1 op2 ↔ (∃ table, extractTableName op1 = some table ∧ extractTableName op2 = some table) ∧
      (Repeats "ADD" "DROP" op1 op2 ∨ Repeats "ADD" "DROP" op2 op1 ∨ Repeats "ALTER" "ALTER" op1 op2 ∨
        ConstraintConflict op1 op2) :=
    ⟨fun alike => ⟨alike.table, alike.word⟩, fun both => ⟨both.1, both.2⟩⟩
  rw [tables]
  simp only [← hasColumnConflict_iff, ConstraintConflict]
  unfold isConflictingOperations hasSameColumnAlter
  cases extractTableName op1 with
  | none => simp
  | some table1 =>
    cases extractTableName op2 with
    | none => simp
    | some table2 =>
      simp only [Bool.and_eq_true, Bool.or_eq_true, decide_eq_true_eq, or_assoc, Option.some.injEq, exists_eq_left']
      rw [eq_comm]

theorem reported_iff : Reported op1 op2 ↔ Alike op1 op2 := by
  rw [← isConflictingOperations_iff]
  unfold Reported checkOperationConflicts
  cases found : isConflictingOperations op1 op2 <;> simp [pairs, found]

end Columns

/-- A clash is detected just when both statements have the same readable table and the one repeats
the last word of the other, and statements on two tables pass just when they do not. -/
theorem detected_iff (op1 op2 : String) :
    Detected op1 op2 ↔
      (Clash op1 op2 → Alike op1 op2 ∧ Alike op2 op1) ∧ (Apart op1 op2 → ¬ Alike op1 op2 ∧ ¬ Alike op2 op1) := by
  constructor
  · intro detected
    simp only [← reported_iff]
    exact ⟨detected.complete, detected.apart⟩
  · intro alike
    simp only [← reported_iff] at alike
    exact ⟨alike.1, alike.2⟩

section Examples

theorem name_users : Token.name? (.word "USERS") = some "users" := by
  rw [Token.name?, Option.some_inj]
  apply String.toList_injective
  rw [String.toList_map]
  decide

private theorem adds_nickname : Does .add "users" "nickname" "ALTER TABLE users ADD COLUMN \"nickname\" text" := by
  refine ⟨[[.word "ADD", .word "COLUMN", .name "nickname", .word "TEXT"]], ?_, by decide⟩
  have read : tokens "ALTER TABLE users ADD COLUMN \"nickname\" text" =
      [.word "ALTER", .word "TABLE", .word "USERS", .word "ADD", .word "COLUMN", .name "nickname", .word "TEXT"] := by
    decide
  rw [read]
  simp [alterTable, alteration, afterKind, skip, begins, readName, name_users, parts, partsFrom]

private theorem drops_nickname : Does .drop "users" "nickname" "ALTER TABLE users DROP COLUMN \"nickname\"" := by
  refine ⟨[[.word "DROP", .word "COLUMN", .name "nickname"]], ?_, by decide⟩
  have read : tokens "ALTER TABLE users DROP COLUMN \"nickname\"" =
      [.word "ALTER", .word "TABLE", .word "USERS", .word "DROP", .word "COLUMN", .name "nickname"] := by
    decide
  rw [read]
  simp [alterTable, alteration, afterKind, skip, begins, readName, name_users, parts, partsFrom]

/-- An added column that is dropped again, and two columns of two tables that become required. -/
theorem conflict_missed :
    ¬ Detected "ALTER TABLE users ADD COLUMN \"nickname\" text" "ALTER TABLE users DROP COLUMN \"nickname\"" ∧
      ¬ Detected "ALTER TABLE IF EXISTS \"users\" ALTER COLUMN email SET NOT NULL"
        "ALTER TABLE IF EXISTS \"shops\" ALTER COLUMN city SET NOT NULL" := by
  constructor
  · intro detected
    have quiet : checkOperationConflicts ⟨["ALTER TABLE users ADD COLUMN \"nickname\" text",
        "ALTER TABLE users DROP COLUMN \"nickname\""]⟩ = [] := by
      decide
    exact (detected.complete ⟨"users", "nickname", .inl ⟨adds_nickname, drops_nickname⟩⟩).1 quiet
  · intro detected
    have apart : Apart "ALTER TABLE IF EXISTS \"users\" ALTER COLUMN email SET NOT NULL"
        "ALTER TABLE IF EXISTS \"shops\" ALTER COLUMN city SET NOT NULL" :=
      ⟨"users", "shops", by decide, by decide, by decide⟩
    refine (detected.apart apart).1 (reported_iff.mpr ⟨⟨"IF", by decide, by decide⟩, .inr (.inr (.inl ?_))⟩)
    exact ⟨"NULL".toList, by decide, "NULL".toList, by decide, rfl⟩

end Examples

end DriverMicroServices.Policy.OperationalRules
