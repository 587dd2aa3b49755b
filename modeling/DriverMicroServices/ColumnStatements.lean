import DriverMicroServices.SplitStatements
import DriverMicroServices.Tables.PerKey

/-! The columns of a table, and the statements that change them, as the database reads them
from their texts. Which type a list of tokens names is up to the database: a type may have
several names, and some texts name none. -/
namespace DriverMicroServices
open Texts.Tokens Tables.PerKey

structure ColumnDef (τ : Type) where
  type : τ
  nullable : Bool
deriving DecidableEq, Repr

/-- The columns of a table by their names. -/
abbrev TableSchema (τ : Type) := String → Option (ColumnDef τ)

inductive ColumnStatement where
  /-- `ADD COLUMN` -/
  | add (column : String) (type : List Token) (nullable : Bool)
  | drop (column : String)
  | rename (oldCol newCol : String)
  /-- `ALTER COLUMN … TYPE` -/
  | retype (column : String) (type : List Token)
  | setNotNull (column : String)
  /-- `UPDATE … SET target = source`, with or without a cast. -/
  | copy (target source : String)
deriving DecidableEq

/-! ## What a statement does -/

namespace ColumnStep

variable {τ : Type} (typeOf : List Token → Option τ)

def create (type : List Token) (nullable : Bool) : Option (ColumnDef τ) → Option (Option (ColumnDef τ))
  | none => (typeOf type).map fun type => some ⟨type, nullable⟩
  | some _ => none

def remove : Option (ColumnDef τ) → Option (Option (ColumnDef τ))
  | some _ => some none
  | none => none

def retype (type : List Token) : Option (ColumnDef τ) → Option (Option (ColumnDef τ))
  | some column => (typeOf type).map fun type => some { column with type }
  | none => none

def setNotNull : Option (ColumnDef τ) → Option (Option (ColumnDef τ))
  | some column => some (some { column with nullable := false })
  | none => none

/-- The column is named, and stays as it is. -/
def mention : Option (ColumnDef τ) → Option (Option (ColumnDef τ))
  | some column => some (some column)
  | none => none

end ColumnStep

namespace ColumnStatement

variable {τ : Type} (typeOf : List Token → Option τ)

/-- A statement on the schema; a statement on rows only needs its columns. -/
def perform : ColumnStatement → TableSchema τ → Option (TableSchema τ)
  | .add column type nullable => Change.apply ⟨column, ColumnStep.create typeOf type nullable⟩
  | .drop column => Change.apply ⟨column, ColumnStep.remove⟩
  | .rename oldCol newCol => fun schema =>
    match schema oldCol, schema newCol with
    | some column, none =>
      some (Function.update (Function.update schema oldCol none) newCol (some column))
    | _, _ => none
  | .retype column type => Change.apply ⟨column, ColumnStep.retype typeOf type⟩
  | .setNotNull column => Change.apply ⟨column, ColumnStep.setNotNull⟩
  | .copy target source => applyAll [⟨target, ColumnStep.mention⟩, ⟨source, ColumnStep.mention⟩]

def performAll : List ColumnStatement → TableSchema τ → Option (TableSchema τ)
  | [], schema => some schema
  | statement :: rest, schema => (statement.perform typeOf schema).bind (performAll rest)

theorem performAll_append (first second : List ColumnStatement) (schema : TableSchema τ) :
    performAll typeOf (first ++ second) schema =
      (performAll typeOf first schema).bind (performAll typeOf second) := by
  induction first generalizing schema with
  | nil => rfl
  | cons statement rest ih =>
    simp only [List.cons_append, performAll, Option.bind_assoc]
    congr 1
    funext middle
    exact ih middle

end ColumnStatement

/-! ## Texts -/

/-- The type of an added column, and whether it is nullable. -/
def splitNotNull (type : List Token) : List Token × Bool :=
  let kept := type.take (type.length - 2)
  if kept ++ [.word "NOT", .word "NULL"] = type then (kept, false) else (type, true)

/-- One change of `ALTER TABLE`. -/
def readChange : List Token → Option ColumnStatement
  | .word "ADD" :: .word "COLUMN" :: .name column :: type =>
    some (.add column (splitNotNull type).1 (splitNotNull type).2)
  | [.word "DROP", .word "COLUMN", .name column] => some (.drop column)
  | [.word "RENAME", .word "COLUMN", .name oldCol, .word "TO", .name newCol] => some (.rename oldCol newCol)
  | .word "ALTER" :: .word "COLUMN" :: .name column :: .word "TYPE" :: type => some (.retype column type)
  | [.word "ALTER", .word "COLUMN", .name column, .word "SET", .word "NOT", .word "NULL"] =>
    some (.setNotNull column)
  | _ => none

/-- The column that a value is taken from. -/
def readSource : List Token → Option String
  | [.name source] => some source
  | .word "CAST" :: .symbol '(' :: .name source :: .word "AS" :: _ => some source
  | _ => none

/-- A statement on this table. -/
def readStatement (table sql : String) : Option ColumnStatement :=
  match tokens sql with
  | .word "ALTER" :: .word "TABLE" :: .name named :: change =>
    if named = table then readChange change else none
  | .word "UPDATE" :: .name named :: .word "SET" :: .name target :: .symbol '=' :: value =>
    if named = table then (readSource value).map (.copy target) else none
  | _ => none

/-- The statements of the texts one after the other, on one table. -/
def executeSql (typeOf : List Token → Option τ) (table : String) : List String → TableSchema τ →
    Option (TableSchema τ)
  | [], schema => some schema
  | sql :: rest, schema =>
    (readStatement table sql).bind fun statement =>
      (statement.perform typeOf schema).bind (executeSql typeOf table rest)

theorem executeSql_eq {typeOf : List Token → Option τ} {sqls : List String}
    {statements : List ColumnStatement}
    (reads : List.Forall₂ (fun sql statement => readStatement table sql = some statement) sqls statements)
    (schema : TableSchema τ) :
    executeSql typeOf table sqls schema = ColumnStatement.performAll typeOf statements schema := by
  induction reads generalizing schema with
  | nil => rfl
  | cons first rest ih =>
    simp only [executeSql, first, Option.bind_some, ColumnStatement.performAll]
    congr 1
    funext middle
    exact ih middle

/-! ## Operations on columns -/

/-- The text of a type: what follows it begins another token, and it does not end in the words
that would belong to the column. -/
structure TypeName where
  text : String
  ends : (scan .plain text.toList).2.step ' ' = ((scan .plain text.toList).2.stop, .plain)
  bare : splitNotNull (tokens text) = (tokens text, true)

def TypeName.tokens (type : TypeName) : List Token := Texts.Tokens.tokens type.text

/-- An operation on one column, as the generator of migrations writes it. -/
inductive ColumnOp where
  | addColumn (column : String) (type : TypeName) (nullable : Bool)
  | dropColumn (column : String)
  | renameColumn (oldCol newCol : String)
  | alterType (column : String) (type : TypeName)
  | setNotNull (column : String)

namespace ColumnOp

def sql (table : String) : ColumnOp → String
  | .addColumn column type nullable =>
    "ALTER TABLE \"" ++ table ++ "\" ADD COLUMN \"" ++ column ++ "\" " ++
      (type.text ++ if nullable then "" else " NOT NULL")
  | .dropColumn column => "ALTER TABLE \"" ++ table ++ "\" DROP COLUMN \"" ++ column ++ "\""
  | .renameColumn oldCol newCol =>
    "ALTER TABLE \"" ++ table ++ "\" RENAME COLUMN \"" ++ oldCol ++ "\" TO \"" ++ newCol ++ "\""
  | .alterType column type =>
    "ALTER TABLE \"" ++ table ++ "\" ALTER COLUMN \"" ++ column ++ "\" TYPE " ++ type.text
  | .setNotNull column =>
    "ALTER TABLE \"" ++ table ++ "\" ALTER COLUMN \"" ++ column ++ "\" SET NOT NULL"

def statement : ColumnOp → ColumnStatement
  | .addColumn column type nullable => .add column type.tokens nullable
  | .dropColumn column => .drop column
  | .renameColumn oldCol newCol => .rename oldCol newCol
  | .alterType column type => .retype column type.tokens
  | .setNotNull column => .setNotNull column

/-- The names that the operation writes in quotes. -/
def names : ColumnOp → List String
  | .renameColumn oldCol newCol => [oldCol, newCol]
  | .addColumn column _ _ | .dropColumn column | .alterType column _ | .setNotNull column => [column]

end ColumnOp

section Read

variable {table column oldCol newCol type : String}

/-- The words after a type are tokens of their own. -/
theorem tokens_notNull (type : TypeName) :
    tokens (type.text ++ " NOT NULL") = type.tokens ++ [.word "NOT", .word "NULL"] := by
  have ended : lex .plain type.text.toList =
      (scan .plain type.text.toList).1 ++ (scan .plain type.text.toList).2.stop := by
    simpa [lex] using lex_append .plain type.text.toList []
  have further : lex (scan .plain type.text.toList).2 " NOT NULL".toList =
      (scan .plain type.text.toList).2.stop ++ [.word "NOT", .word "NULL"] := by
    show lex _ (' ' :: "NOT NULL".toList) = _
    rw [lex, type.ends]
    rfl
  rw [TypeName.tokens, tokens, tokens, String.toList_append, lex_append, further, ended, List.append_assoc]

private theorem splitNotNull_notNull (type : List Token) :
    splitNotNull (type ++ [.word "NOT", .word "NULL"]) = (type, false) := by
  simp [splitNotNull]

private theorem tokens_alterType (t_clean : Unquoted table) (c_clean : Unquoted column) :
    tokens ("ALTER TABLE \"" ++ table ++ "\" ALTER COLUMN \"" ++ column ++ "\" TYPE " ++ type) =
      [.word "ALTER", .word "TABLE", .name table, .word "ALTER", .word "COLUMN", .name column, .word "TYPE"] ++
        tokens type :=
  ((lexes_alterTable.quoted t_clean "\" ALTER COLUMN \"" rfl).quoted c_clean "\" TYPE " rfl).tokens_append type

theorem readStatement_alter {change : List Token}
    (same : tokens sql = [.word "ALTER", .word "TABLE", .name table] ++ change) :
    readStatement table sql = readChange change := by
  unfold readStatement
  rw [same]
  exact if_pos rfl

theorem readChange_add (rest : List Token) :
    readChange (.word "ADD" :: .word "COLUMN" :: .name column :: rest) =
      some (.add column (splitNotNull rest).1 (splitNotNull rest).2) := rfl

/-- The database reads an operation as what it is. -/
theorem readStatement_sql (t_clean : Unquoted table) (op : ColumnOp) (clean : ∀ name ∈ op.names, Unquoted name) :
    readStatement table (op.sql table) = some op.statement := by
  cases op with
  | addColumn column type nullable =>
    have written := @tokens_addColumn table column (type.text ++ if nullable then "" else " NOT NULL") t_clean
      (clean column (by simp [ColumnOp.names]))
    refine (readStatement_alter written).trans ((readChange_add _).trans ?_)
    cases nullable with
    | true =>
      have bare : splitNotNull (tokens type.text) = (tokens type.text, true) := type.bare
      simp [bare, TypeName.tokens, ColumnOp.statement]
    | false => simp [tokens_notNull, splitNotNull_notNull, ColumnOp.statement]
  | dropColumn column =>
    exact readStatement_alter (tokens_dropColumn t_clean (clean column (by simp [ColumnOp.names])))
  | renameColumn oldCol newCol =>
    exact readStatement_alter (tokens_renameColumn t_clean
      (clean oldCol (by simp [ColumnOp.names])) (clean newCol (by simp [ColumnOp.names])))
  | alterType column type =>
    exact readStatement_alter (tokens_alterType t_clean (clean column (by simp [ColumnOp.names])))
  | setNotNull column =>
    exact readStatement_alter (tokens_setNotNull t_clean (clean column (by simp [ColumnOp.names])))

end Read

end DriverMicroServices
