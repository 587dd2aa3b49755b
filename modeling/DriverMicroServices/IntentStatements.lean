import DriverMicroServices.Tables.Keyed
import DriverMicroServices.Texts.Tokens
import Mathlib.Logic.Function.Basic

/-! The statements of intents, as the database reads and executes them. Names stand in the texts as
they are given, without quotes of their own, so it is up to the database what they name. -/
namespace DriverMicroServices.Intents
open Texts.Tokens Tables.Keyed

/-- The columns of a table with their types, in their order. -/
abbrev Table (τ : Type) := List (String × τ)

/-- The tables of a database by their names. -/
abbrev Schema (τ : Type) := String → Option (Table τ)

/-- The names and types of a schema, whatever the order of the columns. -/
abbrev View (τ : Type) := String → Option (String → Option τ)

def view (schema : Schema τ) : View τ := fun table => (schema table).map get

def varcharTokens : List Token := [.word "VARCHAR", .symbol '(', .word "255", .symbol ')']

/-- What a database makes of words and types. -/
structure Database (τ : Type) where
  /-- The word is not a name. -/
  reserved : String → Bool
  keywords : ∀ word ∈ ["FROM", "NULL", "WHERE"], reserved word = true
  typeOf : List Token → Option τ
  /-- A type is a single part of a list. -/
  single : ∀ type named, typeOf type = some named → parts ',' type = [type]
  varchar : τ
  typeOf_varchar : typeOf varcharTokens = some varchar
  /-- Values of the first type may be put into a column of the second. -/
  assigns : τ → τ → Bool
  assigns_self : ∀ type, assigns type type = true
  casts : τ → τ → Bool
  /-- The text of a backfill may be put into a column of the type. -/
  takesText : τ → Bool

/-! ## Statements -/

inductive ColumnChange where
  | add (column : String) (type : List Token)
  | drop (column : String)
deriving DecidableEq

/-- What a column is set to. -/
inductive Source where
  | null
  | text
  | column (name : String)
  | cast (name : String) (type : List Token)
deriving DecidableEq

inductive Statement where
  | query
  | alter (table : String) (changes : List ColumnChange)
  | renameColumn (table column newColumn : String)
  | renameTable (table newTable : String)
  /-- `CREATE TABLE … AS SELECT` -/
  | createFrom (table : String) (columns : List String) (source : String)
  | dropTable (table : String)
  | truncate (table : String)
  /-- `INSERT INTO … SELECT` -/
  | insertFrom (table : String) (columns : List String) (source : String)
  | update (table column : String) (source : Source)
deriving DecidableEq

variable {τ : Type} (db : Database τ)

def ColumnChange.perform (columns : Table τ) : ColumnChange → Option (Table τ)
  | add column type =>
    match get columns column with
    | none => (db.typeOf type).map (put columns column)
    | some _ => none
  | drop column => (get columns column).map fun _ => remove columns column

def Source.fits (columns : Table τ) (type : τ) : Source → Bool
  | null => true
  | text => db.takesText type
  | column name => (get columns name).any (db.assigns · type)
  | cast name target =>
    (get columns name).any fun own => (db.typeOf target).any fun target => db.casts own target && db.assigns target type

/-- The columns that a query names, with their types. -/
def selected (columns : Table τ) (names : List String) : Option (Table τ) :=
  names.mapM fun name => (get columns name).map (name, ·)

/-- The values of a query go to the columns in their order. -/
def accepts (columns values : Table τ) : Bool :=
  values.length ≤ columns.length ∧ ((values.zip columns).all fun pair => db.assigns pair.1.2 pair.2.2)

namespace Statement

/-- The schema after the statement; a statement on rows needs columns of the right types. -/
def perform (schema : Schema τ) : Statement → Option (Schema τ)
  | query => some schema
  | alter table changes => do
    let columns ← schema table
    let columns ← changes.foldlM (ColumnChange.perform db) columns
    some (Function.update schema table (some columns))
  | renameColumn table column newColumn => do
    let columns ← schema table
    if (get columns column).isSome ∧ get columns newColumn = none then
      some (Function.update schema table
        (some (columns.map fun entry => if entry.1 = column then (newColumn, entry.2) else entry)))
    else none
  | renameTable table newTable => do
    let columns ← schema table
    match schema newTable with
    | some _ => none
    | none => some (Function.update (Function.update schema table none) newTable (some columns))
  | createFrom table names source => do
    let columns ← schema source
    let values ← selected columns names
    match schema table with
    | some _ => none
    | none => if names.Nodup then some (Function.update schema table (some values)) else none
  | dropTable table => do
    let _ ← schema table
    some (Function.update schema table none)
  | truncate table => do
    let _ ← schema table
    some schema
  | insertFrom table names source => do
    let columns ← schema table
    let sourceColumns ← schema source
    let values ← selected sourceColumns names
    if accepts db columns values then some schema else none
  | update table column source => do
    let columns ← schema table
    let type ← get columns column
    if source.fits db columns type then some schema else none

def performAll : List Statement → Schema τ → Option (Schema τ)
  | [], schema => some schema
  | statement :: rest, schema => (statement.perform db schema).bind (performAll rest)

end Statement

/-! ## What is seen of a statement -/

/-- The columns of these names all have the type, or are all gone. -/
def setAll (columns : String → Option τ) (names : List String) (type : Option τ) : String → Option τ :=
  fun column => if column ∈ names then type else columns column

section View

variable {db} {schema : Schema τ} {table newTable column source : String} {names : List String}
  {columns : String → Option τ} {type : List Token} {named own : τ}

theorem view_update (schema : Schema τ) (table : String) (columns : Option (Table τ)) :
    view (Function.update schema table columns) = Function.update (view schema) table (columns.map get) := by
  funext other
  unfold view
  by_cases here : other = table
  · rw [here, Function.update_self, Function.update_self]
  · rw [Function.update_of_ne here, Function.update_of_ne here]

theorem view_some (there : view schema table = some columns) :
    ∃ entries, schema table = some entries ∧ get entries = columns :=
  Option.map_eq_some_iff.mp there

theorem view_none (absent : view schema table = none) : schema table = none :=
  Option.map_eq_none_iff.mp absent

theorem setAll_nil (columns : String → Option τ) (type : Option τ) : setAll columns [] type = columns := by
  funext column
  exact if_neg (List.not_mem_nil)

theorem setAll_cons (columns : String → Option τ) (first : String) (rest : List String) (type : Option τ) :
    setAll columns (first :: rest) type = setAll (Function.update columns first type) rest type := by
  funext column
  by_cases later : column ∈ rest
  · simp [setAll, later]
  · by_cases here : column = first <;> simp [setAll, later, here]

private theorem get_put (entries : Table τ) (column : String) (named : τ) :
    get (put entries column named) = Function.update (get entries) column (some named) := by
  funext other
  by_cases here : other = column
  · rw [here, get_put_self, Function.update_self]
  · rw [get_put_ne here, Function.update_of_ne here]

private theorem get_remove (entries : Table τ) (column : String) :
    get (remove entries column) = Function.update (get entries) column none := by
  funext other
  by_cases here : other = column
  · rw [here, get_remove_self, Function.update_self]
  · rw [get_remove_ne here, Function.update_of_ne here]

private theorem foldlM_adds (typed : db.typeOf type = some named) (entries : Table τ)
    (fresh : ∀ column ∈ names, get entries column = none) (distinct : names.Nodup) :
    ∃ after, (names.map (ColumnChange.add · type)).foldlM (ColumnChange.perform db) entries = some after ∧
      get after = setAll (get entries) names (some named) := by
  induction names generalizing entries with
  | nil => exact ⟨entries, rfl, by rw [setAll_nil]⟩
  | cons first rest ih =>
    obtain ⟨here, later⟩ := List.forall_mem_cons.mp fresh
    obtain ⟨apart, distinct⟩ := List.nodup_cons.mp distinct
    have fresh' : ∀ column ∈ rest, get (put entries first named) column = none := by
      intro column member
      have other : column ≠ first := ne_of_mem_of_not_mem member apart
      rw [get_put_ne other, later column member]
    obtain ⟨after, folded, seen⟩ := ih (put entries first named) fresh' distinct
    refine ⟨after, ?_, by rw [seen, get_put, ← setAll_cons]⟩
    rw [List.map_cons, List.foldlM_cons, ColumnChange.perform, here]
    simpa [typed] using folded

private theorem foldlM_drops (db : Database τ) (entries : Table τ) (there : ∀ column ∈ names, (get entries column).isSome)
    (distinct : names.Nodup) :
    ∃ after, (names.map ColumnChange.drop).foldlM (ColumnChange.perform db) entries = some after ∧
      get after = setAll (get entries) names none := by
  induction names generalizing entries with
  | nil => exact ⟨entries, rfl, by rw [setAll_nil]⟩
  | cons first rest ih =>
    obtain ⟨here, later⟩ := List.forall_mem_cons.mp there
    obtain ⟨apart, distinct⟩ := List.nodup_cons.mp distinct
    obtain ⟨gone, held⟩ := Option.isSome_iff_exists.mp here
    have there' : ∀ column ∈ rest, (get (remove entries first) column).isSome := by
      intro column member
      have other : column ≠ first := ne_of_mem_of_not_mem member apart
      rw [get_remove_ne other]
      exact later column member
    obtain ⟨after, folded, seen⟩ := ih (remove entries first) there' distinct
    refine ⟨after, ?_, by rw [seen, get_remove, ← setAll_cons]⟩
    rw [List.map_cons, List.foldlM_cons, ColumnChange.perform, held]
    exact folded

/-- Columns are added to a table that has none of them. -/
theorem perform_adds (there : view schema table = some columns) (fresh : ∀ column ∈ names, columns column = none)
    (distinct : names.Nodup) (typed : db.typeOf type = some named) :
    ((Statement.alter table (names.map (.add · type))).perform db schema).map view =
      some (Function.update (view schema) table (some (setAll columns names (some named)))) := by
  obtain ⟨entries, held, rfl⟩ := view_some there
  obtain ⟨after, folded, seen⟩ := foldlM_adds typed entries fresh distinct
  simp [Statement.perform, held, folded, view_update, seen]

/-- Columns are dropped that the table has. -/
theorem perform_drops (db : Database τ) (there : view schema table = some columns)
    (present : ∀ column ∈ names, (columns column).isSome) (distinct : names.Nodup) :
    ((Statement.alter table (names.map .drop)).perform db schema).map view =
      some (Function.update (view schema) table (some (setAll columns names none))) := by
  obtain ⟨entries, held, rfl⟩ := view_some there
  obtain ⟨after, folded, seen⟩ := foldlM_drops db entries present distinct
  simp [Statement.perform, held, folded, view_update, seen]

/-- A column that is there is not added again. -/
theorem perform_add_present (there : view schema table = some columns) (present : (columns column).isSome) :
    (Statement.alter table [.add column type]).perform db schema = none := by
  obtain ⟨entries, held, rfl⟩ := view_some there
  obtain ⟨own, kept⟩ := Option.isSome_iff_exists.mp present
  simp [Statement.perform, held, ColumnChange.perform, kept]

theorem perform_renameTable (db : Database τ) (there : view schema table = some columns) (absent : view schema newTable = none) :
    ((Statement.renameTable table newTable).perform db schema).map view =
      some (Function.update (Function.update (view schema) table none) newTable (some columns)) := by
  obtain ⟨entries, held, rfl⟩ := view_some there
  simp [Statement.perform, held, view_none absent, view_update]

theorem perform_dropTable (db : Database τ) (there : view schema table = some columns) :
    ((Statement.dropTable table).perform db schema).map view = some (Function.update (view schema) table none) := by
  obtain ⟨entries, held, rfl⟩ := view_some there
  simp [Statement.perform, held, view_update]

theorem perform_truncate (db : Database τ) (there : view schema table = some columns) :
    (Statement.truncate table).perform db schema = some schema := by
  obtain ⟨entries, held, rfl⟩ := view_some there
  simp [Statement.perform, held]

theorem perform_clear (db : Database τ) (there : view schema table = some columns) (present : columns column = some own) :
    (Statement.update table column .null).perform db schema = some schema := by
  obtain ⟨entries, held, rfl⟩ := view_some there
  simp [Statement.perform, held, present, Source.fits]

theorem perform_copy (there : view schema table = some columns) (present : columns column = some named)
    (given : columns source = some own) (fits : db.assigns own named) :
    (Statement.update table column (.column source)).perform db schema = some schema := by
  obtain ⟨entries, held, rfl⟩ := view_some there
  simp [Statement.perform, held, present, given, Source.fits, fits]

theorem perform_text (db : Database τ) (there : view schema table = some columns) (present : columns column = some named) :
    (Statement.update table column .text).perform db schema = if db.takesText named then some schema else none := by
  obtain ⟨entries, held, rfl⟩ := view_some there
  cases fits : db.takesText named <;> simp [Statement.perform, held, present, Source.fits, fits]

/-- A statement on rows leaves the schema as it is. -/
theorem schema_of_update {after : Schema τ} {value : Source}
    (done : (Statement.update table column value).perform db schema = some after) : after = schema := by
  simp only [Statement.perform, Option.bind_eq_bind, Option.bind_eq_some_iff] at done
  obtain ⟨entries, -, own, -, done⟩ := done
  split at done
  · exact (Option.some.inj done).symm
  · cases done

private theorem selected_spec {entries : Table τ} (present : ∀ column ∈ names, (get entries column).isSome) :
    ∃ values, selected entries names = some values ∧
      get values = fun column => if column ∈ names then get entries column else none := by
  induction names with
  | nil => exact ⟨[], rfl, funext fun column => (if_neg List.not_mem_nil).symm⟩
  | cons first rest ih =>
    obtain ⟨here, later⟩ := List.forall_mem_cons.mp present
    obtain ⟨own, held⟩ := Option.isSome_iff_exists.mp here
    obtain ⟨values, chosen, seen⟩ := ih later
    refine ⟨(first, own) :: values, ?_, ?_⟩
    · unfold selected at chosen ⊢
      simp [held, chosen]
    · funext column
      by_cases same : column = first
      · subst same
        simp [Tables.Keyed.get, ← held]
      · have apart : first ≠ column := fun equal => same equal.symm
        have tail := congrFun seen column
        simp only [List.mem_cons, same, false_or]
        rw [← tail]
        simp [Tables.Keyed.get, apart]

/-- A new table has the columns of the query, and takes its rows. -/
theorem perform_createFrom (db : Database τ) (there : view schema source = some columns) (absent : view schema table = none)
    (present : ∀ column ∈ names, (columns column).isSome) (distinct : names.Nodup) :
    ∃ after, (Statement.createFrom table names source).perform db schema = some after ∧
      view after = Function.update (view schema) table
        (some fun column => if column ∈ names then columns column else none) ∧
      (Statement.insertFrom table names source).perform db after = some after := by
  obtain ⟨entries, held, rfl⟩ := view_some there
  obtain ⟨values, chosen, seen⟩ := selected_spec present
  have apart : source ≠ table := by
    rintro rfl
    rw [view_none absent] at held
    cases held
  have same : accepts db values values = true := by
    have paired : ∀ pair ∈ values.zip values, db.assigns pair.1.2 pair.2.2 = true := by
      intro pair member
      rw [List.zip_eq_zipWith, List.zipWith_self] at member
      obtain ⟨value, -, rfl⟩ := List.mem_map.mp member
      exact db.assigns_self _
    simpa [accepts] using paired
  refine ⟨Function.update schema table (some values), ?_, ?_, ?_⟩
  · simp [Statement.perform, held, chosen, view_none absent, distinct]
  · rw [view_update, Option.map_some, seen]
  · simp [Statement.perform, Function.update_of_ne apart, held, chosen, same]

end View

/-! ## Texts -/

/-- What a token names. A bare name does not begin with a digit, and stands for the one in small letters. -/
def Database.name? : Token → Option String
  | .word text =>
    if db.reserved text || text.toList.head?.all (fun c => c.isDigit || c = '$') then none
    else some (text.map Char.toLower)
  | .name text => if text = "" then none else some text
  | _ => none

def readChange : List Token → Option ColumnChange
  | .word "ADD" :: .word "COLUMN" :: column :: type => (db.name? column).map (.add · type)
  | [.word "DROP", .word "COLUMN", column] => (db.name? column).map .drop
  | _ => none

def readSource : List Token → Option Source
  | [.word "NULL"] => some .null
  | [.literal] => some .text
  | [column] => (db.name? column).map .column
  | .word "CAST" :: .symbol '(' :: column :: .word "AS" :: rest =>
    match rest.getLast? with
    | some (.symbol ')') => (db.name? column).map (.cast · rest.dropLast)
    | _ => none
  | _ => none

def readColumn : List Token → Option String
  | [column] => db.name? column
  | _ => none

/-- The columns and the table of a query; what it asks of the rows is not looked at. -/
def readSelect (list : List Token) : Option (List String × String) :=
  match list.dropWhile (· ≠ .word "FROM") with
  | [_, source] | _ :: source :: .word "WHERE" :: _ => do
    let names ← (parts ',' (list.takeWhile (· ≠ .word "FROM"))).mapM (readColumn db)
    let source ← db.name? source
    some (names, source)
  | _ => none

def readAlter (table : String) : List Token → Option Statement
  | [.word "RENAME", .word "TO", newTable] => (db.name? newTable).map (.renameTable table)
  | [.word "RENAME", .word "COLUMN", column, .word "TO", newColumn] =>
    (db.name? column).bind fun column => (db.name? newColumn).map (.renameColumn table column)
  | changes => ((parts ',' changes).mapM (readChange db)).map (.alter table)

/-- A query may say anything. -/
def readTokens : List Token → Option Statement
  | .word "SELECT" :: _ => some .query
  | .word "ALTER" :: .word "TABLE" :: table :: rest => (db.name? table).bind fun table => readAlter db table rest
  | .word "CREATE" :: .word "TABLE" :: table :: .word "AS" :: .word "SELECT" :: rest =>
    (db.name? table).bind fun table => (readSelect db rest).map fun read => .createFrom table read.1 read.2
  | [.word "DROP", .word "TABLE", table] => (db.name? table).map .dropTable
  | [.word "TRUNCATE", .word "TABLE", table] => (db.name? table).map .truncate
  | .word "INSERT" :: .word "INTO" :: table :: .word "SELECT" :: rest =>
    (db.name? table).bind fun table => (readSelect db rest).map fun read => .insertFrom table read.1 read.2
  | .word "UPDATE" :: table :: .word "SET" :: column :: .symbol '=' :: rest => do
    let table ← db.name? table
    let column ← db.name? column
    let source ← readSource db (rest.takeWhile (· ≠ .word "WHERE"))
    some (.update table column source)
  | _ => none

def executeSql : List String → Schema τ → Option (Schema τ)
  | [], schema => some schema
  | sql :: rest, schema =>
    (readTokens db (tokens sql)).bind fun statement => (statement.perform db schema).bind (executeSql rest)

end DriverMicroServices.Intents
