import DriverMicroServices.IntentPlans
import DriverMicroServices.IntentStatements
import DriverMicroServices.Texts.Spelling

/-! How the database reads the statements of intents. A field of the payload names something where its
text is a name, and a list of columns is read as the names in it. -/
namespace DriverMicroServices.Intents
open Texts Texts.Json Texts.Tokens Intents.Part

section Names

variable {ν τ : Type} [Numerals ν] (db : Database τ)

/-- What a text names in a statement. -/
def Database.nameOf (text : String) : Option String := (nameToken text).bind db.name?

def Database.named (value : Value ν) : Option String := (render value).bind db.nameOf

def Database.namedAll (value : Value ν) : Option (List String) :=
  match value with
  | some (.arr elements) => (texts elements).bind (·.mapM db.nameOf)
  | _ => none

def Database.typed (value : Value ν) : Option τ := (render value).bind fun text => db.typeOf (tokens text)

/-- The statement that the text of a template is. -/
def Database.Reads (template : Template ν) (statement : Statement) : Prop :=
  ∀ sql, Template.text template = some sql → readTokens db (tokens sql) = some statement

end Names

variable {ν τ : Type} [Numerals ν] {db : Database τ}

theorem named_spec {value : Value ν} {name : String} (named : db.named value = some name) :
    ∃ text token, render value = some text ∧ nameToken text = some token ∧ db.name? token = some name := by
  obtain ⟨text, rendered, named⟩ := Option.bind_eq_some_iff.mp named
  obtain ⟨token, read, named⟩ := Option.bind_eq_some_iff.mp named
  exact ⟨text, token, rendered, read, named⟩

theorem reads_of {template : Template ν} {texts : List String} {list : List Token} {statement : Statement}
    (written : Template.text template = some (String.join texts)) (spelled : Spelled texts list)
    (read : readTokens db list = some statement) : db.Reads template statement := by
  intro sql same
  rw [written] at same
  cases same
  rw [spelled.tokens_eq, read]

/-! ## Tokens of names -/

section Tokens

variable {token : Token} {name : String}

private theorem name_not_symbol (named : db.name? token = some name) (c : Char) : token ≠ .symbol c := by
  rintro rfl
  cases named

theorem name_not_keyword (named : db.name? token = some name) (word : String)
    (keyword : word ∈ ["FROM", "NULL", "WHERE"]) : token ≠ .word word := by
  rintro rfl
  simp [Database.name?, db.keywords word keyword] at named

private theorem readSource_name (named : db.name? token = some name) : readSource db [token] = some (.column name) := by
  cases token with
  | word text =>
    have apart : text ≠ "NULL" := fun same => name_not_keyword named "NULL" (by simp) (congrArg Token.word same)
    unfold readSource
    split
    · rename_i same
      cases same
      exact absurd rfl apart
    · rename_i same
      cases same
    · rename_i same
      cases same
      rw [named]
      rfl
    · rename_i same
      cases same
    · rename_i none _
      exact absurd rfl (none _)
  | name text => simp only [readSource, named, Option.map_some]
  | literal | symbol c => cases named

private theorem takeWhile_name (named : db.name? token = some name) {word : String}
    (keyword : word ∈ ["FROM", "NULL", "WHERE"]) (rest : List Token) :
    (token :: rest).takeWhile (· ≠ .word word) = token :: rest.takeWhile (· ≠ .word word) := by
  simp [name_not_keyword named word keyword]

/-- A name and what comes before the next comma. -/
theorem parts_name (named : db.name? token = some name) (list : List Token) :
    parts ',' (token :: list) = onFirst token (parts ',' list) := parts_cons (name_not_symbol named) list

theorem parts_word (text : String) (list : List Token) :
    parts ',' (.word text :: list) = onFirst (.word text) (parts ',' list) := parts_cons (by simp) list

theorem parts_comma (list : List Token) : parts ',' (.symbol ',' :: list) = [] :: parts ',' list := rfl

/-- The parentheses of the type have no comma between them. -/
theorem parts_varchar (list : List Token) :
    parts ',' (varcharTokens ++ .symbol ',' :: list) = varcharTokens :: parts ',' list := by
  simp only [varcharTokens, List.cons_append, parts_word]
  rfl

end Tokens

/-! ## Lists of names -/

section Lists

variable {named : List Token} {names : List String}

/-- The tokens are names. -/
abbrev Named (db : Database τ) (named : List Token) (names : List String) : Prop :=
  List.Forall₂ (fun token name => db.name? token = some name) named names

private theorem parts_words (words : List String) {list first : List Token} {rest : List (List Token)}
    (read : parts ',' list = first :: rest) :
    parts ',' (words.map .word ++ list) = (words.map .word ++ first) :: rest := by
  induction words with
  | nil => exact read
  | cons text words ih =>
    rw [List.map_cons, List.cons_append, parts_word, ih]
    rfl

/-- Each name with the words before it and what stands after it. -/
private theorem parts_listed (words : List String) (behind : List Token) (each : Named db named names)
    (some : named ≠ []) (ends : parts ',' behind = [behind])
    (separate : ∀ list, parts ',' (behind ++ .symbol ',' :: list) = behind :: parts ',' list) :
    parts ',' (words.map .word ++ (listed (behind ++ .symbol ',' :: words.map .word) named ++ behind)) =
      named.map fun token => words.map .word ++ token :: behind := by
  induction each with
  | nil => exact absurd rfl some
  | @cons token name others names' first later ih =>
    refine parts_words words ?_
    cases later with
    | nil =>
      rw [listed, List.singleton_append, parts_name first, ends]
      rfl
    | @cons second name' others names' next later =>
      have further := ih (List.cons_ne_nil _ _)
      simp only [listed, List.cons_append, List.append_assoc, parts_name first, separate] at further ⊢
      rw [further]
      rfl

/-- Each part is read by itself. -/
theorem mapM_parts {α : Type} {part : Token → List Token} {read : List Token → Option α} {value : String → α}
    (each : Named db named names)
    (reads : ∀ token name, db.name? token = some name → read (part token) = some (value name)) :
    (named.map part).mapM read = some (names.map value) := by
  induction each with
  | nil => rfl
  | @cons token name others names' first later ih =>
    rw [List.map_cons, List.mapM_cons, reads token name first, ih]
    rfl

private theorem name_of_mem (each : Named db named names) {token : Token} (member : token ∈ named) :
    ∃ name, db.name? token = some name := by
  induction each with
  | nil => cases member
  | @cons first name others names' here later ih =>
    rcases List.mem_cons.mp member with rfl | further
    · exact ⟨name, here⟩
    · exact ih further

private theorem not_from_listed (each : Named db named names) :
    ∀ token ∈ listed [.symbol ','] named, decide (token ≠ .word "FROM") = true := by
  intro token member
  rw [decide_eq_true_eq]
  rcases mem_listed member with comma | given
  · rw [List.mem_singleton.mp comma]
    simp
  · obtain ⟨name, here⟩ := name_of_mem each given
    exact name_not_keyword here "FROM" (by simp)

/-- A query of columns by their names. -/
theorem readSelect_names (each : Named db named names) (nonempty : named ≠ []) {token : Token} {source : String}
    (whole : db.name? token = some source) (ending : List Token)
    (ends : ending = [] ∨ ∃ condition, ending = .word "WHERE" :: condition) :
    readSelect db (listed [.symbol ','] named ++ .word "FROM" :: token :: ending) = some (names, source) := by
  have all := not_from_listed each
  have left : (listed [.symbol ','] named ++ .word "FROM" :: token :: ending).takeWhile (· ≠ .word "FROM") =
      listed [.symbol ','] named := by
    rw [List.takeWhile_append_of_pos all]
    simp
  have right : (listed [.symbol ','] named ++ .word "FROM" :: token :: ending).dropWhile (· ≠ .word "FROM") =
      .word "FROM" :: token :: ending := by
    rw [List.dropWhile_append_of_pos all]
    simp
  have columns : (named.map fun token => [token]).mapM (readColumn db) = some (names.map id) :=
    mapM_parts each fun token name here => here
  have parted : parts ',' (listed [.symbol ','] named) = named.map fun token => [token] := by
    simpa using parts_listed [] [] each nonempty rfl parts_comma
  unfold readSelect
  rw [right, left, parted, columns, List.map_id]
  rcases ends with rfl | ⟨condition, rfl⟩
  · simp only [whole, Option.bind_eq_bind, Option.bind_some]
  · simp only [whole, Option.bind_eq_bind, Option.bind_some]

end Lists

/-! ## Statements -/

section Tokens

variable {table column source : Token} {t n c b : String} {type : τ} {list named : List Token} {names : List String}

theorem readTokens_alter (t_name : db.name? table = some t) (rest : List Token) :
    readTokens db (.word "ALTER" :: .word "TABLE" :: table :: rest) = readAlter db t rest := by
  show (db.name? table).bind _ = _
  rw [t_name, Option.bind_some]

theorem readAlter_changes {text : String} {rest : List Token} {changes : List ColumnChange}
    (other : text ≠ "RENAME") (read : (parts ',' (.word text :: rest)).mapM (readChange db) = some changes) :
    readAlter db t (.word text :: rest) = some (.alter t changes) := by
  unfold readAlter
  split
  · rename_i same
    cases same
    exact absurd rfl other
  · rename_i same
    cases same
    exact absurd rfl other
  · rw [read, Option.map_some]

theorem readTokens_add (t_name : db.name? table = some t) (c_name : db.name? column = some c)
    (typed : db.typeOf list = some type) :
    readTokens db (.word "ALTER" :: .word "TABLE" :: table :: .word "ADD" :: .word "COLUMN" :: column :: list) =
      some (.alter t [.add c list]) := by
  refine (readTokens_alter t_name _).trans (readAlter_changes (by simp) ?_)
  rw [parts_word, parts_word, parts_name c_name, db.single list type typed]
  show (do let change ← (db.name? column).map (ColumnChange.add · list); some [change]) = _
  rw [c_name]
  rfl

private theorem readTokens_adds (t_name : db.name? table = some t) (each : Named db named names) (nonempty : named ≠ []) :
    readTokens db (.word "ALTER" :: .word "TABLE" :: table :: .word "ADD" :: .word "COLUMN" ::
        (listed (varcharTokens ++ [.symbol ',', .word "ADD", .word "COLUMN"]) named ++ varcharTokens)) =
      some (.alter t (names.map (.add · varcharTokens))) := by
  refine (readTokens_alter t_name _).trans (readAlter_changes (by simp) ?_)
  have parted := parts_listed ["ADD", "COLUMN"] varcharTokens each nonempty rfl parts_varchar
  refine (congrArg (List.mapM (readChange db)) parted).trans (mapM_parts each fun token name here => ?_)
  show (db.name? token).map _ = _
  rw [here, Option.map_some]

theorem readTokens_drops (t_name : db.name? table = some t) (each : Named db named names) (nonempty : named ≠ []) :
    readTokens db (.word "ALTER" :: .word "TABLE" :: table :: .word "DROP" :: .word "COLUMN" ::
        listed [.symbol ',', .word "DROP", .word "COLUMN"] named) =
      some (.alter t (names.map .drop)) := by
  refine (readTokens_alter t_name _).trans (readAlter_changes (by simp) ?_)
  have parted := parts_listed ["DROP", "COLUMN"] [] each nonempty rfl parts_comma
  rw [List.append_nil] at parted
  refine (congrArg (List.mapM (readChange db)) parted).trans (mapM_parts each fun token name here => ?_)
  show (db.name? token).map _ = _
  rw [here, Option.map_some]

theorem readTokens_update (t_name : db.name? table = some t) (c_name : db.name? column = some c) {value : Source}
    (read : readSource db (list.takeWhile (· ≠ .word "WHERE")) = some value) :
    readTokens db (.word "UPDATE" :: table :: .word "SET" :: column :: .symbol '=' :: list) =
      some (.update t c value) := by
  show (db.name? table).bind _ = _
  rw [t_name, Option.bind_some]
  show (db.name? column).bind _ = _
  rw [c_name, Option.bind_some, read]
  rfl

private theorem readTokens_renameTable (t_name : db.name? table = some t) (n_name : db.name? source = some n) :
    readTokens db [.word "ALTER", .word "TABLE", table, .word "RENAME", .word "TO", source] =
      some (.renameTable t n) := by
  rw [readTokens_alter t_name]
  show (db.name? source).map _ = _
  rw [n_name, Option.map_some]

private theorem readTokens_createFrom (t_name : db.name? table = some t) {read : List String × String}
    (selects : readSelect db list = some read) :
    readTokens db (.word "CREATE" :: .word "TABLE" :: table :: .word "AS" :: .word "SELECT" :: list) =
      some (.createFrom t read.1 read.2) := by
  show (db.name? table).bind _ = _
  rw [t_name, Option.bind_some, selects, Option.map_some]

private theorem readTokens_insertFrom (t_name : db.name? table = some t) {read : List String × String}
    (selects : readSelect db list = some read) :
    readTokens db (.word "INSERT" :: .word "INTO" :: table :: .word "SELECT" :: list) =
      some (.insertFrom t read.1 read.2) := by
  show (db.name? table).bind _ = _
  rw [t_name, Option.bind_some, selects, Option.map_some]

end Tokens

/-! ## Templates -/

section Templates

variable {table newTable column newColumn newType columns : Value ν} {t n c b : String} {type : τ} {cs : List String}

theorem named_of_mapM {names : List String} (each : names.mapM db.nameOf = some cs) :
    ∃ named, List.Forall₂ (fun name token => nameToken name = some token) names named ∧ Named db named cs := by
  induction names generalizing cs with
  | nil =>
    cases each
    exact ⟨[], .nil, .nil⟩
  | cons first rest ih =>
    rw [List.mapM_cons] at each
    obtain ⟨name, here, each⟩ := Option.bind_eq_some_iff.mp each
    obtain ⟨token, read, named⟩ := Option.bind_eq_some_iff.mp here
    obtain ⟨others, later, each⟩ := Option.bind_eq_some_iff.mp each
    cases each
    obtain ⟨tokens, reads, all⟩ := ih later
    exact ⟨token :: tokens, .cons read reads, .cons named all⟩

/-- The columns that are listed, as they stand in a text. -/
theorem namedAll_spec (each : db.namedAll columns = some cs) :
    ∃ names named, (∀ separator, join columns separator = some (separator.intercalate names)) ∧
      List.Forall₂ (fun name token => nameToken name = some token) names named ∧ Named db named cs := by
  unfold Database.namedAll at each
  split at each
  · rename_i elements
    obtain ⟨names, written, each⟩ := Option.bind_eq_some_iff.mp each
    obtain ⟨named, reads, all⟩ := named_of_mapM each
    exact ⟨names, named, fun separator => by rw [join, written, Option.map_some], reads, all⟩
  · cases each

theorem nonempty_of_named {named : List Token} (all : Named db named cs) (nonempty : cs ≠ []) : named ≠ [] := by
  rintro rfl
  cases all
  exact nonempty rfl

theorem reads_select (rest : Template ν) {text : String} (query : text.toList.take 7 = "SELECT ".toList) :
    db.Reads (lit text :: rest) .query := by
  have opening : scan .plain "SELECT ".toList = ([.word "SELECT"], .plain) := rfl
  intro sql written
  obtain ⟨texts, each, rfl⟩ := Option.map_eq_some_iff.mp written
  rw [List.mapM_cons] at each
  obtain ⟨first, same, each⟩ := Option.bind_eq_some_iff.mp each
  cases same
  obtain ⟨others, -, each⟩ := Option.bind_eq_some_iff.mp each
  cases each
  rw [tokens, String.join_cons, String.toList_append, ← List.take_append_drop 7 text.toList, query,
    List.append_assoc, lex_append, opening]
  rfl

theorem reads_add (t_named : db.named table = some t) (c_named : db.named column = some c) {text : String}
    (written : render newType = some text) (typed : db.typeOf (tokens text) = some type) :
    db.Reads [lit "ALTER TABLE ", field table, lit " ADD COLUMN ", field column, lit " ", field newType]
      (.alter t [.add c (tokens text)]) := by
  obtain ⟨tText, tToken, tWritten, tRead, tName⟩ := named_spec t_named
  obtain ⟨cText, cToken, cWritten, cRead, cName⟩ := named_spec c_named
  have spelled : Spelled ["ALTER TABLE ", tText, " ADD COLUMN ", cText, " ", text] _ :=
    .fixed rfl (.name tRead rfl (.fixed rfl (.name cRead rfl (.fixed rfl (.last _)))))
  exact reads_of (by simp [Template.text, Part.text, tWritten, cWritten, written]) spelled
    (readTokens_add tName cName typed)

theorem reads_addVarchar (t_named : db.named table = some t) (c_named : db.named column = some c) :
    db.Reads [lit "ALTER TABLE ", field table, lit " ADD COLUMN ", field column, lit " VARCHAR(255)"]
      (.alter t [.add c varcharTokens]) := by
  obtain ⟨tText, tToken, tWritten, tRead, tName⟩ := named_spec t_named
  obtain ⟨cText, cToken, cWritten, cRead, cName⟩ := named_spec c_named
  have spelled : Spelled ["ALTER TABLE ", tText, " ADD COLUMN ", cText, " VARCHAR(255)"] _ :=
    .fixed rfl (.name tRead rfl (.fixed rfl (.name cRead rfl (.last _))))
  exact reads_of (by simp [Template.text, Part.text, tWritten, cWritten]) spelled
    (readTokens_add tName cName db.typeOf_varchar)

theorem reads_drop (t_named : db.named table = some t) (c_named : db.named column = some c) :
    db.Reads [lit "ALTER TABLE ", field table, lit " DROP COLUMN ", field column] (.alter t [.drop c]) := by
  obtain ⟨tText, tToken, tWritten, tRead, tName⟩ := named_spec t_named
  obtain ⟨cText, cToken, cWritten, cRead, cName⟩ := named_spec c_named
  have spelled : Spelled ["ALTER TABLE ", tText, " DROP COLUMN ", cText] _ :=
    .fixed rfl (.name tRead rfl (.fixed rfl (.name cRead rfl .none)))
  exact reads_of (by simp [Template.text, Part.text, tWritten, cWritten]) spelled
    (readTokens_drops tName (.cons cName .nil) (List.cons_ne_nil _ _))

theorem reads_copy (t_named : db.named table = some t) (c_named : db.named column = some c)
    (b_named : db.named newColumn = some b) :
    db.Reads [lit "UPDATE ", field table, lit " SET ", field newColumn, lit " = ", field column]
      (.update t b (.column c)) := by
  obtain ⟨tText, tToken, tWritten, tRead, tName⟩ := named_spec t_named
  obtain ⟨cText, cToken, cWritten, cRead, cName⟩ := named_spec c_named
  obtain ⟨bText, bToken, bWritten, bRead, bName⟩ := named_spec b_named
  have spelled : Spelled ["UPDATE ", tText, " SET ", bText, " = ", cText] _ :=
    .fixed rfl (.name tRead rfl (.fixed rfl (.name bRead rfl (.fixed rfl (.name cRead rfl .none)))))
  have read : readSource db ([cToken].takeWhile (· ≠ .word "WHERE")) = some (.column c) := by
    rw [takeWhile_name cName (by simp)]
    exact readSource_name cName
  exact reads_of (by simp [Template.text, Part.text, tWritten, cWritten, bWritten]) spelled
    (readTokens_update tName bName read)

theorem reads_clear (t_named : db.named table = some t) (c_named : db.named column = some c) :
    db.Reads [lit "UPDATE ", field table, lit " SET ", field column, lit " = NULL"] (.update t c .null) := by
  obtain ⟨tText, tToken, tWritten, tRead, tName⟩ := named_spec t_named
  obtain ⟨cText, cToken, cWritten, cRead, cName⟩ := named_spec c_named
  have spelled : Spelled ["UPDATE ", tText, " SET ", cText, " = NULL"] _ :=
    .fixed rfl (.name tRead rfl (.fixed rfl (.name cRead rfl (.last _))))
  exact reads_of (by simp [Template.text, Part.text, tWritten, cWritten]) spelled (readTokens_update tName cName rfl)

theorem reads_default (t_named : db.named table = some t) (c_named : db.named column = some c) :
    db.Reads [lit "UPDATE ", field table, lit " SET ", field column, lit " = 'default_value' WHERE ", field column,
      lit " IS NULL"] (.update t c .text) := by
  obtain ⟨tText, tToken, tWritten, tRead, tName⟩ := named_spec t_named
  obtain ⟨cText, cToken, cWritten, cRead, cName⟩ := named_spec c_named
  have spelled : Spelled ["UPDATE ", tText, " SET ", cText, " = 'default_value' WHERE ", cText, " IS NULL"] _ :=
    .fixed rfl (.name tRead rfl (.fixed rfl (.name cRead rfl (.fixed rfl (.name cRead rfl (.last _))))))
  exact reads_of (by simp [Template.text, Part.text, tWritten, cWritten]) spelled (readTokens_update tName cName rfl)

theorem reads_renameTable (t_named : db.named table = some t) (n_named : db.named newTable = some n) :
    db.Reads [lit "ALTER TABLE ", field table, lit " RENAME TO ", field newTable] (.renameTable t n) := by
  obtain ⟨tText, tToken, tWritten, tRead, tName⟩ := named_spec t_named
  obtain ⟨nText, nToken, nWritten, nRead, nName⟩ := named_spec n_named
  have spelled : Spelled ["ALTER TABLE ", tText, " RENAME TO ", nText] _ :=
    .fixed rfl (.name tRead rfl (.fixed rfl (.name nRead rfl .none)))
  exact reads_of (by simp [Template.text, Part.text, tWritten, nWritten]) spelled (readTokens_renameTable tName nName)

theorem reads_dropTable (t_named : db.named table = some t) :
    db.Reads [lit "DROP TABLE ", field table] (.dropTable t) := by
  obtain ⟨tText, tToken, tWritten, tRead, tName⟩ := named_spec t_named
  have spelled : Spelled ["DROP TABLE ", tText] _ := .fixed rfl (.name tRead rfl .none)
  refine reads_of (by simp [Template.text, Part.text, tWritten]) spelled ?_
  show (db.name? tToken).map _ = _
  rw [tName, Option.map_some]

theorem reads_truncate (t_named : db.named table = some t) :
    db.Reads [lit "TRUNCATE TABLE ", field table] (.truncate t) := by
  obtain ⟨tText, tToken, tWritten, tRead, tName⟩ := named_spec t_named
  have spelled : Spelled ["TRUNCATE TABLE ", tText] _ := .fixed rfl (.name tRead rfl .none)
  refine reads_of (by simp [Template.text, Part.text, tWritten]) spelled ?_
  show (db.name? tToken).map _ = _
  rw [tName, Option.map_some]

theorem reads_createFrom (t_named : db.named table = some t) (n_named : db.named newTable = some n)
    (each : db.namedAll columns = some cs) (nonempty : cs ≠ []) :
    db.Reads [lit "CREATE TABLE ", field newTable, lit " AS SELECT ", joined columns ", ", lit " FROM ", field table,
      lit " WHERE 1=0"] (.createFrom n cs t) := by
  obtain ⟨tText, tToken, tWritten, tRead, tName⟩ := named_spec t_named
  obtain ⟨nText, nToken, nWritten, nRead, nName⟩ := named_spec n_named
  obtain ⟨names, named, written, reads, all⟩ := namedAll_spec each
  have spelled : Spelled (["CREATE TABLE ", nText, " AS SELECT "] ++
      (names.intersperse ", " ++ [" FROM ", tText, " WHERE 1=0"])) _ :=
    .fixed rfl (.name nRead rfl (.fixed rfl (.names reads rfl rfl rfl (.fixed rfl (.name tRead rfl (.last _))))))
  have selects : readSelect db (listed [.symbol ','] named ++ .word "FROM" :: tToken :: tokens " WHERE 1=0") =
      some (cs, t) := readSelect_names all (nonempty_of_named all nonempty) tName _ (.inr ⟨_, rfl⟩)
  refine reads_of ?_ spelled (readTokens_createFrom nName selects)
  rw [← join_names]
  simp [Template.text, Part.text, tWritten, nWritten, written]

theorem reads_insertFrom (t_named : db.named table = some t) (n_named : db.named newTable = some n)
    (each : db.namedAll columns = some cs) (nonempty : cs ≠ []) :
    db.Reads [lit "INSERT INTO ", field newTable, lit " SELECT ", joined columns ", ", lit " FROM ", field table]
      (.insertFrom n cs t) := by
  obtain ⟨tText, tToken, tWritten, tRead, tName⟩ := named_spec t_named
  obtain ⟨nText, nToken, nWritten, nRead, nName⟩ := named_spec n_named
  obtain ⟨names, named, written, reads, all⟩ := namedAll_spec each
  have spelled : Spelled (["INSERT INTO ", nText, " SELECT "] ++ (names.intersperse ", " ++ [" FROM ", tText])) _ :=
    .fixed rfl (.name nRead rfl (.fixed rfl (.names reads rfl rfl rfl (.fixed rfl (.name tRead rfl .none)))))
  have selects : readSelect db (listed [.symbol ','] named ++ [.word "FROM", tToken]) = some (cs, t) :=
    readSelect_names all (nonempty_of_named all nonempty) tName [] (.inl rfl)
  refine reads_of ?_ spelled (readTokens_insertFrom nName selects)
  rw [← join_names]
  simp [Template.text, Part.text, tWritten, nWritten, written]

theorem reads_drops (t_named : db.named table = some t) (each : db.namedAll columns = some cs) (nonempty : cs ≠ []) :
    db.Reads [lit "ALTER TABLE ", field table, lit " DROP COLUMN ", joined columns ", DROP COLUMN "]
      (.alter t (cs.map .drop)) := by
  obtain ⟨tText, tToken, tWritten, tRead, tName⟩ := named_spec t_named
  obtain ⟨names, named, written, reads, all⟩ := namedAll_spec each
  have spelled : Spelled (["ALTER TABLE ", tText, " DROP COLUMN "] ++ (names.intersperse ", DROP COLUMN " ++ [])) _ :=
    .fixed rfl (.name tRead rfl (.fixed rfl (.names reads rfl rfl rfl .none)))
  rw [List.append_nil (listed _ named)] at spelled
  refine reads_of ?_ spelled (readTokens_drops tName all (nonempty_of_named all nonempty))
  rw [← join_names]
  simp [Template.text, Part.text, tWritten, written]

theorem reads_adds (t_named : db.named table = some t) (each : db.namedAll columns = some cs) (nonempty : cs ≠ []) :
    db.Reads [lit "ALTER TABLE ", field table, lit " ADD COLUMN ", joined columns " VARCHAR(255), ADD COLUMN ",
      lit " VARCHAR(255)"] (.alter t (cs.map (.add · varcharTokens))) := by
  obtain ⟨tText, tToken, tWritten, tRead, tName⟩ := named_spec t_named
  obtain ⟨names, named, written, reads, all⟩ := namedAll_spec each
  have spelled : Spelled (["ALTER TABLE ", tText, " ADD COLUMN "] ++
      (names.intersperse " VARCHAR(255), ADD COLUMN " ++ [" VARCHAR(255)"])) _ :=
    .fixed rfl (.name tRead rfl (.fixed rfl (.names reads rfl rfl rfl (.last _))))
  refine reads_of ?_ spelled (readTokens_adds tName all (nonempty_of_named all nonempty))
  rw [← join_names]
  simp [Template.text, Part.text, tWritten, written]

end Templates

end DriverMicroServices.Intents
