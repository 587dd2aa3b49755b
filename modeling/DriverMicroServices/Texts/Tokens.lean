/-! The tokens of SQL texts. What stands in quotes or between dollar signs is one token,
whatever it contains, and comments are none. -/
namespace Texts.Tokens

/-- Keywords and bare names are words, in capitals. -/
inductive Token where
  | word (text : String)
  | name (text : String)
  | literal
  | symbol (c : Char)
deriving DecidableEq

/-- What has been read of the token that the next character may continue, last character first. -/
inductive Mode where
  | plain
  | word (read : List Char)
  | name (read : List Char)
  | nameEnd (read : List Char)
  | literal
  | literalEnd
  /-- A literal after an `E`, where a backslash stands before any character. -/
  | escaped
  | backslash
  | escapedEnd
  | dash
  | lineComment
  | slash
  /-- A comment within so many others. -/
  | blockComment (depth : Nat)
  | star (depth : Nat)
  | inner (depth : Nat)
  | dollar (tag : List Char)
  /-- A literal after its tag, with what has been read since the last dollar sign. -/
  | body (tag : List Char) (since : Option (List Char))
deriving DecidableEq

/-- Characters of words; those outside of ASCII are letters. -/
def isWordChar (c : Char) : Bool := c.isAlphanum || c = '_' || c = '$' || 0x80 ≤ c.val

def spelled (read : List Char) : String := String.ofList read.reverse

def Token.ofWord (read : List Char) : Token := .word (String.ofList (read.reverse.map Char.toUpper))

/-- The first character of a token. -/
def start (c : Char) : List Token × Mode :=
  if c = '"' then ([], .name [])
  else if c = '\'' then ([], .literal)
  else if c = '-' then ([], .dash)
  else if c = '/' then ([], .slash)
  else if c = '$' then ([], .dollar [])
  else if isWordChar c then ([], .word [c])
  else if c.isWhitespace then ([], .plain)
  else ([.symbol c], .plain)

/-- The token has ended before the character. -/
def after (token : Token) (c : Char) : List Token × Mode := (token :: (start c).1, (start c).2)

namespace Mode

/-- The tokens that end with a character, and how to read on. A quote within quotes is doubled. -/
def step : Mode → Char → List Token × Mode
  | plain, c => start c
  | word read, c =>
    if isWordChar c then ([], word (c :: read))
    else if c = '\'' ∧ read ∈ [['E'], ['e']] then ([], escaped)
    else after (.ofWord read) c
  | name read, c => if c = '"' then ([], nameEnd read) else ([], name (c :: read))
  | nameEnd read, c => if c = '"' then ([], name (c :: read)) else after (.name (spelled read)) c
  | literal, c => if c = '\'' then ([], literalEnd) else ([], literal)
  | literalEnd, c => if c = '\'' then ([], literal) else after .literal c
  | escaped, c => ([], if c = '\'' then escapedEnd else if c = '\\' then backslash else escaped)
  | backslash, _ => ([], escaped)
  | escapedEnd, c => if c = '\'' then ([], escaped) else after .literal c
  | dash, c => if c = '-' then ([], lineComment) else after (.symbol '-') c
  | lineComment, c => if c = '\n' then ([], plain) else ([], lineComment)
  | slash, c => if c = '*' then ([], blockComment 0) else after (.symbol '/') c
  | blockComment depth, c =>
    ([], if c = '*' then star depth else if c = '/' then inner depth else blockComment depth)
  | star depth, c =>
    ([], if c = '/' then (if depth = 0 then plain else blockComment (depth - 1))
      else if c = '*' then star depth else blockComment depth)
  | inner depth, c =>
    ([], if c = '*' then blockComment (depth + 1) else if c = '/' then inner depth else blockComment depth)
  | dollar tag, c =>
    if c = '$' then ([], body tag none)
    else if tag = [] ∧ c.isDigit then ([], word [c, '$'])
    else if isWordChar c then ([], dollar (c :: tag))
    else after (.ofWord (tag ++ ['$'])) c
  | body tag since, c =>
    if c ≠ '$' then ([], body tag (since.map (c :: ·)))
    else if since = some tag then ([.literal], plain)
    else ([], body tag (some []))

/-- The token that the end of the text ends. -/
def stop : Mode → List Token
  | word read => [.ofWord read]
  | name read | nameEnd read => [.name (spelled read)]
  | literal | literalEnd | escaped | backslash | escapedEnd | body _ _ => [.literal]
  | dollar tag => [.ofWord (tag ++ ['$'])]
  | dash => [.symbol '-']
  | slash => [.symbol '/']
  | _ => []

end Mode

def lex : Mode → List Char → List Token
  | mode, [] => mode.stop
  | mode, c :: cs => (mode.step c).1 ++ lex (mode.step c).2 cs

def tokens (text : String) : List Token := lex .plain text.toList

/-- The tokens that end within a text, and how to read on after it. -/
def scan : Mode → List Char → List Token × Mode
  | mode, [] => ([], mode)
  | mode, c :: cs => ((mode.step c).1 ++ (scan (mode.step c).2 cs).1, (scan (mode.step c).2 cs).2)

theorem lex_append (mode : Mode) (text rest : List Char) :
    lex mode (text ++ rest) = (scan mode text).1 ++ lex (scan mode text).2 rest := by
  induction text generalizing mode with
  | nil => rfl
  | cons c cs ih => simp only [List.cons_append, lex, scan, ih, List.append_assoc]

/-- Within quotes, a text without quotes is taken as it is. -/
theorem scan_name {name : List Char} (clean : '"' ∉ name) (before : List Char) :
    scan (.name before) name = ([], .name (name.reverse ++ before)) := by
  induction name generalizing before with
  | nil => rfl
  | cons c cs ih =>
    obtain ⟨here, later⟩ := not_or.mp (mt List.mem_cons.mpr clean)
    have apart : c ≠ '"' := fun same => here same.symm
    simp [scan, Mode.step, apart, ih later]

theorem scan_word {word : List Char} (all : ∀ c ∈ word, isWordChar c) (before : List Char) :
    scan (.word before) word = ([], .word (word.reverse ++ before)) := by
  induction word generalizing before with
  | nil => rfl
  | cons c cs ih =>
    obtain ⟨here, later⟩ := List.forall_mem_cons.mp all
    simp [scan, Mode.step, here, ih later]

@[simp] theorem spelled_reverse (name : String) : spelled name.toList.reverse = name := by
  simp [spelled]

/-- A text is read from one mode to another, whatever follows it. -/
def Lexes (mode : Mode) (text : String) (list : List Token) (next : Mode) : Prop :=
  ∀ rest, lex mode (text.toList ++ rest) = list ++ lex next rest

namespace Lexes

variable {mode middle next : Mode} {a b name : String} {first second : List Token}

theorem of_scan (read : scan mode a.toList = (first, next)) : Lexes mode a first next := fun rest => by
  rw [lex_append, read]

theorem append (left : Lexes mode a first middle) (right : Lexes middle b second next) :
    Lexes mode (a ++ b) (first ++ second) next := fun rest => by
  rw [String.toList_append, List.append_assoc, left, right, List.append_assoc]

theorem named (left : Lexes mode a first (.name [])) (clean : '"' ∉ name.toList) :
    Lexes mode (a ++ name) first (.name name.toList.reverse) := by
  have inside : Lexes (.name []) name [] (.name name.toList.reverse) :=
    of_scan (by simpa using scan_name clean [])
  simpa using left.append inside

/-- A name between its quotes, the second of which begins what follows. -/
theorem quoted (left : Lexes mode a first (.name [])) (clean : '"' ∉ name.toList) (b : String)
    (closes : scan (.name name.toList.reverse) b.toList = (.name (spelled name.toList.reverse) :: second, next)) :
    Lexes mode (a ++ name ++ b) (first ++ .name name :: second) next := by
  rw [spelled_reverse] at closes
  exact (left.named clean).append (of_scan closes)

theorem tokens_append (read : Lexes .plain a first next) (b : String) :
    tokens (a ++ b) = first ++ lex next b.toList := by
  rw [tokens, String.toList_append, read]

theorem tokens_eq (read : Lexes .plain a first next) : tokens a = first ++ next.stop := by
  simpa [tokens, lex] using read []

/-- The last quote is the end of the text. -/
theorem tokens_closed (left : Lexes .plain a first (.name [])) (clean : '"' ∉ name.toList) :
    tokens (a ++ name ++ "\"") = first ++ [.name name] := by
  have last : lex (.name name.toList.reverse) "\"".toList = [.name (spelled name.toList.reverse)] := rfl
  rw [(left.named clean).tokens_append, last, spelled_reverse]

end Lexes

/-! ## Statements -/

/-- The parts between the separators outside of parentheses. -/
def partsFrom (separator : Char) : Nat → List Token → List Token → List (List Token)
  | _, part, [] => [part.reverse]
  | depth, part, .symbol c :: rest =>
    if depth = 0 ∧ c = separator then part.reverse :: partsFrom separator 0 [] rest
    else if c = '(' then partsFrom separator (depth + 1) (.symbol c :: part) rest
    else if c = ')' then partsFrom separator (depth - 1) (.symbol c :: part) rest
    else partsFrom separator depth (.symbol c :: part) rest
  | depth, part, token :: rest => partsFrom separator depth (token :: part) rest

def parts (separator : Char) (list : List Token) : List (List Token) := partsFrom separator 0 [] list

/-- What another token before it does to a list of parts. -/
def onFirst (token : Token) : List (List Token) → List (List Token)
  | part :: rest => (token :: part) :: rest
  | [] => [[token]]

theorem partsFrom_before (separator : Char) (depth : Nat) (part list : List Token) :
    ∃ first rest, partsFrom separator depth [] list = first :: rest ∧
      partsFrom separator depth part list = (part.reverse ++ first) :: rest := by
  induction list generalizing depth part with
  | nil => exact ⟨[], [], rfl, by simp [partsFrom]⟩
  | cons token rest ih =>
    have further (depth : Nat) :
        ∃ first others, partsFrom separator depth [token] rest = first :: others ∧
          partsFrom separator depth (token :: part) rest = (part.reverse ++ first) :: others := by
      obtain ⟨first, others, none, one⟩ := ih depth [token]
      obtain ⟨first', others', none', more⟩ := ih depth (token :: part)
      rw [none] at none'
      cases none'
      exact ⟨token :: first, others, one, by simpa using more⟩
    cases token with
    | symbol c =>
      simp only [partsFrom]
      split
      · exact ⟨[], partsFrom separator 0 [] rest, rfl, by simp⟩
      · split
        · exact further _
        · split <;> exact further _
    | word text => exact further depth
    | name text => exact further depth
    | literal => exact further depth

/-- A token that separates nothing begins the first part. -/
theorem parts_cons {separator : Char} {token : Token} (plain : ∀ c, token ≠ .symbol c) (list : List Token) :
    parts separator (token :: list) = onFirst token (parts separator list) := by
  obtain ⟨first, rest, none, one⟩ := partsFrom_before separator 0 [token] list
  have begun : parts separator (token :: list) = partsFrom separator 0 [token] list := by
    cases token with
    | symbol c => exact absurd rfl (plain c)
    | word text => rfl
    | name text => rfl
    | literal => rfl
  rw [begun, one, parts, none]
  rfl

/-- The statements of a text. -/
def statements (text : String) : List (List Token) :=
  (parts ';' (tokens text)).filter fun statement => !statement.isEmpty

/-- What stands outside of parentheses. -/
def outerFrom : Nat → List Token → List Token
  | _, [] => []
  | depth, .symbol '(' :: rest => outerFrom (depth + 1) rest
  | depth, .symbol ')' :: rest => outerFrom (depth - 1) rest
  | depth, token :: rest => if depth = 0 then token :: outerFrom depth rest else outerFrom depth rest

def outer (list : List Token) : List Token := outerFrom 0 list

/-- The words one after the other at the start of the list. -/
def begins (phrase : List String) (list : List Token) : Bool :=
  list.take phrase.length = phrase.map Token.word

/-- The words one after the other somewhere in the list. -/
def mentions (phrase : List String) : List Token → Bool
  | [] => phrase.isEmpty
  | token :: rest => begins phrase (token :: rest) || mentions phrase rest

/-- Words that may be left out. -/
def skip (phrase : List String) (list : List Token) : List Token :=
  if begins phrase list then list.drop phrase.length else list

/-- What a token names: a bare name stands for the one in small letters. -/
def Token.name? : Token → Option String
  | .word text => some (text.map Char.toLower)
  | .name text => some text
  | _ => none

/-- A name in a schema; those of the default one go without it. -/
def qualified (schema name : String) : String := if schema = "public" then name else schema ++ "." ++ name

/-- A name, with or without a schema before it, and what follows. -/
def readName : List Token → Option (String × List Token)
  | first :: .symbol '.' :: second :: rest =>
    first.name?.bind fun schema => second.name?.map fun named => (qualified schema named, rest)
  | first :: rest => first.name?.map fun named => (named, rest)
  | [] => none

/-- What follows one of the phrases. -/
def afterKind (kinds : List (List String)) (list : List Token) : Option (List Token) :=
  (kinds.find? fun kind => begins kind list).map fun kind => list.drop kind.length

/-- What is altered of one of the kinds, and its changes. A star stands for the tables that inherit. -/
def alteration (kinds : List (List String)) : List Token → Option (String × List (List Token))
  | .word "ALTER" :: rest =>
    ((afterKind kinds rest).bind fun rest => readName (skip ["ONLY"] (skip ["IF", "EXISTS"] rest))).map fun named =>
      (named.1, parts ',' (if named.2.head? = some (.symbol '*') then named.2.tail else named.2))
  | _ => none

/-- A table that is altered, and its changes. -/
def alterTable (statement : List Token) : Option (String × List (List Token)) :=
  alteration [["TABLE"], ["FOREIGN", "TABLE"]] statement

/-- A word that may be left out. -/
def skipOne (words : List String) : List Token → List Token
  | .word text :: rest => if text ∈ words then rest else .word text :: rest
  | list => list

/-- A table that is created, and what follows its name. -/
def createTable : List Token → Option (String × List Token)
  | .word "CREATE" :: rest =>
    match skipOne ["TEMPORARY", "TEMP", "UNLOGGED", "FOREIGN"] (skipOne ["GLOBAL", "LOCAL"] rest) with
    | .word "TABLE" :: rest => readName (skip ["IF", "NOT", "EXISTS"] rest)
    | _ => none
  | _ => none

/-- Outside of parentheses, from the first word that begins a statement on rows and is no name of a query. -/
def mainStatement : List Token → List Token
  | .word text :: rest =>
    if text ∈ ["SELECT", "VALUES", "INSERT", "UPDATE", "DELETE", "MERGE"] ∧ rest.head? ≠ some (.word "AS") then
      .word text :: rest
    else mainStatement rest
  | _ :: rest => mainStatement rest
  | [] => []

/-- A statement without the queries before it. -/
def withoutQueries : List Token → List Token
  | .word "WITH" :: rest => mainStatement (outer rest)
  | statement => statement

/-- The word that says what a statement does. -/
def verb (statement : List Token) : Option String :=
  match withoutQueries statement with
  | .word text :: _ => some text
  | _ => none

end Texts.Tokens
