import DriverMicroServices.MigrationFiles
import DriverMicroServices.OperationClasses
import DriverMicroServices.Outbox
import DriverMicroServices.Texts.Choices
import DriverMicroServices.Texts.Removal

/-! The lint of migration files. It cuts the section of `up` out of a file, takes what look like comments out
of the section, and looks for phrases that have no place in a migration of its type. -/
namespace DriverMicroServices.MigrationLint
open Texts.Regex Texts.Regex.Pattern MigrationGenerator

inductive MigrationType where
  | SAFE
  | DATA
  | BREAKING
deriving DecidableEq

def MigrationType.name : MigrationType → String
  | SAFE => "SAFE"
  | DATA => "DATA"
  | BREAKING => "BREAKING"

def LEGACY_SAFE_MIGRATION_EXCEPTIONS : List String :=
  ["1774416000000-SAFE_FixSchemaDifferenceBackfillJobIdType.ts", "1774417018743-SAFE_FixCriticalSchemaAlignment.ts",
    "1774417280000-SAFE_FixSellerOrderIdNotNull.ts"]

/-- A pattern by its source: the phrase in letters of any case. -/
def phrase (source : String) : Pattern := text source empty

def FORBIDDEN_PATTERNS : MigrationType → List String
  | .SAFE =>
    ["DROP TABLE", "DROP COLUMN", "ALTER COLUMN", "SET NOT NULL", "ALTER TYPE", "RENAME COLUMN", "RENAME TABLE"]
  | .DATA => ["DROP TABLE", "DROP COLUMN", "ALTER TYPE"]
  | .BREAKING => []

def baselineForbiddenPatterns : List String := ["ALTER TYPE", "RENAME COLUMN", "RENAME TABLE"]

def getMigrationType (filename : String) : Option MigrationType :=
  if includes filename "SAFE_" then some .SAFE
  else if includes filename "DATA_" then some .DATA
  else if includes filename "BREAKING_" then some .BREAKING
  else none

/-! ## The section of `up` -/

/-- `public\s+async\s+up\([^)]*\):\s*Promise<void>\s*\{` -/
def upOpening : Pattern :=
  exactly "public".toList (seq (plus isSpace) (exactly "async".toList (seq (plus isSpace) (exactly "up(".toList
    (seq (many (· ≠ ')')) (exactly "):".toList (seq (many isSpace) (exactly "Promise<void>".toList
      (seq (many isSpace) (one (· = '\x7b')))))))))))

/-- `\n\s*\}\n\s*public\s+async\s+down` -/
def upClosing : Pattern :=
  seq (one (· = '\n')) (seq (many isSpace) (exactly "\x7d\n".toList (seq (many isSpace) (exactly "public".toList
    (seq (plus isSpace) (exactly "async".toList (seq (plus isSpace) (exactly "down".toList empty))))))))

/-- `upSectionMatch?.[1] ?? content` -/
def upSection (content : String) : String :=
  match (seq upOpening (upTo upClosing)).search content with
  | some captures => captures.headD ""
  | none => content

/-! ## Comments -/

/-- Two dashes, and `.*$`: what `.*` takes ends where the line does. -/
def sqlComment : Pattern := exactly "--".toList (many isDot)

/-- Two slashes, and `.*$`. -/
def jsComment : Pattern := exactly "//".toList (many isDot)

/-- A slash and a star, `[\s\S]*?`, and a star and a slash. -/
def blockComment : Pattern := exactly "/*".toList (seq (few fun _ => true) (exactly "*/".toList empty))

def contentWithoutComments (content : String) : String :=
  blockComment.remove (jsComment.remove (sqlComment.remove content))

/-! ## The checks -/

/-- `/CREATE\s+(TABLE|INDEX)/i` and its like. -/
def spaced (word : String) (list : List String) : Pattern :=
  text word (seq (plus isSpace) (group (anyOf list)))

/-- `/CREATE TABLE\s+\w+/i` and its like. -/
def phraseAndName (source : String) : Pattern := text source (seq (plus isSpace) (plus isWord))

/-- `/ALTER TABLE.*ADD COLUMN.*NOT NULL/i` -/
def addColumnNotNull : Pattern :=
  text "ALTER TABLE" (seq (many isDot) (text "ADD COLUMN" (seq (many isDot) (text "NOT NULL" empty))))

/-- The error, where the condition holds. -/
def errorIf (found : Bool) (error : String) : List String := if found then [error] else []

def baselineErrors (upSection : String) : List String :=
  baselineForbiddenPatterns.flatMap fun source =>
    errorIf ((phrase source).test (contentWithoutComments upSection))
      ("❌ Forbidden pattern found in baseline migration: " ++ source)

/-- The checks of a section that is not excepted. -/
def sectionErrors (migrationType : MigrationType) (upSection : String) : List String :=
  let ifNotExists := (phrase "IF NOT EXISTS").test upSection
  let ifExists := (phrase "IF EXISTS").test upSection
  ((FORBIDDEN_PATTERNS migrationType).flatMap fun source =>
    errorIf ((phrase source).test (contentWithoutComments upSection))
      ("❌ Forbidden pattern found in " ++ migrationType.name ++ " migration: " ++ source)) ++
  errorIf (migrationType = .SAFE && (spaced "CREATE" ["TABLE", "INDEX"]).test upSection && !ifNotExists)
    "❌ Required idempotency pattern missing in SAFE migration: IF NOT EXISTS" ++
  errorIf (migrationType = .SAFE && (spaced "DROP" ["TABLE", "INDEX", "COLUMN"]).test upSection && !ifExists)
    "❌ Required idempotency pattern missing in SAFE migration: IF EXISTS" ++
  errorIf ((phraseAndName "CREATE TABLE").test upSection && !ifNotExists)
    "❌ CREATE TABLE should use IF NOT EXISTS for idempotency" ++
  errorIf ((phraseAndName "CREATE INDEX").test upSection && !ifNotExists)
    "❌ CREATE INDEX should use IF NOT EXISTS for idempotency" ++
  errorIf (addColumnNotNull.test upSection)
    "❌ ADD COLUMN NOT NULL should be done in separate steps (expand → migrate → contract)"

/-- `lintMigration` of a file by its name and its content. -/
def lintContent (filename content : String) : List String :=
  match getMigrationType filename with
  | none => []
  | some migrationType =>
    if includes filename "AddOutboxPriorityAndIdempotencyTracker" then []
    else if filename ∈ LEGACY_SAFE_MIGRATION_EXCEPTIONS then []
    else if migrationType = .SAFE ∧ includes filename "BASELINE" then baselineErrors (upSection content)
    else sectionErrors migrationType (upSection content)

/-- A file that is not there is not read. -/
def lintMigration (disk : Disk) (filePath : String) : Option (List String) :=
  (disk.readFileSync filePath).map fun content => lintContent (basename filePath) content

end DriverMicroServices.MigrationLint
