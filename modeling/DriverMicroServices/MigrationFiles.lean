import DriverMicroServices.LifecycleSplit
import DriverMicroServices.Texts.Units

/-! The generator of migration files. A file is named by the time it is written at and by its
phase, and a companion by the time of the first file; the files run in the order of their names. -/
namespace DriverMicroServices.MigrationGenerator
open Tables.Keyed Texts.Units

/-- The values of `Prefix` that the files of a lifecycle have, in the order of their phases. -/
inductive Prefix where
  | SAFE_ | DATA_ | BREAKING_
deriving DecidableEq

namespace Prefix

def text : Prefix → String
  | SAFE_ => "SAFE_"
  | DATA_ => "DATA_"
  | BREAKING_ => "BREAKING_"

/-- `prefix.replace("_", "")` -/
def word : Prefix → String
  | SAFE_ => "SAFE"
  | DATA_ => "DATA"
  | BREAKING_ => "BREAKING"

def phase : Prefix → Nat
  | SAFE_ => 0
  | DATA_ => 1
  | BREAKING_ => 2

def all : List Prefix := [SAFE_, DATA_, BREAKING_]

end Prefix

/-- The name of a migration is part of the name of a class and of the name of a file. -/
structure MigrationName where
  text : String
  flat : '/' ∉ text.toList

inductive CompanionPhase where
  | DATA | BREAKING
deriving DecidableEq

structure CompanionMigration where
  phase : CompanionPhase
  sql : String
  reason : String

/-! ## Paths and files -/

/-- A directory as `path.join` writes it before the name of a file in it. -/
structure OutputDir where
  path : String
  closed : path = "" ∨ path.toList.getLast? = some '/'

def join (outputDir : OutputDir) (filename : String) : String := outputDir.path ++ filename

/-- `path.basename(filePath)` of a path that does not end in a slash. -/
def basename (filePath : String) : String :=
  String.ofList (filePath.toList.reverse.takeWhile (· ≠ '/')).reverse

/-- `path.basename(filePath, ".ts")` -/
def bareBasename (filePath : String) : String :=
  let base := basename filePath
  if ".ts".toList.isSuffixOf base.toList && base ≠ ".ts" then
    String.ofList (base.toList.take (base.toList.length - 3))
  else base

/-- `text.split("-")` -/
def splitAtDashes (text : String) : List (List Char) := text.toList.splitOn '-'

/-- `parseInt(text, 10)` of a text that has neither white space nor a sign in front. -/
def parseInt (text : String) : Option Nat :=
  match text.toList.takeWhile Char.isDigit with
  | [] => none
  | digits => some (Nat.ofDigitChars 10 digits 0)

/-- The files by their paths. -/
structure Disk where
  files : List (String × String)
  distinct : Distinct files

namespace Disk

def writeFileSync (disk : Disk) (filePath content : String) : Disk :=
  ⟨put disk.files filePath content, disk.distinct.put filePath content⟩

def readFileSync (disk : Disk) (filePath : String) : Option String := get disk.files filePath

/-- The name under which a directory lists a path. -/
def entry (outputDir : OutputDir) (filePath : String) : Option String :=
  if outputDir.path.toList.isPrefixOf filePath.toList then
    let rest := filePath.toList.drop outputDir.path.toList.length
    if '/' ∈ rest then none else some (String.ofList rest)
  else none

/-- The files of a directory; one that does not exist has none. -/
def readdirSync (disk : Disk) (outputDir : OutputDir) : List String :=
  disk.files.filterMap fun file => entry outputDir file.1

end Disk

/-! ## The texts -/

/-- `Date.now().toString()` -/
def generateTimestamp (now : Nat) : String := toString now

/-- A statement as the body of `up` calls it. -/
def queryCall (sql : String) : String :=
  "    await queryRunner.query(\x60\n      " ++ sql ++ "\n    \x60);"

/-- What stands in a file before the calls. -/
def fileStart (className header : String) : String :=
  "import \x7b MigrationInterface, QueryRunner \x7d from 'typeorm';\n\n" ++ header ++ "\nexport class " ++
    className ++ " implements MigrationInterface \x7b\n  name = '" ++ className ++
    "';\n\n  public async up(queryRunner: QueryRunner): Promise<void> \x7b\n"

/-- What stands in a file after the calls. -/
def fileEnd : String :=
  "\n  \x7d\n\n  public async down(queryRunner: QueryRunner): Promise<void> \x7b\n" ++
    "    // TODO: Implement rollback logic\n" ++
    "    throw new Error('Manual rollback required — see ROLLBACK PLAN in header');\n  \x7d\n\x7d\n"

def buildMigrationFile (className : String) (sqlStatements : List String) (header : String) : String :=
  fileStart className header ++ "\n\n".intercalate (sqlStatements.map queryCall) ++ fileEnd

def risk : Prefix → String
  | .SAFE_ => "LOW"
  | .DATA_ => "MEDIUM"
  | .BREAKING_ => "HIGH"

def rollback : Prefix → String
  | .BREAKING_ => "DATA_LOSS"
  | _ => "SAFE"

def breakingApproval : Prefix → String
  | .BREAKING_ => " *\n * @approved-breaking: <REQUIRED — reviewer name + reason this is safe to deploy>\n"
  | _ => ""

def checklist : Prefix → String
  | .SAFE_ =>
    " *   [ ] Reviewed generated SQL (not just the TypeScript)\n" ++
      " *   [ ] Uses IF NOT EXISTS / IF EXISTS for idempotency\n" ++
      " *   [ ] New indexes use CONCURRENTLY + transaction = false\n" ++
      " *   [ ] Tested migration:revert locally\n *   [ ] Passes: npm run db:verify"
  | .DATA_ =>
    " *   [ ] Data integrity verified on staging\n" ++
      " *   [ ] Batched for >10k rows (add @large-batch + loop)\n" ++
      " *   [ ] No schema changes mixed in\n" ++
      " *   [ ] Tested migration:revert locally\n *   [ ] Passes: npm run db:verify"
  | .BREAKING_ =>
    " *   [ ] @approved-breaking filled in with reviewer name and reason\n" ++
      " *   [ ] All app code no longer references dropped/changed column\n" ++
      " *   [ ] Backward-compat layer deployed before this migration\n" ++
      " *   [ ] Coordinated deploy window with team\n" ++
      " *   [ ] Tested migration:revert locally\n *   [ ] Passes: npm run db:verify"

/-- The comment in front of a class; the two builders of headers differ in its first line only. -/
def headerWith (intent : String) (type : Prefix) : String :=
  "/**\n * INTENT:    " ++ intent ++ "\n * TYPE:      " ++ type.word ++ "\n * RISK:      " ++ risk type ++
    "\n * ROLLBACK:  " ++ rollback type ++ "\n" ++ breakingApproval type ++
    " *\n * CHECKLIST (mark [x] before merging):\n" ++ checklist type ++ "\n */\n"

def buildLifecycleHeader (type : Prefix) (name phase : String) (statementCount : Nat) : String :=
  headerWith s!"{phase} phase for {name} — {statementCount} statement(s)" type

def CompanionPhase.toPrefix : CompanionPhase → Prefix
  | DATA => .DATA_
  | BREAKING => .BREAKING_

def buildCompanionHeader (phase : CompanionPhase) (reason : String) : String :=
  headerWith reason phase.toPrefix

/-! ## Writing -/

def fileName (timestamp : String) (type : Prefix) (name : String) : String :=
  timestamp ++ ("-" ++ (type.text ++ (name ++ ".ts")))

def classNameOf (timestamp : String) (type : Prefix) (name : String) : String :=
  type.word ++ name ++ timestamp

def writeMigrationFile (now : Nat) (outputDir : OutputDir) (type : Prefix) (name : MigrationName)
    (sqlStatements : List String) (header : String) (disk : Disk) : String × Disk :=
  if sqlStatements.isEmpty then ("", disk)
  else
    let timestamp := generateTimestamp now
    let filePath := join outputDir (fileName timestamp type name.text)
    (filePath, disk.writeFileSync filePath
      (buildMigrationFile (classNameOf timestamp type name.text) sqlStatements header))

/-- `String(parseInt(path.basename(basePath).split("-")[0], 10) + index + 1)` -/
def companionTimestamp (basePath : String) (index : Nat) : String :=
  match parseInt (String.ofList ((splitAtDashes (basename basePath)).headD [])) with
  | some stamp => toString (stamp + index + 1)
  | none => "NaN"

/-- `path.basename(basePath, ".ts").split("-").slice(1).join("-")` -/
def companionName (basePath : String) : String :=
  String.ofList (['-'].intercalate ((splitAtDashes (bareBasename basePath)).drop 1))

def companionContent (basePath : String) (companion : CompanionMigration × Nat) : String :=
  let type := companion.1.phase.toPrefix
  let className := classNameOf (companionTimestamp basePath companion.2) type (companionName basePath)
  let header := buildCompanionHeader companion.1.phase companion.1.reason
  buildMigrationFile className [companion.1.sql] header

/-- The turn of the loop for one companion. -/
def writeCompanion (basePath : String) (outputDir : OutputDir) (made : List String × Disk)
    (companion : CompanionMigration × Nat) : List String × Disk :=
  let timestamp := companionTimestamp basePath companion.2
  let filename := fileName timestamp companion.1.phase.toPrefix (companionName basePath)
  let filePath := join outputDir filename
  (made.1 ++ [filePath], made.2.writeFileSync filePath (companionContent basePath companion))

def writeCompanionMigrations (basePath : String) (companions : List CompanionMigration)
    (outputDir : OutputDir) (disk : Disk) : List String × Disk :=
  companions.zipIdx.foldl (writeCompanion basePath outputDir) ([], disk)

/-- The part of `generateLifecycleMigrations` for the operations of one phase. -/
def writePhase (now : Nat) (outputDir : OutputDir) (name : MigrationName) (type : Prefix) (phase : String)
    (operations : List SchemaOperation) (made : List String × Disk) : List String × Disk :=
  if operations.isEmpty then made
  else
    let header := buildLifecycleHeader type name.text phase operations.length
    let (filePath, disk) := writeMigrationFile now outputDir type name (operations.map (·.sql)) header made.2
    (if filePath = "" then made.1 else made.1 ++ [filePath], disk)

/-- The clock is what `Date.now()` says when the file of a phase is written. -/
def generateLifecycleMigrations (clock : Prefix → Nat) (outputDir : OutputDir) (name : MigrationName)
    (lifecycleSet : MigrationLifecycleSet) (companions : List CompanionMigration) (disk : Disk) :
    List String × Disk :=
  let safe := writePhase (clock .SAFE_) outputDir name .SAFE_ "Expand" lifecycleSet.safe ([], disk)
  let data := writePhase (clock .DATA_) outputDir name .DATA_ "Migrate" lifecycleSet.data safe
  let breaking :=
    writePhase (clock .BREAKING_) outputDir name .BREAKING_ "Contract" lifecycleSet.breaking data
  if companions.isEmpty then breaking
  else
    let written := writeCompanionMigrations (breaking.1.headD "") companions outputDir breaking.2
    (breaking.1 ++ written.1, written.2)

/-- The name ends in `.ts`, and thirteen digits or more and a dash stand in front. -/
def isMigrationFile (file : String) : Bool :=
  let digits := (file.toList.takeWhile Char.isDigit).length
  ".ts".toList.isSuffixOf file.toList && 13 ≤ digits && (file.toList.drop digits).head? = some '-'

def getMigrationFiles (outputDir : OutputDir) (disk : Disk) : List String :=
  sort (((disk.readdirSync outputDir).filter isMigrationFile).map (join outputDir))

end DriverMicroServices.MigrationGenerator
