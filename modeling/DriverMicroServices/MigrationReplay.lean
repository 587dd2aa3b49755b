import DriverMicroServices.MigrationStates

/-! The replay of the applied migrations on a shadow database. What is retrieved of the history are the
names of the migrations, and what is replayed are the texts that the caller gives. -/
namespace DriverMicroServices.SchemaEngine
open Tables.Keyed

/-- A migration of the history, with the statements that it stands for. -/
structure AppliedMigration where
  name : String
  sql : String
deriving DecidableEq

structure MigrationReplayResult where
  success : Bool := false
  errors : List String := []
  warnings : List String := []
  replayedMigrations : List String := []
  shadowDbUrl : Option String := none
deriving DecidableEq

structure MigrationReplayConfig where
  baselineSchema : Option String := none
  useShadowDb : Bool := false
  validateSchema : Bool := false

structure DatabaseError where
  name : String
  message : String
deriving DecidableEq

/-- The text of an error with its name before it. -/
def DatabaseError.text (error : DatabaseError) : String := error.name ++ ": " ++ error.message

/-- The database server. -/
structure Server (Db : Type) where
  /-- `dataSource.options.database` -/
  database : String
  /-- What `dataSource` is connected to. -/
  main : Db
  empty : Db
  /-- `initialize` of a connection to the database with a name. -/
  connect : String → Except DatabaseError Db
  execute : Db → String → Except DatabaseError Db
  getTables : Db → Except DatabaseError (List String)
  /-- The foreign keys with their tables. -/
  foreignKeys : Db → Except DatabaseError (List (String × String))

/-- A rebuild: its result, the shadow database that it is connected to, and what it has executed there
without an error. -/
structure Rebuild where
  result : MigrationReplayResult
  shadow : Option String := none
  executed : List String := []
deriving DecidableEq

section Replay

variable {Db : Type} (server : Server Db)

/-- `unreadable` is the failure of the query for the history, if it fails. -/
def getAppliedMigrations (unreadable : Option DatabaseError) (history : List AppliedMigration) : List String :=
  match unreadable with
  | some _ => []
  | none => history.map (·.name)

/-- What is executed until the first error, and the database after all of it. -/
def replayAppliedMigrations : Db → List String → List String × Except String Db
  | db, [] => ([], .ok db)
  | db, migration :: rest =>
    match server.execute db migration with
    | .error error => ([], .error s!"Failed to replay migration: {migration} - {error.text}")
    | .ok next =>
      let (executed, done) := replayAppliedMigrations next rest
      (migration :: executed, done)

def criticalTables : List String := ["outbox_archive", "outbox"]

/-- The errors and the warnings. -/
def validateSchemaState (db : Db) : List String × List String :=
  match server.getTables db with
  | .error error => ([s!"Schema validation failed: {error.text}"], [])
  | .ok tableNames =>
    let missing := (criticalTables.filter (· ∉ tableNames)).map fun table => s!"Critical table missing: {table}"
    let orphaned :=
      match server.foreignKeys db with
      | .error _ => []
      | .ok constraints =>
        (constraints.filter (·.2 ∉ tableNames)).map fun constraint =>
          s!"Orphaned constraint: {constraint.1} on table {constraint.2}"
    ([], missing ++ orphaned)

def replayFailed (message : String) : MigrationReplayResult :=
  { errors := [s!"Migration replay failed: {message}"] }

/-- The name of a shadow database. -/
def shadowName (now : Nat) : String := s!"{server.database}_shadow_{now}"

/-- What is executed of the baseline, and the database after it. -/
def applyBaselineSchema (db : Db) : Option String → List String × Except DatabaseError Db
  | none | some "" => ([], .ok db)
  | some schema => ([schema], server.execute db schema)

/-- The steps after the connection. -/
def rebuildOn (shadow : Option String) (config : MigrationReplayConfig) (appliedMigrations : List String) (db : Db) :
    Rebuild :=
  let (baseline, applied) := applyBaselineSchema server db config.baselineSchema
  match applied with
  | .error error => { result := replayFailed error.message, shadow }
  | .ok db =>
    let (executed, done) := replayAppliedMigrations server db appliedMigrations
    match done with
    | .error message => { result := replayFailed message, shadow, executed := baseline ++ executed }
    | .ok db =>
      let (errors, warnings) := if config.validateSchema then validateSchemaState server db else ([], [])
      { result := {
          success := errors.isEmpty, errors, warnings := if errors.isEmpty then [] else warnings
          replayedMigrations := appliedMigrations, shadowDbUrl := shadow }
        shadow, executed := baseline ++ executed }

def rebuildMigrationState (now : Nat) (appliedMigrations : List String) (config : MigrationReplayConfig) : Rebuild :=
  if config.useShadowDb then
    match server.connect (shadowName server now) with
    | .error error => { result := replayFailed error.message }
    | .ok db => rebuildOn server (some (shadowName server now)) config appliedMigrations db
  else rebuildOn server none config appliedMigrations server.main

/-- The database that `cleanupShadowDatabase` asks to be dropped. A quote in the name ends it. -/
def cleanupShadowDatabase (shadowDbUrl : Option String) : Option String :=
  match shadowDbUrl with
  | none | some "" => none
  | some url =>
    let dbName := (((url.toList.splitOn '/').getLast?).getD []).takeWhile (· ≠ '?')
    if dbName.isEmpty || '"' ∈ dbName then none else some (String.ofList dbName)

/-- A run of `rebuildWithValidation`: what it returns or throws, the records and the rebuild. -/
structure ValidatedRebuild where
  answer : Except String MigrationReplayResult
  records : MigrationRecords
  rebuild : Rebuild

def rebuildWithValidation (now : Nat) (unreadable : Option DatabaseError) (history : List AppliedMigration)
    (migrationId : String) (records : MigrationRecords) : ValidatedRebuild :=
  let rebuild := rebuildMigrationState server now (getAppliedMigrations unreadable history)
    { useShadowDb := true, validateSchema := true }
  if rebuild.result.success then
    match MigrationStateRuntime.updateState now migrationId .REPLAYED none none records with
    | (.error message, records) => { answer := .error message, records, rebuild }
    | (.ok _, records) => { answer := .ok rebuild.result, records, rebuild }
  else { answer := .ok rebuild.result, records, rebuild }

end Replay

/-! ## Faithful replays -/

section Faithful

variable {Db : Type}

/-- No statement fails, one after the other on an empty database. -/
def NoneFails (server : Server Db) (statements : List String) : Prop :=
  ∃ after, statements.foldlM server.execute server.empty = .ok after

def isReplayed (records : MigrationRecords) (migrationId : String) : Prop :=
  (get records migrationId).map (·.state) = some .REPLAYED

instance (records : MigrationRecords) (migrationId : String) : Decidable (isReplayed records migrationId) :=
  inferInstanceAs (Decidable (_ = _))

/-- The migration is moved only when the statements of all applied migrations are executed in their order; the
run succeeds when none of them fails; and a shadow database of a run that does not can be cleaned up. -/
structure FaithfulReplay (server : Server Db) (history : List AppliedMigration) (migrationId : String)
    (records : MigrationRecords) (run : ValidatedRebuild) : Prop where
  replayed : ¬ isReplayed records migrationId → isReplayed run.records migrationId →
    (history.map (·.sql)).Sublist run.rebuild.executed
  succeeds : NoneFails server (history.map (·.sql)) → ∃ result, run.answer = .ok result ∧ result.success = true
  cleanable : (∀ result, run.answer = .ok result → result.success = false) → ∀ shadow ∈ run.rebuild.shadow,
    ∃ result, run.answer = .ok result ∧ cleanupShadowDatabase result.shadowDbUrl = some shadow

/-- There is no shadow database, and some statement fails; or its replay of the names is one of the statements
and the migration may be moved; or the tables are not listed, some statement fails and the name can be dropped. -/
def Replays (server : Server Db) (now : Nat) (unreadable : Option DatabaseError) (history : List AppliedMigration)
    (migrationId : String) (records : MigrationRecords) : Prop :=
  match server.connect (shadowName server now) with
  | .error _ => ¬ NoneFails server (history.map (·.sql))
  | .ok db =>
    match (getAppliedMigrations unreadable history).foldlM server.execute db with
    | .error _ => False
    | .ok after =>
      if (server.getTables after).isOk then
        (∃ record ∈ get records migrationId, record.state = .APPROVED) ∧
          getAppliedMigrations unreadable history = history.map (·.sql)
      else
        ¬ NoneFails server (history.map (·.sql)) ∧
          cleanupShadowDatabase (some (shadowName server now)) = some (shadowName server now)

variable {server : Server Db} {db after : Db} {texts : List String} {history : List AppliedMigration}

theorem replay_ok (done : texts.foldlM server.execute db = .ok after) :
    replayAppliedMigrations server db texts = (texts, .ok after) := by
  induction texts generalizing db with
  | nil =>
    cases done
    rfl
  | cons text rest ih =>
    rw [List.foldlM_cons] at done
    cases executed : server.execute db text with
    | error error =>
      rw [executed] at done
      cases done
    | ok next =>
      rw [executed] at done
      simp only [replayAppliedMigrations, executed, ih done]

private theorem replay_error {error : DatabaseError} (failed : texts.foldlM server.execute db = .error error) :
    ∃ executed message, replayAppliedMigrations server db texts = (executed, .error message) := by
  induction texts generalizing db with
  | nil => cases failed
  | cons text rest ih =>
    rw [List.foldlM_cons] at failed
    cases executed : server.execute db text with
    | error error =>
      refine ⟨[], s!"Failed to replay migration: {text} - {error.text}", ?_⟩
      simp only [replayAppliedMigrations, executed]
    | ok next =>
      rw [executed] at failed
      obtain ⟨later, message, replayed⟩ := ih failed
      exact ⟨text :: later, message, by simp only [replayAppliedMigrations, executed, replayed]⟩

/-- As many names as migrations at the most: they are the statements when the statements are among them. -/
theorem names_eq_of_sublist {unreadable : Option DatabaseError}
    (among : (history.map (·.sql)).Sublist (getAppliedMigrations unreadable history)) :
    getAppliedMigrations unreadable history = history.map (·.sql) := by
  refine (among.eq_of_length_le ?_).symm
  cases unreadable with
  | some error => simp [getAppliedMigrations]
  | none => simp [getAppliedMigrations]

/-- A run that reports a failure with this result. -/
theorem faithful_failed {migrationId : String} {records : MigrationRecords} {rebuild : Rebuild}
    (failed : rebuild.result.success = false) :
    FaithfulReplay server history migrationId records { answer := .ok rebuild.result, records, rebuild } ↔
      ¬ NoneFails server (history.map (·.sql)) ∧
        ∀ shadow ∈ rebuild.shadow, cleanupShadowDatabase rebuild.result.shadowDbUrl = some shadow := by
  constructor
  · intro faithful
    refine ⟨fun none => ?_, fun shadow there => ?_⟩
    · obtain ⟨result, answered, success⟩ := faithful.succeeds none
      cases answered
      rw [failed] at success
      cases success
    · obtain ⟨result, answered, cleaned⟩ :=
        faithful.cleanable (by rintro result ⟨⟩; exact failed) shadow there
      cases answered
      exact cleaned
  · rintro ⟨fails, cleaned⟩
    refine ⟨fun before after => absurd after before, fun none => absurd none fails, fun _ shadow there => ?_⟩
    exact ⟨_, rfl, cleaned shadow there⟩

variable {now : Nat} {unreadable : Option DatabaseError}

/-- A run without a connection. -/
theorem rebuild_unconnected (unreadable : Option DatabaseError) (history : List AppliedMigration)
    (migrationId : String) (records : MigrationRecords) {error : DatabaseError}
    (refused : server.connect (shadowName server now) = .error error) :
    ∃ rebuild, rebuildWithValidation server now unreadable history migrationId records =
        { answer := .ok rebuild.result, records, rebuild } ∧
      rebuild.result.success = false ∧ rebuild.shadow = none := by
  refine ⟨{ result := replayFailed error.message }, ?_, rfl, rfl⟩
  simp [rebuildWithValidation, rebuildMigrationState, refused, replayFailed]

/-- A run whose replay fails. -/
theorem rebuild_unreplayed (migrationId : String) (records : MigrationRecords) {error : DatabaseError}
    (connected : server.connect (shadowName server now) = .ok db)
    (failed : (getAppliedMigrations unreadable history).foldlM server.execute db = .error error) :
    ∃ rebuild, rebuildWithValidation server now unreadable history migrationId records =
        { answer := .ok rebuild.result, records, rebuild } ∧
      rebuild.result.success = false ∧ rebuild.result.shadowDbUrl = none ∧
      rebuild.shadow = some (shadowName server now) := by
  obtain ⟨executed, message, replayed⟩ := replay_error failed
  refine ⟨{ result := replayFailed message, shadow := some (shadowName server now), executed }, ?_, rfl, rfl, rfl⟩
  simp [rebuildWithValidation, rebuildMigrationState, connected, rebuildOn, applyBaselineSchema, replayed,
    replayFailed]

/-- A run whose replay is done, and whose validation has these errors. -/
theorem rebuild_replayed (connected : server.connect (shadowName server now) = .ok db)
    (done : (getAppliedMigrations unreadable history).foldlM server.execute db = .ok after) :
    ∃ rebuild, rebuildMigrationState server now (getAppliedMigrations unreadable history)
        { useShadowDb := true, validateSchema := true } = rebuild ∧
      rebuild.result.success = (server.getTables after).isOk ∧
      rebuild.result.shadowDbUrl = some (shadowName server now) ∧ rebuild.shadow = some (shadowName server now) ∧
      rebuild.executed = getAppliedMigrations unreadable history := by
  refine ⟨_, rfl, ?_⟩
  cases tables : server.getTables after with
  | error error =>
    simp [rebuildMigrationState, connected, rebuildOn, applyBaselineSchema, replay_ok done, validateSchemaState,
      tables, Except.isOk, Except.toBool]
  | ok names =>
    simp [rebuildMigrationState, connected, rebuildOn, applyBaselineSchema, replay_ok done, validateSchemaState,
      tables, Except.isOk, Except.toBool]

private theorem approved_of_replayed {state : MigrationState}
    (allowed : .REPLAYED ∈ MigrationStateMachine.transitions state) : state = .APPROVED := by
  cases state <;> first | rfl | exact absurd allowed (by decide)

/-- A run is faithful just when the names that it replays are the statements and nothing fails, or a statement
fails and nothing is left behind. -/
theorem replay_faithful_iff (server : Server Db) (now : Nat) (unreadable : Option DatabaseError)
    (history : List AppliedMigration) (migrationId : String) (records : MigrationRecords) :
    FaithfulReplay server history migrationId records
        (rebuildWithValidation server now unreadable history migrationId records) ↔
      Replays server now unreadable history migrationId records := by
  unfold Replays
  cases connected : server.connect (shadowName server now) with
  | error error =>
    obtain ⟨rebuild, ran, failed, shadow⟩ := rebuild_unconnected unreadable history migrationId records connected
    rw [ran, faithful_failed failed, shadow]
    simp
  | ok db =>
    dsimp only
    cases done : (getAppliedMigrations unreadable history).foldlM server.execute db with
    | error error =>
      obtain ⟨rebuild, ran, failed, url, shadow⟩ := rebuild_unreplayed migrationId records connected done
      rw [ran, faithful_failed failed, url, shadow]
      simp [cleanupShadowDatabase]
    | ok after =>
      obtain ⟨rebuild, built, success, url, shadow, executed⟩ := rebuild_replayed connected done
      by_cases listed : (server.getTables after).isOk = true
      · rw [listed] at success
        simp only [listed, if_true]
        rw [rebuildWithValidation, built, if_pos success]
        rcases MigrationStateRuntime.updateState_cases now migrationId .REPLAYED none none records with
          ⟨record, found, allowed, moved⟩ | ⟨refused, message, kept⟩
        · have approved := approved_of_replayed allowed
          rw [moved]
          constructor
          · intro faithful
            refine ⟨⟨record, found, approved⟩, names_eq_of_sublist ?_⟩
            rw [← executed]
            apply faithful.replayed
            · simp [isReplayed, found, approved]
            · simp [isReplayed, MigrationStateRuntime.moved]
          · rintro ⟨-, same⟩
            refine ⟨fun _ _ => ?_, fun _ => ⟨_, rfl, success⟩, fun unsuccessful => ?_⟩
            · show List.Sublist _ rebuild.executed
              rw [executed, same]
            · exact absurd (success.symm.trans (unsuccessful _ rfl)) (Ne.symm Bool.false_ne_true)
        · rw [kept]
          constructor
          · intro faithful
            obtain ⟨result, answered, -⟩ := faithful.cleanable (by rintro result ⟨⟩) _ shadow
            cases answered
          · rintro ⟨⟨record, found, approved⟩, -⟩
            refine absurd ?_ (refused record found)
            rw [approved]
            decide
      · have failed : rebuild.result.success = false := success.trans (Bool.eq_false_iff.mpr listed)
        dsimp only
        have unsuccessful : ¬ rebuild.result.success = true := by simp [failed]
        rw [if_neg listed, rebuildWithValidation, built, if_neg unsuccessful, faithful_failed failed, shadow, url]
        simp

end Faithful

/-- A database is the list of what is executed on it; a statement has a blank, and a name has none. -/
def sampleServer (databases : List String) : Server (List String) where
  database := "drivers"
  main := []
  empty := []
  connect name :=
    if name ∈ databases then .ok [] else .error ⟨"error", "database \"" ++ name ++ "\" does not exist"⟩
  execute db text :=
    if ' ' ∈ text.toList then .ok (db ++ [text]) else .error ⟨"QueryFailedError", "syntax error at or near " ++ text⟩
  getTables _ := .ok ["outbox", "outbox_archive"]
  foreignKeys _ := .ok []

def createDrivers : AppliedMigration :=
  { name := "CreateDrivers1700000000000", sql := "CREATE TABLE drivers (id uuid)" }

def approvedMigration : MigrationRecords := [("m", { migrationId := "m", state := .APPROVED, startedAt := 0 })]

def unreadableHistory : DatabaseError := ⟨"QueryFailedError", "column \"executed_at\" does not exist"⟩

/-- The shadow database is never created. Where there is one, an unreadable history is replayed as an empty one. -/
theorem replay_is_unfaithful :
    ¬ FaithfulReplay (sampleServer []) [createDrivers] "m" approvedMigration
        (rebuildWithValidation (sampleServer []) 0 none [createDrivers] "m" approvedMigration) ∧
      ¬ FaithfulReplay (sampleServer ["drivers_shadow_0"]) [createDrivers] "m" approvedMigration
        (rebuildWithValidation (sampleServer ["drivers_shadow_0"]) 0 (some unreadableHistory) [createDrivers] "m"
          approvedMigration) := by
  constructor
  · intro faithful
    obtain ⟨result, answered, success⟩ := faithful.succeeds ⟨["CREATE TABLE drivers (id uuid)"], by decide⟩
    have failed : (rebuildWithValidation (sampleServer []) 0 none [createDrivers] "m"
        approvedMigration).answer.toOption.all (!·.success) = true := by decide
    rw [answered] at failed
    simp [Except.toOption, success] at failed
  · intro faithful
    have among := faithful.replayed (by decide) (by decide)
    revert among
    decide

end DriverMicroServices.SchemaEngine
