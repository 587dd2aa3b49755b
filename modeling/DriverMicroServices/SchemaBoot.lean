import DriverMicroServices.BackfillWorkers
import DriverMicroServices.SchemaConvergence

/-! The boot sequence of the schema control plane. Any number of instances boot on one database, in any
order and again after a crash. No boot changes a table: an instance that is strict serves only where
each critical table was there, or a view of its name, before the first of them started. -/
namespace DriverMicroServices.SchemaControlPlane
open Drift SchemaClassification SchemaOrchestrator Transitions

def criticalTables : List String :=
  ["drivers", "deliveries", "assignments", "admin_users", "cities", "zones", "audit_logs"]

/-- The tables and the views. -/
def listed (database : SchemaDatabase) (executed : List String) : List String :=
  database.tables executed ++ database.views executed

/-- An instance of the service; `strict` is its `STRICT_SCHEMA`. -/
structure Instance where
  entities : List EntityMetadata
  strict : Bool

/-- Where an instance stands in `onApplicationBootstrap`. -/
inductive Boot where
  | checkDataSourceConnection
  | checkSchemaVersion
  | acquireLock
  | checkAndRepairDrift
  | detectSchemaDiff
  /-- The statements that `executeFastPhases` has still to execute. -/
  | executeMigration (rest : List (PhaseName × SchemaOperation))
  /-- The tables that `validateCriticalSchema` has still to find. -/
  | validateCriticalSchema (rest : List String)
  | completed
  /-- It goes on after a failure. -/
  | continued
  | exited

/-- What the database answers to an instance. -/
inductive Reply where
  | ok
  | failed
  /-- `pg_try_advisory_lock`; another process may have it. -/
  | lock (acquired : Bool)
  | drift (checks : DriftChecks)

def Instance.fail (self : Instance) : Boot := if self.strict then .exited else .continued

/-- The next query of a boot, and the statements that have been executed then. -/
def Boot.next (upper : UpperCase) (lower : String → String) (database : SchemaDatabase) (self : Instance)
    (executed : List String) : Boot → Reply → Option (Boot × List String)
  | .completed, _ | .continued, _ | .exited, _ => none
  | _, .failed => some (self.fail, executed)
  | .checkDataSourceConnection, .ok => some (.checkSchemaVersion, executed)
  | .checkSchemaVersion, .ok => some (.acquireLock, executed)
  | .acquireLock, .lock true => some (.checkAndRepairDrift, executed)
  | .acquireLock, .lock false => some (.validateCriticalSchema criticalTables, executed)
  | .checkAndRepairDrift, .drift checks =>
    match checkFullDrift checks with
    | .ok _ => some (.detectSchemaDiff, executed)
    | .error _ => some (self.fail, executed)
  | .detectSchemaDiff, .ok =>
    let diff := SchemaOrchestrator.detectSchemaDiff lower self.entities (database.tables executed)
    let classified := SchemaClassification.classifyOperations upper diff.up
    if diff.up.length = 0 then some (.validateCriticalSchema criticalTables, executed)
    else if (SchemaOrchestrator.validateMigrationPlan classified).errors ≠ [] then some (self.fail, executed)
    else some (.executeMigration (fastStatements (runtimePlan classified)), executed)
  | .executeMigration (placed :: rest), .ok =>
    if database.takes executed placed.2.sql then
      some (.executeMigration rest, executed ++ [placed.2.sql])
    else some (self.fail, executed)
  -- the jobs of the data phase are saved
  | .executeMigration [], .ok => some (.validateCriticalSchema criticalTables, executed)
  | .validateCriticalSchema (table :: rest), .ok =>
    if table ∈ listed database executed then some (.validateCriticalSchema rest, executed)
    else some (self.fail, executed)
  | .validateCriticalSchema [], .ok => some (.completed, executed)
  | _, _ => none

/-- The statements that any instance has executed, and the boots. -/
structure Fleet where
  executed : List String := []
  boot : Nat → Option Boot := fun _ => none

inductive FleetAction where
  /-- The process of an instance starts, for the first time or again. -/
  | start (n : Nat)
  | reply (n : Nat) (reply : Reply)

def Fleet.put (s : Fleet) (n : Nat) (boot : Boot) : Fleet :=
  { s with boot := fun m => if m = n then some boot else s.boot m }

section Fleet

variable (upper : UpperCase) (lower : String → String) (database : SchemaDatabase) (instances : Nat → Instance)

def fleetStep (s : Fleet) : FleetAction → Option Fleet
  | .start n => some (s.put n .checkDataSourceConnection)
  | .reply n reply => do
    let boot ← s.boot n
    let (next, executed) ← boot.next upper lower database (instances n) s.executed reply
    return { s with executed }.put n next

end Fleet

/-- The instance takes requests. -/
def Boot.Serves : Boot → Prop
  | .completed | .continued => True
  | _ => False

/-- A comment of one line. -/
def Remark (text : String) : Prop := ∃ rest, OneLine rest ∧ text = "--" ++ rest

section Boots

variable {upper : UpperCase} {lower : String → String} {database : SchemaDatabase} {instances : Nat → Instance}

/-- No name of a table that an instance would create or drop has an end of a line in it. -/
def PlainNames (lower : String → String) (database : SchemaDatabase) (self : Instance) : Prop :=
  let diff := SchemaOrchestrator.detectSchemaDiff lower self.entities (database.tables [])
  ∀ name ∈ diff.newTables ++ diff.droppedTables, OneLine name

/-- What holds of a boot, wherever it stands. -/
def Boot.Sound (database : SchemaDatabase) (self : Instance) : Boot → Prop
  | .executeMigration rest => ∀ placed ∈ rest, Remark placed.2.sql
  | .validateCriticalSchema rest => ∀ table ∈ criticalTables, table ∈ rest ∨ table ∈ listed database []
  | .completed => ∀ table ∈ criticalTables, table ∈ listed database []
  | .continued => self.strict = false
  | _ => True

/-- What every boot keeps. -/
structure Fleet.Sound (database : SchemaDatabase) (instances : Nat → Instance) (s : Fleet) : Prop where
  remarks : ∀ text ∈ s.executed, Remark text
  boots : ∀ n, ∀ boot ∈ s.boot n, boot.Sound database (instances n)

private theorem sound_fail (self : Instance) : self.fail.Sound database self := by
  unfold Instance.fail
  split
  · trivial
  · rename_i lenient
    simpa [Boot.Sound] using lenient

/-- What a boot executes is a comment, and it stays sound. -/
theorem sound_next {self : Instance} {executed after : List String} {boot next : Boot} {reply : Reply}
    (plain : PlainNames lower database self) (kept : database.tables executed = database.tables [] ∧ database.views executed = database.views [])
    (remarks : ∀ text ∈ executed, Remark text) (sound : boot.Sound database self)
    (answered : boot.next upper lower database self executed reply = some (next, after)) :
    (∀ text ∈ after, Remark text) ∧ next.Sound database self := by
  have validating : (Boot.validateCriticalSchema criticalTables).Sound database self := fun _ => .inl
  have failing : self.fail.Sound database self := sound_fail self
  cases reply with
  | failed =>
    cases boot <;> cases answered <;> exact ⟨remarks, failing⟩
  | lock acquired =>
    cases boot <;> cases acquired <;> cases answered
    · exact ⟨remarks, validating⟩
    · exact ⟨remarks, trivial⟩
  | drift checks =>
    cases boot <;> try cases answered
    simp only [Boot.next] at answered
    split at answered <;> cases answered
    · exact ⟨remarks, trivial⟩
    · exact ⟨remarks, failing⟩
  | ok =>
    cases boot with
    | checkDataSourceConnection | checkSchemaVersion =>
      cases answered
      exact ⟨remarks, trivial⟩
    | acquireLock | checkAndRepairDrift | completed | continued | exited => cases answered
    | detectSchemaDiff =>
      simp only [Boot.next, kept.1] at answered
      split at answered
      · cases answered
        exact ⟨remarks, validating⟩
      split at answered <;> cases answered
      · exact ⟨remarks, failing⟩
      · exact ⟨remarks, fun placed member => comment_of_up plain (mem_up_of_placed (List.mem_filter.mp member).1)⟩
    | executeMigration rest =>
      cases rest with
      | nil =>
        cases answered
        exact ⟨remarks, validating⟩
      | cons placed rest =>
        simp only [Boot.next] at answered
        split at answered <;> cases answered
        · refine ⟨fun text member => ?_, fun later member => sound later (List.mem_cons_of_mem _ member)⟩
          rcases List.mem_append.mp member with before | now
          · exact remarks text before
          · rw [List.mem_singleton.mp now]
            exact sound placed List.mem_cons_self
        · exact ⟨remarks, failing⟩
    | validateCriticalSchema rest =>
      cases rest with
      | nil =>
        cases answered
        exact ⟨remarks, fun table critical => (sound table critical).resolve_left List.not_mem_nil⟩
      | cons table rest =>
        simp only [Boot.next, listed, kept.1, kept.2] at answered
        split at answered <;> cases answered
        · rename_i found
          refine ⟨remarks, fun other critical => ?_⟩
          rcases sound other critical with left | there
          · rcases List.mem_cons.mp left with rfl | left
            · exact .inr found
            · exact .inl left
          · exact .inr there
        · exact ⟨remarks, failing⟩

/-- Comments leave the tables and the views as they are. -/
theorem Fleet.Sound.kept {s : Fleet} (sound : s.Sound database instances) :
    database.tables s.executed = database.tables [] ∧ database.views s.executed = database.views [] := by
  simpa using @comments_keep database [] s.executed sound.remarks

theorem sound_put {s : Fleet} {n : Nat} {boot : Boot} (sound : s.Sound database instances)
    (here : boot.Sound database (instances n)) : (s.put n boot).Sound database instances := by
  refine ⟨sound.remarks, fun m other at_m => ?_⟩
  by_cases same : m = n
  · subst same
    obtain rfl : boot = other := by simpa [Fleet.put] using at_m
    exact here
  · exact sound.boots m other (by simpa [Fleet.put, same] using at_m)

private theorem sound_step {s s' : Fleet} {action : FleetAction} (plain : ∀ n, PlainNames lower database (instances n))
    (sound : s.Sound database instances)
    (stepped : fleetStep upper lower database instances s action = some s') : s'.Sound database instances := by
  cases action with
  | start n =>
    cases stepped
    exact sound_put sound trivial
  | reply n reply =>
    obtain ⟨boot, at_n, stepped⟩ := Option.bind_eq_some_iff.mp stepped
    obtain ⟨⟨next, after⟩, answered, stepped⟩ := Option.bind_eq_some_iff.mp stepped
    cases stepped
    obtain ⟨remarks, here⟩ := sound_next (plain n) sound.kept sound.remarks (sound.boots n boot at_n) answered
    have executed : Fleet.Sound database instances { s with executed := after } := ⟨remarks, sound.boots⟩
    exact sound_put executed here

/-- However many instances boot, in whichever order and however often: the tables stay as they were, and
an instance that serves has found every critical table among them and the views, or it goes on after a
failure and is not strict. -/
theorem boots_create_nothing {s : Fleet} {actions : List FleetAction}
    (plain : ∀ n, PlainNames lower database (instances n))
    (ran : run (fleetStep upper lower database instances) {} actions = some s) :
    database.tables s.executed = database.tables [] ∧
      ∀ n, ∀ boot ∈ s.boot n, boot.Serves →
        (∀ table ∈ criticalTables, table ∈ listed database []) ∨ boot = .continued ∧ (instances n).strict = false := by
  have sound : s.Sound database instances :=
    run_inv (fun sound _ stepped => sound_step plain sound stepped) ⟨by simp, by simp⟩ admits_true ran
  refine ⟨sound.kept.1, fun n boot at_n serves => ?_⟩
  have here := sound.boots n boot at_n
  cases boot with
  | completed => exact .inl here
  | continued => exact .inr ⟨rfl, here⟩
  | _ => exact serves.elim

end Boots

/-- A fresh database, where one instance is strict and the other is not. -/
def freshFleet (n : Nat) : Instance := { entities := [{ tableName := "users", columns := [] }], strict := n = 0 }

/-- Both boot side by side. What they execute is a comment; one exits, and the other serves without a table. -/
theorem boots_create_nothing_fresh :
    let replies : List Reply := [.ok, .ok, .lock true, .drift (unmoved []).checks, .ok, .ok, .ok, .ok]
    let actions := [.start 0, .start 1] ++ replies.flatMap fun reply => [.reply 0 reply, .reply 1 reply]
    ∃ s, run (fleetStep UpperCase.basic String.toLower (unmoved []) freshFleet) {} actions = some s ∧
      s.executed = ["-- CREATE TABLE users", "-- CREATE TABLE users"] ∧ s.boot 0 = some .exited ∧
      ((∀ table ∈ criticalTables, table ∈ listed (unmoved []) []) ∨
        Boot.continued = .continued ∧ (freshFleet 1).strict = false) := by
  intro replies actions
  have plain (n : Nat) : PlainNames String.toLower (unmoved []) (freshFleet n) := by
    show ∀ name ∈ ["users"], OneLine name
    decide
  refine ⟨_, rfl, rfl, rfl, ?_⟩
  exact (@boots_create_nothing UpperCase.basic _ _ _ _ actions plain rfl).2 1 .continued rfl trivial

end DriverMicroServices.SchemaControlPlane
