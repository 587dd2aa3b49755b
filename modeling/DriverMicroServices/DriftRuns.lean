import DriverMicroServices.SchemaDrift
import DriverMicroServices.Transitions

/-! The analysis of drift in the background, and the status that its cache answers. A success is
looked at before a failure, whichever came later. -/
namespace DriverMicroServices.Drift
open Transitions

inductive DriftStatus where
  | HEALTHY
  | DEGRADED
  | FAILED
  | UNKNOWN
deriving DecidableEq

structure DriftCache where
  cachedDrift : Option DriftReport := none
  lastRun : Option Int := none
  lastError : Option String := none
  lastErrorTime : Option Int := none
  lastDurationMs : Option Int := none

structure CachedStatus where
  report : Option DriftReport
  lastRun : Option Int
  lastDurationMs : Option Int
  status : DriftStatus
  error : Option String := none

def maxAge : Int := 5 * 60 * 1000

def DriftReport.hasDrift (report : DriftReport) : Bool :=
  report.entityDrift || report.migrationDrift || report.schemaDrift

namespace DriftCache

def update (_ : DriftCache) (driftReport : DriftReport) (durationMs now : Int) : DriftCache :=
  { cachedDrift := driftReport, lastRun := now, lastDurationMs := durationMs }

def markFailed (cache : DriftCache) (error : String) (now : Int) : DriftCache :=
  { cache with lastError := error, lastErrorTime := now }

/-- A report that is less than five minutes old. -/
def recentReport (cache : DriftCache) (now : Int) : Option DriftReport :=
  match cache.cachedDrift, cache.lastRun with
  | some report, some lastRun => if now - lastRun < maxAge then some report else none
  | _, _ => none

def recentError (cache : DriftCache) (now : Int) : Option String :=
  match cache.lastError, cache.lastErrorTime with
  | some error, some lastErrorTime => if now - lastErrorTime < maxAge then some error else none
  | _, _ => none

def get (cache : DriftCache) (now : Int) : CachedStatus :=
  match cache.recentReport now with
  | some report =>
    { report, lastRun := cache.lastRun, lastDurationMs := cache.lastDurationMs
      status := if report.hasDrift then .DEGRADED else .HEALTHY }
  | none =>
    match cache.recentError now with
    | some error =>
      { report := cache.cachedDrift, lastRun := cache.lastRun, lastDurationMs := cache.lastDurationMs
        status := .DEGRADED, error := some ("Drift check failed: " ++ error) }
    | none =>
      { report := cache.cachedDrift, lastRun := cache.lastRun, lastDurationMs := cache.lastDurationMs
        status := .UNKNOWN, error := some "No recent drift data available" }

end DriftCache

def validateResolution (checks : DriftChecks) : Except String Bool :=
  (checkFullDrift checks).map fun driftReport =>
    !driftReport.entityDrift && !driftReport.migrationDrift && !driftReport.schemaDrift

/-- The engine and its cache; `finished` is the last run that has ended, with its end. -/
structure DriftEngineState where
  clock : Int := 0
  running : Bool := false
  cache : DriftCache := {}
  finished : Option (DriftChecks × Int) := none

inductive DriftAction where
  /-- The timer calls `runBackgroundDriftAnalysis`. -/
  | start (now : Int)
  /-- The run that is going on comes to its end. -/
  | finish (checks : DriftChecks) (durationMs now : Int)

def driftStep (s : DriftEngineState) : DriftAction → Option DriftEngineState
  | .start now => if now < s.clock then none else some { s with clock := now, running := true }
  | .finish checks durationMs now =>
    if s.running = false ∨ now < s.clock then none
    else
      let cache :=
        match checkFullDrift checks with
        | .ok driftReport => s.cache.update driftReport durationMs now
        | .error error => s.cache.markFailed error now
      some { clock := now, running := false, cache, finished := some (checks, now) }

/-- The checks that report a difference of a table. -/
def DetailedSchemaDiff.finds (diff : DetailedSchemaDiff) : Bool := diff.differences.any (·.table ≠ "")

/-- All checks have run, and found nothing. -/
def Passed (checks : DriftChecks) : Prop :=
  checks.isInitialized = true ∧ checks.showMigrations = .ok false ∧
    ∃ diff, checks.detailedDiff = .ok diff ∧ diff.finds = false

/-- From now on, and until the next action, `HEALTHY` means that the last run has passed, less than
five minutes ago. -/
def HealthyMeans (s : DriftEngineState) : Prop :=
  ∀ now, s.clock ≤ now → (s.cache.get now).status = .HEALTHY →
    ∃ checks ended, s.finished = some (checks, ended) ∧ Passed checks ∧ now - ended < maxAge

/-- No check fails, or another one finds drift. -/
def Trusted (checks : DriftChecks) : Prop :=
  (∃ pending diff, checks.showMigrations = .ok pending ∧ checks.detailedDiff = .ok diff) ∨
    checks.showMigrations = .ok true ∨ ∃ diff, checks.detailedDiff = .ok diff ∧ diff.finds = true

/-- A run that comes to a report ends with trusted checks. One that fails ends when the last report
has drift or is five minutes old. -/
def EndsWell (s : DriftEngineState) : DriftAction → Prop
  | .start _ => True
  | .finish checks _ now =>
    if checks.isInitialized then Trusted checks
    else ∀ report ∈ s.cache.recentReport now, report.hasDrift = true

section Status

variable {cache : DriftCache} {checks : DriftChecks} {s s' : DriftEngineState} {action : DriftAction}

theorem status_healthy {now : Int} :
    (cache.get now).status = .HEALTHY ↔ ∃ report ∈ cache.recentReport now, report.hasDrift = false := by
  unfold DriftCache.get
  cases cache.recentReport now with
  | none => cases cache.recentError now <;> simp
  | some report => cases report.hasDrift <;> simp

private theorem recentReport_update {report : DriftReport} {durationMs ended now : Int} :
    (cache.update report durationMs ended).recentReport now =
      if now - ended < maxAge then some report else none := rfl

private theorem recentReport_markFailed {error : String} {ended now : Int} :
    (cache.markFailed error ended).recentReport now = cache.recentReport now := rfl

/-- A report that is recent later is recent before. -/
theorem recentReport_earlier {report : DriftReport} {now later : Int} (after : now ≤ later)
    (recent : report ∈ cache.recentReport later) : report ∈ cache.recentReport now := by
  unfold DriftCache.recentReport at recent ⊢
  split at recent
  · split at recent
    · rename_i young
      rwa [if_pos (by omega)]
    · cases recent
  · cases recent

theorem hasDrift_driftReport (migrationDrift : Bool) (diff : Option DetailedSchemaDiff) :
    (driftReport migrationDrift diff).hasDrift = (migrationDrift || diff.any (·.finds)) := by
  cases diff with
  | none => cases migrationDrift <;> rfl
  | some diff =>
    have flag : decide (0 < (diff.differences.filter (·.table ≠ "")).length) = diff.finds := by
      rw [DetailedSchemaDiff.finds, Bool.eq_iff_iff, decide_eq_true_eq, List.length_pos_iff_exists_mem]
      simp
    change (decide (0 < (diff.differences.filter (·.table ≠ "")).length) || migrationDrift ||
      decide (0 < (diff.differences.filter (·.table ≠ "")).length)) = (migrationDrift || diff.finds)
    rw [flag]
    cases migrationDrift <;> simp

/-- What a check reports that finds the data source ready. -/
theorem checkFullDrift_ready (ready : checks.isInitialized = true) :
    ∃ report, checkFullDrift checks = .ok report ∧
      report.hasDrift = ((checks.showMigrations.toOption.getD false) || checks.detailedDiff.toOption.any (·.finds)) := by
  unfold checkFullDrift checkMigrationDrift
  rw [ready]
  cases checks.showMigrations with
  | error message => exact ⟨_, rfl, hasDrift_driftReport false _⟩
  | ok pending => exact ⟨_, rfl, hasDrift_driftReport pending _⟩

/-- A report without drift stands for passed checks just when the checks are trusted. -/
theorem trusted_iff (ready : checks.isInitialized = true) :
    (∀ report, checkFullDrift checks = .ok report → report.hasDrift = false → Passed checks) ↔ Trusted checks := by
  obtain ⟨report, checked, drift⟩ := checkFullDrift_ready ready
  have stated : (∀ report, checkFullDrift checks = .ok report → report.hasDrift = false → Passed checks) ↔
      (report.hasDrift = false → Passed checks) := by simp [checked]
  rw [stated, drift]
  unfold Passed Trusted
  cases checks.showMigrations with
  | error message =>
    cases checks.detailedDiff with
    | error text => simp [Except.toOption]
    | ok diff => cases finds : diff.finds <;> simp [Except.toOption, finds]
  | ok pending =>
    cases checks.detailedDiff with
    | error text => cases pending <;> simp [Except.toOption]
    | ok diff =>
      cases pending <;> simp [Except.toOption, ready]

theorem step_healthy (held : HealthyMeans s) (stepped : driftStep s action = some s') :
    HealthyMeans s' ↔ EndsWell s action := by
  cases action with
  | start now =>
    simp only [driftStep] at stepped
    split at stepped
    · cases stepped
    · rename_i onward
      cases stepped
      refine ⟨fun _ => trivial, fun _ later after => held later ?_⟩
      exact Int.le_trans (Int.not_lt.mp onward) after
  | finish checks durationMs now =>
    simp only [driftStep] at stepped
    split at stepped
    · cases stepped
    cases stepped
    cases ready : checks.isInitialized with
    | true =>
      obtain ⟨report, checked, -⟩ := checkFullDrift_ready ready
      simp only [EndsWell, ready, if_true, checked, ← trusted_iff ready, Except.ok.injEq, forall_eq']
      unfold HealthyMeans
      simp only [status_healthy, recentReport_update, Option.some.injEq, Prod.mk.injEq]
      constructor
      · intro means clean
        obtain ⟨_, _, ⟨rfl, rfl⟩, passed, -⟩ := means now (Int.le_refl now) ⟨report, by simp [maxAge], clean⟩
        exact passed
      · rintro sound later after ⟨recent, member, clean⟩
        split at member
        · rename_i young
          cases member
          exact ⟨checks, now, ⟨rfl, rfl⟩, sound clean, young⟩
        · cases member
    | false =>
      have failed : checkFullDrift checks = .error "DataSource not initialized" := by
        simp [checkFullDrift, checkMigrationDrift, ready, Except.map]
      simp only [EndsWell, ready, failed, Bool.false_eq_true, if_false]
      unfold HealthyMeans
      simp only [status_healthy, recentReport_markFailed, Option.some.injEq, Prod.mk.injEq]
      constructor
      · intro means report member
        by_contra clean
        obtain ⟨_, _, ⟨rfl, rfl⟩, passed, -⟩ :=
          means now (Int.le_refl now) ⟨report, member, by simpa using clean⟩
        rw [passed.1] at ready
        cases ready
      · rintro drift later after ⟨report, member, clean⟩
        have dirty := drift report (recentReport_earlier after member)
        rw [clean] at dirty
        cases dirty

end Status

/-- Over a run `HEALTHY` always means that the last run has passed, if and only if every run ends
well. A resolution is valid only for passed checks, if and only if the checks are trusted. -/
theorem healthy_iff (actions : List DriftAction) (checks : DriftChecks) :
    ((∀ taken ∈ trace driftStep {} actions, HealthyMeans taken.after) ↔
        ∀ taken ∈ trace driftStep {} actions, EndsWell taken.before taken.action) ∧
      ((validateResolution checks = .ok true → Passed checks) ↔ (checks.isInitialized = true → Trusted checks)) := by
  constructor
  · have start : HealthyMeans {} := by
      intro now _ healthy
      obtain ⟨report, none, -⟩ := status_healthy.mp healthy
      cases none
    exact trace_exact (fun held stepped => step_healthy held stepped)
      (fun held well stepped => (step_healthy held stepped).mpr well) start
  · cases ready : checks.isInitialized with
    | false =>
      have failed : validateResolution checks = .error "DataSource not initialized" := by
        simp [validateResolution, checkFullDrift, checkMigrationDrift, ready, Except.map]
      simp [failed]
    | true =>
      obtain ⟨report, checked, -⟩ := checkFullDrift_ready ready
      rw [← trusted_iff ready]
      simp [validateResolution, checked, DriftReport.hasDrift, Except.map, and_assoc]

def noDifferences : DetailedSchemaDiff := getDetailedSchemaDiff id [] []

/-- Both queries fail, and the status is healthy and the resolution valid. A run that fails as a whole
leaves the status of the run before it. -/
theorem failed_checks_healthy :
    let failing : DriftChecks := { showMigrations := .error "timeout", detailedDiff := .error "timeout" }
    let passing : DriftChecks := { showMigrations := .ok false, detailedDiff := .ok noDifferences }
    (∃ s, run driftStep {} [.start 0, .finish failing 5 10] = some s ∧ (s.cache.get 20).status = .HEALTHY) ∧
      validateResolution failing = .ok true ∧
      ∃ s, run driftStep {} [.start 0, .finish passing 5 10, .start 120000,
          .finish { passing with isInitialized := false } 5 120010] = some s ∧
        (s.cache.get 120020).status = .HEALTHY :=
  ⟨⟨_, rfl, by decide⟩, rfl, _, rfl, by decide⟩

end DriverMicroServices.Drift
