import DriverMicroServices.DispatchConfigs
import DriverMicroServices.DriverStats

/-! `DispatchScoringService`: scores of drivers that hold for an hour. A score that
still holds is overwritten, one that has expired is left behind, and a new row is
appended. So the table keeps the history of every driver, of which only the last
row can hold. -/
namespace DriverMicroServices
open Tables

inductive ScoreType where
  | overall | completionRate | timing | quality
  deriving DecidableEq, Repr

inductive ScoreSource where
  | driverStats | deliveryMetrics | manualAdjustment
  deriving DecidableEq, Repr

/-- One number for each factor of a score: the factors, or their weights. -/
structure ScoreFactors where
  completionRate : Rat
  timing : Rat
  quality : Rat
  deriving DecidableEq

/-- A row of `dispatch_scores`. -/
structure DispatchScore where
  driverId : Uuid
  scoreType : ScoreType := .overall
  score : Rat
  scoreSource : ScoreSource := .driverStats
  weightFactor : Rat := 1
  decayFactor : Rat := 1
  lastCalculatedAt : Time
  validUntil : Time
  metadata : Option ScoreFactors := none
  deriving DecidableEq

abbrev Scores := Table DispatchScore

/-- What a query meets outside the table of scores: the clock, the other tables and
the orders in which the query for one row and the query for a list scan them. -/
structure Moment where
  now : Time
  stats : Uuid → Option DriverStats
  configs : Configs
  configScan : List Nat
  scan : Scores → List Nat
  listing : Scores → List Nat
  scans : ∀ scores, (scan scores).Perm scores.ids
  lists : ∀ scores, (listing scores).Perm scores.ids

/-- The order of the table itself will do. -/
theorem scans_ids (scores : Scores) : (Table.ids scores).Perm scores.ids := .rfl

/-- The table of scores, the number of queries so far, and the scores that were
calculated, the last one first. -/
structure ScoreLog where
  scores : Scores := Table.ofList []
  asked : Nat := 0
  calculated : List DispatchScore := []

/-- The arguments of `getTopDrivers` that it looks at. -/
structure TopCriteria where
  limit : Nat := 10
  minScore : Rat := 50

namespace DispatchScoringService

def defaultWeights : ScoreFactors := ⟨4 / 10, 3 / 10, 3 / 10⟩

/-- `value || fallback`. -/
def orElse (value : Option Rat) (fallback : Rat) : Rat := (value.filter (· ≠ 0)).getD fallback

def getScoringWeights (m : Moment) (driverId : Uuid) : ScoreFactors :=
  let config :=
    DispatchConfigService.getConfig m.configs m.configScan .scoringWeights (some driverId)
  { completionRate := orElse config.completionRate defaultWeights.completionRate
    timing := orElse config.timing defaultWeights.timing
    quality := orElse config.quality defaultWeights.quality }

def calculateCompletionRateScore (driverStats : DriverStats) : Rat :=
  let totalAssignments := driverStats.acceptanceCount
  if totalAssignments = 0 then 50
  else min 100 (max 0 (driverStats.completedDeliveries / totalAssignments * 100))

def calculateTimingScore (driverStats : DriverStats) : Rat :=
  let avgPickupTime := driverStats.avgPickupTimeSeconds
  let avgTotalTime := driverStats.avgDeliveryTimeSeconds
  if avgPickupTime = 0 ∨ avgTotalTime = 0 then 70
  else
    let pickupScore : Rat := max 0 (100 - avgPickupTime / 60 * 5)
    let totalTimeScore : Rat := max 0 (100 - avgTotalTime / 3600 * 10)
    (pickupScore + totalTimeScore) / 2

def calculateQualityScore (driverStats : DriverStats) : Rat :=
  let totalAssignments := driverStats.acceptanceCount
  if totalAssignments = 0 then 80
  else
    let qualityRate : Rat :=
      1 - (driverStats.failedDeliveries + driverStats.cancelledDeliveries) / totalAssignments
    min 100 (max 0 (qualityRate * 100))

/-- `Math.round`. -/
def round (value : Rat) : Int := (value + 1 / 2).floor

def calculateWeightedScore (scores weights : ScoreFactors) : Rat :=
  let weightedSum := scores.completionRate * weights.completionRate +
    scores.timing * weights.timing + scores.quality * weights.quality
  round (weightedSum * 100) / 100

def applyScoreDecay (now : Time) (score : Rat) : Option Time → Rat
  | none => score
  | some lastActivity =>
    let daysSinceActivity := (now - lastActivity) / (1000 * 60 * 60 * 24)
    if daysSinceActivity ≤ 0 then score
    else
      let decayDays := (min daysSinceActivity 30).toNat
      let decayMultiplier : Rat := (95 / 100) ^ decayDays
      max 0 (round (score * decayMultiplier * 100) / 100)

def factors (driverStats : DriverStats) : ScoreFactors where
  completionRate := calculateCompletionRateScore driverStats
  timing := calculateTimingScore driverStats
  quality := calculateQualityScore driverStats

/-- The `findOne` of `createOrUpdateDispatchScore` and `getCurrentScore`. -/
def findNewest (m : Moment) (scores : Scores) (driverId : Uuid) : Option (Nat × DispatchScore) :=
  scores.newest (m.scan scores)
    (fun _ score => score.driverId = driverId ∧ score.scoreType = .overall) (·.lastCalculatedAt)

/-- The row that `createOrUpdateDispatchScore` saves, over an existing one or as a new one. -/
def scored (now : Time) (driverId : Uuid) (overall : Rat) (factors : ScoreFactors) :
    Option DispatchScore → DispatchScore
  | some existingScore =>
    { existingScore with
      score := overall
      lastCalculatedAt := now
      validUntil := now + 60 * 60 * 1000
      metadata := some factors }
  | none =>
    { driverId
      score := overall
      lastCalculatedAt := now
      validUntil := now + 60 * 60 * 1000
      metadata := some factors }

/-- A `numeric(5, 2)` holds the score. -/
def Fits (score : Rat) : Prop := |score| < 1000

instance (score : Rat) : Decidable (Fits score) := inferInstanceAs (Decidable (_ < _))

def createOrUpdateDispatchScore (m : Moment) (scores : Scores) (driverId : Uuid) (overall : Rat)
    (factors : ScoreFactors) : Except Exception (DispatchScore × Scores) :=
  if Fits overall then
    let existing := (findNewest m scores driverId).filter fun found => m.now < found.2.validUntil
    let dispatchScore := scored m.now driverId overall factors (existing.map Prod.snd)
    match existing with
    | some (id, _) =>
      .ok (dispatchScore, scores.update (fun id' _ => id' = id) fun _ => dispatchScore)
    | none => .ok (dispatchScore, scores.insert dispatchScore)
  else .error (.error "numeric field overflow")

/-- The score of a driver by his statistics. -/
def overallScore (m : Moment) (driverId : Uuid) (driverStats : DriverStats) : Rat :=
  applyScoreDecay m.now
    (calculateWeightedScore (factors driverStats) (getScoringWeights m driverId))
    driverStats.lastDeliveryAt

variable (w : Nat → Moment)

def calculateDispatchScore (s : ScoreLog) (driverId : Uuid) :
    Except Exception DispatchScore × ScoreLog :=
  let m := w s.asked
  let asked := s.asked + 1
  match m.stats driverId with
  | none =>
    (.error (.notFound s!"Driver stats not found for driver {driverId}"), { s with asked })
  | some driverStats =>
    match createOrUpdateDispatchScore m s.scores driverId (overallScore m driverId driverStats)
        (factors driverStats) with
    | .error error => (.error error, { s with asked })
    | .ok (dispatchScore, scores) =>
      (.ok dispatchScore, { scores, asked, calculated := dispatchScore :: s.calculated })

def getCurrentScore (s : ScoreLog) (driverId : Uuid) : Except Exception Rat × ScoreLog :=
  let m := w s.asked
  let s := { s with asked := s.asked + 1 }
  match findNewest m s.scores driverId with
  | none =>
    let (newScore, s) := calculateDispatchScore w s driverId
    (newScore.map (·.score), s)
  | some (_, score) =>
    if score.validUntil < m.now then
      let (newScore, s) := calculateDispatchScore w s driverId
      (newScore.map (·.score), s)
    else (.ok score.score, s)

/-- The rows that the query of `getCurrentScores` finds. -/
def validScores (m : Moment) (scores : Scores) (driverIds : List Uuid) : List DispatchScore :=
  ((scores.select (m.listing scores) fun _ score =>
      score.driverId ∈ driverIds ∧ score.scoreType = .overall ∧ m.now < score.validUntil).map
    Prod.snd).mergeSort fun a b => b.lastCalculatedAt ≤ a.lastCalculatedAt

/-- The first row of each driver. -/
def scoreMap (scores : List DispatchScore) (driverId : Uuid) : Option Rat :=
  (scores.find? (·.driverId = driverId)).map (·.score)

/-- One turn of the loop in `getCurrentScores`. -/
def currentScore (scoreMap : Uuid → Option Rat) (result : (Uuid → Option Rat) × ScoreLog)
    (driverId : Uuid) : (Uuid → Option Rat) × ScoreLog :=
  match scoreMap driverId with
  | some score => (Function.update result.1 driverId (some score), result.2)
  | none =>
    match calculateDispatchScore w result.2 driverId with
    | (.ok newScore, s) => (Function.update result.1 driverId (some newScore.score), s)
    | (.error _, s) => (Function.update result.1 driverId (some 0), s)

/-- The loop of `getCurrentScores`, over the ids that it has come to. -/
def currentScores (s : ScoreLog) (driverIds done : List Uuid) : (Uuid → Option Rat) × ScoreLog :=
  let scores := validScores (w s.asked) s.scores driverIds
  done.foldl (currentScore w (scoreMap scores)) (fun _ => none, { s with asked := s.asked + 1 })

def getCurrentScores (s : ScoreLog) (driverIds : List Uuid) : (Uuid → Option Rat) × ScoreLog :=
  if driverIds = [] then (fun _ => none, s) else currentScores w s driverIds driverIds

/-- A limit of 0 is no limit to the query builder. -/
def getTopDrivers (m : Moment) (scores : Scores) (criteria : TopCriteria) : List (Uuid × Rat) :=
  let found := (scores.select (m.listing scores) fun _ score =>
    score.scoreType = .overall ∧ criteria.minScore ≤ score.score ∧ m.now < score.validUntil).map
      Prod.snd
  let ordered := found.mergeSort fun a b =>
    b.score < a.score ∨ a.score = b.score ∧ b.lastCalculatedAt ≤ a.lastCalculatedAt
  let results := if criteria.limit = 0 then ordered else ordered.take criteria.limit
  results.map fun result => (result.driverId, result.score)

end DispatchScoringService

/-! ## Runs -/

/-- A call that may calculate scores. -/
inductive ScoreCall where
  | calculateDispatchScore (driverId : Uuid)
  | getCurrentScore (driverId : Uuid)
  | getCurrentScores (driverIds : List Uuid)
  deriving DecidableEq, Repr

namespace ScoreLog
open DispatchScoringService

variable {w : Nat → Moment} {s : ScoreLog} {driverId : Uuid}

/-- What a call leaves, whether it answers or throws. -/
def perform (w : Nat → Moment) (s : ScoreLog) : ScoreCall → ScoreLog
  | .calculateDispatchScore driverId => (calculateDispatchScore w s driverId).2
  | .getCurrentScore driverId => (getCurrentScore w s driverId).2
  | .getCurrentScores driverIds => (getCurrentScores w s driverIds).2

/-- The states in the course of a call. -/
def during (w : Nat → Moment) (s : ScoreLog) : ScoreCall → List ScoreLog
  | .getCurrentScores driverIds =>
    driverIds.inits.map fun done => (currentScores w s driverIds done).2
  | _ => []

/-- The states that calls one after another go through. -/
def visited (w : Nat → Moment) (s : ScoreLog) : List ScoreCall → List ScoreLog
  | [] => [s]
  | call :: rest => s :: s.during w call ++ visited w (s.perform w call) rest

/-- No query so far was made after the time. -/
def Past (w : Nat → Moment) (s : ScoreLog) (t : Time) : Prop := ∀ k < s.asked, (w k).now ≤ t

/-- The score of a driver that was calculated most recently. -/
def latest (s : ScoreLog) (driverId : Uuid) : Option DispatchScore :=
  s.calculated.find? (·.driverId = driverId)

/-- The latest score of a driver is in the table, and all others of the driver had
expired when it was calculated. -/
structure Current (w : Nat → Moment) (s : ScoreLog) : Prop where
  rows : ∀ id score, s.scores.row id = some score →
    score.scoreType = .overall ∧ score.lastCalculatedAt < score.validUntil ∧
      ∀ t, s.Past w t → score.lastCalculatedAt ≤ t
  unscored : ∀ driverId, s.latest driverId = none →
    ∀ id score, s.scores.row id = some score → score.driverId ≠ driverId
  ahead : ∀ driverId last, s.latest driverId = some last →
    ∃ id, s.scores.row id = some last ∧ ∀ id' score, s.scores.row id' = some score →
      score.driverId = driverId → id' ≠ id → score.validUntil ≤ last.lastCalculatedAt

theorem latest_driverId {last : DispatchScore} (found : s.latest driverId = some last) :
    last.driverId = driverId := by
  simpa using List.find?_some found

/-- What the query for the newest score of a driver finds. -/
theorem Current.newest (current : s.Current w) (m : Moment) (driverId : Uuid) :
    (findNewest m s.scores driverId = none ∧
      ∀ id score, s.scores.row id = some score → score.driverId ≠ driverId) ∨
    ∃ id last, findNewest m s.scores driverId = some (id, last) ∧
      s.latest driverId = some last ∧ s.scores.row id = some last ∧
      ∀ id' score, s.scores.row id' = some score → score.driverId = driverId → id' ≠ id →
        score.validUntil ≤ last.lastCalculatedAt := by
  cases found : s.latest driverId with
  | none =>
    have absent := current.unscored driverId found
    refine .inl ⟨(Table.newest_eq_none (m.scans s.scores)).mpr fun id score held => ?_, absent⟩
    simp [absent id score held]
  | some last =>
    obtain ⟨id, held, others⟩ := current.ahead driverId last found
    refine .inr ⟨id, last, ?_, rfl, held, others⟩
    refine Table.newest_of_first (m.scans s.scores) held ?_ fun id' score held' matching other => ?_
    · simp [latest_driverId found, (current.rows id last held).1]
    · have owner : score.driverId = driverId := by
        simp only [Bool.decide_and, Bool.and_eq_true, decide_eq_true_eq] at matching
        exact matching.1
      exact (current.rows id' score held').2.1.trans_le (others id' score held' owner other)

/-- A query that calculates nothing. -/
theorem Current.ask (current : s.Current w) : Current w { s with asked := s.asked + 1 } where
  rows := fun id score held =>
    have kept := current.rows id score held
    ⟨kept.1, kept.2.1, fun t past => kept.2.2 t fun k below => past k (Nat.lt_succ_of_lt below)⟩
  unscored := current.unscored
  ahead := current.ahead

/-- A row written with a score that is calculated now, when all other scores of the
driver have expired. -/
theorem Current.write {scores : Scores} (id : Nat) {score : DispatchScore} (current : s.Current w)
    (overall : score.scoreType = .overall) (fresh : score.lastCalculatedAt = (w s.asked).now)
    (holds : score.lastCalculatedAt < score.validUntil) (written : scores.row id = some score)
    (others : ∀ id' ≠ id, scores.row id' = s.scores.row id')
    (replaced : ∀ old, s.scores.row id = some old → old.driverId = score.driverId)
    (expired : ∀ id' old, s.scores.row id' = some old → old.driverId = score.driverId → id' ≠ id →
      old.validUntil ≤ (w s.asked).now) :
    Current w
      { scores, asked := s.asked + 1, calculated := score :: s.calculated } := by
  constructor
  · intro id' score' held
    by_cases same : id' = id
    · subst same
      rw [written] at held
      cases held
      refine ⟨overall, holds, fun t past => ?_⟩
      rw [fresh]
      exact past s.asked (Nat.lt_succ_self _)
    · rw [others id' same] at held
      exact current.ask.rows id' score' held
  · intro driverId absent id' score' held
    simp only [latest, List.find?_cons] at absent
    split at absent
    · cases absent
    · rename_i other
      simp only [decide_eq_false_iff_not] at other
      by_cases same : id' = id
      · subst same
        rw [written] at held
        cases held
        exact other
      · rw [others id' same] at held
        exact current.unscored driverId absent id' score' held
  · intro driverId last found
    simp only [latest, List.find?_cons] at found
    split at found
    · rename_i owner
      simp only [decide_eq_true_eq] at owner
      cases found
      refine ⟨id, written, fun id' score' held mine other => ?_⟩
      rw [others id' other] at held
      rw [fresh]
      exact expired id' score' held (mine.trans owner.symm) other
    · rename_i other
      simp only [decide_eq_false_iff_not] at other
      obtain ⟨at_, held, behind⟩ := current.ahead driverId last found
      have elsewhere : at_ ≠ id := by
        rintro rfl
        exact other ((replaced last held).symm.trans (latest_driverId found))
      refine ⟨at_, (others at_ elsewhere).trans held, fun id' score' held' mine apart => ?_⟩
      by_cases same : id' = id
      · subst same
        rw [written] at held'
        cases held'
        exact absurd mine other
      · rw [others id' same] at held'
        exact behind id' score' held' mine apart

/-- What a save may do: overwrite the newest score of the driver, or append one behind
those that have expired. -/
theorem save_cases {m : Moment} {scores saved : Scores} {overall : Rat} {given : ScoreFactors}
    {score : DispatchScore}
    (ended : createOrUpdateDispatchScore m scores driverId overall given = .ok (score, saved)) :
    (∃ id old, findNewest m scores driverId = some (id, old) ∧ m.now < old.validUntil ∧
      score = scored m.now driverId overall given (some old) ∧
      saved = scores.update (fun id' _ => id' = id) fun _ => score) ∨
    (∀ found ∈ findNewest m scores driverId, found.2.validUntil ≤ m.now) ∧
      score = scored m.now driverId overall given none ∧ saved = scores.insert score := by
  unfold createOrUpdateDispatchScore at ended
  split at ended
  · cases found : findNewest m scores driverId with
    | none =>
      rw [found] at ended
      cases ended
      exact .inr ⟨by simp, rfl, rfl⟩
    | some newest =>
      rw [found] at ended
      by_cases valid : m.now < newest.2.validUntil
      · simp only [Option.filter_some, valid, decide_true, if_true] at ended
        cases ended
        exact .inl ⟨newest.1, newest.2, rfl, valid, rfl, rfl⟩
      · simp only [Option.filter_some, valid, decide_false] at ended
        cases ended
        exact .inr ⟨by simpa using valid, rfl, rfl⟩
  · cases ended

/-- One calculation. -/
theorem Current.calculate (forward : ∀ j k, j ≤ k → (w j).now ≤ (w k).now) (current : s.Current w)
    (driverId : Uuid) : (calculateDispatchScore w s driverId).2.Current w := by
  unfold calculateDispatchScore
  dsimp only
  split
  · exact current.ask
  · split
    · exact current.ask
    · rename_i score scores saved
      have now : s.Past w (w s.asked).now := fun k below => forward k s.asked below.le
      have before : ∀ id old, s.scores.row id = some old → old.lastCalculatedAt ≤ (w s.asked).now :=
        fun id old held => (current.rows id old held).2.2 _ now
      have newest := current.newest (w s.asked) driverId
      rcases save_cases saved with ⟨id, old, found, -, rfl, rfl⟩ | ⟨expired, rfl, rfl⟩
      · simp only [found, reduceCtorEq, false_and, Option.some.injEq, Prod.mk.injEq, false_or]
          at newest
        obtain ⟨_, _, ⟨rfl, rfl⟩, last, held, others⟩ := newest
        refine current.write id (current.rows id old held).1 rfl ?_ ?_ ?_ ?_ ?_
        · simp [scored]
        · simp [held]
        · intro id' other
          simp [other]
        · intro old' held'
          rw [held] at held'
          cases held'
          rfl
        · intro id' old' held' mine other
          have owner : old.driverId = driverId := latest_driverId last
          exact (others id' old' held' (mine.trans owner) other).trans (before id old held)
      · refine current.write s.scores.serial rfl rfl ?_ ?_ ?_ ?_ ?_
        · simp [scored]
        · simp [Table.insert_row]
        · intro id' other
          rw [Table.insert_row, if_neg other]
        · intro old held
          exact absurd rfl (Nat.ne_of_lt (Table.row_below held))
        · intro id' old held mine _
          rcases newest with ⟨-, absent⟩ | ⟨id, last, found, -, held', others⟩
          · exact absurd mine (absent id' old held)
          · by_cases same : id' = id
            · subst same
              rw [held] at held'
              cases held'
              exact expired _ found
            · exact (others id' old held mine same).trans (before id last held')

/-- The loop of `getCurrentScores`. -/
theorem Current.scores (forward : ∀ j k, j ≤ k → (w j).now ≤ (w k).now) (current : s.Current w)
    (driverIds done : List Uuid) : (currentScores w s driverIds done).2.Current w := by
  have loop : ∀ (map : Uuid → Option Rat) (result : (Uuid → Option Rat) × ScoreLog),
      result.2.Current w → (done.foldl (currentScore w map) result).2.Current w := by
    intro map
    induction done with
    | nil => exact fun result current => current
    | cons driverId rest ih =>
      intro result current
      refine ih _ ?_
      unfold currentScore
      have calculated := current.calculate forward driverId
      split
      · exact current
      · split
        · rename_i ended
          rwa [ended] at calculated
        · rename_i ended
          rwa [ended] at calculated
  exact loop _ _ current.ask

theorem Current.perform (forward : ∀ j k, j ≤ k → (w j).now ≤ (w k).now) (current : s.Current w)
    (call : ScoreCall) : (s.perform w call).Current w := by
  cases call with
  | calculateDispatchScore driverId => exact current.calculate forward driverId
  | getCurrentScore driverId =>
    have calculated := current.ask.calculate forward driverId
    simp only [ScoreLog.perform, getCurrentScore]
    split
    · exact calculated
    · split
      · exact calculated
      · exact current.ask
  | getCurrentScores driverIds =>
    simp only [ScoreLog.perform, getCurrentScores]
    split
    · exact current
    · exact current.scores forward driverIds driverIds

theorem Current.visited (forward : ∀ j k, j ≤ k → (w j).now ≤ (w k).now) (current : s.Current w)
    (calls : List ScoreCall) : ∀ reached ∈ s.visited w calls, reached.Current w := by
  induction calls generalizing s with
  | nil =>
    rintro reached member
    rwa [List.mem_singleton.mp member]
  | cons call rest ih =>
    intro reached member
    rcases List.mem_cons.mp member with rfl | member
    · exact current
    rcases List.mem_append.mp member with member | member
    · cases call with
      | getCurrentScores driverIds =>
        obtain ⟨done, -, rfl⟩ := List.mem_map.mp member
        exact current.scores forward driverIds done
      | _ => cases member
    · exact ih (current.perform forward call) reached member

/-- A score that holds is the latest one of its driver. -/
theorem Current.valid (current : s.Current w) {t : Time} (past : s.Past w t) {id : Nat}
    {score : DispatchScore} (held : s.scores.row id = some score) (valid : t < score.validUntil) :
    s.latest score.driverId = some score ∧ ∀ id' score', s.scores.row id' = some score' →
      score'.driverId = score.driverId → t < score'.validUntil → id' = id := by
  cases found : s.latest score.driverId with
  | none => exact absurd rfl (current.unscored _ found id score held)
  | some last =>
    obtain ⟨first, at_, others⟩ := current.ahead _ last found
    have only : ∀ id' score', s.scores.row id' = some score' → score'.driverId = score.driverId →
        t < score'.validUntil → id' = first := by
      intro id' score' held' owner valid'
      by_contra other
      have behind := others id' score' held' owner other
      exact absurd (behind.trans ((current.rows first last at_).2.2 t past)) (not_le.mpr valid')
    have here := only id score held rfl valid
    subst here
    rw [held] at at_
    exact ⟨at_.symm, only⟩

end ScoreLog

open ScoreLog DispatchScoringService

/-- What `getTopDrivers` lists are latest scores, each of another driver. -/
theorem ScoreLog.Current.top {w : Nat → Moment} {s : ScoreLog} {m : Moment} (current : s.Current w)
    (past : s.Past w m.now) (criteria : TopCriteria) :
    ((getTopDrivers m s.scores criteria).map Prod.fst).Nodup ∧
      ∀ listed ∈ getTopDrivers m s.scores criteria,
        (s.latest listed.1).map (·.score) = some listed.2 := by
  unfold getTopDrivers
  extract_lets found ordered results
  have taken : results.Sublist ordered := by
    unfold results
    split
    · exact List.Sublist.refl _
    · exact List.take_sublist ..
  have sorted : ordered.Perm found := List.mergeSort_perm ..
  have holds : ∀ id score, s.scores.row id = some score → m.now < score.validUntil →
      s.latest score.driverId = some score :=
    fun id score held valid => (current.valid past held valid).1
  constructor
  · have distinct : (found.map (·.driverId)).Nodup := by
      rw [List.map_map]
      refine List.Nodup.map_on ?_ (.of_map _ (Table.select_nodup (m.lists _)))
      rintro ⟨id, score⟩ member ⟨id', score'⟩ member' same
      obtain ⟨held, chosen⟩ := (Table.mem_select (m.lists _)).mp member
      obtain ⟨held', chosen'⟩ := (Table.mem_select (m.lists _)).mp member'
      simp only [Bool.decide_and, Bool.and_eq_true, decide_eq_true_eq] at chosen chosen'
      have here := (current.valid past held' chosen'.2.2).2 id score held same chosen.2.2
      subst here
      rw [held] at held'
      cases held'
      rfl
    rw [List.map_map]
    exact (taken.map _).nodup ((sorted.map _).nodup_iff.mpr distinct)
  · rintro _ member
    obtain ⟨score, listed, rfl⟩ := List.mem_map.mp member
    obtain ⟨⟨id, _⟩, scanned, rfl⟩ := List.mem_map.mp (sorted.mem_iff.mp (taken.subset listed))
    obtain ⟨held, chosen⟩ := (Table.mem_select (m.lists _)).mp scanned
    simp only [Bool.decide_and, Bool.and_eq_true, decide_eq_true_eq] at chosen
    rw [holds id _ held chosen.2.2]
    rfl

/-- At most one valid score for each driver: in every state that calls one after another
go through, whenever it is looked at, a driver has at most one score that holds, and
`getTopDrivers` lists no driver twice and for each the score that was calculated last. -/
theorem scores_valid (w : Nat → Moment) (calls : List ScoreCall) (s : ScoreLog) (m : Moment) :
    (∀ j k, j ≤ k → (w j).now ≤ (w k).now) → s ∈ ScoreLog.visited w {} calls → s.Past w m.now →
      (∀ id score id' score', s.scores.row id = some score → s.scores.row id' = some score' →
        score.scoreType = .overall → score'.scoreType = .overall →
        score.driverId = score'.driverId →
        m.now < score.validUntil → m.now < score'.validUntil → id = id') ∧
      ∀ criteria : TopCriteria,
        ((getTopDrivers m s.scores criteria).map Prod.fst).Nodup ∧
        ∀ listed ∈ getTopDrivers m s.scores criteria,
          (s.latest listed.1).map (·.score) = some listed.2 := by
  intro forward reached past
  have start : ScoreLog.Current w {} :=
    ⟨by simp [Table.ofList], by simp [Table.ofList], by simp [latest]⟩
  have current := start.visited forward calls s reached
  constructor
  · intro id score id' score' held held' _ _ same valid valid'
    exact (current.valid past held' valid').2 id score held same valid
  · exact current.top past

/-- A clock that advances half an hour with each query, and one driver who has statistics. -/
def halfHourly (k : Nat) : Moment where
  now := (k * 1800000 : Nat)
  stats := fun driverId => if driverId = "x" then some { acceptanceCount := k } else none
  configs := Table.ofList []
  configScan := []
  scan := Table.ids
  listing := Table.ids
  scans := scans_ids
  lists := scans_ids

/-- Scores are written, overwritten while they hold, and appended behind one that has expired. -/
def hoursOfCalls : List ScoreCall :=
  [.getCurrentScore "x", .calculateDispatchScore "x", .getCurrentScores ["y", "x"],
    .getCurrentScore "y", .calculateDispatchScore "x"]

theorem scores_valid_hours :
    ∃ s ∈ ScoreLog.visited halfHourly {} hoursOfCalls, s.scores.ids = [0, 1] ∧
      (∀ id score id' score', s.scores.row id = some score → s.scores.row id' = some score' →
        score.scoreType = .overall → score'.scoreType = .overall →
        score.driverId = score'.driverId →
        (halfHourly 8).now < score.validUntil → (halfHourly 8).now < score'.validUntil → id = id') ∧
      ∀ criteria : TopCriteria,
        ((getTopDrivers (halfHourly 8) s.scores criteria).map Prod.fst).Nodup ∧
        ∀ listed ∈ getTopDrivers (halfHourly 8) s.scores criteria,
          (s.latest listed.1).map (·.score) = some listed.2 := by
  have ends : (ScoreLog.visited halfHourly {} hoursOfCalls).any (fun s =>
      s.scores.ids = [0, 1] && s.asked == 8) = true := by
    decide +kernel
  obtain ⟨s, reached, both⟩ := List.any_eq_true.mp ends
  simp only [Bool.and_eq_true, decide_eq_true_eq, beq_iff_eq] at both
  obtain ⟨ids, asked⟩ := both
  refine ⟨s, reached, ids, scores_valid halfHourly hoursOfCalls s (halfHourly 8) ?_ reached ?_⟩
  · intro j k before
    exact Int.ofNat_le.mpr (Nat.mul_le_mul_right _ before)
  · intro k below
    exact Int.ofNat_le.mpr (Nat.mul_le_mul_right _ (by omega))

end DriverMicroServices
