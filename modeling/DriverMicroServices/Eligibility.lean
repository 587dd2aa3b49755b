import DriverMicroServices.DispatchScores
import Mathlib.Tactic.MkIffOfInductiveProp

/-! `isDriverEligible` asks for one driver what `areDriversEligible` asks for many. The
two read different rows when the last score of a driver has expired and an older one
has not, or when it expires at this very moment, and only the first reads the
configured minimum. -/
namespace DriverMicroServices
open Tables

structure ScoreThresholds where
  minimumScore : Rat
  minimumAssignments : Rat
  deriving DecidableEq

namespace DispatchScoringService

def defaultThresholds : ScoreThresholds := ⟨50, 5⟩

def getThresholds (m : Moment) (driverId : Uuid) : ScoreThresholds :=
  let config := DispatchConfigService.getConfig m.configs m.configScan .thresholds (some driverId)
  { minimumScore := orElse config.minimumScore defaultThresholds.minimumScore
    minimumAssignments := orElse config.minimumAssignments defaultThresholds.minimumAssignments }

def isDriverEligible (w : Nat → Moment) (s : ScoreLog) (driverId : Uuid) : Bool × ScoreLog :=
  let m := w s.asked
  let s := { s with asked := s.asked + 1 }
  match m.stats driverId with
  | none => (true, s)
  | some _ =>
    let thresholds := getThresholds m driverId
    match getCurrentScore w s driverId with
    | (.ok currentScore, s) =>
      if currentScore < thresholds.minimumScore then (false, s) else (true, s)
    | (.error _, s) => (false, s)

/-- One turn of the loop in `areDriversEligible`. -/
def eligibility (allStats : Uuid → Option DriverStats) (scores : Uuid → Option Rat)
    (result : Uuid → Option Bool) (driverId : Uuid) : Uuid → Option Bool :=
  match allStats driverId with
  | none => Function.update result driverId (some true)
  | some _ =>
    let thresholds := defaultThresholds
    let currentScore := (scores driverId).getD 0
    if currentScore < thresholds.minimumScore then Function.update result driverId (some false)
    else Function.update result driverId (some true)

def areDriversEligible (w : Nat → Moment) (s : ScoreLog) (driverIds : List Uuid) :
    (Uuid → Option Bool) × ScoreLog :=
  if driverIds = [] then (fun _ => none, s)
  else
    let m := w s.asked
    let s := { s with asked := s.asked + 1 }
    let (scores, s) := getCurrentScores w s driverIds
    (driverIds.foldl (eligibility m.stats scores) fun _ => none, s)

/-- The score that a calculation would save, if it can. -/
def freshScore (m : Moment) (driverId : Uuid) : Option Rat :=
  ((m.stats driverId).map (overallScore m driverId)).filter fun score => Fits score

/-- The newest score of a driver among those that hold. -/
def findValid (m : Moment) (scores : Scores) (driverId : Uuid) : Option (Nat × DispatchScore) :=
  scores.newest (m.listing scores)
    (fun _ score => score.driverId = driverId ∧ score.scoreType = .overall ∧ m.now < score.validUntil)
    (·.lastCalculatedAt)

variable {m : Moment} {s : ScoreLog} {driverId : Uuid} {driverIds : List Uuid}

/-! ## What the calls answer when nothing changes but the scores -/

private theorem save_toOption (m : Moment) (scores : Scores) (driverId : Uuid) (overall : Rat)
    (given : ScoreFactors) :
    (createOrUpdateDispatchScore m scores driverId overall given).toOption.map (·.1.score) =
      if Fits overall then some overall else none := by
  unfold createOrUpdateDispatchScore
  split
  · dsimp only
    split
    · rename_i found
      rw [found]
      rfl
    · rename_i absent
      rw [absent]
      rfl
  · rfl

theorem calculate_toOption (m : Moment) (s : ScoreLog) (driverId : Uuid) :
    (calculateDispatchScore (fun _ => m) s driverId).1.toOption.map (·.score) =
      freshScore m driverId := by
  unfold calculateDispatchScore freshScore
  dsimp only
  cases m.stats driverId with
  | none => rfl
  | some driverStats =>
    have saved := save_toOption m s.scores driverId (overallScore m driverId driverStats)
      (factors driverStats)
    rw [Option.map_some, Option.filter_some]
    simp only [decide_eq_true_eq]
    rw [← saved]
    cases createOrUpdateDispatchScore m s.scores driverId (overallScore m driverId driverStats)
      (factors driverStats) <;> rfl

theorem toOption_map {ε α β : Type} (f : α → β) (result : Except ε α) :
    (result.map f).toOption = result.toOption.map f := by
  cases result <;> rfl

/-- The newest score if it has not expired, or else a fresh one. -/
theorem getCurrentScore_toOption (m : Moment) (s : ScoreLog) (driverId : Uuid) :
    (getCurrentScore (fun _ => m) s driverId).1.toOption =
      (((findNewest m s.scores driverId).filter fun found => m.now ≤ found.2.validUntil).map
        (·.2.score)).or (freshScore m driverId) := by
  unfold getCurrentScore
  cases found : findNewest m s.scores driverId with
  | none =>
    simp only [found, toOption_map, calculate_toOption]
    rfl
  | some newest =>
    by_cases expired : newest.2.validUntil < m.now
    · simp only [found, if_pos expired, toOption_map, calculate_toOption, Option.filter_some,
        not_le.mpr expired]
      rfl
    · simp only [found, if_neg expired, Option.filter_some, not_lt.mp expired]
      rfl

private theorem currentScores_eq (map : Uuid → Option Rat) (done : List Uuid)
    (result : (Uuid → Option Rat) × ScoreLog) :
    (done.foldl (currentScore (fun _ => m) map) result).1 driverId =
      if driverId ∈ done then some (((map driverId).or (freshScore m driverId)).getD 0)
      else result.1 driverId := by
  induction done generalizing result with
  | nil => simp
  | cons first rest ih =>
    have turn : (currentScore (fun _ => m) map result first).1 =
        Function.update result.1 first (some (((map first).or (freshScore m first)).getD 0)) := by
      have fresh := calculate_toOption m result.2 first
      unfold currentScore
      cases map first with
      | some score => rfl
      | none =>
        dsimp only
        split
        · rename_i ended
          rw [ended] at fresh
          rw [← fresh]
          rfl
        · rename_i ended
          rw [ended] at fresh
          rw [← fresh]
          rfl
    rw [List.foldl_cons, ih, turn]
    by_cases later : driverId ∈ rest
    · simp [later]
    · by_cases here : driverId = first
      · subst here
        simp [later]
      · simp [later, here]

/-- The row that the batch takes for a driver. -/
theorem scoreMap_eq (asked : driverId ∈ driverIds) (scores : Scores) :
    scoreMap (validScores m scores driverIds) driverId =
      (findValid m scores driverId).map (·.2.score) := by
  have first : ((validScores m scores driverIds).find? (·.driverId = driverId)) =
      (findValid m scores driverId).map (·.2) := by
    have sorted (rows : List (Nat × DispatchScore)) :
        ((rows.map Prod.snd).mergeSort fun a b => b.lastCalculatedAt ≤ a.lastCalculatedAt) =
          (rows.mergeSort fun a b => b.2.lastCalculatedAt ≤ a.2.lastCalculatedAt).map Prod.snd :=
      (List.map_mergeSort (f := Prod.snd) fun _ _ _ _ => rfl).symm
    rw [validScores, sorted, List.find?_map,
      Table.find_sorted _ _ fun found : Nat × DispatchScore => found.2.lastCalculatedAt,
      Table.select_filter, findValid, Table.newest]
    congr 3
    funext _ score
    rw [Bool.eq_iff_iff]
    simp only [Function.comp_apply, Bool.and_eq_true, decide_eq_true_eq]
    constructor
    · rintro ⟨⟨-, holds⟩, owner⟩
      exact ⟨owner, holds⟩
    · rintro ⟨owner, holds⟩
      exact ⟨⟨by rwa [owner], holds⟩, owner⟩
  rw [scoreMap, first, Option.map_map]
  rfl

/-- The newest score that holds, or a fresh one, or 0. -/
theorem getCurrentScores_eq (asked : driverId ∈ driverIds) (s : ScoreLog) :
    (getCurrentScores (fun _ => m) s driverIds).1 driverId =
      some ((((findValid m s.scores driverId).map (·.2.score)).or (freshScore m driverId)).getD 0) := by
  rw [getCurrentScores, if_neg (List.ne_nil_of_mem asked), currentScores, currentScores_eq,
    if_pos asked, scoreMap_eq asked]

private theorem isDriverEligible_iff (m : Moment) (s : ScoreLog) (driverId : Uuid) :
    (isDriverEligible (fun _ => m) s driverId).1 = true ↔
      m.stats driverId = none ∨
        ∃ score ∈ (((findNewest m s.scores driverId).filter fun found =>
            m.now ≤ found.2.validUntil).map (·.2.score)).or (freshScore m driverId),
          (getThresholds m driverId).minimumScore ≤ score := by
  unfold isDriverEligible
  dsimp only
  cases m.stats driverId with
  | none => simp
  | some driverStats =>
    rw [← getCurrentScore_toOption m { s with asked := s.asked + 1 }]
    obtain ⟨result, left⟩ := getCurrentScore (fun _ => m) { s with asked := s.asked + 1 } driverId
    cases result with
    | error error => simp [Except.toOption]
    | ok score =>
      dsimp only
      split
      · rename_i below
        simp [Except.toOption, below]
      · rename_i above
        simp [Except.toOption, not_lt.mp above]

private theorem areDriversEligible_eq (asked : driverId ∈ driverIds) (s : ScoreLog) :
    (areDriversEligible (fun _ => m) s driverIds).1 driverId =
      some (decide (m.stats driverId = none ∨
        50 ≤ (((findValid m s.scores driverId).map (·.2.score)).or
          (freshScore m driverId)).getD 0)) := by
  rw [areDriversEligible, if_neg (List.ne_nil_of_mem asked)]
  dsimp only
  have loop : ∀ (scores : Uuid → Option Rat) (result : Uuid → Option Bool),
      (driverIds.foldl (eligibility m.stats scores) result) driverId =
        if driverId ∈ driverIds then
          some (decide (m.stats driverId = none ∨ 50 ≤ (scores driverId).getD 0))
        else result driverId := by
    clear asked
    intro scores
    induction driverIds with
    | nil => simp
    | cons first rest ih =>
      intro result
      have turn : eligibility m.stats scores result first =
          Function.update result first
            (some (decide (m.stats first = none ∨ 50 ≤ (scores first).getD 0))) := by
        unfold eligibility defaultThresholds
        cases m.stats first with
        | none => simp
        | some driverStats =>
          dsimp only
          split
          · rename_i below
            simp [not_le.mpr below]
          · rename_i above
            simp [not_lt.mp above]
      rw [List.foldl_cons, ih, turn]
      by_cases later : driverId ∈ rest
      · simp [later]
      · by_cases here : driverId = first
        · subst here
          simp [later]
        · simp [later, here]
  rw [loop, if_pos asked, getCurrentScores_eq asked, Option.getD_some]

end DispatchScoringService

/-! ## When they agree -/

open DispatchScoringService

/-- What makes both paths answer the same about a driver. -/
@[mk_iff]
structure ScoresAgree (m : Moment) (scores : Scores) (driverId : Uuid) : Prop where
  /-- Behind a newest score that has expired, none holds that a calculation would change. -/
  behind : ∀ newest ∈ findNewest m scores driverId, newest.2.validUntil < m.now →
    ∀ older ∈ findValid m scores driverId, ∀ fresh ∈ freshScore m driverId, older.2.score = fresh
  /-- At the moment when the newest score expires, the batch finds the same in another way. -/
  expiring : ∀ newest ∈ findNewest m scores driverId, newest.2.validUntil = m.now →
    (((findValid m scores driverId).map (·.2.score)).or (freshScore m driverId)).getD 0 =
      newest.2.score
  /-- Of rows calculated at one moment the two queries may find different ones. -/
  listed : ∀ newest ∈ findNewest m scores driverId, m.now < newest.2.validUntil →
    ∀ listed ∈ findValid m scores driverId, listed.2.score = newest.2.score
  /-- A score that has not expired is on one side of the configured minimum and of 50. -/
  stored : (m.stats driverId).isSome → ∀ newest ∈ findNewest m scores driverId,
    m.now ≤ newest.2.validUntil →
      ((getThresholds m driverId).minimumScore ≤ newest.2.score ↔ 50 ≤ newest.2.score)
  /-- So is a fresh one, where it is asked for. -/
  fresh : (∀ newest ∈ findNewest m scores driverId, newest.2.validUntil < m.now) →
    ∀ fresh ∈ freshScore m driverId,
      ((getThresholds m driverId).minimumScore ≤ fresh ↔ 50 ≤ fresh)
  /-- Where no score can be calculated, none that holds reaches 50. -/
  failed : (m.stats driverId).isSome → freshScore m driverId = none →
    (∀ newest ∈ findNewest m scores driverId, newest.2.validUntil < m.now) →
      ∀ older ∈ findValid m scores driverId, older.2.score < 50

/-- Where the newest score holds, the batch finds one. -/
theorem findValid_of_valid {m : Moment} {scores : Scores} {driverId : Uuid}
    {newest : Nat × DispatchScore} (found : findNewest m scores driverId = some newest)
    (valid : m.now < newest.2.validUntil) : ∃ listed, findValid m scores driverId = some listed := by
  obtain ⟨held, mine, -⟩ := Table.of_newest (m.scans scores) found
  refine Option.ne_none_iff_exists'.mp fun absent => ?_
  have other := (Table.newest_eq_none (m.lists scores)).mp absent newest.1 newest.2 held
  simp only [decide_eq_true_eq, decide_eq_false_iff_not] at mine other
  exact other ⟨mine.1, mine.2, valid⟩

private theorem findValid_none {m : Moment} {scores : Scores} {driverId : Uuid}
    (absent : findNewest m scores driverId = none) : findValid m scores driverId = none := by
  refine (Table.newest_eq_none (m.lists scores)).mpr fun id score held => ?_
  have other := (Table.newest_eq_none (m.scans scores)).mp absent id score held
  simp only [decide_eq_false_iff_not, not_and] at other ⊢
  exact fun owner overall => absurd overall (other owner)

private theorem freshScore_stats {m : Moment} {driverId : Uuid} (unknown : m.stats driverId = none) :
    freshScore m driverId = none := by
  rw [freshScore, unknown]
  rfl

/-- What agreement about a driver comes to. -/
theorem answers_iff {driverId : Uuid} {driverIds : List Uuid} (asked : driverId ∈ driverIds)
    (m : Moment) (scores : Scores) :
    ((areDriversEligible (fun _ => m) { scores } driverIds).1 driverId =
        some (isDriverEligible (fun _ => m) { scores } driverId).1 ∧
      ∀ score, (getCurrentScore (fun _ => m) { scores } driverId).1 = .ok score →
        (getCurrentScores (fun _ => m) { scores } driverIds).1 driverId = some score) ↔
    let single := (((findNewest m scores driverId).filter fun found =>
      m.now ≤ found.2.validUntil).map (·.2.score)).or (freshScore m driverId)
    let batch := (((findValid m scores driverId).map (·.2.score)).or (freshScore m driverId)).getD 0
    ((m.stats driverId = none ∨ 50 ≤ batch) ↔
      m.stats driverId = none ∨ ∃ score ∈ single, (getThresholds m driverId).minimumScore ≤ score) ∧
    ∀ score, single = some score → batch = score := by
  have answered (score : Rat) : (getCurrentScore (fun _ => m) { scores } driverId).1 = .ok score ↔
      (getCurrentScore (fun _ => m) { scores } driverId).1.toOption = some score := by
    cases (getCurrentScore (fun _ => m) { scores } driverId).1 <;> simp [Except.toOption]
  simp only [answered, getCurrentScore_toOption, getCurrentScores_eq asked, Option.some.injEq]
  rw [areDriversEligible_eq asked, Option.some.injEq, Bool.eq_iff_iff, decide_eq_true_iff,
    isDriverEligible_iff]

theorem same_side {limit a b : Rat} {above : Prop} :
    (limit ≤ a ↔ above) ∧ a = b ↔ a = b ∧ (above ↔ limit ≤ b) := by
  constructor
  · rintro ⟨side, rfl⟩
    exact ⟨rfl, side.symm⟩
  · rintro ⟨rfl, side⟩
    exact ⟨side.symm, rfl⟩

/-- Batch and single scoring agree: on a database that does not change but by the calls,
every answer of the batch is that of the call for the one driver, just when for every
driver asked about the stored scores and the minimum leave no choice. -/
theorem batch_agrees (m : Moment) (scores : Scores) (driverIds : List Uuid) :
    (∀ driverId ∈ driverIds,
      (areDriversEligible (fun _ => m) { scores } driverIds).1 driverId =
        some (isDriverEligible (fun _ => m) { scores } driverId).1 ∧
      ∀ score, (getCurrentScore (fun _ => m) { scores } driverId).1 = .ok score →
        (getCurrentScores (fun _ => m) { scores } driverIds).1 driverId = some score) ↔
      ∀ driverId ∈ driverIds, ScoresAgree m scores driverId := by
  refine forall₂_congr fun driverId asked => ?_
  rw [answers_iff asked, scoresAgree_iff]
  dsimp only
  have unknown : m.stats driverId = none → freshScore m driverId = none := freshScore_stats
  cases found : findNewest m scores driverId with
  | none =>
    rw [findValid_none found]
    cases fresh : freshScore m driverId with
    | none => simp
    | some score =>
      have known : m.stats driverId ≠ none := fun absent => by simp [unknown absent] at fresh
      simp [known, iff_comm]
  | some newest =>
    obtain ⟨id, last⟩ := newest
    rcases lt_trichotomy last.validUntil m.now with expired | expiring | valid
    · simp only [Option.filter_some, not_le.mpr expired, decide_false, Bool.false_eq_true, if_false,
        Option.map_none, Option.none_or, Option.mem_some_iff, forall_eq', expired, expired.ne,
        expired.not_gt,
        IsEmpty.forall_iff, true_and, implies_true, forall_const]
      cases fresh : freshScore m driverId with
      | none =>
        cases older : findValid m scores driverId with
        | none => simp
        | some older =>
          cases known : m.stats driverId with
          | none => simp
          | some driverStats => simp
      | some score =>
        have known : m.stats driverId ≠ none := fun absent => by simp [unknown absent] at fresh
        cases older : findValid m scores driverId with
        | none => simp [known, iff_comm]
        | some older =>
          simpa [known] using same_side
    · simp only [Option.filter_some, expiring, le_refl, decide_true, if_true,
        Option.map_some, Option.some_or, Option.mem_some_iff, forall_eq', lt_irrefl,
        IsEmpty.forall_iff, true_and, implies_true, forall_const, Option.some.injEq, exists_eq_left']
      cases known : m.stats driverId with
      | none => simp
      | some driverStats =>
        simpa using same_side
    · obtain ⟨listed, taken⟩ := findValid_of_valid found valid
      rw [taken]
      simp only [Option.filter_some, valid.le, decide_true, if_true, valid.ne',
        Option.map_some, Option.some_or, Option.mem_some_iff, forall_eq', valid, not_lt.mpr valid.le,
        IsEmpty.forall_iff, true_and, implies_true, forall_const, Option.some.injEq, exists_eq_left']
      cases known : m.stats driverId with
      | none => simp
      | some driverStats => simpa using same_side

/-- A driver who has accepted nothing yet, and a minimum of 70 for everybody. -/
def atSeventy : Moment where
  now := 1000
  stats := fun driverId => if driverId = "x" then some {} else none
  configs := Table.ofList
    [{ configType := .thresholds, configScope := .global, configKey := "minimums"
       configValue := { minimumScore := some 70 } }]
  configScan := [0]
  scan := Table.ids
  listing := Table.ids
  scans := scans_ids
  lists := scans_ids

/-- Scores of that driver: each with the times of its calculation and of its end. -/
def stored (rows : List (Rat × Time × Time)) : ScoreLog where
  scores := Table.ofList <| rows.map fun (score, lastCalculatedAt, validUntil) =>
    { driverId := "x", score, lastCalculatedAt, validUntil }

/-- A score between 50 and the configured minimum; a score that holds behind a newer one
that has expired; and one that expires now. -/
theorem batch_disagrees :
    ((areDriversEligible (fun _ => atSeventy) (stored [(60, 0, 2000)]) ["x"]).1 "x",
        (isDriverEligible (fun _ => atSeventy) (stored [(60, 0, 2000)]) "x").1) =
      (some true, false) ∧
    ((getCurrentScores (fun _ => atSeventy) (stored [(90, 0, 2000), (90, 1, 500)]) ["x"]).1 "x",
        (getCurrentScore (fun _ => atSeventy) (stored [(90, 0, 2000), (90, 1, 500)])
          "x").1.toOption) = (some 90, some 65) ∧
    ((getCurrentScores (fun _ => atSeventy) (stored [(90, 0, 1000)]) ["x"]).1 "x",
        (getCurrentScore (fun _ => atSeventy) (stored [(90, 0, 1000)]) "x").1.toOption) =
      (some 65, some 90) := by
  decide +kernel

end DriverMicroServices
