import DriverMicroServices.ChangeClassification
import DriverMicroServices.Texts.Tokens

/-! The verdict on the compatibility of changes: a score and levels of risk, from the numbers of breaking
changes. -/
namespace DriverMicroServices.SchemaCompatibility
open Texts.Tokens SchemaClassification

inductive OverallRisk where
  | LOW
  | MEDIUM
  | HIGH
  | CRITICAL
deriving DecidableEq

def OverallRisk.rank : OverallRisk → Nat
  | LOW => 0
  | MEDIUM => 1
  | HIGH => 2
  | CRITICAL => 3

structure BreakingChange where
  change : ClassifiedChange
  impact : String
  affectedEntities : List String
  rollbackComplexity : String

structure BreakingChanges where
  critical : List BreakingChange
  high : List BreakingChange
  medium : List BreakingChange
  low : List BreakingChange
  total : Nat

def assessImpact (change : ClassifiedChange) : String :=
  match change.operation with
  | .DROP_TABLE => "CRITICAL: Will result in complete data loss for the table"
  | .DROP_COLUMN => "HIGH: Will result in data loss for the column and may break application code"
  | .ALTER_COLUMN_TYPE => "MEDIUM: May cause data conversion issues and application compatibility problems"
  | .DROP_INDEX => "LOW: Will impact query performance but no data loss"
  | _ => "UNKNOWN: Impact assessment not available"

def assessRollbackComplexity (change : ClassifiedChange) : String :=
  match change.operation with
  | .DROP_TABLE => "CRITICAL: Rollback requires data restoration from backup"
  | .DROP_COLUMN => "HIGH: Rollback requires data restoration and schema modification"
  | .ALTER_COLUMN_TYPE => "MEDIUM: Rollback requires data conversion back to original type"
  | .DROP_INDEX => "LOW: Rollback is straightforward index recreation"
  | _ => "UNKNOWN: Rollback complexity not assessed"

def getAffectedEntities (change : ClassifiedChange) : List String :=
  let entity (kind : String) (name : Option String) : List String :=
    ((name.filter (· ≠ "")).map fun name => kind ++ ": " ++ name).toList
  entity "Table" change.target.table ++ entity "Column" change.target.column ++
    entity "Index" change.target.index ++ entity "Foreign Key" change.target.foreignKey

/-- The risk of a single change. -/
def calculateChangeRisk (change : ClassifiedChange) : RiskLevel :=
  if change.classification = .BREAKING then
    match change.operation with
    | .DROP_TABLE => .critical
    | .DROP_COLUMN => .high
    | .ALTER_COLUMN_TYPE => .high
    | .DROP_INDEX => .medium
    | _ => .medium
  else if change.classification = .SAFE then .low
  else .medium

/-- A breaking change of this risk. -/
def breaksAt (risk : RiskLevel) (change : ClassifiedChange) : Bool :=
  change.classification = .BREAKING && calculateChangeRisk change = risk

def breakingAt (risk : RiskLevel) (classifiedChanges : List ClassifiedChange) : List BreakingChange :=
  (classifiedChanges.filter (breaksAt risk)).map fun change =>
    { change
      impact := assessImpact change
      affectedEntities := getAffectedEntities change
      rollbackComplexity := assessRollbackComplexity change }

def analyzeBreakingChanges (classifiedChanges : List ClassifiedChange) : BreakingChanges where
  critical := breakingAt .critical classifiedChanges
  high := breakingAt .high classifiedChanges
  medium := breakingAt .medium classifiedChanges
  low := breakingAt .low classifiedChanges
  total := (classifiedChanges.filter (·.classification = .BREAKING)).length

def isHighRisk (change : ClassifiedChange) : Bool :=
  change.operation = .DROP_TABLE || change.operation = .DROP_COLUMN || change.operation = .ALTER_COLUMN_TYPE

def calculateCompatibilityScore (classifiedChanges : List ClassifiedChange) (breakingChanges : BreakingChanges) :
    Int :=
  if classifiedChanges.length = 0 then 100
  else
    max 0 (min 100 (100 - breakingChanges.total * 10 - breakingChanges.critical.length * 25 -
      breakingChanges.high.length * 15 - (classifiedChanges.filter isHighRisk).length * 20))

def calculateOverallRisk (breakingChanges : BreakingChanges) : OverallRisk :=
  if 0 < breakingChanges.critical.length then .CRITICAL
  else if 2 < breakingChanges.high.length then .HIGH
  else if 0 < breakingChanges.high.length then .MEDIUM
  else .LOW

def calculateMitigationPriority (breakingChanges : BreakingChanges) : OverallRisk :=
  if 0 < breakingChanges.critical.length then .CRITICAL
  else if 1 < breakingChanges.high.length then .HIGH
  else if 0 < breakingChanges.high.length then .MEDIUM
  else .LOW

/-- What the analysis says of the changes as a whole. -/
structure Verdict where
  compatibilityScore : Int
  overallRisk : OverallRisk
  mitigationPriority : OverallRisk
  breaking : Nat

def verdict (upper : UpperCase) (proposedChanges : List String) : Verdict :=
  let classifiedChanges := classifyChanges upper proposedChanges
  let breakingChanges := analyzeBreakingChanges classifiedChanges
  { compatibilityScore := calculateCompatibilityScore classifiedChanges breakingChanges
    overallRisk := calculateOverallRisk breakingChanges
    mitigationPriority := calculateMitigationPriority breakingChanges
    breaking := breakingChanges.total }

/-! ## What a verdict owes -/

/-- One of the statements of the text drops a table. -/
def DropsTable (sql : String) : Prop := ∃ statement ∈ statements sql, begins ["DROP", "TABLE"] statement

/-- The first verdict is at least as good as the second one. -/
structure Verdict.Better (one other : Verdict) : Prop where
  score : other.compatibilityScore ≤ one.compatibilityScore
  risk : one.overallRisk.rank ≤ other.overallRisk.rank
  priority : one.mitigationPriority.rank ≤ other.mitigationPriority.rank
  breaking : one.breaking ≤ other.breaking

/-- A further statement makes nothing better, and a dropped table is critical. -/
structure Judged (upper : UpperCase) (changes : List String) (further : String) : Prop where
  bounded : 0 ≤ (verdict upper changes).compatibilityScore ∧ (verdict upper changes).compatibilityScore ≤ 100
  monotone : (verdict upper changes).Better (verdict upper (changes ++ [further]))
  dropped : (∃ sql ∈ changes, DropsTable sql) →
    (verdict upper changes).overallRisk = .CRITICAL ∧ (verdict upper changes).compatibilityScore ≤ 45

/-! ## Counts -/

theorem score_bounded (classifiedChanges : List ClassifiedChange) (breakingChanges : BreakingChanges) :
    0 ≤ calculateCompatibilityScore classifiedChanges breakingChanges ∧
      calculateCompatibilityScore classifiedChanges breakingChanges ≤ 100 := by
  unfold calculateCompatibilityScore
  split <;> omega

theorem length_breakingAt (risk : RiskLevel) (list : List ClassifiedChange) :
    (breakingAt risk list).length = list.countP (breaksAt risk) := by
  rw [breakingAt, List.length_map, List.countP_eq_length_filter]

section Changes

variable (upper : UpperCase) (changes : List String)

private theorem classifyChanges_append (further : String) :
    classifyChanges upper (changes ++ [further]) =
      classifyChanges upper changes ++ [classifyChange upper changes.length further] := by
  rw [classifyChanges, List.mapIdx_concat]
  rfl

/-- Another change takes nothing from a count. -/
theorem countP_classified_le (p : ClassifiedChange → Bool) (further : String) :
    (classifyChanges upper changes).countP p ≤ (classifyChanges upper (changes ++ [further])).countP p := by
  rw [classifyChanges_append, List.countP_append]
  omega

/-- The score goes down as the counts go up. -/
theorem score_le {one other : List ClassifiedChange} (longer : other.length ≠ 0)
    (total : one.countP (·.classification = .BREAKING) ≤ other.countP (·.classification = .BREAKING))
    (critical : one.countP (breaksAt .critical) ≤ other.countP (breaksAt .critical))
    (high : one.countP (breaksAt .high) ≤ other.countP (breaksAt .high))
    (risky : one.countP isHighRisk ≤ other.countP isHighRisk) :
    calculateCompatibilityScore other (analyzeBreakingChanges other) ≤
      calculateCompatibilityScore one (analyzeBreakingChanges one) := by
  have bounded := score_bounded other (analyzeBreakingChanges other)
  by_cases nothing : one.length = 0
  · have best : calculateCompatibilityScore one (analyzeBreakingChanges one) = 100 := if_pos nothing
    rw [best]
    exact bounded.2
  · simp only [calculateCompatibilityScore, if_neg nothing, if_neg longer, analyzeBreakingChanges,
      length_breakingAt, ← List.countP_eq_length_filter]
    omega

theorem better_append (further : String) :
    (verdict upper changes).Better (verdict upper (changes ++ [further])) := by
  have total := countP_classified_le upper changes (·.classification = .BREAKING) further
  have critical := countP_classified_le upper changes (breaksAt .critical) further
  have high := countP_classified_le upper changes (breaksAt .high) further
  have risky := countP_classified_le upper changes isHighRisk further
  have longer : (classifyChanges upper (changes ++ [further])).length ≠ 0 := by
    simp [classifyChanges]
  refine ⟨score_le longer total critical high risky, ?_, ?_, ?_⟩
  · simp only [verdict, calculateOverallRisk, analyzeBreakingChanges, length_breakingAt]
    split_ifs <;> simp only [OverallRisk.rank] <;> omega
  · simp only [verdict, calculateMitigationPriority, analyzeBreakingChanges, length_breakingAt]
    split_ifs <;> simp only [OverallRisk.rank] <;> omega
  · simpa only [verdict, analyzeBreakingChanges, ← List.countP_eq_length_filter] using total

/-! ## Dropped tables -/

/-- The statement begins with `DROP TABLE`, letter by letter. -/
def Opening (sql : String) : Prop := opens "DROP TABLE" (upper.text sql)

theorem breaksAt_critical (change : ClassifiedChange) :
    breaksAt .critical change = true ↔ change.classification = .BREAKING ∧ change.operation = .DROP_TABLE := by
  rw [breaksAt, Bool.and_eq_true, decide_eq_true_eq, decide_eq_true_eq]
  apply and_congr_right
  intro breaking
  rw [calculateChangeRisk, if_pos breaking]
  cases change.operation <;> simp

/-- The statements that begin so are those of critical risk. -/
theorem classified_critical (id : Nat) (sql : String) :
    breaksAt .critical (classifyChange upper id sql) = true ↔ Opening upper sql := by
  rw [breaksAt_critical, operation_classifyChange, operationOf_dropTable]
  constructor
  · exact And.right
  · intro begun
    exact ⟨classification_classifyChange id (isBreakingChange_of_opens begun), begun⟩

theorem critical_iff :
    (verdict upper changes).overallRisk = .CRITICAL ↔ ∃ sql ∈ changes, Opening upper sql := by
  have counted : 0 < (classifyChanges upper changes).countP (breaksAt .critical) ↔
      ∃ sql ∈ changes, Opening upper sql := by
    rw [List.countP_pos_iff]
    constructor
    · rintro ⟨change, member, critical⟩
      obtain ⟨id, within, rfl⟩ := List.mem_mapIdx.mp member
      exact ⟨_, List.getElem_mem within, (classified_critical upper id _).mp critical⟩
    · rintro ⟨sql, member, begun⟩
      obtain ⟨id, within, rfl⟩ := List.mem_iff_getElem.mp member
      exact ⟨_, List.mem_mapIdx.mpr ⟨id, within, rfl⟩, (classified_critical upper id _).mpr begun⟩
  rw [← counted]
  simp only [verdict, calculateOverallRisk, analyzeBreakingChanges, length_breakingAt]
  split_ifs <;> simp_all

end Changes

/-- One critical change takes 55 points. -/
theorem score_of_critical {list : List ClassifiedChange}
    (critical : calculateOverallRisk (analyzeBreakingChanges list) = .CRITICAL) :
    calculateCompatibilityScore list (analyzeBreakingChanges list) ≤ 45 := by
  have one : 0 < list.countP (breaksAt .critical) := by
    by_contra none
    simp only [calculateOverallRisk, analyzeBreakingChanges, length_breakingAt, if_neg none] at critical
    split_ifs at critical
  obtain ⟨change, member, breaks⟩ := List.countP_pos_iff.mp one
  obtain ⟨breaking, drops⟩ := (breaksAt_critical change).mp breaks
  have total : 0 < list.countP (·.classification = .BREAKING) :=
    List.countP_pos_iff.mpr ⟨change, member, by simp [breaking]⟩
  have risky : 0 < list.countP isHighRisk := List.countP_pos_iff.mpr ⟨change, member, by simp [isHighRisk, drops]⟩
  have positive := List.length_pos_of_mem member
  have some_change : list.length ≠ 0 := by omega
  simp only [calculateCompatibilityScore, if_neg some_change, analyzeBreakingChanges, length_breakingAt,
    ← List.countP_eq_length_filter]
  omega

/-- The verdict is as it should be just when a dropped table comes with a statement that begins with
`DROP TABLE`. -/
theorem judged_iff (upper : UpperCase) (changes : List String) (further : String) :
    Judged upper changes further ↔
      ((∃ sql ∈ changes, DropsTable sql) → ∃ sql ∈ changes, Opening upper sql) := by
  constructor
  · intro judged drops
    exact (critical_iff upper changes).mp (judged.dropped drops).1
  · intro begun
    refine ⟨score_bounded _ _, better_append upper changes further, fun drops => ?_⟩
    have critical := (critical_iff upper changes).mpr (begun drops)
    exact ⟨critical, score_of_critical critical⟩

/-- Two spaces between the words, and the table is dropped at low risk. -/
theorem drop_overlooked : ¬ Judged .basic ["DROP  TABLE orders"] "CREATE TABLE orders (id uuid)" := by
  intro judged
  have drops : ∃ sql ∈ ["DROP  TABLE orders"], DropsTable sql :=
    ⟨_, List.mem_singleton_self _, [.word "DROP", .word "TABLE", .word "ORDERS"], by decide, by decide⟩
  have critical := (judged.dropped drops).1
  revert critical
  decide

end DriverMicroServices.SchemaCompatibility
