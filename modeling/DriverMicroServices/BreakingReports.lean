import DriverMicroServices.ClassAgreement
import DriverMicroServices.RiskReports

/-! Reports and classes. The reports know breaking statements by patterns of their own, which are not those
of the classification. -/
namespace DriverMicroServices.PlanReports
open Texts.Regex Texts.Regex.Pattern SchemaClassification

/-- The statement stands among the breaking changes, behind one of the texts that these begin with. -/
def Occurs (sql : String) (changes : List String) : Prop := ∃ kind ∈ breakingKinds, kind.1 ++ sql ∈ changes

/-- The reports agree with the classification of the statements. -/
structure ReportsAgree (sqlStatements : List String) : Prop where
  listed : ∃ report, checkCompatibility (classifyOperations sqlStatements) = .ok report ∧
    ∀ operation ∈ classifyOperations sqlStatements,
      Occurs operation.sql report.breakingChanges ↔ operation.category = .BREAKING
  risky : ∀ operation ∈ classifyOperations sqlStatements, operation.category = .BREAKING →
    ∃ risk ∈ analyzeRisk (classifyOperations sqlStatements), risk.operation = operation.sql ∧
      (risk.severity = .HIGH ∨ risk.severity = .CRITICAL) ∧ risk.requiresApproval
  incompatible : (∃ operation ∈ classifyOperations sqlStatements, operation.category = .BREAKING) →
    ∀ summary, getCompatibilitySummary (classifyOperations sqlStatements) = .ok summary → summary.isCompatible = false

/-! ## The condition -/

/-- Both report and classification know the statement as breaking. -/
def knownToBoth (sql : String) : Bool :=
  (SqlRule.whole ["DROP", "TABLE"] empty).test sql || (SqlRule.whole ["DROP", "COLUMN"] empty).test sql ||
    (SqlRule.whole ["DROP", "TYPE"] empty).test sql || (SqlRule.whole ["RENAME", "COLUMN"] empty).test sql

/-- `SET NOT NULL` without a default, in words of their own. -/
def setsWithoutDefault (sql : String) : Bool :=
  (SqlRule.whole ["SET", "NOT", "NULL"] empty).test sql && !(SqlRule.whole ["DEFAULT"] empty).test sql

/-- The classification alone has these. -/
def classOnly (sql : String) : Bool :=
  (SqlRule.whole ["ALTER", "TYPE"] empty).test sql || (SqlRule.whole ["RENAME", "TABLE"] empty).test sql ||
    (words ["SET", "NOT", "NULL"] empty).test sql

/-- The report alone has these: a constraint that is dropped, and a type behind a longer word than `COLUMN`. -/
def reportOnly (sql : String) : Bool :=
  (SqlRule.whole ["DROP", "CONSTRAINT"] empty).test sql || ReportPattern.typeChange.test sql

/-- `\bALTER\s+COLUMN\b.*TYPE\b` -/
def changesType (sql : String) : Bool :=
  (SqlRule.whole ["ALTER", "COLUMN"] (seq (many isDot) (text "TYPE" (seq boundary empty)))).test sql

/-- What a statement must be like: where only one of the two looks for what it says, it says something else too
that the other one looks for. -/
structure Told (sql : String) : Prop where
  reported : classOnly sql → knownToBoth sql ∨ setsWithoutDefault sql ∨ reportOnly sql
  classified : reportOnly sql → knownToBoth sql ∨ changesType sql ∨ classOnly sql

/-! ## The patterns -/

private theorem wholeOf_test (word : String) (list : List String) (sql : String) :
    (ReportPattern.wholeOf word list).test sql ↔ ∃ other ∈ list, (SqlRule.whole [word, other] empty).test sql :=
  ((((chooses_anyOf list _).seq (plus isSpace)).text word).seq boundary).test

private theorem typeChange_of_changesType {sql : String} (found : changesType sql) : ReportPattern.typeChange.test sql := by
  have further := (within_boundary (seq (many isDot) (Pattern.text "TYPE" (seq boundary empty)))).words
    ["ALTER", "COLUMN"]
  exact (further.seq boundary).test found

private theorem classOnly_of_setsWithoutDefault {sql : String} (found : setsWithoutDefault sql) : classOnly sql := by
  unfold setsWithoutDefault at found
  rw [Bool.and_eq_true] at found
  have bare : (words ["SET", "NOT", "NULL"] empty).test sql := by
    have inner := (within_boundary empty).words ["SET", "NOT", "NULL"]
    exact inner.test ((within_boundary _).test found.1)
  simp [classOnly, bare]

/-- Whether a statement is breaking by its class. -/
theorem breaking_iff (sql : String) :
    (classifySqlStatement sql).1 = .BREAKING ↔ knownToBoth sql ∨ changesType sql ∨ classOnly sql := by
  rw [classifySqlStatement_category]
  refine category_breaking_iff.trans ?_
  simp only [reads, breakingRules, rules, engineRules, SqlRule.all, List.take, List.drop, List.any_cons, List.any_nil,
    Bool.or_false, Bool.or_eq_true, knownToBoth, changesType, classOnly]
  grind

/-- Whether one of the kinds of breaking changes is said of a statement. -/
theorem kinds_iff (sql : String) :
    (∃ kind ∈ breakingKinds, kind.2 sql) ↔ knownToBoth sql ∨ setsWithoutDefault sql ∨ reportOnly sql := by
  simp only [breakingKinds, List.mem_cons, exists_eq_or_imp, List.not_mem_nil, or_false, exists_eq_left,
    wholeOf_test, knownToBoth, setsWithoutDefault, reportOnly, ReportPattern.renameColumn, ReportPattern.setNotNull,
    ReportPattern.default, ReportPattern.dropConstraint, Bool.or_eq_true]
  grind

/-! ## What is listed -/

/-- Texts that begin with kinds are the same only if the kinds are. -/
theorem kind_append {kind kind' : String × (String → Bool)} {sql sql' : String} (member : kind ∈ breakingKinds)
    (member' : kind' ∈ breakingKinds) (same : kind.1 ++ sql = kind'.1 ++ sql') : kind = kind' ∧ sql = sql' := by
  -- they differ in their eighth letters
  have long : ∀ kind ∈ breakingKinds, 7 < kind.1.toList.length := by
    simp [breakingKinds]
  have apart : (breakingKinds.map fun kind => kind.1.toList[7]?).Nodup := by
    simp [breakingKinds]
  have letters : kind.1.toList[7]? = kind'.1.toList[7]? := by
    have here := congrArg (·.toList[7]?) same
    simpa [String.toList_append, List.getElem?_append_left, long kind member, long kind' member'] using here
  obtain rfl := List.inj_on_of_nodup_map apart member member' letters
  refine ⟨rfl, String.toList_injective ?_⟩
  have texts := congrArg String.toList same
  rw [String.toList_append, String.toList_append] at texts
  exact List.append_cancel_left texts

private theorem mem_findBreakingChanges {operations : List SchemaOperation} {change : String} :
    change ∈ findBreakingChanges operations ↔
      ∃ operation ∈ operations, ∃ kind ∈ breakingKinds, kind.2 operation.sql ∧ kind.1 ++ operation.sql = change := by
  simp only [findBreakingChanges, List.mem_flatMap, List.mem_map, List.mem_filter, and_assoc]

theorem occurs_iff {operations : List SchemaOperation} {operation : SchemaOperation}
    (member : operation ∈ operations) :
    Occurs operation.sql (findBreakingChanges operations) ↔ ∃ kind ∈ breakingKinds, kind.2 operation.sql := by
  simp only [Occurs, mem_findBreakingChanges]
  constructor
  · rintro ⟨kind, known, other, -, kind', known', found, same⟩
    obtain ⟨rfl, text⟩ := kind_append known' known same
    exact ⟨kind', known', text ▸ found⟩
  · rintro ⟨kind, known, found⟩
    exact ⟨kind, known, operation, member, kind, known, found, rfl⟩

/-! ## When there is a report -/

/-- A fold goes through if and only if each of its steps does. -/
theorem foldlM_ok_iff {α β ε : Type} {step : β → α → Except ε β} {good : α → Prop}
    (each : ∀ state a, (∃ next, step state a = .ok next) ↔ good a) (list : List α) (state : β) :
    (∃ last, list.foldlM step state = .ok last) ↔ ∀ a ∈ list, good a := by
  induction list generalizing state with
  | nil => exact ⟨fun _ => List.forall_mem_nil _, fun _ => ⟨state, rfl⟩⟩
  | cons a rest ih =>
    rw [List.foldlM_cons, List.forall_mem_cons, ← each state a]
    cases taken : step state a with
    | error error =>
      constructor
      · rintro ⟨last, impossible⟩
        cases impossible
      · rintro ⟨⟨next, impossible⟩, -⟩
        cases impossible
    | ok next =>
      refine (ih next).trans ⟨fun further => ⟨⟨next, rfl⟩, further⟩, fun both => both.2⟩

private theorem grouped_iff (operations : List SchemaOperation) :
    (∃ grouped, groupOperationsByTable operations = .ok grouped) ↔
      ∀ operation ∈ operations, ∀ table ∈ extractTableReferences operation.sql, table ∉ inheritedKeys := by
  have pushed (operation : SchemaOperation) (grouped : TableOperations) (table : String) :
      (∃ next, pushOperation operation grouped table = .ok next) ↔ table ∉ inheritedKeys := by
    unfold pushOperation
    split
    · rename_i inherited
      constructor
      · rintro ⟨next, impossible⟩
        cases impossible
      · exact fun fresh => absurd inherited fresh
    · rename_i fresh
      exact ⟨fun _ => fresh, fun _ => ⟨_, rfl⟩⟩
  have placed (grouped : TableOperations) (operation : SchemaOperation) :=
    foldlM_ok_iff (pushed operation) (extractTableReferences operation.sql) grouped
  exact foldlM_ok_iff placed operations []

/-- A report lists what `findBreakingChanges` finds, and there is one if no table has the name of something
that every object has. -/
theorem checkCompatibility_spec (operations : List SchemaOperation) :
    ((∃ report, checkCompatibility operations = .ok report) ↔
        ∀ operation ∈ operations, ∀ table ∈ extractTableReferences operation.sql, table ∉ inheritedKeys) ∧
      ∀ report, checkCompatibility operations = .ok report →
        report.breakingChanges = findBreakingChanges operations ∧
          report.backwardCompatible = (findBreakingChanges operations).isEmpty := by
  rw [← grouped_iff]
  unfold checkCompatibility checkMigrationCompatibility
  cases groupOperationsByTable operations with
  | error error =>
    refine ⟨⟨?_, ?_⟩, ?_⟩
    · rintro ⟨report, impossible⟩
      cases impossible
    · rintro ⟨grouped, impossible⟩
      cases impossible
    · intro report impossible
      cases impossible
  | ok grouped =>
    refine ⟨⟨fun _ => ⟨grouped, rfl⟩, fun _ => ⟨_, rfl⟩⟩, ?_⟩
    rintro report ⟨⟩
    exact ⟨rfl, rfl⟩

/-! ## Risks -/

private theorem mem_riskIf {found : Bool} {risk risk' : RiskReport} : risk ∈ riskIf found risk' ↔ found ∧ risk = risk' := by
  cases found <;> simp [riskIf]

/-- A breaking operation has a risk of its own. -/
theorem risk_of_breaking {operation : SchemaOperation} (breaking : operation.category = .BREAKING) :
    ∃ risk ∈ analyzeSingleOperation operation, risk.operation = operation.sql ∧ risk.severity = .HIGH ∧
      risk.requiresApproval := by
  simp only [analyzeSingleOperation, analyzeCompatibilityRisks, List.mem_append, mem_riskIf]
  exact ⟨_, .inr (.inl (.inl (.inl ⟨decide_eq_true breaking, rfl⟩))), rfl, rfl, rfl⟩

/-- A summary never finds compatible what has a breaking change in the list. -/
theorem summary_incompatible {operations : List SchemaOperation} {summary : CompatibilitySummary}
    (listed : findBreakingChanges operations ≠ []) (given : getCompatibilitySummary operations = .ok summary) :
    summary.isCompatible = false := by
  unfold getCompatibilitySummary at given
  cases checked : checkCompatibility operations with
  | error error =>
    rw [checked] at given
    cases given
  | ok report =>
    rw [checked] at given
    cases given
    simp [((checkCompatibility_spec operations).2 report checked).2, listed]

/-! ## The agreement -/

theorem mem_classifyOperations {sqlStatements : List String} {operation : SchemaOperation}
    (member : operation ∈ classifyOperations sqlStatements) :
    operation.sql ∈ sqlStatements ∧ operation.category = (classifySqlStatement operation.sql).1 := by
  obtain ⟨sql, there, rfl⟩ := List.mem_map.mp member
  exact ⟨there, rfl⟩

theorem told_iff (sql : String) :
    Told sql ↔ ((∃ kind ∈ breakingKinds, kind.2 sql) ↔ (classifySqlStatement sql).1 = .BREAKING) := by
  rw [kinds_iff, breaking_iff]
  have types : changesType sql → reportOnly sql := fun found => by
    simp [reportOnly, typeChange_of_changesType found]
  have sets := @classOnly_of_setsWithoutDefault sql
  constructor
  · rintro ⟨reported, classified⟩
    constructor
    · rintro (known | set | own)
      · exact .inl known
      · exact .inr (.inr (sets set))
      · exact classified own
    · rintro (known | type | own)
      · exact .inl known
      · exact .inr (.inr (types type))
      · exact reported own
  · intro same
    exact ⟨fun own => same.mpr (.inr (.inr own)), fun own => same.mp (.inr (.inr own))⟩

/-- Reports and classification agree on a list of statements if and only if each statement is told as breaking
by both or by none, and no table has the name of something that every object has. -/
theorem reports_agree_iff (sqlStatements : List String) :
    ReportsAgree sqlStatements ↔
      (∀ sql ∈ sqlStatements, Told sql) ∧
        ∀ sql ∈ sqlStatements, ∀ table ∈ extractTableReferences sql, table ∉ inheritedKeys := by
  have there {sql : String} (member : sql ∈ sqlStatements) :
      ∃ operation ∈ classifyOperations sqlStatements, operation.sql = sql ∧
        operation.category = (classifySqlStatement sql).1 :=
    ⟨_, List.mem_map_of_mem member, rfl, rfl⟩
  obtain ⟨goes, lists⟩ := checkCompatibility_spec (classifyOperations sqlStatements)
  constructor
  · rintro ⟨⟨report, given, listed⟩, -, -⟩
    refine ⟨fun sql member => ?_, fun sql member => ?_⟩
    · obtain ⟨operation, made, rfl, category⟩ := there member
      rw [told_iff, ← category, ← listed operation made, (lists report given).1]
      exact (occurs_iff made).symm
    · obtain ⟨operation, made, rfl, -⟩ := there member
      exact goes.mp ⟨report, given⟩ operation made
  · rintro ⟨told, plain⟩
    have listed {operation : SchemaOperation} (made : operation ∈ classifyOperations sqlStatements) :
        Occurs operation.sql (findBreakingChanges (classifyOperations sqlStatements)) ↔
          operation.category = .BREAKING := by
      obtain ⟨member, category⟩ := mem_classifyOperations made
      rw [occurs_iff made, category]
      exact (told_iff operation.sql).mp (told _ member)
    refine ⟨?_, ?_, ?_⟩
    · obtain ⟨report, given⟩ := goes.mpr fun operation made => plain _ (mem_classifyOperations made).1
      refine ⟨report, given, fun operation made => ?_⟩
      rw [(lists report given).1]
      exact listed made
    · intro operation made breaking
      obtain ⟨risk, found, same, high, approved⟩ := risk_of_breaking breaking
      exact ⟨risk, List.mem_flatMap.mpr ⟨operation, made, found⟩, same, .inl high, approved⟩
    · rintro ⟨operation, made, breaking⟩ summary given
      obtain ⟨kind, -, change⟩ := (listed made).mpr breaking
      exact summary_incompatible (List.ne_nil_of_mem change) given

/-- A type that is renamed is breaking and in no list, and the plan is compatible. A constraint that is
dropped is listed and safe. -/
theorem reports_disagree :
    let renamed := "ALTER TYPE \"mood\" RENAME TO \"mood_old\""
    let dropped := "ALTER TABLE \"users\" DROP CONSTRAINT \"uq_email\""
    ((classifySqlStatement renamed).1 = .BREAKING ∧ findBreakingChanges (classifyOperations [renamed]) = [] ∧
        (getCompatibilitySummary (classifyOperations [renamed])).map (·.isCompatible) = .ok true ∧
        ¬ ReportsAgree [renamed]) ∧
      (classifySqlStatement dropped).1 = .SAFE ∧
        findBreakingChanges (classifyOperations [dropped]) =
          ["DROP operation: " ++ dropped, "Constraint removal: " ++ dropped] ∧ ¬ ReportsAgree [dropped] := by
  intro renamed dropped
  have breaking : (classifySqlStatement renamed).1 = .BREAKING := by decide
  have unlisted : findBreakingChanges (classifyOperations [renamed]) = [] := by decide
  have safe : (classifySqlStatement dropped).1 = .SAFE := by decide
  have listed : findBreakingChanges (classifyOperations [dropped]) =
      ["DROP operation: " ++ dropped, "Constraint removal: " ++ dropped] := by decide
  refine ⟨⟨breaking, unlisted, by decide +kernel, fun agree => ?_⟩, safe, listed, fun agree => ?_⟩
  · obtain ⟨report, given, reported⟩ := agree.listed
    obtain ⟨kind, -, change⟩ := (reported _ (List.mem_singleton_self _)).mpr breaking
    rw [((checkCompatibility_spec _).2 report given).1, unlisted] at change
    cases change
  · obtain ⟨report, given, reported⟩ := agree.listed
    have first : "DROP operation: " ++ dropped ∈ report.breakingChanges := by
      rw [((checkCompatibility_spec _).2 report given).1, listed]
      exact List.mem_cons_self
    have category := (reported _ (List.mem_singleton_self _)).mp ⟨_, List.mem_cons_self, first⟩
    exact absurd (safe.symm.trans category) (by decide)

end DriverMicroServices.PlanReports
