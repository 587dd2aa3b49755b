import DriverMicroServices.ExpandContract
import DriverMicroServices.PolicyRules

/-! The gate of the policies: which statements it stops. A rule that detects a statement lets it
pass when nothing can be read from it, so names in quotes and names without a table in front go
through. -/
namespace DriverMicroServices.Policy
open Texts Texts.Tokens Texts.Regex Texts.Regex.Pattern CompatibilityRules OperationalRules

/-! ## Decisions in their order -/

namespace Decision

def strictness : Decision → Nat
  | ALLOW => 0
  | REQUIRE_APPROVAL => 1
  | DENY => 2

instance : LE Decision := ⟨fun a b => a.strictness ≤ b.strictness⟩

theorem le_iff {a b : Decision} : a ≤ b ↔ a.strictness ≤ b.strictness := Iff.rfl

theorem refl (a : Decision) : a ≤ a := Nat.le_refl a.strictness

theorem trans {a b c : Decision} (first : a ≤ b) (second : b ≤ c) : a ≤ c :=
  Nat.le_trans (le_iff.mp first) (le_iff.mp second)

end Decision

/-- The decision that a violation asks for. -/
def Severity.decision : Severity → Decision
  | CRITICAL => .DENY
  | WARNING => .REQUIRE_APPROVAL
  | INFO => .ALLOW

namespace SchemaPolicyEngine

section Decision

variable {violations more : List PolicyViolation} {decision : Decision}

theorem count_pos_iff {severity : Severity} :
    0 < (violations.filter (·.severity = severity)).length ↔
      ∃ violation ∈ violations, violation.severity = severity := by
  simp [List.length_pos_iff_exists_mem]

theorem decisionOn_decision :
    (decisionOn violations).decision =
      if 0 < (violations.filter (·.severity = .CRITICAL)).length then .DENY
      else if 0 < (violations.filter (·.severity = .WARNING)).length then .REQUIRE_APPROVAL
      else .ALLOW := by
  dsimp only [decisionOn]
  split
  · rfl
  · split <;> rfl

@[simp] theorem decisionOn_violations : (decisionOn violations).violations = violations := by
  dsimp only [decisionOn]
  split
  · rfl
  · split <;> rfl

/-- The decision is the strictest one that a violation asks for. -/
theorem decisionOn_le_iff :
    (decisionOn violations).decision ≤ decision ↔
      ∀ violation ∈ violations, violation.severity.decision ≤ decision := by
  have lowest (decision : Decision) : Decision.ALLOW ≤ decision := Decision.le_iff.mpr (Nat.zero_le _)
  have strictest (severity : Severity) : severity.decision ≤ .DENY := by
    cases severity <;> simp [Decision.le_iff, Decision.strictness, Severity.decision]
  have asked {severity : Severity} (all : ∀ violation ∈ violations, violation.severity.decision ≤ decision)
      (some : ∃ violation ∈ violations, violation.severity = severity) : severity.decision ≤ decision := by
    obtain ⟨violation, member, rfl⟩ := some
    exact all violation member
  simp only [decisionOn_decision, count_pos_iff]
  split
  · rename_i critical
    exact ⟨fun denied violation _ => Decision.trans (strictest _) denied, fun all => asked all critical⟩
  · rename_i uncritical
    split
    · rename_i warning
      refine ⟨fun approval violation member => Decision.trans ?_ approval, fun all => asked all warning⟩
      cases severe : violation.severity with
      | CRITICAL => exact absurd ⟨violation, member, severe⟩ uncritical
      | WARNING => exact Decision.refl _
      | INFO => exact lowest _
    · rename_i unwarned
      refine ⟨fun _ violation member => ?_, fun _ => lowest decision⟩
      cases severe : violation.severity with
      | CRITICAL => exact absurd ⟨violation, member, severe⟩ uncritical
      | WARNING => exact absurd ⟨violation, member, severe⟩ unwarned
      | INFO => exact lowest decision

/-- More violations do not weaken the decision. -/
theorem decisionOn_mono (subset : violations ⊆ more) :
    (decisionOn violations).decision ≤ (decisionOn more).decision :=
  decisionOn_le_iff.mpr fun violation member => decisionOn_le_iff.mp (Decision.refl _) violation (subset member)

private theorem denied_iff :
    (decisionOn violations).decision = .DENY ↔ ∃ violation ∈ violations, violation.severity = .CRITICAL := by
  rw [decisionOn_decision, ← count_pos_iff]
  split
  · rename_i critical
    exact ⟨fun _ => critical, fun _ => rfl⟩
  · rename_i uncritical
    refine ⟨fun denied => ?_, fun critical => absurd critical uncritical⟩
    split at denied <;> cases denied

end Decision

variable {σ ν : Type} [Numerals ν] {currentHour : Nat} {context : PolicyContext σ ν}

/-! ## What the violations are -/

end SchemaPolicyEngine

/-- More statements have more pairs. -/
theorem pairs_sublist {operations more : List String} (longer : operations.Sublist more) :
    (pairs operations).Sublist (pairs more) := by
  induction longer with
  | slnil => exact .slnil
  | cons op longer ih => exact ih.trans (List.sublist_append_right _ _)
  | cons_cons op longer ih => exact (longer.map _).append ih

namespace SchemaPolicyEngine

variable {σ ν : Type} [Numerals ν] {currentHour : Nat} {context : PolicyContext σ ν} {up : List String}

private theorem violations_sublist (longer : context.schemaDiff.up.Sublist up) :
    (violations currentHour context).Sublist (violations currentHour { context with schemaDiff := ⟨up⟩ }) := by
  have window : (checkMaintenanceWindow currentHour context.schemaDiff
        (context.maintenanceWindow.getD defaultMaintenanceWindow)).Sublist
      (checkMaintenanceWindow currentHour ⟨up⟩ (context.maintenanceWindow.getD defaultMaintenanceWindow)) := by
    unfold checkMaintenanceWindow
    split
    · exact .slnil
    · exact (longer.filter _).map _
  have compatible : (CompatibilityRules.evaluate context.schemaDiff).Sublist (CompatibilityRules.evaluate ⟨up⟩) :=
    ((((longer.filterMap _).append (longer.filterMap _)).append (longer.filterMap _)).append
      (longer.filterMap _)).append (longer.filterMap _)
  have conflicts : (checkOperationConflicts context.schemaDiff).Sublist (checkOperationConflicts ⟨up⟩) :=
    ((pairs_sublist longer).filter _).map _
  exact compatible.append
    (((window.append (longer.filterMap _)).append ((longer.filter _).map _)).append conflicts)

/-- More statements do not weaken the decision. -/
theorem evaluate_mono (longer : context.schemaDiff.up.Sublist up) :
    (evaluate currentHour context).decision ≤
      (evaluate currentHour { context with schemaDiff := ⟨up⟩ }).decision :=
  decisionOn_mono (violations_sublist longer).subset

end SchemaPolicyEngine

/-! ## What a rule finds -/

namespace CompatibilityRules.DirectRule

variable {rule : DirectRule} {sql : String} {violation : PolicyViolation}

/-- The statement is detected, and can be read. -/
def applies (rule : DirectRule) (sql : String) : Bool := rule.detects sql && rule.extraction.test sql

theorem applies_iff : rule.applies sql ↔ ∃ violation, rule.violation sql = some violation := by
  unfold applies DirectRule.violation Pattern.test
  cases rule.detects sql <;> cases rule.extraction.search sql <;> simp

theorem violation_names (found : rule.violation sql = some violation) :
    violation.operation = sql ∧ violation.severity = rule.severity := by
  unfold DirectRule.violation at found
  split at found
  · obtain ⟨captures, -, rfl⟩ := Option.map_eq_some_iff.mp found
    exact ⟨rfl, rfl⟩
  · cases found

end CompatibilityRules.DirectRule

namespace SchemaPolicyEngine

variable {σ ν : Type} [Numerals ν] {currentHour : Nat} {context : PolicyContext σ ν} {sql : String}
  {violation : PolicyViolation}

/-- The operation would block, and it is not the time for that. -/
def untimely (currentHour : Nat) (context : PolicyContext σ ν) (sql : String) : Bool :=
  !(context.maintenanceWindow.getD defaultMaintenanceWindow).holds currentHour && isBlockingOperation sql

/-- The violations of one statement. -/
def statementViolations (currentHour : Nat) (context : PolicyContext σ ν) (sql : String) : List PolicyViolation :=
  [columnRename, columnTypeChange, columnDrop, tableDrop].filterMap (·.violation sql) ++
    (constraintChange sql).toList ++
    (if untimely currentHour context sql then
      [outsideWindow (context.maintenanceWindow.getD defaultMaintenanceWindow) sql] else []) ++
    (sizeViolation context.operationMetadata sql).toList ++
    (if isBlockingOperation sql then [blockingViolation context.operationMetadata sql] else [])

theorem mem_statementViolations :
    violation ∈ statementViolations currentHour context sql ↔
      (∃ rule ∈ [columnRename, columnTypeChange, columnDrop, tableDrop], rule.violation sql = some violation) ∨
        constraintChange sql = some violation ∨
        (untimely currentHour context sql ∧
          outsideWindow (context.maintenanceWindow.getD defaultMaintenanceWindow) sql = violation) ∨
        sizeViolation context.operationMetadata sql = some violation ∨
        isBlockingOperation sql ∧ blockingViolation context.operationMetadata sql = violation := by
  simp only [statementViolations, List.mem_append, List.mem_filterMap, Option.mem_toList,
    List.mem_ite_nil_right, List.mem_singleton, or_assoc, eq_comm (a := violation)]

theorem mem_violations :
    violation ∈ violations currentHour context ↔
      (∃ sql ∈ context.schemaDiff.up, violation ∈ statementViolations currentHour context sql) ∨
        ∃ ops ∈ pairs context.schemaDiff.up, isConflictingOperations ops.1 ops.2 ∧ conflict ops = violation := by
  have window : violation ∈ checkMaintenanceWindow currentHour context.schemaDiff
        (context.maintenanceWindow.getD defaultMaintenanceWindow) ↔
      ∃ sql ∈ context.schemaDiff.up, untimely currentHour context sql ∧
        outsideWindow (context.maintenanceWindow.getD defaultMaintenanceWindow) sql = violation := by
    unfold checkMaintenanceWindow untimely
    split <;> rename_i inside <;> simp [inside, and_assoc]
  simp only [violations, CompatibilityRules.evaluate, OperationalRules.evaluate, List.mem_append, window,
    checkColumnRenames, checkColumnTypeChanges, checkColumnDrops, checkTableDrops, checkConstraintChanges,
    checkTableSizeLimits, checkBlockingOperations, checkOperationConflicts, List.mem_filterMap, List.mem_map,
    List.mem_filter, mem_statementViolations, List.exists_mem_cons_iff, List.not_mem_nil, false_and, exists_false,
    or_false, and_or_left, exists_or, or_assoc, and_assoc]

/-- A critical rule applies to the statement. -/
def stopped (currentHour : Nat) (context : PolicyContext σ ν) (sql : String) : Bool :=
  [columnRename, columnTypeChange, columnDrop, tableDrop].any (·.applies sql) ||
    untimely currentHour context sql ||
    ((largeTable context.operationMetadata sql).isSome && isHighRiskOperation sql) ||
    (needsDowntime context.operationMetadata sql && isBlockingOperation sql)

/-- Some rule for one statement applies. -/
def noticed (currentHour : Nat) (context : PolicyContext σ ν) (sql : String) : Bool :=
  stopped currentHour context sql || isBlockingOperation sql || constraintAddition.applies sql

theorem blocking_of_drop (drop : isDirectConstraintDrop sql) : isBlockingOperation sql := by
  unfold isDirectConstraintDrop phrased at drop
  simp [isBlockingOperation, drop]

private theorem constraintChange_names (found : constraintChange sql = some violation) :
    violation.operation = sql ∧ violation.severity = .WARNING ∧
      (isBlockingOperation sql ∨ constraintAddition.applies sql) := by
  unfold constraintChange at found
  split at found
  · rename_i drop
    obtain ⟨names, warning⟩ := DirectRule.violation_names found
    exact ⟨names, warning, .inl (blocking_of_drop drop)⟩
  · obtain ⟨names, warning⟩ := DirectRule.violation_names found
    exact ⟨names, warning, .inr (DirectRule.applies_iff.mpr ⟨violation, found⟩)⟩

private theorem sizeViolation_names {metadata : List (String × TableMetadata ν)}
    (found : sizeViolation metadata sql = some violation) :
    violation.operation = sql ∧
      ((largeTable metadata sql).isSome && isHighRiskOperation sql ∨
        isBlockingOperation sql ∧ violation.severity = .WARNING) := by
  unfold sizeViolation at found
  split at found
  · rename_i tableName estimatedRows _ large
    split at found
    · rename_i risky
      cases found
      exact ⟨rfl, .inl (by simp [large, risky])⟩
    · split at found
      · rename_i blocking
        cases found
        exact ⟨rfl, .inr ⟨blocking, rfl⟩⟩
      · cases found
  · cases found

private theorem sizeViolation_critical {metadata : List (String × TableMetadata ν)}
    (large : (largeTable metadata sql).isSome) (risky : isHighRiskOperation sql) :
    ∃ violation, sizeViolation metadata sql = some violation ∧ violation.severity = .CRITICAL := by
  obtain ⟨estimatedRows, large⟩ := Option.isSome_iff_exists.mp large
  unfold sizeViolation
  cases named : OperationalRules.extractTableName sql with
  | none => simp [largeTable, metadataOf, named] at large
  | some tableName => simp [large, risky]

private theorem direct_critical {rule : DirectRule}
    (member : rule ∈ [columnRename, columnTypeChange, columnDrop, tableDrop]) : rule.severity = .CRITICAL := by
  simp only [List.mem_cons, List.not_mem_nil, or_false] at member
  rcases member with rfl | rfl | rfl | rfl <;> rfl

theorem stopped_iff :
    stopped currentHour context sql ↔
      (∃ rule ∈ [columnRename, columnTypeChange, columnDrop, tableDrop], rule.applies sql) ∨
        untimely currentHour context sql ∨
        (largeTable context.operationMetadata sql).isSome && isHighRiskOperation sql ∨
        needsDowntime context.operationMetadata sql && isBlockingOperation sql := by
  simp only [stopped, Bool.or_eq_true, List.any_eq_true, or_assoc]

/-- A violation of a statement names it, and is critical only if the statement is stopped. -/
theorem statementViolation_names (found : violation ∈ statementViolations currentHour context sql) :
    violation.operation = sql ∧ noticed currentHour context sql ∧
      (violation.severity = .CRITICAL → stopped currentHour context sql) := by
  have noted (here : stopped currentHour context sql) : noticed currentHour context sql := by
    simp [noticed, here]
  have blocked (blocking : isBlockingOperation sql) : noticed currentHour context sql := by
    simp [noticed, blocking]
  rcases mem_statementViolations.mp found with
    ⟨rule, member, found⟩ | found | ⟨late, rfl⟩ | found | ⟨blocking, rfl⟩
  · have here : stopped currentHour context sql :=
      stopped_iff.mpr (.inl ⟨rule, member, DirectRule.applies_iff.mpr ⟨violation, found⟩⟩)
    exact ⟨(DirectRule.violation_names found).1, noted here, fun _ => here⟩
  · obtain ⟨names, warning, blocking | addition⟩ := constraintChange_names found
    · exact ⟨names, blocked blocking, fun critical => by rw [warning] at critical; cases critical⟩
    · exact ⟨names, by simp [noticed, addition], fun critical => by rw [warning] at critical; cases critical⟩
  · have here : stopped currentHour context sql := stopped_iff.mpr (.inr (.inl late))
    exact ⟨rfl, noted here, fun _ => here⟩
  · obtain ⟨names, risky | ⟨blocking, warning⟩⟩ := sizeViolation_names found
    · have here : stopped currentHour context sql := stopped_iff.mpr (.inr (.inr (.inl risky)))
      exact ⟨names, noted here, fun _ => here⟩
    · exact ⟨names, blocked blocking, fun critical => by rw [warning] at critical; cases critical⟩
  · refine ⟨rfl, blocked blocking, fun critical => stopped_iff.mpr (.inr (.inr (.inr ?_)))⟩
    by_cases downtime : needsDowntime context.operationMetadata sql
    · simp [downtime, blocking]
    · simp [blockingViolation, downtime] at critical

theorem stopped_found (here : stopped currentHour context sql) :
    ∃ violation ∈ statementViolations currentHour context sql, violation.severity = .CRITICAL := by
  rcases stopped_iff.mp here with ⟨rule, member, applies⟩ | late | risky | down
  · obtain ⟨violation, found⟩ := DirectRule.applies_iff.mp applies
    refine ⟨violation, mem_statementViolations.mpr (.inl ⟨rule, member, found⟩), ?_⟩
    rw [(DirectRule.violation_names found).2, direct_critical member]
  · exact ⟨_, mem_statementViolations.mpr (.inr (.inr (.inl ⟨late, rfl⟩))), rfl⟩
  · obtain ⟨large, risky⟩ := Bool.and_eq_true_iff.mp risky
    obtain ⟨violation, found, critical⟩ := sizeViolation_critical large risky
    exact ⟨violation, mem_statementViolations.mpr (.inr (.inr (.inr (.inl found)))), critical⟩
  · obtain ⟨downtime, blocking⟩ := Bool.and_eq_true_iff.mp down
    refine ⟨_, mem_statementViolations.mpr (.inr (.inr (.inr (.inr ⟨blocking, rfl⟩)))), ?_⟩
    simp [blockingViolation, downtime]

private theorem noticed_found (here : noticed currentHour context sql) :
    ∃ violation, violation ∈ statementViolations currentHour context sql := by
  unfold noticed at here
  rcases (Bool.or_eq_true_iff.mp here).imp_left Bool.or_eq_true_iff.mp with (here | blocking) | addition
  · obtain ⟨violation, found, -⟩ := stopped_found here
    exact ⟨violation, found⟩
  · exact ⟨_, mem_statementViolations.mpr (.inr (.inr (.inr (.inr ⟨blocking, rfl⟩))))⟩
  · by_cases drop : isDirectConstraintDrop sql
    · exact ⟨_, mem_statementViolations.mpr (.inr (.inr (.inr (.inr ⟨blocking_of_drop drop, rfl⟩))))⟩
    · obtain ⟨violation, found⟩ := DirectRule.applies_iff.mp addition
      refine ⟨violation, mem_statementViolations.mpr (.inr (.inl ?_))⟩
      rwa [constraintChange, if_neg drop]

/-- A diff is denied when one of its statements is stopped. -/
theorem evaluate_denied_iff :
    (evaluate currentHour context).decision = .DENY ↔
      ∃ sql ∈ context.schemaDiff.up, stopped currentHour context sql := by
  unfold evaluate
  rw [denied_iff]
  constructor
  · rintro ⟨violation, found, critical⟩
    rcases mem_violations.mp found with ⟨sql, member, found⟩ | ⟨ops, -, -, rfl⟩
    · exact ⟨sql, member, (statementViolation_names found).2.2 critical⟩
    · cases critical
  · rintro ⟨sql, member, here⟩
    obtain ⟨violation, found, critical⟩ := stopped_found here
    exact ⟨violation, mem_violations.mpr (.inl ⟨sql, member, found⟩), critical⟩

/-! ## The gate -/

/-- `DROP [COLUMN] name` -/
def dropsColumn : List Token → Bool
  | .word "DROP" :: .word "CONSTRAINT" :: _ => false
  | .word "DROP" :: _ => true
  | _ => false

/-- The text drops a table, drops or renames a column, or changes the type of one. -/
def destroys (sql : String) : Bool :=
  (statements sql).any fun statement =>
    begins ["DROP", "TABLE"] statement || begins ["DROP", "FOREIGN", "TABLE"] statement ||
      (alterTable statement).any fun altered =>
        altered.2.any fun change => dropsColumn change || renames change || retypes change

/-- What destroys is denied by name, and more statements do not weaken the decision. -/
def NoHole (currentHour : Nat) (context : PolicyContext σ ν) : Prop :=
  (∀ sql ∈ context.schemaDiff.up, destroys sql →
    (evaluate currentHour context).decision = .DENY ∧
      ∃ violation ∈ (evaluate currentHour context).violations, violation.operation = sql) ∧
  ∀ up, context.schemaDiff.up.Sublist up →
    (evaluate currentHour context).decision ≤
      (evaluate currentHour { context with schemaDiff := ⟨up⟩ }).decision

/-- A rule applies to the statement, or two others conflict and are named together by its text. -/
def Named (currentHour : Nat) (context : PolicyContext σ ν) (sql : String) : Prop :=
  noticed currentHour context sql ∨
    ∃ ops ∈ pairs context.schemaDiff.up, isConflictingOperations ops.1 ops.2 ∧ (conflict ops).operation = sql

theorem named_iff (member : sql ∈ context.schemaDiff.up) :
    (∃ violation ∈ (evaluate currentHour context).violations, violation.operation = sql) ↔
      Named currentHour context sql := by
  rw [evaluate, decisionOn_violations]
  constructor
  · rintro ⟨violation, found, names⟩
    rcases mem_violations.mp found with ⟨other, -, found⟩ | ⟨ops, paired, conflicting, rfl⟩
    · obtain ⟨rfl, here, -⟩ := statementViolation_names found
      exact .inl (names ▸ here)
    · exact .inr ⟨ops, paired, conflicting, names⟩
  · rintro (here | ⟨ops, paired, conflicting, names⟩)
    · obtain ⟨violation, found⟩ := noticed_found here
      exact ⟨violation, mem_violations.mpr (.inl ⟨sql, member, found⟩), (statementViolation_names found).1⟩
    · exact ⟨conflict ops, mem_violations.mpr (.inr ⟨ops, paired, conflicting, rfl⟩), names⟩

/-- The gate has no hole for a diff just when each statement that destroys is noticed, in a diff
that a critical rule stops. -/
theorem no_hole_iff (currentHour : Nat) (context : PolicyContext σ ν) :
    NoHole currentHour context ↔
      ∀ sql ∈ context.schemaDiff.up, destroys sql →
        (∃ other ∈ context.schemaDiff.up, stopped currentHour context other) ∧ Named currentHour context sql := by
  constructor
  · rintro ⟨denies, -⟩ sql member destroyed
    obtain ⟨denied, named⟩ := denies sql member destroyed
    exact ⟨evaluate_denied_iff.mp denied, (named_iff member).mp named⟩
  · intro caught
    refine ⟨fun sql member destroyed => ?_, fun up longer => evaluate_mono longer⟩
    obtain ⟨stops, named⟩ := caught sql member destroyed
    exact ⟨evaluate_denied_iff.mpr stops, (named_iff member).mpr named⟩

/-- A table with its name in quotes. -/
def quotedDrop : PolicyContext Unit Nat := { schemaDiff := ⟨["DROP TABLE \"users\""]⟩, databaseSnapshot := () }

theorem quoted_drop_is_allowed : ¬ NoHole 3 quotedDrop := by
  intro noHole
  have denied := (noHole.1 "DROP TABLE \"users\"" (by decide) (by decide)).1
  exact absurd denied (by decide)

end SchemaPolicyEngine
end DriverMicroServices.Policy
