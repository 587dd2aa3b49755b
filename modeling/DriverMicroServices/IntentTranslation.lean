import DriverMicroServices.IntentPlans

/-! What becomes of an intent. The parser and the translator look at different fields, so there are
intents that the one accepts and the other cannot write. -/
namespace DriverMicroServices.Intents
open Texts Texts.Json Tables.Keyed SchemaIntentParser IntentTranslator

/-- Each phase depends on phases that are listed before it. -/
def DependsBack {τ : Type} : List PhaseName → List (IntentPhase τ) → Prop
  | _, [] => True
  | earlier, phase :: rest =>
    (∀ dependency ∈ phase.dependencies, dependency ∈ earlier) ∧ DependsBack (phase.phase :: earlier) rest

variable {ν : Type}

/-- The parts of the statements of a phase. -/
def sqlParts (phase : IntentPhase (Template ν)) : Template ν :=
  (phase.operations ++ phase.rollbackOperations).flatMap (·.sql)

/-- The part is no missing field. -/
def Part.present (part : Part ν) : Bool := !part.isMissing

@[simp] theorem present_lit (text : String) : (Part.lit text : Part ν).present = true := rfl

@[simp] theorem present_joined (value : Value ν) (separator : String) :
    (Part.joined value separator).present = true := rfl

@[simp] theorem present_joinedOr (value : Value ν) (separator other : String) :
    (Part.joinedOr value separator other).present = true := rfl

variable [Numerals ν]

/-- No text of a statement has a missing field in it. -/
def NothingMissing (intent : Intent ν) : Prop :=
  ∀ phases, plannedPhases intent = some phases → (phases.flatMap sqlParts).all Part.present = true

/-- The translation runs through, and what it gives is well formed. -/
def Translates (intent : Intent ν) : Prop :=
  ∃ translation, translate intent = some translation ∧ translation.phases ≠ [] ∧
    DependsBack [] translation.phases ∧ NothingMissing intent

/-- The parser runs through, and an intent that it accepts translates. -/
def Handled (intent : Intent ν) : Prop :=
  ∃ validation, parse intent = some validation ∧ (validation.valid = true → Translates intent)

/-! ## What can be written -/

def HasText (value : Value ν) : Prop := (render value).isSome = true

/-- An array of values that have texts. -/
def Joinable (value : Value ν) : Prop :=
  ∃ elements, value = some (.arr elements) ∧ (texts elements).isSome = true

/-- The fields that stand in the texts of a type whatever their values are. -/
def IntentType.fields : IntentType → List String
  | .RENAME_COLUMN => ["table", "column", "newColumn"]
  | .CHANGE_COLUMN_TYPE | .ADD_COLUMN => ["table", "column", "newType"]
  | .DROP_COLUMN => ["table", "column"]
  | .ADD_INDEX | .DROP_INDEX => ["table", "indexName"]
  | .ADD_CONSTRAINT => ["table", "constraintName", "constraintType"]
  | .DROP_CONSTRAINT => ["table", "constraintName"]
  | .RENAME_TABLE | .SPLIT_TABLE => ["table", "newTable"]
  | .MERGE_TABLES => ["newTable", "oldTable"]

def IntentType.joinsColumns : IntentType → Bool
  | .ADD_INDEX | .ADD_CONSTRAINT | .SPLIT_TABLE => true
  | _ => false

/-- Whether the number of rows is asked for. -/
def IntentType.countsRows (payload : Value ν) : IntentType → Bool
  | .RENAME_COLUMN | .CHANGE_COLUMN_TYPE | .ADD_INDEX | .SPLIT_TABLE | .MERGE_TABLES => true
  | .ADD_COLUMN => truthy (peek (peek payload "options") "backfillStrategy")
  | _ => false

/-- All that the texts of a type are written from has a text. -/
structure Expressible (payload : Value ν) (type : IntentType) : Prop where
  fields : ∀ name ∈ type.fields, HasText (peek payload name)
  columns : type.joinsColumns = true → Joinable (peek payload "columns")
  restored : type = .DROP_INDEX → isNullish (peek payload "columns") = true ∨ Joinable (peek payload "columns")
  definition : type = .ADD_CONSTRAINT → truthy (peek payload "constraintDefinition") = true →
    HasText (peek payload "constraintDefinition")
  rows : type.countsRows payload = true → truthy (peek (peek payload "options") "estimatedRows") = true →
    HasText (peek (peek payload "options") "estimatedRows")

theorem mapM_isSome {α β : Type} (f : α → Option β) (list : List α) :
    (list.mapM f).isSome = list.all fun element => (f element).isSome := by
  induction list with
  | nil => rfl
  | cons first rest ih =>
    rw [List.mapM_cons, List.all_cons, ← ih]
    cases f first with
    | none => rfl
    | some value => cases rest.mapM f <;> rfl

def operationParts (operation : IntentOperation (Template ν)) : Template ν :=
  operation.sql ++ (operation.description ++ operation.estimatedTime.getD [])

def phaseParts (phase : IntentPhase (Template ν)) : Template ν :=
  phase.operations.flatMap operationParts ++
    (phase.estimatedDuration ++ phase.rollbackOperations.flatMap operationParts)

/-- The part can be written. -/
def Part.written (part : Part ν) : Bool := part.text.isSome

theorem text_isSome (template : Template ν) : (Template.text template).isSome = template.all Part.written := by
  rw [Template.text, Option.isSome_map, mapM_isSome]
  rfl

private theorem operation_isSome (operation : IntentOperation (Template ν)) :
    operation.write.isSome = (operationParts operation).all Part.written := by
  rw [operationParts, List.all_append, List.all_append, ← text_isSome, ← text_isSome]
  unfold IntentOperation.write
  cases Template.text operation.sql with
  | none => rfl
  | some sql =>
    cases Template.text operation.description with
    | none => rfl
    | some description =>
      cases operation.estimatedTime with
      | none => rfl
      | some time =>
        have same := text_isSome time
        rw [Option.getD_some, ← same]
        simp only [Option.mapM_some]
        cases Template.text time <;> rfl

private theorem phase_isSome (phase : IntentPhase (Template ν)) :
    phase.write.isSome = (phaseParts phase).all Part.written := by
  have operations (list : List (IntentOperation (Template ν))) :
      (list.mapM IntentOperation.write).isSome = (list.flatMap operationParts).all Part.written := by
    rw [mapM_isSome, List.all_flatMap]
    simp only [operation_isSome]
  rw [phaseParts, List.all_append, List.all_append, ← operations, ← operations, ← text_isSome]
  unfold IntentPhase.write
  cases phase.operations.mapM IntentOperation.write with
  | none => rfl
  | some written =>
    cases Template.text phase.estimatedDuration with
    | none => rfl
    | some duration => cases phase.rollbackOperations.mapM IntentOperation.write <;> rfl

private theorem phases_isSome (phases : List (IntentPhase (Template ν))) :
    (phases.mapM IntentPhase.write).isSome = (phases.flatMap phaseParts).all Part.written := by
  rw [mapM_isSome, List.all_flatMap]
  simp only [phase_isSome]

@[simp] theorem written_lit (text : String) : (Part.lit text : Part ν).written = true := rfl

@[simp] theorem written_field (value : Value ν) : (Part.field value).written = true ↔ HasText value := Iff.rfl

@[simp] theorem written_joined (value : Value ν) (separator : String) :
    (Part.joined value separator).written = true ↔ Joinable value := by
  unfold Part.written Part.text join Joinable
  cases value with
  | none => simp
  | some value => cases value <;> simp

@[simp] theorem written_joinedOr (value : Value ν) (separator other : String) :
    (Part.joinedOr value separator other).written = true ↔ isNullish value = true ∨ Joinable value := by
  have joined := written_joined value separator
  unfold Part.written Part.text at joined ⊢
  by_cases nullish : isNullish value = true
  · simp [nullish]
  · simpa [nullish] using joined

@[simp] theorem written_rows (value : Value ν) (divisor : Nat) :
    (Part.rows value divisor).written = true ↔ HasText value := by
  unfold Part.written Part.text HasText render
  cases value with
  | none => simp
  | some value => simp [number_isSome]

@[simp] theorem written_time (text : String) : (time text : Template ν).all Part.written = true := rfl

/-- The rows that are given can be counted. -/
def Countable (options : Value ν) : Prop :=
  truthy (peek options "estimatedRows") = true → HasText (peek options "estimatedRows")

@[simp] theorem written_timeByRows (options : Value ν) (divisor : Nat) (other : String) :
    (timeByRows options divisor other).all Part.written = true ↔ Countable options := by
  unfold timeByRows Countable
  by_cases given : truthy (peek options "estimatedRows") = true
  · simp [given]
  · simp [given]

variable {payload : Value ν} {type : IntentType}

/-- What a type needs, one after the other. -/
theorem expressible_iff (payload : Value ν) (type : IntentType) :
    Expressible payload type ↔
      (∀ name ∈ type.fields, HasText (peek payload name)) ∧
      (type.joinsColumns = true → Joinable (peek payload "columns")) ∧
      (type = .DROP_INDEX → isNullish (peek payload "columns") = true ∨ Joinable (peek payload "columns")) ∧
      (type = .ADD_CONSTRAINT → truthy (peek payload "constraintDefinition") = true →
        HasText (peek payload "constraintDefinition")) ∧
      (type.countsRows payload = true → Countable (peek payload "options")) :=
  ⟨fun all => ⟨all.fields, all.columns, all.restored, all.definition, all.rows⟩,
    fun ⟨fields, columns, restored, definition, rows⟩ => ⟨fields, columns, restored, definition, rows⟩⟩

/-- The phases of a type can be written just if all in their texts has a text. -/
theorem translateType_isSome (payload : Value ν) (type : IntentType) :
    ((translateType payload type).mapM IntentPhase.write).isSome = true ↔ Expressible payload type := by
  rw [phases_isSome, expressible_iff]
  cases type with
  | ADD_COLUMN =>
    by_cases backfill : truthy (peek (peek payload "options") "backfillStrategy") = true <;>
      simp [-List.all_eq_true, translateType, translateAddColumn, phaseParts, operationParts, IntentType.fields,
        IntentType.joinsColumns, IntentType.countsRows, backfill] <;>
      tauto
  | ADD_CONSTRAINT =>
    by_cases defined : truthy (peek payload "constraintDefinition") = true <;>
      simp [-List.all_eq_true, translateType, translateAddConstraint, phaseParts, operationParts,
        IntentType.fields, IntentType.joinsColumns, IntentType.countsRows, defined] <;>
      tauto
  | _ =>
    simp [-List.all_eq_true, translateType, translateRenameColumn, translateChangeColumnType,
      translateDropColumn, translateAddIndex, translateDropIndex, translateDropConstraint, translateRenameTable,
      translateSplitTable, translateMergeTables, phaseParts, operationParts, IntentType.fields,
      IntentType.joinsColumns, IntentType.countsRows]
    tauto

/-! ## What is written -/

private theorem write_keeps {phase : IntentPhase (Template ν)} {text : IntentPhase String}
    (written : phase.write = some text) : text.phase = phase.phase ∧ text.dependencies = phase.dependencies := by
  simp only [IntentPhase.write, Option.bind_eq_bind, Option.bind_eq_some_iff] at written
  obtain ⟨operations, -, duration, -, rollback, -, same⟩ := written
  cases same
  exact ⟨rfl, rfl⟩

private theorem dependsBack_of_write {phases : List (IntentPhase (Template ν))} {texts : List (IntentPhase String)}
    {earlier : List PhaseName} (written : phases.mapM IntentPhase.write = some texts)
    (back : DependsBack earlier phases) : DependsBack earlier texts := by
  induction phases generalizing texts earlier with
  | nil =>
    cases written
    exact back
  | cons phase rest ih =>
    simp only [List.mapM_cons, Option.bind_eq_bind, Option.bind_eq_some_iff] at written
    obtain ⟨first, here, others, later, same⟩ := written
    cases same
    obtain ⟨name, dependencies⟩ := write_keeps here
    obtain ⟨before, after⟩ := back
    exact ⟨dependencies ▸ before, name ▸ ih later after⟩

private theorem nonempty_of_write {phases : List (IntentPhase (Template ν))} {texts : List (IntentPhase String)}
    (written : phases.mapM IntentPhase.write = some texts) (some : phases ≠ []) : texts ≠ [] := by
  obtain ⟨phase, rest, rfl⟩ := List.exists_cons_of_ne_nil some
  simp only [List.mapM_cons, Option.bind_eq_bind, Option.bind_eq_some_iff] at written
  obtain ⟨first, -, others, -, same⟩ := written
  cases same
  simp

private theorem dependsBack_translateType (payload : Value ν) (type : IntentType) :
    DependsBack [] (translateType payload type) := by
  cases type with
  | ADD_COLUMN =>
    by_cases backfill : truthy (peek (peek payload "options") "backfillStrategy") = true <;>
      simp [translateType, translateAddColumn, DependsBack, backfill]
  | _ =>
    simp [translateType, translateRenameColumn, translateChangeColumnType, translateDropColumn,
      translateAddIndex, translateDropIndex, translateAddConstraint, translateDropConstraint,
      translateRenameTable, translateSplitTable, translateMergeTables, DependsBack]

private theorem translateType_nonempty (payload : Value ν) (type : IntentType) : translateType payload type ≠ [] := by
  cases type <;> exact List.cons_ne_nil _ _

/-! ## What is there -/

@[simp] theorem required_eq_nil (value : Value ν) (message : String) :
    required value message = [] ↔ truthy value = true := by
  cases there : truthy value <;> simp [required, there]

@[simp] theorem present_field (value : Value ν) (there : truthy value = true) :
    (Part.field value).present = true := by
  cases value with
  | none => cases there
  | some value => rfl

/-- The fields that the validators of a type ask for are those that its texts are written from. -/
theorem nothing_missing (table : truthy (peek payload "table") = true) (checked : validateType payload type = []) :
    ((translateType payload type).flatMap sqlParts).all Part.present = true := by
  cases type with
  | ADD_COLUMN =>
    simp only [validateType, validateAddColumn, List.append_eq_nil_iff, required_eq_nil] at checked
    by_cases backfill : truthy (peek (peek payload "options") "backfillStrategy") = true <;>
      simp [-List.all_eq_true, translateType, translateAddColumn, sqlParts, backfill, table, checked]
  | ADD_CONSTRAINT =>
    simp only [validateType, validateAddConstraint, List.append_eq_nil_iff, required_eq_nil] at checked
    by_cases defined : truthy (peek payload "constraintDefinition") = true <;>
      simp [-List.all_eq_true, translateType, translateAddConstraint, sqlParts, defined, table, checked]
  | _ =>
    simp only [validateType, validateRenameColumn, validateChangeColumnType, validateDropColumn, validateAddIndex,
      validateDropIndex, validateDropConstraint, validateRenameTable, validateSplitTable, validateMergeTables,
      List.append_eq_nil_iff, required_eq_nil] at checked
    simp [-List.all_eq_true, translateType, translateRenameColumn, translateChangeColumnType,
      translateDropColumn, translateAddIndex, translateDropIndex, translateDropConstraint, translateRenameTable,
      translateSplitTable, translateMergeTables, sqlParts, table, checked]

/-! ## The parser -/

/-- What the parser reads is there, and can be read. -/
structure Inspectable (intentData : Intent ν) : Prop where
  metadata : isNullish (get intentData "metadata") = false
  payload : isNullish (get intentData "payload") = false
  description : truthy (peek (get intentData "metadata") "description") = true →
    (lengthExceeds (peek (get intentData "metadata") "description") 500).isSome = true
  column : truthy (peek (get intentData "payload") "column") = true →
    HasText (peek (get intentData "payload") "column")
  table : truthy (peek (get intentData "payload") "table") = true →
    HasText (peek (get intentData "payload") "table")

/-- Nothing that is asked for is missing. -/
def Complete (intentData : Intent ν) : Prop :=
  requiredErrors intentData = [] ∧
    ∀ type, IntentType.of (get intentData "type") = some type →
      validateType (get intentData "payload") type = []

theorem followsConvention_isSome (name : Value ν) :
    (followsConvention name).isSome = true ↔ (truthy name = true → HasText name) := by
  unfold followsConvention HasText
  by_cases there : truthy name = true <;> simp [there]

theorem isLong_isSome (description : Value ν) :
    (isLong description).isSome = true ↔
      (truthy description = true → (lengthExceeds description 500).isSome = true) := by
  unfold isLong
  by_cases there : truthy description = true <;> simp [there]

theorem checkCommonIssues_isSome (intentData : Intent ν) :
    (checkCommonIssues (get intentData "metadata") (get intentData "payload")).isSome = true ↔
      Inspectable intentData := by
  constructor
  · intro passed
    obtain ⟨warnings, result⟩ := Option.isSome_iff_exists.mp passed
    unfold checkCommonIssues at result
    split at result
    · cases result
    · rename_i there
      rw [Bool.or_eq_true, not_or, Bool.not_eq_true, Bool.not_eq_true] at there
      simp only [Option.bind_eq_bind, Option.bind_eq_some_iff] at result
      obtain ⟨long, long', column, column', table, table', -⟩ := result
      refine ⟨there.1, there.2, ?_, ?_, ?_⟩
      · exact (isLong_isSome _).mp (by rw [long']; rfl)
      · exact (followsConvention_isSome _).mp (by rw [column']; rfl)
      · exact (followsConvention_isSome _).mp (by rw [table']; rfl)
  · rintro ⟨metadata, payload, description, column, table⟩
    obtain ⟨long, long'⟩ := Option.isSome_iff_exists.mp ((isLong_isSome _).mpr description)
    obtain ⟨first, first'⟩ := Option.isSome_iff_exists.mp ((followsConvention_isSome _).mpr column)
    obtain ⟨second, second'⟩ := Option.isSome_iff_exists.mp ((followsConvention_isSome _).mpr table)
    unfold checkCommonIssues
    rw [metadata, payload, long', first', second']
    rfl

private theorem truthy_supported {version : Value ν} (supported : SUPPORTED_VERSIONS.any (isText version) = true) :
    truthy version = true := by
  rw [SUPPORTED_VERSIONS, List.any_cons, List.any_nil, Bool.or_false] at supported
  unfold isText at supported
  split at supported
  · rw [decide_eq_true_eq] at supported
    subst supported
    rfl
  · cases supported

theorem parse_supported {intentData : Intent ν}
    (supported : SUPPORTED_VERSIONS.any (isText (get intentData "version")) = true) :
    parse intentData = (typeErrors intentData).bind fun specific =>
      (checkCommonIssues (get intentData "metadata") (get intentData "payload")).bind fun warnings =>
        some {
          valid := (requiredErrors intentData ++ specific).isEmpty
          errors := requiredErrors intentData ++ specific
          warnings } := by
  simp only [parse, truthy_supported supported, supported, Bool.not_true, Bool.false_eq_true, if_false,
    Option.bind_eq_bind]

/-- The errors of the type are there where the payload is. -/
theorem typeErrors_of_payload {intentData : Intent ν} (payload : isNullish (get intentData "payload") = false) :
    ∃ specific, typeErrors intentData = some specific ∧
      (requiredErrors intentData ++ specific = [] ↔ Complete intentData) := by
  simp only [typeErrors, Complete, payload]
  cases known : IntentType.of (get intentData "type") with
  | none => exact ⟨[], rfl, by simp⟩
  | some type => exact ⟨validateType (get intentData "payload") type, rfl, by simp⟩

/-- An intent of a supported version is parsed where it can be inspected, and is valid where it is
complete. -/
theorem parse_inspectable {intentData : Intent ν}
    (supported : SUPPORTED_VERSIONS.any (isText (get intentData "version")) = true)
    (inspectable : Inspectable intentData) :
    ∃ validation, parse intentData = some validation ∧ (validation.valid = true ↔ Complete intentData) := by
  obtain ⟨specific, errors, complete⟩ := typeErrors_of_payload inspectable.payload
  obtain ⟨warnings, warned⟩ := Option.isSome_iff_exists.mp ((checkCommonIssues_isSome intentData).mpr inspectable)
  refine ⟨_, by rw [parse_supported supported, errors, Option.bind_some, warned, Option.bind_some], ?_⟩
  rw [← complete, List.isEmpty_iff]

theorem inspectable_of_parse {intentData : Intent ν} {validation : IntentValidation}
    (supported : SUPPORTED_VERSIONS.any (isText (get intentData "version")) = true)
    (parsed : parse intentData = some validation) : Inspectable intentData := by
  rw [parse_supported supported, Option.bind_eq_some_iff] at parsed
  obtain ⟨specific, -, parsed⟩ := parsed
  obtain ⟨warnings, warned, -⟩ := Option.bind_eq_some_iff.mp parsed
  exact (checkCommonIssues_isSome intentData).mp (by rw [warned]; rfl)

/-! ## The translator -/

private theorem table_of_complete {intent : Intent ν} (complete : Complete intent) :
    truthy (peek (get intent "payload") "table") = true := by
  have part := (List.append_eq_nil_iff.mp complete.1).2
  unfold requiredPart at part
  split at part
  · simpa using part
  · cases part

/-- A type that is known is a text. -/
theorem hasText_of_known {value : Value ν} {type : IntentType} (known : IntentType.of value = some type) :
    HasText value := by
  have same := List.find?_some known
  unfold isText at same
  split at same
  · rfl
  · cases same

theorem planned_known {intent : Intent ν} {type : IntentType} (payload : isNullish (get intent "payload") = false)
    (known : IntentType.of (get intent "type") = some type) :
    plannedPhases intent = some (translateType (get intent "payload") type) := by
  simp only [plannedPhases, known, payload, Bool.false_eq_true, if_false]

/-- A complete intent translates just if its type is known and all in its texts has a text. -/
theorem translates_iff {intent : Intent ν} (metadata : isNullish (get intent "metadata") = false)
    (payload : isNullish (get intent "payload") = false) (complete : Complete intent) :
    Translates intent ↔
      ∃ type, IntentType.of (get intent "type") = some type ∧ Expressible (get intent "payload") type := by
  constructor
  · rintro ⟨translation, translated, some, -⟩
    simp only [IntentTranslator.translate, Option.bind_eq_bind, Option.bind_eq_some_iff] at translated
    obtain ⟨-, -, planned, plan, phases, written, result⟩ := translated
    rw [metadata] at result
    cases result
    cases known : IntentType.of (get intent "type") with
    | none =>
      simp only [plannedPhases, known, Option.some.injEq] at plan
      subst plan
      cases written
      exact absurd rfl some
    | some type =>
      rw [planned_known payload known] at plan
      cases plan
      exact ⟨type, rfl, (translateType_isSome _ type).mp (by rw [written]; rfl)⟩
  · rintro ⟨type, known, expressible⟩
    obtain ⟨log, logged⟩ := Option.isSome_iff_exists.mp (hasText_of_known known)
    obtain ⟨phases, written⟩ := Option.isSome_iff_exists.mp ((translateType_isSome _ type).mpr expressible)
    have planned := planned_known payload known
    have translated : IntentTranslator.translate intent = some
        { phases
          estimatedTime := calculateEstimatedTime phases
          requiredApprovals := determineApprovals (get intent "metadata") phases
          rollbackPlan := generateRollbackPlan phases } := by
      rw [IntentTranslator.translate, logged, planned]
      simp only [Option.bind_eq_bind, Option.bind_some, written, metadata]
      rfl
    refine ⟨_, translated, ?_, ?_, ?_⟩
    · exact nonempty_of_write written (translateType_nonempty _ type)
    · exact dependsBack_of_write written (dependsBack_translateType _ type)
    · intro phases' same
      rw [planned] at same
      cases same
      exact nothing_missing (table_of_complete complete) (complete.2 type known)

/-! ## The intents that are handled -/

/-- What the parser and the translator can do with an intent, by its version. -/
def Handleable (intent : Intent ν) : Prop :=
  truthy (get intent "version") = true →
    if SUPPORTED_VERSIONS.any (isText (get intent "version")) then
      Inspectable intent ∧ (Complete intent →
        ∃ type, IntentType.of (get intent "type") = some type ∧ Expressible (get intent "payload") type)
    else HasText (get intent "version")

theorem intent_handled_iff (intent : Intent ν) : Handled intent ↔ Handleable intent := by
  unfold Handleable
  by_cases version : truthy (get intent "version") = true
  · by_cases supported : SUPPORTED_VERSIONS.any (isText (get intent "version")) = true
    · rw [if_pos supported]
      constructor
      · rintro ⟨validation, parsed, accepted⟩ -
        have inspectable := inspectable_of_parse supported parsed
        refine ⟨inspectable, fun complete => ?_⟩
        obtain ⟨other, parsed', valid⟩ := parse_inspectable supported inspectable
        obtain rfl : validation = other := Option.some.inj (parsed.symm.trans parsed')
        exact (translates_iff inspectable.metadata inspectable.payload complete).mp (accepted (valid.mpr complete))
      · intro handleable
        obtain ⟨inspectable, expressed⟩ := handleable version
        obtain ⟨validation, parsed, valid⟩ := parse_inspectable supported inspectable
        refine ⟨validation, parsed, fun accepted => ?_⟩
        have complete := valid.mp accepted
        exact (translates_iff inspectable.metadata inspectable.payload complete).mpr (expressed complete)
    · have other : parse intent = (render (get intent "version")).map fun text =>
          { valid := false
            errors := [s!"Unsupported intent version: {text}. Supported versions: " ++
              ", ".intercalate SUPPORTED_VERSIONS] } := by
        simp only [parse, version, supported]
        rfl
      rw [if_neg supported]
      constructor
      · rintro ⟨validation, parsed, -⟩ -
        rw [other] at parsed
        obtain ⟨text, rendered, -⟩ := Option.map_eq_some_iff.mp parsed
        exact Option.isSome_iff_exists.mpr ⟨text, rendered⟩
      · intro text
        obtain ⟨rendered, text⟩ := Option.isSome_iff_exists.mp (text version)
        exact ⟨_, by rw [other, text]; rfl, fun accepted => by cases accepted⟩
  · have missing : parse intent = some { valid := false, errors := ["Intent must specify a version"] } := by
      simp [parse, version]
    exact ⟨fun _ given => absurd given version, fun _ => ⟨_, missing, fun accepted => by cases accepted⟩⟩

/-- A column that is to be added, without a payload. -/
def unloaded : Intent Nat :=
  [("version", .str "1.0"), ("type", .str "ADD_COLUMN"),
    ("metadata", .obj [("author", .str "dev"), ("description", .str "Add a note")])]

theorem unloaded_throws : ¬ Handled unloaded := by
  rintro ⟨validation, parsed, -⟩
  cases parsed

end DriverMicroServices.Intents
