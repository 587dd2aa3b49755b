import DriverMicroServices.IntentTranslation
import Mathlib

/-! The times that a translation estimates. One by the number of rows is written in minutes, and the
sum over the operations reads hours, minutes and seconds alone. -/
namespace DriverMicroServices.Intents
open Texts Texts.Json Tables.Keyed IntentTranslator

/-! ## What an estimate says -/

def wholeNumber (text : List Char) : Option Nat :=
  if text ≠ [] ∧ text.all Char.isDigit then some (Nat.ofDigitChars 10 text 0) else none

/-- The seconds of a duration in minutes. -/
def minutesOf (text : List Char) : Option Nat :=
  if " minutes".toList.isSuffixOf text then
    (wholeNumber (text.take (text.length - " minutes".toList.length))).map (· * 60)
  else none

/-- The seconds that an estimate denotes, as `hh:mm:ss` or as a number of minutes. -/
def durationOf (estimate : String) : Option Nat :=
  match estimate.toList.splitOn ':' with
  | [hours, minutes, seconds] => do
    some ((← wholeNumber hours) * 3600 + (← wholeNumber minutes) * 60 + (← wholeNumber seconds))
  | [text] => minutesOf text
  | _ => none

/-- The estimates of the operations of all phases. -/
def estimates {τ : Type} (phases : List (IntentPhase τ)) : List τ :=
  (phases.flatMap (·.operations)).filterMap (·.estimatedTime)

/-- The estimated time is the sum of all estimates. -/
def AddsUp (translation : IntentTranslation) : Prop :=
  ∃ durations, (estimates translation.phases).mapM durationOf = some durations ∧
    durationOf translation.estimatedTime = some durations.sum

/-- The estimated time is no shorter than that of a backfill. -/
def Covers (translation : IntentTranslation) : Prop :=
  ∀ phase ∈ translation.phases, ∀ operation ∈ phase.operations, operation.type = .BACKFILL →
    ∀ estimate, operation.estimatedTime = some estimate → ∀ own, durationOf estimate = some own →
      ∃ total, durationOf translation.estimatedTime = some total ∧ own ≤ total

def Grows (translation larger : IntentTranslation) : Prop :=
  ∃ total total', durationOf translation.estimatedTime = some total ∧
    durationOf larger.estimatedTime = some total' ∧ total ≤ total'

/-! ## The time that is written -/

theorem mem_mapM {α β : Type} {f : α → Option β} {list : List α} {values : List β}
    (written : list.mapM f = some values) (value : β) :
    value ∈ values ↔ ∃ element ∈ list, f element = some value := by
  induction list generalizing values with
  | nil =>
    cases written
    simp
  | cons element rest ih =>
    simp only [List.mapM_cons, Option.bind_eq_bind, Option.bind_eq_some_iff] at written
    obtain ⟨first, here, others, later, same⟩ := written
    cases same
    rw [List.exists_mem_cons_iff, List.mem_cons, ← ih later, here, Option.some_inj, eq_comm]

theorem wholeNumber_toString (n : Nat) : wholeNumber (toString n).toList = some n := by
  have digits : (toString n).toList.all Char.isDigit = true := by
    rw [Nat.toString_eq_ofList_toDigits, String.toList_ofList, List.all_eq_true]
    intro c member
    exact Nat.isDigit_of_mem_toDigits (by decide) (by decide) member
  have nonempty : (toString n).toList ≠ [] := by simp
  have value : Nat.ofDigitChars 10 (toString n).toList 0 = n := by
    rw [Nat.toString_eq_ofList_toDigits, String.toList_ofList, Nat.ofDigitChars_ten_toDigits]
  rw [wholeNumber, if_pos ⟨nonempty, digits⟩, value]

private theorem wholeNumber_zero_cons {text : List Char} {n : Nat} (number : wholeNumber text = some n) :
    wholeNumber ('0' :: text) = some n := by
  unfold wholeNumber at number ⊢
  split at number
  · rename_i digits
    rw [if_pos ⟨List.cons_ne_nil _ _, by simpa using digits.2⟩, Nat.ofDigitChars_cons]
    simpa using number
  · cases number

theorem wholeNumber_padded (n : Nat) : wholeNumber (padded n).toList = some n := by
  have number := wholeNumber_toString n
  unfold padded
  split
  · rw [String.toList_append]
    exact wholeNumber_zero_cons number
  · exact number

theorem colon_notMem_of_wholeNumber {text : List Char} {n : Nat} (number : wholeNumber text = some n) :
    ':' ∉ text := by
  unfold wholeNumber at number
  split at number
  · rename_i digits
    intro member
    have digit := List.all_eq_true.mp digits.2 ':' member
    revert digit
    decide
  · cases number

/-- A number of seconds as the sum writes it. -/
def clockText (totalSeconds : Nat) : String :=
  s!"{padded (totalSeconds / 3600)}:{padded (totalSeconds % 3600 / 60)}:{padded (totalSeconds % 60)}"

private theorem splitOn_clockText (totalSeconds : Nat) :
    (clockText totalSeconds).toList.splitOn ':' =
      [(padded (totalSeconds / 3600)).toList, (padded (totalSeconds % 3600 / 60)).toList,
        (padded (totalSeconds % 60)).toList] := by
  have written : (clockText totalSeconds).toList = List.intercalate [':']
      [(padded (totalSeconds / 3600)).toList, (padded (totalSeconds % 3600 / 60)).toList,
        (padded (totalSeconds % 60)).toList] := by
    simp [clockText, List.intercalate, toString]
  rw [written]
  apply List.splitOn_intercalate
  · simp only [List.mem_cons, List.not_mem_nil, or_false, forall_eq_or_imp, forall_eq]
    exact ⟨colon_notMem_of_wholeNumber (wholeNumber_padded _), colon_notMem_of_wholeNumber (wholeNumber_padded _),
      colon_notMem_of_wholeNumber (wholeNumber_padded _)⟩
  · exact List.cons_ne_nil _ _

/-- The carries are right, and hours may go on past a day. -/
theorem durationOf_clockText (totalSeconds : Nat) : durationOf (clockText totalSeconds) = some totalSeconds := by
  have carried : totalSeconds / 3600 * 3600 + totalSeconds % 3600 / 60 * 60 + totalSeconds % 60 = totalSeconds := by
    omega
  simp only [durationOf, splitOn_clockText, wholeNumber_padded, Option.bind_eq_bind, Option.bind_some, carried]

def totalSeconds (phases : List (IntentPhase String)) : Nat := ((estimates phases).map secondsOf).sum

private theorem calculateEstimatedTime_eq (phases : List (IntentPhase String)) :
    calculateEstimatedTime phases = clockText (totalSeconds phases) := by
  have sum (operations : List (IntentOperation String)) (start : Nat) :
      operations.foldl (fun total operation => total + (operation.estimatedTime.map secondsOf).getD 0) start =
        start + ((operations.filterMap (·.estimatedTime)).map secondsOf).sum := by
    induction operations generalizing start with
    | nil => rfl
    | cons operation rest ih =>
      rw [List.foldl_cons, ih]
      cases estimate : operation.estimatedTime with
      | none => simp [estimate]
      | some text => simp [estimate, Nat.add_assoc]
  have total := sum (phases.flatMap (·.operations)) 0
  rw [Nat.zero_add] at total
  simp only [calculateEstimatedTime, total]
  rfl

theorem durationOf_calculated (phases : List (IntentPhase String)) :
    durationOf (calculateEstimatedTime phases) = some (totalSeconds phases) := by
  rw [calculateEstimatedTime_eq, durationOf_clockText]

private theorem covers_of_addsUp {translation : IntentTranslation} (adds : AddsUp translation) : Covers translation := by
  obtain ⟨durations, denoted, total⟩ := adds
  intro phase member operation listed _ estimate estimated own duration
  have counted : estimate ∈ estimates translation.phases :=
    List.mem_filterMap.mpr ⟨operation, List.mem_flatMap.mpr ⟨phase, member, listed⟩, estimated⟩
  have summand : own ∈ durations := (mem_mapM denoted own).mpr ⟨estimate, counted, duration⟩
  exact ⟨durations.sum, total, List.le_sum_of_mem summand⟩

/-- What the sum reads from an estimate is what it denotes. -/
def Agrees (estimate : String) : Prop := durationOf estimate = some (secondsOf estimate)

/-- Where the sum reads no estimate too long, it is right just when it reads each one right. -/
theorem sum_durations_iff {texts : List String}
    (short : ∀ estimate ∈ texts, ∀ own, durationOf estimate = some own → secondsOf estimate ≤ own) :
    (∃ durations, texts.mapM durationOf = some durations ∧ (texts.map secondsOf).sum = durations.sum) ↔
      ∀ estimate ∈ texts, Agrees estimate := by
  have least {texts : List String} {durations : List Nat}
      (short : ∀ estimate ∈ texts, ∀ own, durationOf estimate = some own → secondsOf estimate ≤ own)
      (denoted : texts.mapM durationOf = some durations) : (texts.map secondsOf).sum ≤ durations.sum := by
    induction texts generalizing durations with
    | nil => simp
    | cons first rest ih =>
      simp only [List.mapM_cons, Option.bind_eq_bind, Option.bind_eq_some_iff] at denoted
      obtain ⟨own, here, others, later, same⟩ := denoted
      cases same
      have tail := ih (fun estimate member => short estimate (List.mem_cons_of_mem _ member)) later
      have head := short first List.mem_cons_self own here
      simp only [List.map_cons, List.sum_cons]
      omega
  induction texts with
  | nil => exact ⟨fun _ => by simp, fun _ => ⟨[], rfl, rfl⟩⟩
  | cons first rest ih =>
    have later : ∀ estimate ∈ rest, ∀ own, durationOf estimate = some own → secondsOf estimate ≤ own :=
      fun estimate member => short estimate (List.mem_cons_of_mem _ member)
    have tail := ih later
    rw [List.forall_mem_cons]
    constructor
    · rintro ⟨durations, denoted, sum⟩
      simp only [List.mapM_cons, Option.bind_eq_bind, Option.bind_eq_some_iff] at denoted
      obtain ⟨own, here, others, rest', same⟩ := denoted
      cases same
      have head := short first List.mem_cons_self own here
      have shorter := least later rest'
      simp only [List.map_cons, List.sum_cons] at sum
      refine ⟨?_, tail.mp ⟨others, rest', by omega⟩⟩
      rw [Agrees, here, Option.some_inj]
      omega
    · rintro ⟨here, agree⟩
      obtain ⟨durations, denoted, sum⟩ := tail.mpr agree
      have read : durationOf first = some (secondsOf first) := here
      refine ⟨secondsOf first :: durations, ?_, by simp [sum]⟩
      simp only [List.mapM_cons, read, denoted]
      rfl

/-! ## Times by rows -/

section Minutes

variable {text : String}

theorem splitOn_minutes (plain : ':' ∉ text.toList) :
    (text ++ " minutes").toList.splitOn ':' = [text.toList ++ " minutes".toList] := by
  have absent : ':' ∉ text.toList ++ " minutes".toList := by
    rw [List.mem_append, not_or]
    exact ⟨plain, by decide⟩
  rw [String.toList_append]
  exact List.splitOn_eq_singleton absent

/-- A time in minutes has no part that the sum reads as a number. -/
theorem secondsOf_minutes (plain : ':' ∉ text.toList) : secondsOf (text ++ " minutes") = 0 := by
  have letters : (text.toList ++ " minutes".toList).all Char.isDigit = false := by
    rw [List.all_append, show " minutes".toList.all Char.isDigit = false by decide, Bool.and_false]
  unfold secondsOf
  rw [splitOn_minutes plain, List.map_singleton, timePart, letters, if_neg Bool.false_ne_true]
  simp

private theorem durationOf_minutes (plain : ':' ∉ text.toList) :
    durationOf (text ++ " minutes") = (wholeNumber text.toList).map (· * 60) := by
  have last : " minutes".toList.isSuffixOf (text.toList ++ " minutes".toList) = true := by
    rw [List.isSuffixOf_iff_suffix]
    exact List.suffix_append _ _
  have first : (text.toList ++ " minutes".toList).take
      ((text.toList ++ " minutes".toList).length - " minutes".toList.length) = text.toList := by
    rw [List.length_append, Nat.add_sub_cancel, List.take_left]
  simp only [durationOf, splitOn_minutes plain]
  rw [minutesOf, if_pos last, first]

theorem agrees_minutes (plain : ':' ∉ text.toList) :
    Agrees (text ++ " minutes") ↔ wholeNumber text.toList = some 0 := by
  rw [Agrees, durationOf_minutes plain, secondsOf_minutes plain, Option.map_eq_some_iff]
  constructor
  · rintro ⟨minutes, number, none⟩
    obtain rfl : minutes = 0 := by omega
    exact number
  · intro number
    exact ⟨0, number, rfl⟩

end Minutes

/-- The times that are written out in the translator. -/
theorem agrees_fixed : ∀ text ∈ ["00:00:05", "00:00:10", "00:01:00", "00:02:00", "00:05:00", "00:10:00"],
    Agrees text := by
  unfold Agrees
  decide

/-! ## The estimates of a type -/

variable {ν : Type} [Numerals ν]

/-- `payload.options.estimatedRows` -/
def rowsOf (payload : Value ν) : Value ν := peek (peek payload "options") "estimatedRows"

/-- The divisor and the default of the estimate by rows, for the types that have one. -/
def IntentType.byRows (payload : Value ν) : IntentType → Option (Nat × String)
  | .RENAME_COLUMN => some (10000, "00:05:00")
  | .CHANGE_COLUMN_TYPE => some (5000, "00:10:00")
  | .ADD_COLUMN =>
    if truthy (peek (peek payload "options") "backfillStrategy") then some (10000, "00:02:00") else none
  | .ADD_INDEX => some (100000, "00:01:00")
  | .SPLIT_TABLE => some (5000, "00:05:00")
  | .MERGE_TABLES => some (10000, "00:10:00")
  | _ => none

/-- The other estimates of a type. -/
def IntentType.fixedTimes : IntentType → List String
  | .RENAME_COLUMN | .DROP_COLUMN | .DROP_INDEX | .DROP_CONSTRAINT | .RENAME_TABLE => ["00:00:05", "00:00:05"]
  | .CHANGE_COLUMN_TYPE | .MERGE_TABLES => ["00:00:05", "00:00:05", "00:00:05"]
  | .ADD_COLUMN => ["00:00:05"]
  | .ADD_INDEX => []
  | .ADD_CONSTRAINT => ["00:00:10", "00:00:05"]
  | .SPLIT_TABLE => ["00:00:10", "00:00:10"]

def rowTimes (payload : Value ν) (type : IntentType) : List (Template ν) :=
  (type.byRows payload).toList.map fun rows => timeByRows (peek payload "options") rows.1 rows.2

private theorem estimates_translateType (payload : Value ν) (type : IntentType) :
    (estimates (translateType payload type)).Perm (rowTimes payload type ++ type.fixedTimes.map time) := by
  cases type with
  | ADD_COLUMN =>
    by_cases backfill : truthy (peek (peek payload "options") "backfillStrategy") = true
    · simpa [estimates, translateType, translateAddColumn, rowTimes, IntentType.byRows, IntentType.fixedTimes,
        backfill] using List.Perm.swap _ _ []
    · simp [estimates, translateType, translateAddColumn, rowTimes, IntentType.byRows, IntentType.fixedTimes,
        backfill]
  | RENAME_COLUMN | CHANGE_COLUMN_TYPE | SPLIT_TABLE => exact List.Perm.swap _ _ _
  | MERGE_TABLES => exact (List.Perm.swap _ _ _).cons _ |>.trans (List.Perm.swap _ _ _)
  | _ => exact List.Perm.refl _

private theorem write_estimatedTime {operation : IntentOperation (Template ν)} {text : IntentOperation String}
    (written : operation.write = some text) :
    operation.estimatedTime.mapM Template.text = some text.estimatedTime := by
  simp only [IntentOperation.write, Option.bind_eq_bind, Option.bind_eq_some_iff] at written
  obtain ⟨sql, -, description, -, time, here, same⟩ := written
  cases same
  exact here

private theorem write_operations {operations : List (IntentOperation (Template ν))} {texts : List (IntentOperation String)}
    (written : operations.mapM IntentOperation.write = some texts) :
    (operations.filterMap (·.estimatedTime)).mapM Template.text = some (texts.filterMap (·.estimatedTime)) := by
  induction operations generalizing texts with
  | nil =>
    cases written
    rfl
  | cons first rest ih =>
    simp only [List.mapM_cons, Option.bind_eq_bind, Option.bind_eq_some_iff] at written
    obtain ⟨text, here, others, later, same⟩ := written
    cases same
    have head := write_estimatedTime here
    have tail := ih later
    cases estimate : first.estimatedTime with
    | none =>
      rw [estimate] at head
      cases time : text.estimatedTime with
      | none => simpa [estimate, time] using tail
      | some _ => simp [time] at head
    | some template =>
      rw [estimate] at head
      cases time : text.estimatedTime with
      | none => simp [time] at head
      | some estimated =>
        rw [time] at head
        have read : Template.text template = some estimated := by simpa using head
        simp [estimate, time, List.mapM_cons, read, tail]

private theorem write_estimates {phases : List (IntentPhase (Template ν))} {texts : List (IntentPhase String)}
    (written : phases.mapM IntentPhase.write = some texts) :
    (estimates phases).mapM Template.text = some (estimates texts) := by
  induction phases generalizing texts with
  | nil =>
    cases written
    rfl
  | cons phase rest ih =>
    simp only [List.mapM_cons, Option.bind_eq_bind, Option.bind_eq_some_iff] at written
    obtain ⟨text, here, others, later, same⟩ := written
    cases same
    have tail := ih later
    simp only [IntentPhase.write, Option.bind_eq_bind, Option.bind_eq_some_iff] at here
    obtain ⟨texts, head, duration, -, rollback, -, same⟩ := here
    cases same
    have first := write_operations head
    unfold estimates at tail ⊢
    simp only [List.flatMap_cons, List.filterMap_append, List.mapM_append, first, tail]
    rfl

/-- The seconds that the sum reads from what a template writes. -/
def templateSeconds (template : Template ν) : Nat := ((Template.text template).map secondsOf).getD 0

theorem sum_templateSeconds {templates : List (Template ν)} {texts : List String}
    (written : templates.mapM Template.text = some texts) :
    (texts.map secondsOf).sum = (templates.map templateSeconds).sum := by
  induction templates generalizing texts with
  | nil =>
    cases written
    rfl
  | cons template rest ih =>
    simp only [List.mapM_cons, Option.bind_eq_bind, Option.bind_eq_some_iff] at written
    obtain ⟨text, here, others, later, same⟩ := written
    cases same
    simp only [List.map_cons, List.sum_cons, ih later, templateSeconds, here]
    rfl

@[simp] theorem text_time (text : String) : Template.text (time text : Template ν) = some text := by
  simp [Template.text, time, Part.text]

/-- The text of `Math.ceil(rows / divisor)`. -/
def ceilText (payload : Value ν) (divisor : Nat) : Option String := (Part.rows (rowsOf payload) divisor).text

theorem text_timeByRows (payload : Value ν) (divisor : Nat) (other : String) :
    Template.text (timeByRows (peek payload "options") divisor other) =
      if truthy (rowsOf payload) then (ceilText payload divisor).map (· ++ " minutes") else some other := by
  have chosen : timeByRows (peek payload "options") divisor other =
      if truthy (rowsOf payload) then [Part.rows (rowsOf payload) divisor, Part.lit " minutes"]
      else [Part.lit other] := rfl
  rw [chosen]
  by_cases given : truthy (rowsOf payload) = true
  · rw [if_pos given, if_pos given]
    have last : (Part.lit " minutes" : Part ν).text = some " minutes" := rfl
    unfold ceilText Template.text
    cases rows : (Part.rows (rowsOf payload) divisor).text with
    | none => simp [List.mapM_cons, rows]
    | some text => simp [List.mapM_cons, rows, last]
  · rw [if_neg given, if_neg given]
    exact text_time other

theorem fixedTimes_agree (type : IntentType) : ∀ text ∈ type.fixedTimes, Agrees text := by
  intro text member
  apply agrees_fixed
  revert text
  cases type <;> decide

theorem default_agrees {payload : Value ν} {type : IntentType} {rows : Nat × String}
    (byRows : type.byRows payload = some rows) : Agrees rows.2 ∧ 0 < secondsOf rows.2 := by
  have listed : rows.2 ∈ ["00:01:00", "00:02:00", "00:05:00", "00:10:00"] := by
    cases type with
    | ADD_COLUMN =>
      simp only [IntentType.byRows] at byRows
      split at byRows
      · cases byRows
        decide
      · cases byRows
    | RENAME_COLUMN | CHANGE_COLUMN_TYPE | ADD_INDEX | SPLIT_TABLE | MERGE_TABLES =>
      cases byRows
      decide
    | _ => cases byRows
  have long : ∀ text ∈ ["00:01:00", "00:02:00", "00:05:00", "00:10:00"], 0 < secondsOf text := by decide
  refine ⟨agrees_fixed rows.2 ?_, long rows.2 listed⟩
  simp only [List.mem_cons] at listed ⊢
  tauto

/-! ## What a translation estimates -/

/-- The rows are not asked for or not given, or come to no minute. -/
def NoMinutes (intent : Intent ν) : Prop :=
  ∀ type, IntentType.of (get intent "type") = some type →
    ∀ rows, type.byRows (get intent "payload") = some rows → truthy (rowsOf (get intent "payload")) = true →
      ∀ text, ceilText (get intent "payload") rows.1 = some text → wholeNumber text.toList = some 0

/-- The estimate by rows takes the place of the default. -/
def DefaultLost (intent larger : Intent ν) : Prop :=
  ∃ type, IntentType.of (get intent "type") = some type ∧ (type.byRows (get intent "payload")).isSome = true ∧
    truthy (rowsOf (get intent "payload")) = false ∧ truthy (rowsOf (get larger "payload")) = true

/-- An intent that differs in a larger number of rows alone. -/
structure MoreRows [LE ν] (intent larger : Intent ν) : Prop where
  type : get larger "type" = get intent "type"
  fields : ∀ name ≠ "options", peek (get larger "payload") name = peek (get intent "payload") name
  options : ∀ name ≠ "estimatedRows",
    peek (peek (get larger "payload") "options") name = peek (peek (get intent "payload") "options") name
  rows : ∃ fewer more, rowsOf (get intent "payload") = some (num fewer) ∧
    rowsOf (get larger "payload") = some (num more) ∧ fewer ≤ more

/-- The estimated time is the sum, covers the backfill and grows with the rows. -/
structure EstimatesHold [LE ν] (intent larger : Intent ν) (translation translation' : IntentTranslation) : Prop where
  sum : AddsUp translation
  covers : Covers translation
  grows : MoreRows intent larger → Grows translation translation'

section Translated

variable {intent : Intent ν} {translation : IntentTranslation}

theorem translate_phases (translated : IntentTranslator.translate intent = some translation) :
    (∃ planned, plannedPhases intent = some planned ∧ planned.mapM IntentPhase.write = some translation.phases) ∧
      translation.estimatedTime = calculateEstimatedTime translation.phases := by
  simp only [IntentTranslator.translate, Option.bind_eq_bind, Option.bind_eq_some_iff] at translated
  obtain ⟨log, -, planned, plan, phases, written, same⟩ := translated
  split at same
  · cases same
  · cases same
    exact ⟨⟨planned, plan, written⟩, rfl⟩

/-- The templates of the estimates. -/
def plannedTimes (intent : Intent ν) : List (Template ν) :=
  match IntentType.of (get intent "type") with
  | none => []
  | some type => rowTimes (get intent "payload") type ++ type.fixedTimes.map time

theorem plannedTimes_written (translated : IntentTranslator.translate intent = some translation) :
    ∃ templates : List (Template ν), templates.Perm (plannedTimes intent) ∧
      templates.mapM Template.text = some (estimates translation.phases) := by
  obtain ⟨⟨planned, plan, written⟩, -⟩ := translate_phases translated
  refine ⟨estimates planned, ?_, write_estimates written⟩
  unfold plannedPhases at plan
  unfold plannedTimes
  cases known : IntentType.of (get intent "type") with
  | none =>
    rw [known] at plan
    cases plan
    exact List.Perm.refl _
  | some type =>
    simp only [known] at plan
    split at plan
    · cases plan
    · cases plan
      exact estimates_translateType _ type

/-- The text is an estimate of the intent. -/
def Estimates (intent : Intent ν) (text : String) : Prop :=
  ∃ type, IntentType.of (get intent "type") = some type ∧
    (text ∈ type.fixedTimes ∨ ∃ rows, type.byRows (get intent "payload") = some rows ∧
      (if truthy (rowsOf (get intent "payload")) then (ceilText (get intent "payload") rows.1).map (· ++ " minutes")
        else some rows.2) = some text)

theorem mem_estimates (translated : IntentTranslator.translate intent = some translation) (text : String) :
    text ∈ estimates translation.phases ↔ Estimates intent text := by
  obtain ⟨templates, same, written⟩ := plannedTimes_written translated
  rw [mem_mapM written]
  simp only [same.mem_iff]
  unfold plannedTimes Estimates
  cases IntentType.of (get intent "type") with
  | none => simp
  | some type =>
    cases byRows : type.byRows (get intent "payload") with
    | none => simp [rowTimes, byRows]
    | some rows =>
      obtain ⟨divisor, other⟩ := rows
      simp only [Option.some.injEq, exists_eq_left', rowTimes, byRows, Option.toList_some, List.map_singleton,
        List.singleton_append, List.exists_mem_cons_iff, text_timeByRows, List.mem_map]
      rw [or_comm]
      apply or_congr_left
      constructor
      · rintro ⟨template, ⟨fixed, member, rfl⟩, same⟩
        cases (text_time fixed).symm.trans same
        exact member
      · intro member
        exact ⟨time text, ⟨text, member, rfl⟩, text_time text⟩

end Translated

section Plain

variable {intent larger : Intent ν} {translation translation' : IntentTranslation}
variable (plain : ∀ (n : Option ν) (divisor : Nat), ':' ∉ (Numerals.ceilQuotient n divisor).toList)

include plain

theorem ceilText_plain {payload : Value ν} {divisor : Nat} {text : String}
    (ceiled : ceilText payload divisor = some text) : ':' ∉ text.toList := by
  unfold ceilText Part.text at ceiled
  cases rows : rowsOf payload with
  | none =>
    rw [rows] at ceiled
    cases ceiled
    exact plain _ _
  | some value =>
    rw [rows] at ceiled
    obtain ⟨number, -, rfl⟩ := Option.map_eq_some_iff.mp ceiled
    exact plain _ _

/-- An estimate is read right, or is one in minutes that is read as nothing. -/
theorem estimate_read {text : String} (estimate : Estimates intent text) :
    Agrees text ∨ secondsOf text = 0 := by
  obtain ⟨type, -, fixed | ⟨rows, byRows, chosen⟩⟩ := estimate
  · exact .inl (fixedTimes_agree type text fixed)
  · split at chosen
    · obtain ⟨ceiled, written, rfl⟩ := Option.map_eq_some_iff.mp chosen
      exact .inr (secondsOf_minutes (ceilText_plain plain written))
    · cases chosen
      exact .inl (default_agrees byRows).1

private theorem estimates_agree_iff : (∀ text, Estimates intent text → Agrees text) ↔ NoMinutes intent := by
  constructor
  · intro agree type known rows byRows given text ceiled
    rw [← agrees_minutes (ceilText_plain plain ceiled)]
    apply agree
    refine ⟨type, known, .inr ⟨rows, byRows, ?_⟩⟩
    rw [if_pos given, ceiled, Option.map_some]
  · rintro none text ⟨type, known, fixed | ⟨rows, byRows, chosen⟩⟩
    · exact fixedTimes_agree type text fixed
    · split at chosen
      · rename_i given
        obtain ⟨ceiled, written, rfl⟩ := Option.map_eq_some_iff.mp chosen
        rw [agrees_minutes (ceilText_plain plain written)]
        exact none type known rows byRows given ceiled written
      · cases chosen
        exact (default_agrees byRows).1

theorem addsUp_iff (translated : IntentTranslator.translate intent = some translation) :
    AddsUp translation ↔ NoMinutes intent := by
  have short : ∀ estimate ∈ estimates translation.phases, ∀ own, durationOf estimate = some own →
      secondsOf estimate ≤ own := by
    intro estimate member own denoted
    rcases estimate_read plain ((mem_estimates translated estimate).mp member) with agrees | nothing
    · rw [Agrees, denoted, Option.some_inj] at agrees
      omega
    · omega
  have sum := sum_durations_iff short
  simp only [mem_estimates translated, estimates_agree_iff plain] at sum
  rw [← sum, AddsUp, (translate_phases translated).2, durationOf_calculated, totalSeconds]
  simp only [Option.some_inj]

private theorem templateSeconds_timeByRows (payload : Value ν) (rows : Nat × String) :
    templateSeconds (timeByRows (peek payload "options") rows.1 rows.2) =
      if truthy (rowsOf payload) then 0 else secondsOf rows.2 := by
  rw [templateSeconds, text_timeByRows]
  by_cases given : truthy (rowsOf payload) = true
  · rw [if_pos given, if_pos given]
    cases ceiled : ceilText payload rows.1 with
    | none => rfl
    | some text =>
      rw [Option.map_some, Option.map_some, Option.getD_some]
      exact secondsOf_minutes (ceilText_plain plain ceiled)
  · rw [if_neg given, if_neg given]
    rfl

/-- What the sum reads of the estimate by rows is the default, or nothing. -/
theorem totalSeconds_translated {type : IntentType} (known : IntentType.of (get intent "type") = some type)
    (translated : IntentTranslator.translate intent = some translation) :
    totalSeconds translation.phases =
      ((type.byRows (get intent "payload")).elim 0 fun rows =>
        if truthy (rowsOf (get intent "payload")) then 0 else secondsOf rows.2) +
      (type.fixedTimes.map secondsOf).sum := by
  obtain ⟨templates, same, written⟩ := plannedTimes_written translated
  have fixed : (type.fixedTimes.map fun text => templateSeconds (time text : Template ν)) =
      type.fixedTimes.map secondsOf := by
    apply List.map_congr_left
    intro text _
    rw [templateSeconds, text_time]
    rfl
  rw [totalSeconds, sum_templateSeconds written, (same.map templateSeconds).sum_nat]
  unfold plannedTimes
  rw [known]
  simp only [List.map_append, List.sum_append, List.map_map, Function.comp_def, fixed]
  apply congrArg (· + (type.fixedTimes.map secondsOf).sum)
  cases byRows : type.byRows (get intent "payload") with
  | none => simp [rowTimes, byRows]
  | some rows => simp [rowTimes, byRows, templateSeconds_timeByRows plain]

theorem grows_iff [LE ν] (more : MoreRows intent larger)
    (translated : IntentTranslator.translate intent = some translation)
    (translated' : IntentTranslator.translate larger = some translation') :
    Grows translation translation' ↔ ¬ DefaultLost intent larger := by
  have totals : Grows translation translation' ↔
      totalSeconds translation.phases ≤ totalSeconds translation'.phases := by
    unfold Grows
    rw [(translate_phases translated).2, (translate_phases translated').2, durationOf_calculated,
      durationOf_calculated]
    simp
  rw [totals]
  unfold DefaultLost
  cases known : IntentType.of (get intent "type") with
  | none =>
    obtain ⟨templates, same, written⟩ := plannedTimes_written translated
    rw [totalSeconds, sum_templateSeconds written, (same.map templateSeconds).sum_nat]
    simp [plannedTimes, known]
  | some type =>
    have known' : IntentType.of (get larger "type") = some type := by rw [more.type, known]
    have byRows : type.byRows (get larger "payload") = type.byRows (get intent "payload") := by
      cases type <;> simp [IntentType.byRows, more.options "backfillStrategy" (by decide)]
    rw [totalSeconds_translated plain known translated, totalSeconds_translated plain known' translated', byRows]
    cases rows : type.byRows (get intent "payload") with
    | none => simp [rows]
    | some rows' =>
      have long := (default_agrees rows).2
      have asked : (type.byRows (get intent "payload")).isSome = true := by rw [rows]; rfl
      have lost : (∃ type', some type = some type' ∧ (type'.byRows (get intent "payload")).isSome = true ∧
          truthy (rowsOf (get intent "payload")) = false ∧ truthy (rowsOf (get larger "payload")) = true) ↔
          truthy (rowsOf (get intent "payload")) = false ∧ truthy (rowsOf (get larger "payload")) = true := by
        simp [asked]
      rw [lost]
      -- only a default that is lost makes the sum smaller
      cases truthy (rowsOf (get intent "payload")) <;> cases truthy (rowsOf (get larger "payload")) <;> simp
      omega

/-- The estimates hold just when the estimate by rows comes to no minute, and takes the place of no
default in the larger intent. -/
theorem estimates_hold_iff [LE ν] (translated : IntentTranslator.translate intent = some translation)
    (translated' : IntentTranslator.translate larger = some translation') :
    EstimatesHold intent larger translation translation' ↔
      NoMinutes intent ∧ (MoreRows intent larger → ¬ DefaultLost intent larger) := by
  constructor
  · intro hold
    exact ⟨(addsUp_iff plain translated).mp hold.sum,
      fun more => (grows_iff plain more translated translated').mp (hold.grows more)⟩
  · rintro ⟨none, kept⟩
    have sum := (addsUp_iff plain translated).mpr none
    exact ⟨sum, covers_of_addsUp sum, fun more => (grows_iff plain more translated translated').mpr (kept more)⟩

end Plain

section Examples

theorem ceilQuotient_plain (n : Option Nat) (divisor : Nat) :
    ':' ∉ (Numerals.ceilQuotient n divisor).toList := by
  cases n with
  | none =>
    have nan : Numerals.ceilQuotient (none : Option Nat) divisor = "NaN" := rfl
    rw [nan]
    decide
  | some n =>
    have number : Numerals.ceilQuotient (some n) divisor = toString ((n + divisor - 1) / divisor) := rfl
    rw [number]
    exact colon_notMem_of_wholeNumber (wholeNumber_toString _)

/-- A column is renamed in a table of so many rows. -/
def renamed (rows : Nat) : Intent Nat :=
  [("version", .str "1.0"), ("type", .str "RENAME_COLUMN"), ("metadata", .obj [("author", .str "dev")]),
    ("payload", .obj [("table", .str "drivers"), ("column", .str "phone"), ("newColumn", .str "mobile"),
      ("options", .obj [("estimatedRows", .num rows)])])]

/-- Where the number of rows is 0, the backfill is estimated by its default. -/
theorem estimates_hold_renaming :
    MoreRows (renamed 0) (renamed 0) ∧ ∃ translation, IntentTranslator.translate (renamed 0) = some translation ∧
      EstimatesHold (renamed 0) (renamed 0) translation translation := by
  have translates : (IntentTranslator.translate (renamed 0)).isSome = true := by decide
  obtain ⟨translation, translated⟩ := Option.isSome_iff_exists.mp translates
  have falsy : truthy (rowsOf (get (renamed 0) "payload")) = false := by decide
  refine ⟨⟨rfl, fun _ _ => rfl, fun _ _ => rfl, 0, 0, rfl, rfl, le_refl 0⟩, translation, translated,
    (estimates_hold_iff ceilQuotient_plain translated translated).mpr ⟨?_, ?_⟩⟩
  · intro type known rows byRows given
    rw [falsy] at given
    cases given
  · rintro - ⟨type, known, asked, absent, given⟩
    rw [falsy] at given
    cases given

/-- Two minutes of a backfill are left out of the sum. -/
theorem minutes_left_out :
    ∃ translation translation', IntentTranslator.translate (renamed 20000) = some translation ∧
      IntentTranslator.translate (renamed 30000) = some translation' ∧
      ¬ EstimatesHold (renamed 20000) (renamed 30000) translation translation' := by
  have translates : (IntentTranslator.translate (renamed 20000)).isSome = true := by decide
  have translates' : (IntentTranslator.translate (renamed 30000)).isSome = true := by decide
  obtain ⟨translation, translated⟩ := Option.isSome_iff_exists.mp translates
  obtain ⟨translation', translated'⟩ := Option.isSome_iff_exists.mp translates'
  refine ⟨translation, translation', translated, translated', fun hold => ?_⟩
  have none := (addsUp_iff ceilQuotient_plain translated).mp hold.sum
  have zero := none .RENAME_COLUMN (by decide) (10000, "00:05:00") rfl (by decide) "2" (by decide)
  revert zero
  decide

end Examples

end DriverMicroServices.Intents
