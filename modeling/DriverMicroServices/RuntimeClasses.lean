import DriverMicroServices.MigrationReading
import DriverMicroServices.Texts.Reads

/-! The classification of statements at runtime, by rules of its own. It looks at the text in capital
letters. -/
namespace DriverMicroServices
open Texts.Regex Texts.Regex.Pattern

/-- `toUpperCase`, character by character. A character may become several ones, as `ß` does. -/
structure UpperCase where
  char : Char → List Char
  ascii : ∀ c, c.val < 128 → char c = [c.toUpper]

def UpperCase.chars (upper : UpperCase) (text : List Char) : List Char := text.flatMap upper.char

/-- `sql.toUpperCase().trim()` -/
def UpperCase.text (upper : UpperCase) (sql : String) : String :=
  LifecycleSplitter.trim (String.ofList (upper.chars sql.toList))

private theorem UpperCase.chars_ascii (upper : UpperCase) {text : List Char} (plain : text.all (·.val < 128)) :
    upper.chars text = text.map Char.toUpper := by
  rw [UpperCase.chars, ← List.flatMap_singleton' (text.map Char.toUpper), List.flatMap_map]
  exact List.flatMap_congr fun c member => upper.ascii c (of_decide_eq_true (List.all_eq_true.mp plain c member))

/-- White space is taken only from the end of a text that begins and ends with other characters. -/
theorem UpperCase.text_begun (upper : UpperCase) (start : List Char) (last : Char)
    (same : upper.chars (start ++ [last]) = start ++ [last])
    (begun : (start ++ [last]).dropWhile isSpace = start ++ [last]) (dark : isSpace last = false)
    (more : List Char) :
    ∃ ending, ending <+: upper.chars more ∧
      (upper.text (String.ofList (start ++ last :: more))).toList = start ++ last :: ending := by
  have split : start ++ last :: more = (start ++ [last]) ++ more := by simp
  have whole : upper.chars ((start ++ [last]) ++ more) = (start ++ [last]) ++ upper.chars more := by
    rw [chars, List.flatMap_append, ← chars, ← chars, same]
  refine ⟨(upper.chars more).rdropWhile isSpace, List.rdropWhile_prefix .., ?_⟩
  have front : ((start ++ [last]) ++ upper.chars more).dropWhile isSpace = start ++ last :: upper.chars more := by
    rw [List.dropWhile_append, begun]
    simp
  rw [text, MigrationGenerator.toList_trim, String.toList_ofList, String.toList_ofList, split, whole, front,
    rdropWhile_kept dark]

/-- The capital of the character is one character, which is in ASCII only where the character is, and is
white space or the end of a line only where the character is. -/
def UpperCase.keeps (upper : UpperCase) (c : Char) : Bool :=
  c.val < 128 ||
    match upper.char c with
    | [d] => 128 ≤ d.val && isSpace d == isSpace c && isLineEnd d == isLineEnd c
    | _ => false

/-- The one character that a kept one becomes. -/
def UpperCase.capital (upper : UpperCase) (c : Char) : Char :=
  if upper.keeps c then (upper.char c).headD c else c

private theorem UpperCase.char_kept {upper : UpperCase} {c : Char} (kept : upper.keeps c) :
    upper.char c = [upper.capital c] := by
  rw [capital, if_pos kept]
  rcases Bool.or_eq_true_iff.mp kept with ascii | kept
  · rw [upper.ascii c (of_decide_eq_true ascii)]
    rfl
  · split at kept
    · rename_i d single
      rw [single]
      rfl
    · cases kept

theorem UpperCase.chars_kept {upper : UpperCase} {text : List Char} (kept : ∀ c ∈ text, upper.keeps c) :
    upper.chars text = text.map upper.capital := by
  rw [chars, ← List.flatMap_singleton' (text.map upper.capital), List.flatMap_map]
  exact List.flatMap_congr fun c member => char_kept (kept c member)

/-- A capital is a letter of ASCII for one, and another character outside of ASCII for another one. -/
theorem UpperCase.capital_cases (upper : UpperCase) (c : Char) :
    upper.capital c = c ∨ c.val < 128 ∧ upper.capital c = c.toUpper ∨
      128 ≤ c.val ∧ 128 ≤ (upper.capital c).val ∧ isSpace (upper.capital c) = isSpace c ∧
        isLineEnd (upper.capital c) = isLineEnd c := by
  by_cases kept : upper.keeps c
  · rw [capital, if_pos kept]
    by_cases ascii : c.val < 128
    · rw [upper.ascii c ascii]
      exact .inr (.inl ⟨ascii, rfl⟩)
    · rcases Bool.or_eq_true_iff.mp kept with below | kept
      · exact absurd (of_decide_eq_true below) ascii
      · split at kept
        · rename_i d single
          simp only [Bool.and_eq_true, decide_eq_true_eq, beq_iff_eq] at kept
          rw [single]
          exact .inr (.inr ⟨UInt32.not_lt.mp ascii, kept.1.1, kept.1.2, kept.2⟩)
        · cases kept
  · exact .inl (if_neg kept)

/-- Patterns see no difference between a character and its capital. -/
theorem UpperCase.alike_capital (upper : UpperCase) : Alike upper.capital := by
  have wordless {c : Char} (beyond : 128 ≤ c.val) : isWord c = false := by
    by_contra word
    exact absurd (ascii_of_isWord (Bool.not_eq_false _ ▸ word)) (UInt32.not_lt.mpr beyond)
  have caseless {c : Char} (beyond : 128 ≤ c.val) : c.toLower = c := by
    by_contra moved
    exact absurd (ascii_of_toLower moved) (UInt32.not_lt.mpr beyond)
  refine ⟨fun c => ?_, fun c => ?_, fun c => ?_, fun c d plain => ?_⟩
  · rcases upper.capital_cases c with same | ⟨below, same⟩ | ⟨beyond, beyond', -⟩
    · rw [same]
    · rw [same]
      exact eq_of_beq (forall_ascii (fun c => isWord c.toUpper == isWord c) (by decide) below)
    · rw [wordless beyond, wordless beyond']
  · rcases upper.capital_cases c with same | ⟨below, same⟩ | ⟨-, -, space, -⟩
    · rw [same]
    · rw [same]
      exact eq_of_beq (forall_ascii (fun c => isSpace c.toUpper == isSpace c) (by decide) below)
    · exact space
  · rcases upper.capital_cases c with same | ⟨below, same⟩ | ⟨-, -, -, line⟩
    · rw [same]
    · rw [same]
      exact eq_of_beq (forall_ascii (fun c => isLineEnd c.toUpper == isLineEnd c) (by decide) below)
    · exact line
  · rcases upper.capital_cases c with same | ⟨below, same⟩ | ⟨beyond, beyond', -⟩
    · rw [same]
    · have back := eq_of_beq (forall_ascii (fun c => c.toUpper.toLower == c.toLower) (by decide) below)
      rw [same, back]
    · have small := forall_ascii (fun d => d.toLower.val < 128) (by decide) plain
      have apart {e : Char} (beyond : 128 ≤ e.val) : e ≠ d.toLower := by
        rintro rfl
        exact absurd (of_decide_eq_true small) (UInt32.not_lt.mpr beyond)
      rw [caseless beyond, caseless beyond']
      exact iff_of_false (apart beyond') (apart beyond)

/-- The letters of English only. -/
def UpperCase.basic : UpperCase := ⟨fun c => [c.toUpper], fun _ _ => rfl⟩

namespace SchemaClassification

/-- The tests of `classifyOperations` in their order. -/
def rules : List SqlRule :=
  [⟨SqlRule.whole ["DROP", "TABLE"] empty, .BREAKING, "Table deletion"⟩,
    ⟨SqlRule.whole ["DROP", "COLUMN"] empty, .BREAKING, "Column deletion"⟩,
    ⟨SqlRule.whole ["ALTER", "COLUMN"] (seq (many isDot) (text "TYPE" (seq boundary empty))), .BREAKING,
      "Changing column type can corrupt data"⟩,
    ⟨SqlRule.atLine (text "UPDATE" (seq (plus isSpace) (one isWord))), .DATA, "Data update / backfill"⟩,
    ⟨SqlRule.atLine (words ["INSERT", "INTO"] (seq boundary empty)), .DATA, "Data insert / backfill"⟩,
    ⟨SqlRule.atLine (words ["DELETE", "FROM"] (seq boundary empty)), .DATA, "Data deletion"⟩,
    ⟨SqlRule.atLine (text "COPY" (seq (plus isSpace) (one isWord))), .DATA, "Bulk data copy"⟩,
    ⟨SqlRule.whole ["CREATE", "TABLE"] empty, .SAFE, "New table (additive)"⟩,
    ⟨SqlRule.whole ["CREATE", "INDEX"] empty, .SAFE, "New index (additive)"⟩,
    ⟨SqlRule.whole ["CREATE", "TYPE"] empty, .SAFE, "New enum/type (additive)"⟩,
    ⟨SqlRule.whole ["ADD", "COLUMN"] empty, .SAFE, "New column (must be nullable)"⟩,
    ⟨SqlRule.whole ["ADD", "CONSTRAINT"] empty, .SAFE, "New constraint (check data first)"⟩,
    ⟨SqlRule.whole ["CREATE", "SEQUENCE"] empty, .SAFE, "New sequence (additive)"⟩]

def classifyOperation (upper : UpperCase) (sql : String) : SchemaOperation :=
  match rules.find? fun rule => rule.pattern.test (upper.text sql) with
  | some rule => { sql, category := rule.category, reason := rule.reason }
  | none => { sql, category := .SAFE, reason := "Unrecognised statement — defaulting to SAFE" }

def classifyOperations (upper : UpperCase) (sqlStatements : List String) : List SchemaOperation :=
  sqlStatements.map (classifyOperation upper)

def needsPhaseDecomposition (classified : List SchemaOperation) : Bool :=
  classified.any (·.category = .BREAKING) && classified.any fun operation =>
    operation.category = .SAFE || operation.category = .DATA

@[simp] theorem classifyOperation_sql (upper : UpperCase) (sql : String) : (classifyOperation upper sql).sql = sql := by
  unfold classifyOperation
  split <;> rfl

/-- What the diff says about a dropped table is breaking, whatever the name. -/
theorem dropped_breaking (upper : UpperCase) (name : String) :
    (classifyOperation upper ("-- DROP TABLE " ++ name)).category = .BREAKING := by
  obtain ⟨ending, begins, read⟩ := upper.text_begun "-- DROP TABL".toList 'E'
    ((upper.chars_ascii (by decide)).trans (by decide)) (by decide) (by decide) (' ' :: name.toList)
  have written : String.ofList ("-- DROP TABL".toList ++ 'E' :: ' ' :: name.toList) = "-- DROP TABLE " ++ name := by
    apply String.toList_injective
    rw [String.toList_ofList, String.toList_append]
    rfl
  -- the word ends where the text does, or at the space before the name
  have edge : atBoundary ⟨some 'E', ending⟩ = true := by
    rw [UpperCase.chars, List.flatMap_cons, upper.ascii ' ' (by decide)] at begins
    rcases List.prefix_cons_iff.mp begins with rfl | ⟨rest, rfl, -⟩ <;> rfl
  have split : (upper.text ("-- DROP TABLE " ++ name)).toList =
      "-- ".toList ++ ("DROP".toList ++ ' ' :: ("TABLE".toList ++ ending)) := by
    rw [← written, read]
    rfl
  have found : ((SqlRule.whole ["DROP", "TABLE"] empty).searchFrom (some ' ')
      ("DROP".toList ++ ' ' :: ("TABLE".toList ++ ending))).isSome := by
    have here : ((SqlRule.whole ["DROP", "TABLE"] empty).ways
        ⟨some ' ', "DROP".toList ++ ' ' :: ("TABLE".toList ++ ending)⟩).head?.map Prod.snd = some [] := by
      rw [SqlRule.whole, ways_boundary (by rfl), ways_words rfl (by decide)]
      have read : (seq boundary empty).ways ⟨some 'E', ending⟩ = [(⟨some 'E', ending⟩, [])] := by
        rw [ways_boundary edge, ways_empty]
      exact congrArg (fun found => found.head?.map Prod.snd) read
    rw [searchFrom_here here]
    rfl
  have drops : (SqlRule.whole ["DROP", "TABLE"] empty).test (upper.text ("-- DROP TABLE " ++ name)) = true := by
    rw [test, search, split]
    exact searchFrom_later found
  simp [classifyOperation, rules, drops]

end SchemaClassification

end DriverMicroServices
