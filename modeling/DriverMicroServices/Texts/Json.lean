import DriverMicroServices.Tables.Keyed
import DriverMicroServices.Texts.Units

/-! Values of JSON as a script reads them: properties that are missing, values that count as false,
and texts that are written from values. An object with a property `toString` of its own has no
text, because nothing that JSON knows can be called. -/
namespace Texts

/-- What a script does with numbers: `String(n)`, `n === 0`, `n > limit`, `Number(text)` and
`String(Math.ceil(n / divisor))`. A number that is none is `NaN`. -/
class Numerals (ν : Type) where
  text : ν → String
  isZero : ν → Bool
  exceeds : ν → Nat → Bool
  ofText : String → Option ν
  ceilQuotient : Option ν → Nat → String

inductive Json (ν : Type) where
  | null
  | bool (value : Bool)
  | num (value : ν)
  | str (value : String)
  | arr (elements : List (Json ν))
  | obj (fields : List (String × Json ν))

namespace Json

/-- What is read from a property; nothing is `undefined`. -/
abbrev Value (ν : Type) := Option (Json ν)

variable {ν : Type} [Numerals ν]

mutual

/-- `String(value)`, or nothing where that throws. -/
def text : Json ν → Option String
  | null => some "null"
  | bool value => some (if value then "true" else "false")
  | num value => some (Numerals.text value)
  | str value => some value
  | arr elements => (texts elements).map ",".intercalate
  | obj fields => if (Tables.Keyed.get fields "toString").isSome then none else some "[object Object]"

/-- The texts that `join` puts together; `null` is empty. -/
def texts : List (Json ν) → Option (List String)
  | [] => some []
  | null :: rest => (texts rest).map ("" :: ·)
  | element :: rest => (text element).bind fun first => (texts rest).map (first :: ·)

end

/-- A value in a template. -/
def render : Value ν → Option String
  | none => some "undefined"
  | some value => value.text

/-- `!!value` -/
def truthy : Value ν → Bool
  | none | some null => false
  | some (bool value) => value
  | some (num value) => !Numerals.isZero value
  | some (str value) => value ≠ ""
  | some (arr _) | some (obj _) => true

/-- The value has no properties, and reading one throws. -/
def isNullish : Value ν → Bool
  | none | some null => true
  | _ => false

/-- `value?.name`, for a name that only objects have. -/
def peek (value : Value ν) (name : String) : Value ν :=
  match value with
  | some (obj fields) => Tables.Keyed.get fields name
  | _ => none

/-- `first === second` of values that were read apart: no array or object is another one. -/
def strictEq : Value ν → Value ν → Bool
  | none, none | some null, some null => true
  | some (bool first), some (bool second) => first = second
  | some (num first), some (num second) => Numerals.text first = Numerals.text second
  | some (str first), some (str second) => first = second
  | _, _ => false

def isText (value : Value ν) (literal : String) : Bool :=
  match value with
  | some (str text) => text = literal
  | _ => false

/-- `value.length === 0` -/
def hasLengthZero : Value ν → Bool
  | some (str value) => value = ""
  | some (arr elements) => elements.isEmpty
  | some (obj fields) =>
    match Tables.Keyed.get fields "length" with
    | some (num length) => Numerals.isZero length
    | _ => false
  | _ => false

/-- `Number(value)` -/
def number : Json ν → Option (Option ν)
  | null => some (Numerals.ofText "0")
  | bool value => some (Numerals.ofText (if value then "1" else "0"))
  | num value => some (some value)
  | value => value.text.map Numerals.ofText

/-- `value.length > limit` -/
def lengthExceeds (value : Value ν) (limit : Nat) : Option Bool :=
  match value with
  | some (str text) => some (limit < Units.length text)
  | some (arr elements) => some (limit < elements.length)
  | some (obj fields) =>
    match Tables.Keyed.get fields "length" with
    | none => some false
    | some length => length.number.map fun number => number.any (Numerals.exceeds · limit)
  | _ => some false

/-- `value.join(separator)` -/
def join (value : Value ν) (separator : String) : Option String :=
  match value with
  | some (arr elements) => (texts elements).map separator.intercalate
  | _ => none

/-- Whole numbers, where texts of other numbers are not numbers. -/
instance : Numerals Nat where
  text n := toString n
  isZero n := n = 0
  exceeds n limit := limit < n
  ofText text := if text.toList.all Char.isDigit then some (Nat.ofDigitChars 10 text.toList 0) else none
  ceilQuotient n divisor := (n.map fun n => toString ((n + divisor - 1) / divisor)).getD "NaN"

theorem number_isSome (value : Json ν) : value.number.isSome = value.text.isSome := by
  cases value <;> simp [number, text]

end Json
end Texts
