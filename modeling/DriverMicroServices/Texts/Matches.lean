import DriverMicroServices.Texts.Regex

/-! All matches of a regular expression in a text, one after the other, each from where the one
before ended. -/
namespace Texts.Regex.Pattern

/-- The first match from a place on: the place after it, and what it captures. -/
def firstFrom (pattern : Pattern) (before : Option Char) (rest : List Char) :
    Option (Place × List String) :=
  match (pattern.ways ⟨before, rest⟩).head?, rest with
  | some way, _ => some way
  | none, [] => none
  | none, c :: cs => firstFrom pattern (some c) cs

/-- The number bounds how many matches are looked for. -/
def matchesFrom (pattern : Pattern) : Nat → Place → List (List String)
  | 0, _ => []
  | fuel + 1, place =>
    match pattern.firstFrom place.before place.rest with
    | none => []
    | some (after, captures) => captures :: matchesFrom pattern fuel after

/-- The captures of `pattern.exec(text)` with the flag `g`, until there is no match. A match of
such a pattern takes a character at least. -/
def allMatches (pattern : Pattern) (text : String) : List (List String) :=
  pattern.matchesFrom (text.toList.length + 1) ⟨none, text.toList⟩

end Texts.Regex.Pattern
