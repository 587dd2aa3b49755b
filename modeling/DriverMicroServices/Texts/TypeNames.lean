import DriverMicroServices.Texts.Tokens

/-! The types that a statement names. A name stands for a type behind a cast, in quotes before a literal, in the
definition of a column, an attribute, a domain or a parameter, and where a type itself is altered. -/
namespace Texts.Tokens

/-- What stands before the parenthesis that closes. -/
def untilClosed : Nat → List Token → List Token
  | _, [] => []
  | depth, .symbol '(' :: rest => .symbol '(' :: untilClosed (depth + 1) rest
  | 0, .symbol ')' :: _ => []
  | depth + 1, .symbol ')' :: rest => .symbol ')' :: untilClosed depth rest
  | depth, token :: rest => token :: untilClosed depth rest

end Texts.Tokens
