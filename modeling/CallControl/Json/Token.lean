/-! # Tokens of a JSON text

A JSON text is a sequence of brackets, commas, colons and scalars. A scalar keeps
what was written: a number is held by its digits, and a string whose escapes or
octets do not amount to a text is still a token, since a reader that has no use
for it accepts it unread.
-/

namespace CallControl.Json

/-- A number by its written parts; the digits of each part are most significant
first, and no fraction digits means that no point was written. -/
structure NumberLiteral where
  /-- A minus sign was written. -/
  negative : Bool
  /-- The digits before the point. -/
  integer : List Nat
  /-- The digits after the point. -/
  fraction : List Nat
  /-- The sign and the digits of the exponent, if one was written. -/
  exponent : Option (Bool × List Nat)
  deriving Repr, DecidableEq

/-- A JSON value that is neither an array nor an object. -/
inductive Scalar where
  | null
  | bool (value : Bool)
  | number (literal : NumberLiteral)
  /-- A string; it has no text when its escapes pair up to no character or its
  octets are not UTF-8. -/
  | string (text : Option String)
  deriving Repr, DecidableEq

/-- The two kinds of container. -/
inductive Container where
  | array
  | object
  deriving Repr, DecidableEq

/-- A token of a JSON text. -/
inductive Token where
  | opening (container : Container)
  | closing (container : Container)
  | comma
  | colon
  | scalar (value : Scalar)
  deriving Repr, DecidableEq

end CallControl.Json
