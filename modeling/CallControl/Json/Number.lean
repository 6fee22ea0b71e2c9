import CallControl.Json.Binary64
import CallControl.Json.Token

/-! # The value of a number literal

A literal without fraction and exponent is an integer when it fits 64 bits, signed
or unsigned; negative zero is not an integer. Every other literal is a binary64
number, read in two roundings: the leading digits that fit an unsigned 64-bit
integer make a significand, and one multiplication or division by a power of ten
follows. A value beyond the finite numbers is refused, one below them is zero.
-/

namespace CallControl.Json

open CallControl.Text

/-- A JSON number. -/
inductive Number where
  | integer (value : Int)
  | float (value : Binary64)
  deriving Repr, DecidableEq

/-- The largest unsigned 64-bit integer. -/
def maxUnsigned : Nat := UInt64.size - 1

/-- The significand of a run of digits and how many of the digits did not fit it:
all digits from the first one that would exceed an unsigned 64-bit integer. -/
def significand (value : Nat) : List Nat → Nat × Nat
  | [] => (value, 0)
  | digit :: rest =>
      if 10 * value + digit ≤ maxUnsigned then significand (10 * value + digit) rest
      else (value, rest.length + 1)

namespace NumberLiteral

/-- The significand of a literal and the power of ten it is to be multiplied with,
before the written exponent: integer digits that did not fit count up, fraction
digits that fit count down. -/
def parts (literal : NumberLiteral) : Nat × Int :=
  let (whole, dropped) := significand 0 literal.integer
  let (value, ignored) := significand whole literal.fraction
  (value, (dropped : Int) - ((literal.fraction.length - ignored : Nat) : Int))

/-- The power of ten, rounded to the format. -/
def powerOfTen? (exponent : Nat) : Option Magnitude :=
  Magnitude.ofNat? (Nat.pow 10 exponent)

/-- A magnitude divided so many times by the greatest power of ten of the format. -/
def divideRepeatedly? (power : Magnitude) : Nat → Magnitude → Option Magnitude
  | 0, magnitude => some magnitude
  | count + 1, magnitude =>
      if magnitude.significand = 0 then some magnitude
      else (magnitude.div? power).bind (divideRepeatedly? power count)

/-- A magnitude times a power of ten. A power of the format takes one operation; a
negative power below the format's takes a division for each 308 places, and a
positive power above them exceeds every number but zero. -/
def scaleByTen? (magnitude : Magnitude) (exponent : Int) : Option Magnitude :=
  if 0 ≤ exponent then
    if exponent ≤ 308 then (powerOfTen? exponent.toNat).bind magnitude.mul?
    else if magnitude.significand = 0 then some magnitude
    else none
  else
    let places := exponent.natAbs
    let rounds := (places - 1) / 308
    (powerOfTen? 308).bind fun greatest =>
      (divideRepeatedly? greatest rounds magnitude).bind fun smaller =>
        (powerOfTen? (places - 308 * rounds)).bind smaller.div?

/-- A literal read as a binary64 number. An exponent too long for 31 bits leaves
zero, or nothing when it is positive and the significand is not zero. -/
def float? (literal : NumberLiteral) : Option Binary64 :=
  let (value, shift) := literal.parts
  let scaled (exponent : Int) : Option Binary64 :=
    (Magnitude.ofNat? value).bind fun magnitude =>
      (scaleByTen? magnitude exponent).map fun result => ⟨literal.negative, result⟩
  match literal.exponent with
  | none => scaled shift
  | some (below, written) =>
      let exponent := ofDigits written
      if exponent < Nat.pow 2 31 then scaled (if below then shift - exponent else shift + exponent)
      else if below ∨ value = 0 then some ⟨literal.negative, ⟨0, 0⟩⟩
      else none

/-- The integer of a literal that is written without fraction and exponent and fits
64 bits. -/
def integer? (literal : NumberLiteral) : Option Int :=
  if literal.fraction.isEmpty && literal.exponent.isNone then
    let value := ofDigits literal.integer
    if literal.negative then
      if 0 < value ∧ value ≤ Nat.pow 2 63 then some (-(value : Int)) else none
    else if value ≤ maxUnsigned then some value
    else none
  else none

/-- The value of a literal. -/
def value? (literal : NumberLiteral) : Option Number :=
  match literal.integer? with
  | some value => some (.integer value)
  | none => literal.float?.map .float

/-- The natural number of a literal that a field of unsigned 64-bit integers
accepts. -/
def natural? (literal : NumberLiteral) : Option Nat :=
  if literal.negative then none
  else literal.integer?.map Int.toNat

end NumberLiteral

/-- A number as text. -/
def Number.write : Number → List Char
  | .integer value => signedDecimal value
  | .float value => value.write

end CallControl.Json
