import CallControl.Text.Decimal

/-! # Binary64 numbers

The finite numbers of the binary64 format in exact natural arithmetic. A magnitude
is `significand · 2 ^ (scale - 1074)`; every operation computes an exact ratio and
rounds once to the nearest number of the format, ties to the even significand
(`Magnitude.ofRatio?`). Writing finds the fewest decimal digits that read back
(`Magnitude.shortest`) and lays them out positionally for exponents from -5 to 15,
scientifically otherwise.
-/

namespace CallControl.Json

open CallControl.Text

/-- The nearest integer to a ratio, an exact half going to the even neighbour. -/
def roundHalfEven (numerator denominator : Nat) : Nat :=
  let quotient := numerator / denominator
  let remainder := numerator % denominator
  if denominator < 2 * remainder ∨ (2 * remainder = denominator ∧ quotient % 2 = 1) then
    quotient + 1
  else quotient

/-- A nonnegative finite number of the format. -/
structure Magnitude where
  significand : Nat
  scale : Nat
  deriving Repr, DecidableEq

namespace Magnitude

/-- The numerator of a magnitude over the denominator `2 ^ 1074`. -/
def numerator (magnitude : Magnitude) : Nat :=
  magnitude.significand * Nat.pow 2 magnitude.scale

/-- The common denominator of all magnitudes. -/
def denominator : Nat := Nat.pow 2 1074

/-- The scale at which a positive ratio has 53 significant bits, or the smallest
scale of the format. -/
def scaleOfRatio (numerator denominator : Nat) : Nat :=
  let estimate : Int := (numerator.log2 : Int) - denominator.log2
  let reached : Bool :=
    if 0 ≤ estimate then denominator * Nat.pow 2 estimate.toNat ≤ numerator
    else denominator ≤ numerator * Nat.pow 2 (-estimate).toNat
  ((if reached then estimate else estimate - 1) + 1022).toNat

/-- The number of the format nearest to a ratio; nothing when it exceeds every
finite number. -/
def ofRatio? (numerator denominator : Nat) : Option Magnitude :=
  if numerator = 0 then some ⟨0, 0⟩
  else
    let scale := scaleOfRatio numerator denominator
    let rounded := roundHalfEven (numerator * Magnitude.denominator) (denominator * Nat.pow 2 scale)
    let magnitude : Magnitude :=
      if rounded = Nat.pow 2 53 then ⟨Nat.pow 2 52, scale + 1⟩ else ⟨rounded, scale⟩
    if 2045 < magnitude.scale then none else some magnitude

/-- The magnitude nearest to a natural number. -/
def ofNat? (value : Nat) : Option Magnitude :=
  ofRatio? value 1

/-- The product of two magnitudes, rounded. -/
def mul? (left right : Magnitude) : Option Magnitude :=
  ofRatio? (left.numerator * right.numerator) (denominator * denominator)

/-- The quotient of two magnitudes, rounded. -/
def div? (left right : Magnitude) : Option Magnitude :=
  ofRatio? left.numerator right.numerator

/-- The least exponent that the format's decimal power of a ratio reaches: the
exponent of its first digit. -/
def leadingExponent (numerator denominator : Nat) : Int :=
  if denominator ≤ numerator then (digits (numerator / denominator)).length - 1
  else
    let places := (digits (denominator / numerator)).length
    if denominator ≤ numerator * Nat.pow 10 (places - 1) then -((places : Int) - 1) else -places

/-- The digits chosen for a positive magnitude: a natural number without a trailing
zero, and the exponent of its last digit. -/
structure DecimalForm where
  digits : Nat
  exponent : Int
  deriving Repr, DecidableEq

/-- The decimal of a given number of digits that reads back as a magnitude. Of the
two neighbours of the magnitude on that decimal grid the nearer one is taken if it
lies in the interval of numbers that round to the magnitude, and else the other
one; of two equally near ones the even one. -/
def withDigits? (magnitude : Magnitude) (leading : Int) (count : Nat) : Option DecimalForm :=
  let exponent := leading - count + 1
  -- everything is measured in quarters of the gap above the magnitude, times the common factor
  let gap := Nat.pow 2 magnitude.scale
  let value := 4 * magnitude.significand * gap
  let upper := value + 2 * gap
  let narrow := magnitude.significand = Nat.pow 2 52 ∧ 0 < magnitude.scale
  let lower := value - (if narrow then 1 else 2) * gap
  let unit := 4 * denominator
  let gridTop := unit * Nat.pow 10 exponent.toNat
  let gridBottom := Nat.pow 10 (-exponent).toNat
  let below := value * gridBottom / gridTop
  let inside (candidate : Nat) : Bool :=
    let point := candidate * gridTop
    if magnitude.significand % 2 = 0 then
      lower * gridBottom ≤ point && point ≤ upper * gridBottom
    else lower * gridBottom < point && point < upper * gridBottom
  let down := value * gridBottom - below * gridTop
  let up := (below + 1) * gridTop - value * gridBottom
  let downFirst := down < up || (down == up && below % 2 == 0)
  let first := if downFirst then below else below + 1
  let second := if downFirst then below + 1 else below
  if inside first then some ⟨first, exponent⟩
  else if inside second then some ⟨second, exponent⟩
  else none

/-- The fewest digits, at most 17, that read back as a positive magnitude. -/
def shortest (magnitude : Magnitude) : DecimalForm :=
  let leading := leadingExponent magnitude.numerator denominator
  match (List.range 17).findSome? fun index => magnitude.withDigits? leading (index + 1) with
  | some form => if form.digits % 10 = 0 then ⟨form.digits / 10, form.exponent + 1⟩ else form
  | none => ⟨0, 0⟩

/-- Digits with a point after the first `places` of them. -/
def positional (run : List Char) (places : Nat) : List Char :=
  if run.length ≤ places then run ++ List.replicate (places - run.length) '0' ++ ['.', '0']
  else run.take places ++ '.' :: run.drop places

/-- A decimal form as text: positional when the exponent of the first digit is from
-5 to 15, with at least one digit on either side of the point, and otherwise
scientific with a signed exponent. -/
def DecimalForm.write (form : DecimalForm) : List Char :=
  let run := decimal form.digits
  let leading : Int := form.exponent + run.length - 1
  if 0 ≤ leading ∧ leading ≤ 15 then positional run (leading.toNat + 1)
  else if -5 ≤ leading ∧ leading < 0 then
    '0' :: '.' :: List.replicate (-leading - 1).toNat '0' ++ run
  else
    (match run with
      | first :: second :: rest => first :: '.' :: second :: rest
      | _ => run) ++
    'e' :: (if leading < 0 then '-' else '+') :: decimal leading.natAbs

/-- A magnitude as text. -/
def write (magnitude : Magnitude) : List Char :=
  if magnitude.significand = 0 then ['0', '.', '0'] else magnitude.shortest.write

end Magnitude

/-- A finite number of the format. -/
structure Binary64 where
  negative : Bool
  magnitude : Magnitude
  deriving Repr, DecidableEq

/-- A number of the format as text. -/
def Binary64.write (value : Binary64) : List Char :=
  if value.negative then '-' :: value.magnitude.write else value.magnitude.write

end CallControl.Json
