import GrammarKit.Number.Binary
/-!
# The fewest digits that identify a number

Every double is the nearest one to a whole interval of reals. Among the decimals in that interval
this module picks one with the fewest digits, of those the nearest to the double itself, and of two
equally near the one that ends with an even digit.
-/

namespace GrammarKit.Number

/-- A decimal number: a natural number of `digits` times ten to the `exponent`. -/
structure Decimal where
  /-- The digits, read as one natural number. -/
  digits : Nat
  /-- The power of ten that scales them. -/
  exponent : Int
deriving DecidableEq, Repr

namespace Decimal

/-- The digits one by one; zero has none. -/
def figures (decimal : Decimal) : List Char :=
  if decimal.digits = 0 then [] else Nat.toDigits 10 decimal.digits

/-- Where the decimal point stands, counted from the left of the digits. -/
def point (decimal : Decimal) : Int :=
  if decimal.digits = 0 then 0 else decimal.figures.length + decimal.exponent

/-- The same number without zeros at the end of its digits; the first argument bounds their count.
-/
def trimUpTo : Nat → Decimal → Decimal
  | 0, decimal => decimal
  | count + 1, decimal =>
    if decimal.digits ≠ 0 ∧ decimal.digits % 10 = 0 then
      trimUpTo count ⟨decimal.digits / 10, decimal.exponent + 1⟩
    else decimal

/-- The same number without zeros at the end of its digits. -/
def trim (decimal : Decimal) : Decimal := trimUpTo decimal.figures.length decimal

end Decimal

namespace Magnitude

/-- Compares a decimal with `quarters` quarters of the unit of a magnitude. -/
def compareQuarters (magnitude : Magnitude) (decimal : Decimal) (quarters : Nat) : Ordering :=
  let binary := magnitude.exponent - 2
  compare (decimal.digits * Nat.pow 10 decimal.exponent.toNat * Nat.pow 2 (-binary).toNat)
    (quarters * Nat.pow 2 binary.toNat * Nat.pow 10 (-decimal.exponent).toNat)

/-- A decimal identifies a magnitude when it lies between the midpoints to the two neighbouring
doubles; a midpoint itself belongs to the even one. -/
def identifiedBy (magnitude : Magnitude) (decimal : Decimal) : Bool :=
  let low := 4 * magnitude.significand - (if magnitude.narrowBelow then 1 else 2)
  let high := 4 * magnitude.significand + 2
  let even := magnitude.significand % 2 == 0
  let fromLow := magnitude.compareQuarters decimal low
  let fromHigh := magnitude.compareQuarters decimal high
  (fromLow == .gt || even && fromLow == .eq) && (fromHigh == .lt || even && fromHigh == .eq)

/-- The decimal of exactly the given number of digits that identifies a magnitude, when there is
one; of two the nearer, and of two equally near the one whose last digit is even. -/
def withDigits? (magnitude : Magnitude) (point : Int) (count : Nat) : Option Decimal :=
  let exponent := point - count
  let (numerator, denominator) := magnitude.scaled (-exponent)
  let below : Decimal := ⟨numerator / denominator, exponent⟩
  let above : Decimal := ⟨numerator / denominator + 1, exponent⟩
  match magnitude.identifiedBy below, magnitude.identifiedBy above with
  | true, true =>
    match compare (2 * (numerator % denominator)) denominator with
    | .lt => some below
    | .gt => some above
    | .eq => if below.digits % 2 = 0 then some below else some above
  | true, false => some below
  | false, true => some above
  | false, false => none

/-- The decimal with the fewest digits that identifies a magnitude. Seventeen digits always
suffice. -/
def shortest (magnitude : Magnitude) : Decimal :=
  if magnitude.significand = 0 then ⟨0, 0⟩
  else
    let point := magnitude.decimalPoint
    match (List.range 17).findSome? fun fewer => magnitude.withDigits? point (fewer + 1) with
    | some decimal => decimal.trim
    | none => Decimal.trim ⟨magnitude.roundScaled (17 - point), point - 17⟩

/-- The magnitude to a given number of significant digits; a half goes to the even neighbour. -/
def toDigits (magnitude : Magnitude) (count : Nat) : Decimal :=
  if magnitude.significand = 0 then ⟨0, 0⟩
  else
    let exponent := magnitude.decimalPoint - count
    Decimal.trim ⟨magnitude.roundScaled (-exponent), exponent⟩

/-- The magnitude to a given number of places after the point; a half goes to the even neighbour. -/
def toPlaces (magnitude : Magnitude) (places : Nat) : Decimal :=
  Decimal.trim ⟨magnitude.roundScaled places, -places⟩

end Magnitude

end GrammarKit.Number
