/-!
# Binary floating-point numbers, exactly

A finite double is a natural number times a power of two. This module takes a double apart into that
form, so that decimal digits can be chosen by exact arithmetic on naturals.
-/

namespace GrammarKit.Number

/-- The magnitude of a finite double: `significand` times two to the `exponent`. -/
structure Magnitude where
  /-- The whole number that is scaled. -/
  significand : Nat
  /-- The power of two that scales it. -/
  exponent : Int
  /-- Whether the double below is only half as far away as the double above. -/
  narrowBelow : Bool
deriving DecidableEq, Repr

/-- What a double stands for. -/
inductive Reading where
  /-- No number at all. -/
  | notANumber
  /-- One of the two infinities. -/
  | infinite (negative : Bool)
  /-- A finite number; zero has a sign too. -/
  | finite (negative : Bool) (magnitude : Magnitude)
deriving DecidableEq, Repr

/-- Reads the sign, the exponent field and the fraction field of a double. -/
def Reading.ofFloat (number : Float) : Reading :=
  let bits := number.toBits.toNat
  let negative := bits / Nat.pow 2 63 == 1
  let field := bits / Nat.pow 2 52 % Nat.pow 2 11
  let fraction := bits % Nat.pow 2 52
  if field = 2047 then
    if fraction = 0 then .infinite negative else .notANumber
  else if field = 0 then .finite negative ⟨fraction, -1074, false⟩
  else .finite negative ⟨Nat.pow 2 52 + fraction, (field : Int) - 1075, fraction == 0 && field > 1⟩

namespace Magnitude

/-- The magnitude times a power of ten, as a fraction of two naturals. -/
def scaled (magnitude : Magnitude) (power : Int) : Nat × Nat :=
  (magnitude.significand * Nat.pow 2 magnitude.exponent.toNat * Nat.pow 10 power.toNat,
    Nat.pow 2 (-magnitude.exponent).toNat * Nat.pow 10 (-power).toNat)

/-- The magnitude times a power of ten, to the nearest natural number; a half goes to the even
neighbour. -/
def roundScaled (magnitude : Magnitude) (power : Int) : Nat :=
  let (numerator, denominator) := magnitude.scaled power
  let whole := numerator / denominator
  let twice := 2 * (numerator % denominator)
  if twice < denominator then whole
  else if denominator < twice then whole + 1
  else if whole % 2 = 0 then whole else whole + 1

/-- The least power of ten above a positive magnitude, found among the powers that doubles reach. -/
def decimalPoint (magnitude : Magnitude) : Int :=
  let estimate : Int :=
    (magnitude.exponent + magnitude.significand.log2) * 30103 / 100000 - 1
  let above (power : Int) : Bool :=
    let (numerator, denominator) := magnitude.scaled (-power)
    numerator < denominator
  if above estimate then estimate
  else if above (estimate + 1) then estimate + 1
  else if above (estimate + 2) then estimate + 2
  else estimate + 3

end Magnitude

end GrammarKit.Number
