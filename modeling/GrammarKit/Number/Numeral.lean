import GrammarKit.Text.Quoted
/-!
# Reading numerals

Whole numbers in any of the usual bases and decimal fractions with an optional power of ten. A
reader says whether a text is such a numeral and which number it names; what range of numbers is
welcome is for its caller to say.
-/

namespace GrammarKit.Number

/-- The value of a digit in a base of up to sixteen. -/
def digitValue? (base : Nat) (symbol : Char) : Option Nat :=
  let value? :=
    if '0' ≤ symbol ∧ symbol ≤ '9' then some (symbol.toNat - 48)
    else if 'a' ≤ symbol ∧ symbol ≤ 'f' then some (symbol.toNat - 87)
    else if 'A' ≤ symbol ∧ symbol ≤ 'F' then some (symbol.toNat - 55)
    else none
  value?.filter (· < base)

/-- The number written by a possibly empty run of digits, or nothing when some character is no
digit. -/
def digitsValue? (base : Nat) (symbols : List Char) : Option Nat :=
  symbols.foldlM (fun value symbol => (digitValue? base symbol).map (value * base + ·)) 0

/-- The number written by a run of at least one digit. -/
def natural? (base : Nat) (symbols : List Char) : Option Nat :=
  if symbols.isEmpty then none else digitsValue? base symbols

/-- Splits a sign off a numeral; no sign counts as plus. -/
def splitSign : List Char → Bool × List Char
  | '-' :: rest => (true, rest)
  | '+' :: rest => (false, rest)
  | symbols => (false, symbols)

/-- A whole number in decimal digits with an optional sign. -/
def integer? (symbols : List Char) : Option Int :=
  let (negative, digits) := splitSign symbols
  (natural? 10 digits).map fun value => if negative then -value else value

/-- A natural number whose base shows in its first characters: `0x`, `0o` and `0b`, or a bare zero
for base eight. -/
def prefixedNatural? : List Char → Option Nat
  | '0' :: mark :: rest =>
    match mark with
    | 'x' | 'X' => natural? 16 rest
    | 'o' | 'O' => natural? 8 rest
    | 'b' | 'B' => natural? 2 rest
    | _ => natural? 8 (mark :: rest)
  | symbols => natural? 10 symbols

/-- The least and the greatest 64-bit integer bound the integers that fit a word. -/
def fitsInt64 (number : Int) : Bool :=
  Int64.minValue.toInt ≤ number && number ≤ Int64.maxValue.toInt

/-- Why a text is no 64-bit integer. -/
inductive NumeralProblem where
  /-- The text is no decimal numeral. -/
  | malformed
  /-- The number is too big or too small. -/
  | outOfRange
deriving DecidableEq, Repr

/-- Reads decimal digits after those that gave `sofar`. What comes first decides: a character that
is no digit, or a number past 64 bits. -/
def scanDigits (sofar : Nat) : List Char → Except NumeralProblem Nat
  | [] => .ok sofar
  | symbol :: rest =>
    match digitValue? 10 symbol with
    | none => .error .malformed
    | some digit =>
      let value := sofar * 10 + digit
      if UInt64.size ≤ value then .error .outOfRange else scanDigits value rest

/-- Reads a 64-bit integer: an optional sign and one or more decimal digits. -/
def int64? (text : String) : Except NumeralProblem Int64 := do
  let (negative, digits) := splitSign text.toList
  if digits.isEmpty then throw .malformed
  let magnitude ← scanDigits 0 digits
  let number : Int := if negative then -magnitude else magnitude
  if fitsInt64 number then return Int64.ofInt number else throw .outOfRange

/-- Why a text is no 64-bit integer, in words. -/
def numeralReason (text : String) (problem : NumeralProblem) : String :=
  let what :=
    match problem with
    | .malformed => "invalid syntax"
    | .outOfRange => "value out of range"
  "strconv.Atoi: parsing " ++ Text.quote text ++ ": " ++ what

/-- A decimal fraction: digits, the count of those after the point, and a power of ten. -/
structure Fraction where
  /-- Whether a minus sign stands in front. -/
  negative : Bool
  /-- All digits read as one number. -/
  digits : Nat
  /-- The power of ten that scales them. -/
  exponent : Int
deriving DecidableEq, Repr

/-- Reads a decimal fraction: an optional sign, digits with an optional point and at least one
digit, then optionally `e`, an optional sign and at least one digit. -/
def fraction? (symbols : List Char) : Option Fraction := do
  let (negative, rest) := splitSign symbols
  let whole := rest.takeWhile Char.isDigit
  let afterWhole := rest.dropWhile Char.isDigit
  let (places, afterPoint) :=
    match afterWhole with
    | '.' :: more => (more.takeWhile Char.isDigit, more.dropWhile Char.isDigit)
    | other => ([], other)
  if whole.isEmpty ∧ places.isEmpty then none
  let digits ← digitsValue? 10 (whole ++ places)
  match afterPoint with
  | [] => return ⟨negative, digits, -places.length⟩
  | mark :: power =>
    if mark ≠ 'e' ∧ mark ≠ 'E' then none
    let power ← integer? power
    return ⟨negative, digits, power - places.length⟩

/-- The double nearest to a decimal fraction. Fractions past the greatest double give an infinity
and those that vanish give a zero. -/
def Fraction.toFloat (fraction : Fraction) : Float :=
  let size : Int := (Nat.toDigits 10 fraction.digits).length + fraction.exponent
  let magnitude :=
    if fraction.digits = 0 ∨ size < -400 then 0.0
    else if 400 < size then 1.0 / 0.0
    else if fraction.exponent < 0 then
      Float.ofScientific fraction.digits true (-fraction.exponent).toNat
    else Float.ofScientific fraction.digits false fraction.exponent.toNat
  if fraction.negative then -magnitude else magnitude

/-- The double named by a decimal fraction or by one of the words for an infinity and for no number,
in any mixture of cases. -/
def float? (text : String) : Option Float :=
  match fraction? text.toList with
  | some fraction => some fraction.toFloat
  | none =>
    let (negative, rest) := splitSign text.toList
    let word := String.ofList (rest.map Char.toLower)
    if word = "inf" ∨ word = "infinity" then some (if negative then -1.0 / 0.0 else 1.0 / 0.0)
    else if text.toLower = "nan" then some (0.0 / 0.0)
    else none

end GrammarKit.Number
