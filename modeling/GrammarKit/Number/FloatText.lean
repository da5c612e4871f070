import GrammarKit.Number.Shortest
/-!
# The text of floating-point numbers

A number is laid out with its point in place or with a power of ten. By default it has the fewest
digits that identify it, and the power of ten is written out when it is below -4 or at least 6;
other layouts have a given number of digits.
-/

namespace GrammarKit.Number

/-- The ways to lay a floating-point number out. -/
inductive Layout where
  /-- The fewest digits that identify the number, in whichever of the two forms suits its size. -/
  | shortest
  /-- A number of significant digits, in whichever of the two forms suits the size. -/
  | general (digits : Nat)
  /-- One digit before the point, a number of digits after it, and a power of ten. -/
  | scientific (places : Nat)
  /-- The point in its place and a number of digits after it. -/
  | positional (places : Nat)
deriving DecidableEq, Repr

/-- The text of a number apart from its sign. -/
structure Signed where
  /-- Whether the number is below zero, or the negative zero. -/
  negative : Bool
  /-- The text without a sign. -/
  body : String
  /-- Whether the text is made of digits, so that zeros may be put in front of it. -/
  numeric : Bool
deriving DecidableEq, Repr

/-- The digit at a place of a decimal, counted from the left; zeros continue it both ways. -/
def Decimal.figureAt (figures : List Char) (place : Int) : Char :=
  if place < 0 then '0' else figures.getD place.toNat '0'

/-- One digit, a point, `places` digits and the power of ten with a sign and at least two digits. -/
def Decimal.scientificText (mark : Char) (places : Nat) (decimal : Decimal) : String :=
  let figures := decimal.figures
  let power : Int := if decimal.digits = 0 then 0 else decimal.point - 1
  let fraction := (List.range places).map fun (place : Nat) => Decimal.figureAt figures (place + 1)
  let powerDigits := Nat.toDigits 10 power.natAbs
  String.ofList
    (Decimal.figureAt figures 0 :: (if places = 0 then [] else '.' :: fraction) ++
      [mark, if power < 0 then '-' else '+'] ++
      (if powerDigits.length < 2 then '0' :: powerDigits else powerDigits))

/-- The digits before the point, at least one, and `places` digits after it. -/
def Decimal.positionalText (places : Nat) (decimal : Decimal) : String :=
  let figures := decimal.figures
  let point := decimal.point
  let whole :=
    if point ≤ 0 then ['0']
    else (List.range point.toNat).map fun (place : Nat) => Decimal.figureAt figures place
  let fraction := (List.range places).map fun (place : Nat) =>
    Decimal.figureAt figures (point + place)
  String.ofList (whole ++ if places = 0 then [] else '.' :: fraction)

/-- The power of ten from which the shortest text is scientific. -/
def shortestLimit : Int := 6

/-- A magnitude in a given layout; `mark` introduces the power of ten. -/
def Magnitude.text (mark : Char) (magnitude : Magnitude) : Layout → String
  | .shortest =>
    let decimal := magnitude.shortest
    let count := decimal.figures.length
    let power := decimal.point - 1
    if power < -4 ∨ shortestLimit ≤ power then decimal.scientificText mark (count - 1)
    else decimal.positionalText (count - decimal.point).toNat
  | .general digits =>
    let wanted := if digits = 0 then 1 else digits
    let decimal := magnitude.toDigits wanted
    let count := decimal.figures.length
    let power := decimal.point - 1
    let limit : Int := if count < wanted ∧ decimal.point ≤ count then count else wanted
    if power < -4 ∨ limit ≤ power then
      decimal.scientificText mark ((if count < wanted then count else wanted) - 1)
    else
      let kept : Int := if decimal.point < wanted then count else wanted
      decimal.positionalText (kept - decimal.point).toNat
  | .scientific places => (magnitude.toDigits (places + 1)).scientificText mark places
  | .positional places => (magnitude.toPlaces places).positionalText places

/-- The text of a double in a given layout, apart from its sign. -/
def Layout.signed (layout : Layout) (mark : Char) (number : Float) : Signed :=
  match Reading.ofFloat number with
  | .notANumber => ⟨false, "NaN", false⟩
  | .infinite negative => ⟨negative, "Inf", false⟩
  | .finite negative magnitude => ⟨negative, magnitude.text mark layout, true⟩

/-- The usual text of a double: infinities always carry a sign, other numbers when it is minus. -/
def floatText (number : Float) : String :=
  match Layout.shortest.signed 'e' number with
  | ⟨true, body, _⟩ => "-" ++ body
  | ⟨false, body, _⟩ => if body = "Inf" then "+Inf" else body

end GrammarKit.Number
