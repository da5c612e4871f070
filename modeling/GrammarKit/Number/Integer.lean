/-!
# The text of whole numbers

Whole numbers are written in decimal digits with a minus sign below zero.
-/

namespace GrammarKit.Number

/-- A natural number in decimal digits. -/
def naturalText (number : Nat) : String := String.ofList (Nat.toDigits 10 number)

/-- An integer in decimal digits, with a minus sign when it is below zero. -/
def integerText (number : Int) : String :=
  if number < 0 then "-" ++ naturalText number.natAbs else naturalText number.natAbs

end GrammarKit.Number
