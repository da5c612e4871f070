/-!
# Code points

Symbols travel through the library as signed 32-bit codes, because a grammar may name a code that
no character has (a surrogate, a negative number, one past the last plane). Such a code never
equals the code of a character, and shows as the replacement character when it is printed.
-/

namespace GrammarKit

/-- A symbol's number, whether or not a character has it. -/
abbrev CodePoint := Int32

namespace CodePoint

/-- The character that stands for a code no character has. -/
def replacement : Char := '\uFFFD'

/-- The code of a character. -/
def ofChar (symbol : Char) : CodePoint := Int32.ofNat symbol.toNat

/-- The character with a given code, or the replacement character when there is none. -/
def toChar (code : CodePoint) : Char :=
  if 0 ≤ code ∧ code.toInt.toNat.isValidChar then Char.ofNat code.toInt.toNat else replacement

/-- The text of one symbol. -/
def text (code : CodePoint) : String := String.singleton code.toChar

/-- The text of a run of symbols. -/
def textOf (codes : List CodePoint) : String := String.ofList (codes.map toChar)

end CodePoint

end GrammarKit
