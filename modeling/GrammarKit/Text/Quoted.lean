import GrammarKit.Text.CodePoint
import GrammarKit.Text.Printable
/-!
# Quoted text

Text between quotation marks, with an escape for every character that would not show. A printable
character stands for itself; the mark itself and the backslash take a backslash; the seven usual
controls have letters of their own; every other character is written by its code in two, four or
eight hexadecimal digits.
-/

namespace GrammarKit.Text

/-- The lower-case hexadecimal digits of a number, with zeros in front up to a given width. -/
def hexDigits (width number : Nat) : List Char :=
  let digits := Nat.toDigits 16 number
  List.replicate (width - digits.length) '0' ++ digits

/-- The letter that names one of the seven usual controls in an escape. -/
def controlLetter? (symbol : Char) : Option Char :=
  match symbol.toNat with
  | 0x07 => some 'a'
  | 0x08 => some 'b'
  | 0x0C => some 'f'
  | 0x0A => some 'n'
  | 0x0D => some 'r'
  | 0x09 => some 't'
  | 0x0B => some 'v'
  | _ => none

/-- One character as it stands between two `mark`s; `shows` says which characters stand for
themselves. -/
def escape (mark : Char) (shows : Char → Bool) (symbol : Char) : List Char :=
  if symbol = mark ∨ symbol = '\\' then ['\\', symbol]
  else if shows symbol then [symbol]
  else match controlLetter? symbol with
    | some letter => ['\\', letter]
    | none =>
      let code := symbol.toNat
      if code < 0x20 ∨ code = 0x7F then '\\' :: 'x' :: hexDigits 2 code
      else if code < 0x10000 then '\\' :: 'u' :: hexDigits 4 code
      else '\\' :: 'U' :: hexDigits 8 code

/-- Whether a printable character may stand for itself: always, or only when it is ASCII. -/
def showsAs (onlyAscii : Bool) (symbol : Char) : Bool :=
  isPrintable symbol && (!onlyAscii || symbol.toNat < 0x80)

/-- Text between double quotation marks, all of it in ASCII when asked for. -/
def quoteWith (onlyAscii : Bool) (text : String) : String :=
  String.ofList ('"' :: text.toList.flatMap (escape '"' (showsAs onlyAscii)) ++ ['"'])

/-- Text between double quotation marks. -/
def quote (text : String) : String := quoteWith false text

/-- One symbol between single quotation marks, all of it in ASCII when asked for; a code that no
character has shows as the replacement character. -/
def quoteSymbolWith (onlyAscii : Bool) (code : CodePoint) : String :=
  String.ofList ('\x27' :: escape '\x27' (showsAs onlyAscii) code.toChar ++ ['\x27'])

/-- One symbol between single quotation marks. -/
def quoteSymbol (code : CodePoint) : String := quoteSymbolWith false code

/-- Text can stand between grave accents when it holds none of them, no control other than a tab,
and no byte order mark. -/
def fitsGraveQuotes (text : String) : Bool :=
  text.toList.all fun symbol =>
    symbol.toNat != 0x60 && symbol.toNat != 0x7F && symbol.toNat != 0xFEFF &&
      (0x20 ≤ symbol.toNat || symbol == '\t')

end GrammarKit.Text
