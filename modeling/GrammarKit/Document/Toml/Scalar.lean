import GrammarKit.Document.Moment
import GrammarKit.Document.Toml.Quoted
import GrammarKit.Host
/-!
# Numbers, dates and times

Scalars without quotation marks. How many characters belong to one depends on its first characters
only; whether they make up a number, a date or a time is checked afterwards. Every reader takes a
scalar from the front and gives back what is left.
-/

namespace GrammarKit.Document.Toml

/-- Whether every mark of a kind stands between two digits; `after` says whether a digit stands in
front of the text. -/
def standsBetween (mark : Char) (isDigit : Char → Bool) : (after : Bool) → List Char → Bool
  | _, [] => true
  | after, symbol :: rest =>
    if symbol = mark then
      after && (rest.head?.map isDigit).getD false && standsBetween mark isDigit false rest
    else standsBetween mark isDigit (isDigit symbol) rest

/-- Drops the underscores of a number, each of which has to stand between two digits. -/
def ungroup? (isDigit : Char → Bool) (symbols : List Char) : Option (List Char) :=
  if standsBetween '_' isDigit false symbols then some (symbols.filter (· != '_')) else none

/-- Whether a number starts with a zero that is not its only digit before the point. -/
def hasLeadingZero (digits : List Char) : Bool :=
  match digits with
  | '0' :: next :: _ => next.isDigit
  | _ => false

/-- A whole number of 64 bits. -/
def wide? (number : Int) : Option Host :=
  if Number.fitsInt64 number then some (.wide (Int64.ofInt number)) else none

/-- A whole number in a base that its first characters tell. -/
def based? (base : Nat) (symbols : List Char) : Option Host := do
  let digits ← ungroup? Char.isAlphanum symbols
  wide? (← Number.natural? base digits)

/-- A whole number in decimal digits. -/
def decimal? (symbols : List Char) : Option Host := do
  let digits ← ungroup? Char.isDigit symbols
  if hasLeadingZero (Number.splitSign digits).2 then none
  wide? (← Number.integer? digits)

/-- A decimal fraction that a double can hold. -/
def fraction? (symbols : List Char) : Option Host := do
  let digits ← ungroup? Char.isDigit symbols
  if hasLeadingZero (Number.splitSign digits).2 then none
  if !(standsBetween '.' Char.isDigit false digits) then none
  let fraction ← Number.fraction? digits
  if fraction.toFloat.isInf then none else return .float fraction.toFloat

/-- An infinity or no number at all, after an optional sign. -/
def special? (sign : List Char) (word : List Char) : Option Host :=
  if sign = [] ∨ sign = ['+'] ∨ sign = ['-'] then
    if word = ['i', 'n', 'f'] then
      some (.float (if sign = ['-'] then -1.0 / 0.0 else 1.0 / 0.0))
    else if word = ['n', 'a', 'n'] then some (.float (0.0 / 0.0))
    else none
  else none

/-- Whether a character can be part of a decimal number. -/
def isNumberSymbol (symbol : Char) : Bool := symbol.isDigit || "+-_.eE".toList.contains symbol

/-- Reads a number in a base other than ten, after the characters that tell the base. -/
def takeBased (base : Nat) (symbols : List Char) : Option (Host × List Char) :=
  let digits := symbols.takeWhile fun symbol =>
    symbol == '_' || (Number.digitValue? base symbol).isSome
  (based? base digits).map fun host => (host, symbols.drop digits.length)

/-- Reads a number that does not tell another base. -/
def takeDecimal (symbols : List Char) : Option (Host × List Char) :=
  let digits := symbols.takeWhile isNumberSymbol
  let rest := symbols.drop digits.length
  match rest with
  | 'i' :: _ | 'n' :: _ => (special? digits (rest.take 3)).map fun host => (host, rest.drop 3)
  | _ =>
    let host? :=
      if digits.any fun symbol => ['.', 'e', 'E'].contains symbol then fraction? digits
      else decimal? digits
    host?.map fun host => (host, rest)

/-- Reads a number. After a zero only a point, an exponent or the letter of a base can follow. -/
def takeNumber (symbols : List Char) : Option (Host × List Char) :=
  match symbols with
  | '0' :: 'x' :: rest => takeBased 16 rest
  | '0' :: 'o' :: rest => takeBased 8 rest
  | '0' :: 'b' :: rest => takeBased 2 rest
  | '0' :: mark :: rest =>
    if ['.', 'e', 'E'].contains mark then takeDecimal symbols
    else some (.wide 0, mark :: rest)
  | _ => takeDecimal symbols

/-- Whether a date or a time starts here: two digits and a colon, or four digits and a hyphen. -/
def startsMoment (symbols : List Char) : Bool :=
  let digits := symbols.takeWhile Char.isDigit
  let next := (symbols.drop digits.length).head?
  3 ≤ symbols.length &&
    ((digits.length == 2 && next == some ':') || (digits.length == 4 && next == some '-'))

/-- The characters that belong to a date or a time: digits, marks, and one space in front of a
digit. -/
def momentSymbols : (spaced : Bool) → List Char → List Char
  | _, [] => []
  | spaced, symbol :: rest =>
    if symbol.isDigit ∨ "-+:.TtZz".toList.contains symbol then symbol :: momentSymbols spaced rest
    else if symbol = ' ' ∧ !spaced ∧ (rest.head?.map Char.isDigit).getD false then
      symbol :: momentSymbols true rest
    else []

/-- Reads a day. -/
def takeDay (symbols : List Char) : Option (Day × List Char) := do
  let (year, rest) ← takeDigits 4 symbols
  let rest ← takeMark '-' rest
  let (month, rest) ← takeDigits 2 rest
  let rest ← takeMark '-' rest
  let (day, rest) ← takeDigits 2 rest
  let found : Day := ⟨year, month, day⟩
  if found.isValid then return (found, rest) else none

/-- Reads a time of day; a minute may have a leap second. -/
def takeClock (symbols : List Char) : Option (Clock × List Char) := do
  let (hour, rest) ← takeDigits 2 symbols
  let rest ← takeMark ':' rest
  let (minute, rest) ← takeDigits 2 rest
  let rest ← takeMark ':' rest
  let (second, rest) ← takeDigits 2 rest
  if 23 < hour ∨ 59 < minute ∨ 60 < second then none
  let (fraction, rest) := takeFraction ['.'] rest
  return (⟨hour, minute, second, fraction.take 9⟩, rest)

/-- Reads where on earth a time is told: a letter for the prime meridian, or the distance from
it. -/
def takeZone (symbols : List Char) : Option (Zone × List Char) :=
  match symbols with
  | 'Z' :: rest | 'z' :: rest => some (.universal, rest)
  | _ => (takeOffset 23 59 symbols).map fun (minutes, rest) =>
    (if minutes = 0 then .universal else .away minutes, rest)

/-- A date or a time. -/
def moment? (symbols : List Char) : Option Host :=
  match takeDay symbols with
  | none => do
    let (clock, rest) ← takeClock symbols
    if rest.isEmpty then return .moment (.time clock) else none
  | some (day, []) => some (.moment (.date day))
  | some (day, mark :: rest) => do
    if mark ≠ 'T' ∧ mark ≠ 't' ∧ mark ≠ ' ' then none
    let (clock, rest) ← takeClock rest
    if rest.isEmpty then
      return .moment (.dateTime day clock)
    let (zone, rest) ← takeZone rest
    if rest.isEmpty then return .moment (.instant day clock zone) else none

/-- Reads a number, a date or a time. -/
def takeScalar (symbols : List Char) : Option (Host × List Char) :=
  if startsMoment symbols then
    let taken := momentSymbols false symbols
    (moment? taken).map fun host => (host, symbols.drop taken.length)
  else takeNumber symbols

end GrammarKit.Document.Toml
