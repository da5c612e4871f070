import GrammarKit.Document.Moment
import GrammarKit.Host
import GrammarKit.Number.Numeral
import GrammarKit.Text.Base64
import GrammarKit.Text.Utf8
/-!
# What a plain scalar stands for

A scalar without quotation marks is read as nothing, a truth value, a number or a moment in time if
it looks like one, and as text otherwise. A tag can ask for one of these readings.
-/

namespace GrammarKit.Document.Yaml

/-- The kinds of things that a scalar can stand for. -/
inductive ScalarKind where
  /-- Nothing. -/
  | null
  /-- A truth value. -/
  | bool
  /-- A whole number. -/
  | int
  /-- A floating-point number. -/
  | float
  /-- A text. -/
  | str
  /-- A moment in time. -/
  | timestamp
  /-- The key that takes over the entries of other mappings. -/
  | merge
  /-- Octets, read as a text. -/
  | binary
  /-- A text with a tag that has no meaning here. -/
  | custom
deriving DecidableEq, Repr

/-- The words that stand for something other than themselves. -/
def word? : String → Option (ScalarKind × Host)
  | "true" | "True" | "TRUE" => some (.bool, .bool true)
  | "false" | "False" | "FALSE" => some (.bool, .bool false)
  | "" | "~" | "null" | "Null" | "NULL" => some (.null, .absent)
  | ".nan" | ".NaN" | ".NAN" => some (.float, .float (0.0 / 0.0))
  | ".inf" | ".Inf" | ".INF" | "+.inf" | "+.Inf" | "+.INF" => some (.float, .float (1.0 / 0.0))
  | "-.inf" | "-.Inf" | "-.INF" => some (.float, .float (-1.0 / 0.0))
  | _ => none

/-- A day with a month and a day of one or two digits. -/
def takeDay (symbols : List Char) : Option (Day × List Char) := do
  let (year, rest) ← takeDigits 4 symbols
  let rest ← takeMark '-' rest
  let (month, rest) ← takeShort rest
  let rest ← takeMark '-' rest
  let (day, rest) ← takeShort rest
  let found : Day := ⟨year, month, day⟩
  if found.isValid then return (found, rest) else none

/-- A time with parts of one or two digits. -/
def takeClock (symbols : List Char) : Option (Clock × List Char) := do
  let (hour, rest) ← takeShort symbols
  let rest ← takeMark ':' rest
  let (minute, rest) ← takeShort rest
  let rest ← takeMark ':' rest
  let (second, rest) ← takeShort rest
  if 23 < hour ∨ 59 < minute ∨ 59 < second then none
  let (fraction, rest) := takeFraction ['.', ','] rest
  return (⟨hour, minute, second, fraction⟩, rest)

/-- Reads where on earth a time is told: a letter for the prime meridian, or the distance from
it. -/
def takeZone : List Char → Option (Zone × List Char)
  | 'Z' :: rest => some (.universal, rest)
  | symbols => (takeOffset 24 60 symbols).map fun (minutes, rest) =>
    (if minutes = 0 then .home else .away minutes, rest)

/-- A moment in time: a day alone, a day and a time after a space, or a day and a time after the
letter T with a distance from the prime meridian. -/
def timestamp? (text : String) : Option Host := do
  let (day, rest) ← takeDay text.toList
  match rest with
  | [] => return .moment (.instant day ⟨0, 0, 0, []⟩ .universal)
  | ' ' :: rest =>
    let (clock, rest) ← takeClock rest
    if rest.isEmpty then return .moment (.instant day clock .universal) else none
  | mark :: rest =>
    if mark ≠ 'T' ∧ mark ≠ 't' then none
    let (clock, rest) ← takeClock rest
    let (zone, rest) ← takeZone rest
    if rest.isEmpty then return .moment (.instant day clock zone) else none

/-- A whole number as a host value: plain if it fits, without a sign if only that fits. -/
def integer? (negative : Bool) (magnitude : Nat) (signed : Bool) : Option Host :=
  let number : Int := if negative then -magnitude else magnitude
  if Number.fitsInt64 number then some (.int (Int64.ofInt number))
  else if !signed ∧ magnitude < UInt64.size then some (.unsigned (UInt64.ofNat magnitude))
  else none

/-- A whole number with an optional sign, given a reader for its digits. -/
def signedNumber? (digits? : List Char → Option Nat) (symbols : List Char) : Option Host :=
  let (negative, digits) := Number.splitSign symbols
  (digits? digits).bind (integer? negative · (symbols.length ≠ digits.length))

/-- A whole number after a mark for base two or eight; the sign stands before or after the mark. -/
def markedNumber? : List Char → Option Host
  | '0' :: 'b' :: rest => signedNumber? (Number.natural? 2) rest
  | '-' :: '0' :: 'b' :: rest => signedNumber? (Number.natural? 2) ('-' :: rest)
  | '0' :: 'o' :: rest => signedNumber? (Number.natural? 8) rest
  | '-' :: '0' :: 'o' :: rest => signedNumber? (Number.natural? 8) ('-' :: rest)
  | _ => none

/-- A decimal fraction that a double can hold. -/
def fraction? (symbols : List Char) : Option Host := do
  let number := (← Number.fraction? symbols).toFloat
  if number.isInf then none else return .float number

/-- A whole number in any base, or a decimal fraction. -/
def number? (text : String) : Option (ScalarKind × Host) :=
  let plain := text.toList.filter (· != '_')
  (((signedNumber? Number.prefixedNatural? plain).map (ScalarKind.int, ·)).or
    ((fraction? plain).map (ScalarKind.float, ·))).or
      ((markedNumber? plain).map (ScalarKind.int, ·))

/-- The reading of a scalar without a tag. Only a few first characters make a scalar anything other
than text; moments are tried when `moments` says so. -/
def resolve (moments : Bool) (text : String) : ScalarKind × Host :=
  let asText := (ScalarKind.str, Host.text text)
  match text.toList with
  | [] => (.null, .absent)
  | first :: _ =>
    if first ∉ "+-0123456789yYnNtTfFoO~.".toList then asText
    else
      match word? text with
      | some found => found
      | none =>
        if first = '.' then ((fraction? text.toList).map (ScalarKind.float, ·)).getD asText
        else if first.isDigit ∨ first = '+' ∨ first = '-' then
          match if moments then timestamp? text else none with
          | some host => (.timestamp, host)
          | none => (number? text).getD asText
        else asText

/-- The kind of reading that a tag asks for. -/
def tagKind? : String → Option ScalarKind
  | "!!bool" => some .bool
  | "!!int" => some .int
  | "!!float" => some .float
  | "!!null" => some .null
  | "!!timestamp" => some .timestamp
  | _ => none

/-- The reading of a scalar that has to be of a kind. A whole number is a floating-point number
too. -/
def resolveAs (wanted : ScalarKind) (text : String) : Option (ScalarKind × Host) :=
  let (kind, host) := resolve (wanted == .timestamp) text
  if kind = wanted then some (kind, host)
  else
    match wanted, host with
    | .float, .int number => some (.float, .float (Float.ofInt number.toInt))
    | _, _ => none

/-- What a scalar stands for: only plain scalars and those with a tag are more than text. A scalar
that does not read as its tag says is an error. -/
def scalarReading? (tag : String) (plain : Bool) (text : String) : Option (ScalarKind × Host) :=
  match tag with
  | "" =>
    if !plain then some (.str, .text text)
    else if text = "<<" then some (.merge, .text text)
    else some (resolve true text)
  | "!!str" => some (.str, .text text)
  | "!!merge" => some (.merge, .text text)
  | "!!binary" => (Text.Base64.decode? text).map fun octets =>
    (.binary, .text (String.ofList (Text.Utf8.decode octets)))
  | _ =>
    match tagKind? tag with
    | some wanted => resolveAs wanted text
    | none => some (.custom, .text text)

end GrammarKit.Document.Yaml
