import GrammarKit.Number.FloatText
import GrammarKit.Number.Integer
import GrammarKit.Text.Quoted
/-!
# Directives

A directive says how one argument of a message is written: a verb and the flags, the width and the
precision in front of it. This module writes the things that have no parts: truth values, numbers
and texts. A verb that does not suit one of them has no form for it.
-/

namespace GrammarKit.Template

/-- How one argument is written. -/
structure Directive where
  /-- The character that chooses the form. -/
  verb : Char
  /-- Fill up on the right. -/
  minus : Bool := false
  /-- Always show a sign. -/
  plus : Bool := false
  /-- Use the alternate form. -/
  sharp : Bool := false
  /-- Leave room for a sign. -/
  space : Bool := false
  /-- Fill up with zeros. -/
  zero : Bool := false
  /-- The least number of characters. -/
  width : Option Nat := none
  /-- The number of digits or the greatest number of characters. -/
  precision : Option Nat := none
  /-- The usual form, but written as a literal. -/
  literal : Bool := false
  /-- The usual form, but with the names of parts. -/
  labelled : Bool := false

namespace Directive

/-- The directive as it acts: with the verb of the usual form and the verb of causes, two flags take
on meanings of their own. -/
def settled (directive : Directive) : Directive :=
  if directive.verb = 'v' ∨ directive.verb = 'w' then
    { directive with
      literal := directive.sharp, sharp := false, labelled := directive.plus, plus := false }
  else directive

/-- What a text is filled up with. -/
def filler (directive : Directive) (count : Nat) : String :=
  String.ofList (List.replicate count (if directive.zero then '0' else ' '))

/-- Fills a text up to the width. -/
def pad (directive : Directive) (text : String) : String :=
  let missing := directive.width.getD 0 - text.length
  if directive.minus then text ++ directive.filler missing else directive.filler missing ++ text

/-- The text cut to as many characters as the precision allows. -/
def cut (directive : Directive) (text : String) : String :=
  match directive.precision with
  | some limit => String.ofList (text.toList.take limit)
  | none => text

/-- A truth value. -/
def truth? (directive : Directive) (truth : Bool) : Option String :=
  if directive.verb = 'v' ∨ directive.verb = 't' then
    some (directive.pad (if truth then "true" else "false"))
  else none

/-- The digits of a natural number in a base, in upper case when asked for. -/
def digitsIn (base : Nat) (upper : Bool) (number : Nat) : List Char :=
  let digits := Nat.toDigits base number
  if upper then digits.map Char.toUpper else digits

/-- An integer in a base. Zeros come in front to make up the precision, or the width when the filler
is zero; the alternate form shows the base. -/
def integerIn (directive : Directive) (base : Nat) (upper : Bool) (number : Int) : String :=
  let blank := { directive with zero := false }
  if directive.precision = some 0 ∧ number = 0 then
    blank.filler (directive.width.getD 0)
  else
    let signed := number < 0 ∨ directive.plus ∨ directive.space
    let least :=
      match directive.precision, directive.zero, directive.width with
      | some digits, _, _ => digits
      | none, true, some width => if signed then width - 1 else width
      | none, _, _ => 0
    let digits := digitsIn base upper number.natAbs
    let digits := List.replicate (least - digits.length) '0' ++ digits
    let digits :=
      if directive.sharp then
        match base with
        | 2 => '0' :: 'b' :: digits
        | 8 => if digits.head? = some '0' then digits else '0' :: digits
        | 16 => '0' :: (if upper then 'X' else 'x') :: digits
        | _ => digits
      else digits
    let digits := if directive.verb = 'O' then '0' :: 'o' :: digits else digits
    let digits :=
      if number < 0 then '-' :: digits
      else if directive.plus then '+' :: digits
      else if directive.space then ' ' :: digits
      else digits
    blank.pad (String.ofList digits)

/-- The code point an integer stands for, when it can stand for one. -/
def codeOf (number : Int) : CodePoint :=
  if 0 ≤ number ∧ number ≤ 0x10FFFF then Int32.ofInt number else -1

/-- An integer as the name of a code point: at least four digits, and in the alternate form the
character too. -/
def codeName (directive : Directive) (number : Nat) : String :=
  let digits := digitsIn 16 true number
  let least := max 4 (directive.precision.getD 4)
  let name := "U+" ++ String.ofList (List.replicate (least - digits.length) '0' ++ digits)
  let shows := directive.sharp && number ≤ 0x10FFFF && Text.isPrintable (codeOf number).toChar
  let named := if shows then name ++ " '" ++ (codeOf number).text ++ "'" else name
  { directive with zero := false }.pad named

/-- An integer; `bits` is its bit pattern read without a sign. As a literal, an integer of a kind
without a sign shows its bits. -/
def integer? (directive : Directive) (number : Int) (bits : Nat) (signed : Bool) :
    Option String :=
  match directive.verb with
  | 'v' =>
    if directive.literal ∧ !signed then
      some ({ directive with sharp := true }.integerIn 16 false number)
    else some (directive.integerIn 10 false number)
  | 'd' => some (directive.integerIn 10 false number)
  | 'b' => some (directive.integerIn 2 false number)
  | 'o' | 'O' => some (directive.integerIn 8 false number)
  | 'x' => some (directive.integerIn 16 false number)
  | 'X' => some (directive.integerIn 16 true number)
  | 'c' => some (directive.pad (codeOf bits).text)
  | 'q' => some (directive.pad (Text.quoteSymbolWith directive.plus (codeOf bits)))
  | 'U' => some (directive.codeName bits)
  | _ => none

/-- A power of two or ten with a sign and at least two digits. -/
def powerText (power : Int) : String :=
  let digits := Nat.toDigits 10 power.natAbs
  (if power < 0 then "-" else "+") ++
    String.ofList (if digits.length < 2 then '0' :: digits else digits)

/-- A magnitude by its leading bit, the 60 bits after it and the power of two that scales them. -/
def leadingBit (magnitude : Number.Magnitude) : Nat × Nat × Int :=
  if magnitude.significand = 0 then (0, 0, 0)
  else
    let lead := magnitude.significand.log2
    (1, (magnitude.significand - Nat.pow 2 lead) * Nat.pow 2 (60 - lead), magnitude.exponent + lead)

/-- A magnitude in hexadecimal digits with a power of two: as many digits after the point as the
precision asks for, or as it takes. A half goes to the even neighbour. -/
def binaryText (upper : Bool) (precision : Option Nat) (magnitude : Number.Magnitude) : String :=
  let (lead, fraction, power) := leadingBit magnitude
  let exact := Text.hexDigits 15 fraction
  let (lead, digits, power) :=
    match precision with
    | none => (lead, (exact.reverse.dropWhile (· == '0')).reverse, power)
    | some count =>
      if 15 ≤ count then (lead, exact ++ List.replicate (count - 15) '0', power)
      else
        let unit := Nat.pow 16 (15 - count)
        let whole := lead * Nat.pow 16 count + fraction / unit
        let twice := 2 * (fraction % unit)
        let rounded :=
          if twice < unit ∨ (twice = unit ∧ whole % 2 = 0) then whole else whole + 1
        if rounded = 2 * Nat.pow 16 count then (1, List.replicate count '0', power + 1)
        else (lead, (Text.hexDigits count (rounded % Nat.pow 16 count)).take count, power)
  let text :=
    "0x" ++ Number.naturalText lead ++
      (if digits.isEmpty then "" else "." ++ String.ofList digits) ++ "p" ++ powerText power
  if upper then text.toUpper else text

/-- A magnitude as a whole number with a power of two. -/
def significandText (magnitude : Number.Magnitude) : String :=
  Number.naturalText magnitude.significand ++ "p" ++
    (if magnitude.exponent < 0 then "" else "+") ++ Number.integerText magnitude.exponent

/-- The digits of a number in the alternate form: the point always shows, and the forms that leave
zeros out at the end show as many digits as the precision asks for, six by default. -/
def alternate (directive : Directive) (body : String) : String :=
  let least := if directive.verb ∈ ['v', 'g', 'G', 'x'] then directive.precision.getD 6 else 0
  let isPower (symbol : Char) : Bool :=
    symbol ∈ (if directive.verb ∈ ['x', 'X'] then ['p', 'P'] else ['e', 'E'])
  let number := body.toList.takeWhile (!isPower ·)
  let power := body.toList.dropWhile (!isPower ·)
  let figures := (number.filter (· != '.')).dropWhile (· == '0')
  let shown := figures.length + (if number = ['0'] then 1 else 0)
  String.ofList
    (number ++ (if number.contains '.' then [] else ['.']) ++ List.replicate (least - shown) '0' ++
      power)

/-- A floating-point number apart from its sign, when the verb has a form for it. -/
def floatBody? (directive : Directive) (number : Float) : Option Number.Signed :=
  let general (mark : Char) : Number.Signed :=
    match directive.precision with
    | some digits => (Number.Layout.general digits).signed mark number
    | none => Number.Layout.shortest.signed mark number
  let exactly (text : Number.Magnitude → String) : Number.Signed :=
    match Number.Reading.ofFloat number with
    | .finite negative magnitude => ⟨negative, text magnitude, true⟩
    | _ => general 'e'
  let places := directive.precision.getD 6
  match directive.verb with
  | 'v' | 'g' => some (general 'e')
  | 'G' => some (general 'E')
  | 'e' => some ((Number.Layout.scientific places).signed 'e' number)
  | 'E' => some ((Number.Layout.scientific places).signed 'E' number)
  | 'f' | 'F' => some ((Number.Layout.positional places).signed 'e' number)
  | 'x' => some (exactly (binaryText false directive.precision))
  | 'X' => some (exactly (binaryText true directive.precision))
  | 'b' => some (exactly significandText)
  | _ => none

/-- A floating-point number. Infinities always carry a sign; when zeros fill it up, the sign stands
before them. -/
def float? (directive : Directive) (number : Float) : Option String :=
  (directive.floatBody? number).map fun signed =>
    let sign :=
      if signed.negative then "-" else if directive.plus then "+" else if directive.space then " "
      else ""
    if signed.numeric then
      let body :=
        if directive.sharp ∧ directive.verb ≠ 'b' then directive.alternate signed.body
        else signed.body
      let missing := directive.width.getD 0 - (body.length + 1)
      if directive.zero ∧ sign ≠ "" ∧ 0 < missing then sign ++ directive.filler missing ++ body
      else directive.pad (sign ++ body)
    else
      let sign := if signed.body = "Inf" ∧ sign = "" then "+" else sign
      { directive with zero := false }.pad (sign ++ signed.body)

/-- The octets of a text in hexadecimal digits. The precision limits their number, a space parts
them and the alternate form marks the base. -/
def octetsText (directive : Directive) (upper : Bool) (text : String) : String :=
  let octets := text.toUTF8.toList
  let octets :=
    match directive.precision with
    | some limit => octets.take limit
    | none => octets
  let mark := if directive.sharp then (if upper then "0X" else "0x") else ""
  let pairs := octets.map fun octet =>
    let digits := Text.hexDigits 2 octet.toNat
    String.ofList (if upper then digits.map Char.toUpper else digits)
  let body :=
    if octets.isEmpty then ""
    else if directive.space then " ".intercalate (pairs.map (mark ++ ·))
    else mark ++ "".intercalate pairs
  directive.pad body

/-- A text. -/
def text? (directive : Directive) (text : String) : Option String :=
  let quoted :=
    let text := directive.cut text
    if directive.sharp ∧ Text.fitsGraveQuotes text then directive.pad ("\x60" ++ text ++ "\x60")
    else directive.pad (Text.quoteWith directive.plus text)
  match directive.verb with
  | 'v' => if directive.literal then some quoted else some (directive.pad (directive.cut text))
  | 's' => some (directive.pad (directive.cut text))
  | 'x' => some (directive.octetsText false text)
  | 'X' => some (directive.octetsText true text)
  | 'q' => some quoted
  | _ => none

/-- Whether the verb writes things by their own text when they have one. -/
def usesOwnText (directive : Directive) : Bool :=
  !directive.literal && directive.verb ∈ ['v', 's', 'x', 'X', 'q']

/-- A place in memory. Where a thing is held is not part of what it is, so all places show alike. -/
def place : Nat := 0xC000010000

/-- A place in memory, when the verb has a form for it. -/
def place? (directive : Directive) (kind : String) : Option String :=
  match directive.verb with
  | 'v' =>
    if directive.literal then
      some ("(" ++ kind ++ ")(" ++ { directive with sharp := true }.integerIn 16 false place ++ ")")
    else some ({ directive with sharp := !directive.sharp }.integerIn 16 false place)
  | 'p' => some ({ directive with sharp := !directive.sharp }.integerIn 16 false place)
  | 'b' | 'o' | 'd' | 'x' | 'X' => directive.integer? place place false
  | _ => none

/-- Parts in sequence: with spaces in brackets, or as a literal of a kind. -/
def enclose (directive : Directive) (kind opening closing : String) (parts : List String) :
    String :=
  if directive.literal then kind ++ "\x7b" ++ ", ".intercalate parts ++ "\x7d"
  else opening ++ " ".intercalate parts ++ closing

/-- The name of a part in front of it, when names are asked for. -/
def labelPart (directive : Directive) (name part : String) : String :=
  if directive.labelled ∨ directive.literal then name ++ ":" ++ part else part

end Directive

end GrammarKit.Template
