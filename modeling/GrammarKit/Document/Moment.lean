import GrammarKit.Moment
/-!
# Reading dates and times

Parts of dates and times. A reader takes as much of a text as belongs to a part and gives back the
rest.
-/

namespace GrammarKit.Document

/-- Reads exactly as many digits as asked for. -/
def takeDigits (count : Nat) (symbols : List Char) : Option (Nat × List Char) :=
  let digits := symbols.take count
  if digits.length = count ∧ digits.all Char.isDigit then
    some (digits.foldl (fun value digit => value * 10 + (digit.toNat - 48)) 0, symbols.drop count)
  else none

/-- Reads one or two digits. -/
def takeShort (symbols : List Char) : Option (Nat × List Char) :=
  (takeDigits 2 symbols).or (takeDigits 1 symbols)

/-- Reads a given character. -/
def takeMark (mark : Char) : List Char → Option (List Char)
  | symbol :: rest => if symbol = mark then some rest else none
  | [] => none

/-- Reads the digits after a second, if a point and a digit stand there. -/
def takeFraction (marks : List Char) (symbols : List Char) : List Char × List Char :=
  match symbols with
  | mark :: digit :: rest =>
    if mark ∈ marks ∧ digit.isDigit then
      ((digit :: rest).takeWhile Char.isDigit, (digit :: rest).dropWhile Char.isDigit)
    else ([], symbols)
  | _ => ([], symbols)

/-- Reads a distance from the prime meridian in minutes: a sign, hours and minutes within limits. -/
def takeOffset (hourLimit minuteLimit : Nat) (symbols : List Char) : Option (Int × List Char) :=
  match symbols with
  | [] => none
  | mark :: rest =>
    if mark = '+' ∨ mark = '-' then do
      let (hours, rest) ← takeDigits 2 rest
      let rest ← takeMark ':' rest
      let (minutes, rest) ← takeDigits 2 rest
      if hourLimit < hours ∨ minuteLimit < minutes then none
      let size : Int := hours * 60 + minutes
      return (if mark = '-' then -size else size, rest)
    else none

end GrammarKit.Document
