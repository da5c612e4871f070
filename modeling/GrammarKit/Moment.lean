import GrammarKit.Number.Integer
/-!
# Dates and times

A civil date and time of day, with or without a place on earth, and their texts.
-/

namespace GrammarKit

/-- A day of the calendar. -/
structure Day where
  /-- The year, in four digits. -/
  year : Nat
  /-- The month, counted from one. -/
  month : Nat
  /-- The day of the month, counted from one. -/
  day : Nat
deriving DecidableEq, Repr

/-- A time of day. -/
structure Clock where
  /-- The hour, counted from midnight. -/
  hour : Nat
  /-- The minute of the hour. -/
  minute : Nat
  /-- The second of the minute. -/
  second : Nat
  /-- The digits after the second. -/
  fraction : List Char := []
deriving DecidableEq, Repr

/-- A number with zeros in front up to a given width. -/
def zeroPadded (width number : Nat) : String :=
  let digits := Nat.toDigits 10 number
  String.ofList (List.replicate (width - digits.length) '0' ++ digits)

namespace Day

/-- Whether a year has a day more than others. -/
def isLeap (year : Nat) : Bool := year % 4 == 0 && (year % 100 != 0 || year % 400 == 0)

/-- How many days a month has. -/
def daysIn (year month : Nat) : Nat :=
  match month with
  | 2 => if isLeap year then 29 else 28
  | 4 | 6 | 9 | 11 => 30
  | _ => 31

/-- Whether the calendar has the day. -/
def isValid (day : Day) : Bool :=
  1 ≤ day.month && day.month ≤ 12 && 1 ≤ day.day && day.day ≤ daysIn day.year day.month

/-- The day after a day. -/
def next (day : Day) : Day :=
  if day.day < daysIn day.year day.month then { day with day := day.day + 1 }
  else if day.month < 12 then ⟨day.year, day.month + 1, 1⟩
  else ⟨day.year + 1, 1, 1⟩

/-- The number of a day since the start of the calendar. -/
def number (day : Day) : Int :=
  let years : Int := (day.year : Int) - 1
  let months := (List.range (day.month - 1)).foldl
    (fun days month => days + daysIn day.year (month + 1)) 0
  years * 365 + years / 4 - years / 100 + years / 400 + months + day.day

/-- A day as text. -/
def text (day : Day) : String :=
  zeroPadded 4 day.year ++ "-" ++ zeroPadded 2 day.month ++ "-" ++ zeroPadded 2 day.day

end Day

namespace Clock

/-- A time of day as text, with the given digits after the second. -/
def textWith (clock : Clock) (fraction : List Char) : String :=
  zeroPadded 2 clock.hour ++ ":" ++ zeroPadded 2 clock.minute ++ ":" ++
    zeroPadded 2 clock.second ++
    (if fraction.isEmpty then "" else "." ++ String.ofList fraction)

/-- The digits after the second, nine at most and without zeros at the end. -/
def shortFraction (clock : Clock) : List Char :=
  ((clock.fraction.take 9).reverse.dropWhile (· == '0')).reverse

/-- The part of a second in billionths. -/
def nanoseconds (clock : Clock) : Nat :=
  let digits := clock.fraction.take 9
  digits.foldl (fun value digit => value * 10 + (digit.toNat - 48)) 0 *
    Nat.pow 10 (9 - digits.length)

end Clock

/-- A leap second is the first second of the next minute. -/
def withoutLeap (day : Day) (clock : Clock) : Day × Clock :=
  if clock.second < 60 then (day, clock)
  else if clock.minute < 59 then (day, ⟨clock.hour, clock.minute + 1, 0, clock.fraction⟩)
  else if clock.hour < 23 then (day, ⟨clock.hour + 1, 0, 0, clock.fraction⟩)
  else (day.next, ⟨0, 0, 0, clock.fraction⟩)

/-- Where on earth a time is told. -/
inductive Zone where
  /-- At the prime meridian. -/
  | universal
  /-- Wherever the program runs, which is taken to be at the prime meridian. -/
  | home
  /-- At a distance in minutes from the prime meridian. -/
  | away (minutes : Int)
deriving DecidableEq, Repr

namespace Zone

/-- The distance from the prime meridian in minutes. -/
def minutes : Zone → Int
  | .away distance => distance
  | _ => 0

/-- The distance from the prime meridian, as text. -/
def offsetText (zone : Zone) : String :=
  (if zone.minutes < 0 then "-" else "+") ++ zeroPadded 2 (zone.minutes.natAbs / 60) ++
    zeroPadded 2 (zone.minutes.natAbs % 60)

/-- The name of a zone: only the prime meridian has one of its own. -/
def name (zone : Zone) : String := if zone.minutes = 0 then "UTC" else zone.offsetText

/-- The place of a zone among all zones. -/
def rank : Zone → Nat × Int
  | .universal => (0, 0)
  | .home => (1, 0)
  | .away distance => (2, distance)

end Zone

/-- A date or a time. -/
inductive Moment where
  /-- A moment in time. -/
  | instant (day : Day) (clock : Clock) (zone : Zone)
  /-- A day without a time. -/
  | date (day : Day)
  /-- A time without a day. -/
  | time (clock : Clock)
  /-- A day and a time without a place on earth. -/
  | dateTime (day : Day) (clock : Clock)
deriving DecidableEq, Repr

namespace Moment

/-- A date or a time as text. A moment in time shows the distance from the prime meridian and the
name of its zone. -/
def text : Moment → String
  | .instant day clock zone =>
    let (day, clock) := withoutLeap day clock
    day.text ++ " " ++ clock.textWith clock.shortFraction ++ " " ++ zone.offsetText ++ " " ++
      zone.name
  | .date day => day.text
  | .time clock => clock.textWith clock.fraction
  | .dateTime day clock => day.text ++ "T" ++ clock.textWith clock.fraction

/-- The seconds between the start of the calendar and a time at the prime meridian. -/
def seconds (day : Day) (clock : Clock) : Int :=
  ((day.number * 24 + clock.hour) * 60 + clock.minute) * 60 + clock.second

/-- The order of moments in time as keys: by the part of a second, then by time, then by zone. -/
def keyOrder : Moment → Moment → Ordering
  | .instant day clock zone, .instant day' clock' zone' =>
    (compare clock.nanoseconds clock'.nanoseconds).then
      ((compare (seconds day clock - zone.minutes * 60)
        (seconds day' clock' - zone'.minutes * 60)).then
          ((compare zone.rank.1 zone'.rank.1).then (compare zone.rank.2 zone'.rank.2)))
  | _, _ => .eq

/-- The name of the kind of a date or a time, as messages show it. -/
def kindName : Moment → String
  | .instant .. => "time.Time"
  | .date _ => "toml.LocalDate"
  | .time _ => "toml.LocalTime"
  | .dateTime .. => "toml.LocalDateTime"

end Moment

end GrammarKit
