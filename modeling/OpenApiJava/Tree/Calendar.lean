/-!
# Dates and date-times

Calendar dates of the years 1 to 9999, and date-times with microseconds and an optional offset from
universal time in minutes. Two date-times with offsets are the same moment if they name the same
instant.
-/

namespace OpenApiJava

structure Date where
  year : Nat
  month : Nat
  day : Nat
deriving DecidableEq, Repr, Inhabited

/-- A date with a time of day, and an offset in minutes if one is given. -/
structure Moment where
  date : Date
  hour : Nat
  minute : Nat
  second : Nat
  microsecond : Nat
  offset : Option Int
deriving DecidableEq, Repr, Inhabited

/-- A number with zeros in front up to a width. -/
def padded (width number : Nat) : String :=
  let digits := Nat.toDigits 10 number
  String.ofList (List.replicate (width - digits.length) '0' ++ digits)

namespace Date

def isLeap (year : Nat) : Bool :=
  year % 4 == 0 && (year % 100 != 0 || year % 400 == 0)

/-- The number of days of a month. -/
def daysIn (year month : Nat) : Nat :=
  if month == 2 then if isLeap year then 29 else 28
  else if month == 4 || month == 6 || month == 9 || month == 11 then 30
  else 31

/-- The date stands in the calendar. -/
def isValid (date : Date) : Bool :=
  1 ≤ date.year && date.year ≤ 9999 && 1 ≤ date.month && date.month ≤ 12 &&
    1 ≤ date.day && date.day ≤ daysIn date.year date.month

/-- The number of days from the first of January of the year 1. -/
def ordinal (date : Date) : Nat :=
  let years := date.year - 1
  let months :=
    (List.range (date.month - 1)).foldl
      (fun days month => days + daysIn date.year (month + 1)) 0
  years * 365 + years / 4 - years / 100 + years / 400 + months + (date.day - 1)

/-- Year, month and day with dashes between them. -/
def text (date : Date) : String :=
  padded 4 date.year ++ "-" ++ padded 2 date.month ++ "-" ++ padded 2 date.day

end Date

namespace Moment

/-- Every part is in its range; an offset is shorter than a day. -/
def isValid (moment : Moment) : Bool :=
  moment.date.isValid && moment.hour < 24 && moment.minute < 60 && moment.second < 60 &&
    moment.microsecond < 1000000 &&
    (match moment.offset with
      | some minutes => -1440 < minutes && minutes < 1440
      | none => true)

/-- Microseconds since the first day, by the clock that the moment names. -/
def clock (moment : Moment) : Int :=
  let minutes := (moment.date.ordinal * 24 + moment.hour) * 60 + moment.minute
  ((minutes * 60 + moment.second) * 1000000 + moment.microsecond : Nat)

/-- Both name the same instant, or both the same time without an offset. -/
def sameInstant (left right : Moment) : Bool :=
  match left.offset, right.offset with
  | none, none => left.clock == right.clock
  | some before, some after =>
      left.clock - before * 60000000 == right.clock - after * 60000000
  | _, _ => false

/-- An offset with its sign, hours and minutes. -/
def offsetText (minutes : Int) : String :=
  let size := minutes.natAbs
  (if minutes < 0 then "-" else "+") ++ padded 2 (size / 60) ++ ":" ++ padded 2 (size % 60)

/-- Date and time with a space between them; microseconds only if there are some. -/
def text (moment : Moment) : String :=
  moment.date.text ++ " " ++ padded 2 moment.hour ++ ":" ++ padded 2 moment.minute ++ ":" ++
    padded 2 moment.second ++
    (if moment.microsecond == 0 then "" else "." ++ padded 6 moment.microsecond) ++
    (match moment.offset with
      | some minutes => offsetText minutes
      | none => "")

end Moment

end OpenApiJava
