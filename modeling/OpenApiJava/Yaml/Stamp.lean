import OpenApiJava.Tree.Calendar

/-!
# Dates as scalars

A date is written with dashes, a date-time with the time of day after the date, an optional fraction
and an optional offset.
-/

namespace OpenApiJava.Yaml

/-- A date or a date-time as it is written. -/
structure Stamp where
  year : Nat
  month : Nat
  day : Nat
  /-- Month and day have two digits each. -/
  isPadded : Bool
  time : Option (Nat × Nat × Nat)
  /-- The digits of a fraction of a second. -/
  fraction : List Char
  /-- An offset in minutes. -/
  offset : Option Int

/-- The value of ASCII digits. -/
def valueOf (digits : List Char) : Nat :=
  digits.foldl (fun value digit => value * 10 + (digit.toNat - '0'.toNat)) 0

/-- The value of at least and at most so many digits, their number, and the text after them. -/
def digitRun (least most : Nat) (text : List Char) : Option (Nat × Nat × List Char) :=
  let digits := (text.take most).takeWhile Char.isDigit
  if digits.length < least then none
  else some (valueOf digits, digits.length, text.drop digits.length)

/-- The text after a character. -/
def afterChar (character : Char) : List Char → Option (List Char)
  | first :: rest => if first == character then some rest else none
  | [] => none

/-- Spaces and tabs. -/
def isInlineBlank (character : Char) : Bool :=
  character == ' ' || character == '\t'

/-- An offset that takes up a text, in minutes. No text is no offset. -/
def offset? (text : List Char) : Option (Option Int) :=
  match text, text.dropWhile isInlineBlank with
  | [], _ => some none
  | _, ['Z'] => some (some 0)
  | _, sign :: rest =>
      if sign == '+' || sign == '-' then do
        let (hours, _, rest) ← digitRun 1 2 rest
        let minutes ←
          match rest with
          | [] => some 0
          | ':' :: rest =>
              match digitRun 2 2 rest with
              | some (minutes, _, []) => some minutes
              | _ => none
          | _ => none
        let size : Int := hours * 60 + minutes
        return some (if sign == '-' then -size else size)
      else none
  | _, [] => none

/-- The time of day that follows a date: its parts, its fraction and its offset. -/
def timeOfDay? (text : List Char) : Option ((Nat × Nat × Nat) × List Char × Option Int) := do
  let (hour, _, rest) ← digitRun 1 2 text
  let (minute, _, rest) ← digitRun 2 2 (← afterChar ':' rest)
  let (second, _, rest) ← digitRun 2 2 (← afterChar ':' rest)
  let (fraction, rest) :=
    match rest with
    | '.' :: rest => (rest.takeWhile Char.isDigit, rest.dropWhile Char.isDigit)
    | _ => ([], rest)
  let offset ← offset? rest
  return ((hour, minute, second), fraction, offset)

/-- The text after what stands between a date and a time of day. -/
def afterDate? : List Char → Option (List Char)
  | first :: rest =>
      if first == 'T' || first == 't' then some rest
      else if isInlineBlank first then some (rest.dropWhile isInlineBlank)
      else none
  | [] => none

/-- The text without the line feed that it may end in. -/
def withoutFinalBreak (text : List Char) : List Char :=
  match text.getLast? with
  | some '\n' => text.dropLast
  | _ => text

/-- The date or date-time that a text spells. A line feed at the end does not count. -/
def Stamp.read? (text : List Char) : Option Stamp := do
  let (year, _, rest) ← digitRun 4 4 (withoutFinalBreak text)
  let (month, monthWidth, rest) ← digitRun 1 2 (← afterChar '-' rest)
  let (day, dayWidth, rest) ← digitRun 1 2 (← afterChar '-' rest)
  let isPadded := monthWidth == 2 && dayWidth == 2
  if rest.isEmpty then return ⟨year, month, day, isPadded, none, [], none⟩
  else
    let (time, fraction, offset) ← timeOfDay? (← afterDate? rest)
    return ⟨year, month, day, isPadded, some time, fraction, offset⟩

/-- A plain scalar is a stamp only if a date without a time has two digits for month and day. -/
def isPlainStamp (text : List Char) : Bool :=
  match Stamp.read? text with
  | some stamp => stamp.time.isSome || stamp.isPadded
  | none => false

/-- The microseconds of a fraction; digits beyond the sixth do not count. -/
def microseconds (fraction : List Char) : Nat :=
  let digits := fraction.take 6
  valueOf digits * Nat.pow 10 (6 - digits.length)

end OpenApiJava.Yaml
