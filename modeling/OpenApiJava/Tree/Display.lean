import OpenApiJava.Decimal.Numeral
import OpenApiJava.Decimal.Shortest
import OpenApiJava.Text.Quoted
import OpenApiJava.Tree.Basic

/-!
# The text of a tree

A text stands for itself and a date for its calendar form; inside a list or a mapping texts are
quoted and dates are written as constructor calls.
-/

namespace OpenApiJava

open OpenApiJava.Decimal OpenApiJava.Text

/-- Numbers with commas between them. -/
def Date.argumentsText (date : Date) : String :=
  toString date.year ++ ", " ++ toString date.month ++ ", " ++ toString date.day

/-- A date as a constructor call. -/
def Date.callText (date : Date) : String :=
  "datetime.date(" ++ date.argumentsText ++ ")"

/-- An offset in minutes as a constructor call. Days may be negative, seconds are not. -/
def Moment.offsetCallText (minutes : Int) : String :=
  if minutes == 0 then "datetime.timezone.utc"
  else
    let days := minutes.fdiv 1440
    let seconds := minutes.fmod 1440 * 60
    let parts :=
      (if days == 0 then [] else ["days=" ++ toString days]) ++
        (if seconds == 0 then [] else ["seconds=" ++ toString seconds])
    "datetime.timezone(datetime.timedelta(" ++ joinedCalls parts ++ "))"
where
  joinedCalls : List String → String
    | [] => ""
    | [part] => part
    | part :: rest => part ++ ", " ++ joinedCalls rest

/-- A date-time as a constructor call. Seconds and microseconds are left out if they are zero. -/
def Moment.callText (moment : Moment) : String :=
  let fine :=
    if moment.microsecond != 0 then
      ", " ++ toString moment.second ++ ", " ++ toString moment.microsecond
    else if moment.second != 0 then ", " ++ toString moment.second
    else ""
  let zone :=
    match moment.offset with
    | some minutes => ", tzinfo=" ++ Moment.offsetCallText minutes
    | none => ""
  "datetime.datetime(" ++ moment.date.argumentsText ++ ", " ++ toString moment.hour ++ ", " ++
    toString moment.minute ++ fine ++ zone ++ ")"

namespace Tree

mutual

/-- The form of a tree inside another one. -/
def innerText : Tree → String
  | null => "None"
  | boolean value => if value then "True" else "False"
  | integer value => toString value
  | float value => value.text
  | text value => quotedString value
  | date value => value.callText
  | moment value => value.callText
  | binary bytes => quotedBytes bytes
  | list items => "[" ++ itemsText items ++ "]"
  | set [] => "set()"
  | set items => "\x7b" ++ itemsText items ++ "\x7d"
  | pair first second => "(" ++ innerText first ++ ", " ++ innerText second ++ ")"
  | mapping entries => "\x7b" ++ entriesText entries ++ "\x7d"

/-- The items of a list with commas between them. -/
def itemsText : List Tree → String
  | [] => ""
  | [item] => innerText item
  | item :: rest => innerText item ++ ", " ++ itemsText rest

/-- The entries of a mapping with commas between them. -/
def entriesText : List (Tree × Tree) → String
  | [] => ""
  | [(key, value)] => innerText key ++ ": " ++ innerText value
  | (key, value) :: rest =>
      innerText key ++ ": " ++ innerText value ++ ", " ++ entriesText rest

end

mutual

/-- The tree has a text: no integer in it is longer than the longest numeral. -/
def isPrintable : Tree → Bool
  | integer value => value.natAbs < Nat.pow 10 longestNumeral
  | list items => arePrintable items
  | set items => arePrintable items
  | pair first second => isPrintable first && isPrintable second
  | mapping entries => entriesArePrintable entries
  | _ => true

/-- All items have a text. -/
def arePrintable : List Tree → Bool
  | [] => true
  | item :: rest => isPrintable item && arePrintable rest

/-- All entries have a text. -/
def entriesArePrintable : List (Tree × Tree) → Bool
  | [] => true
  | (key, value) :: rest =>
      isPrintable key && isPrintable value && entriesArePrintable rest

end

/-- The text of a tree that stands alone. -/
def display : Tree → String
  | text value => value
  | date value => value.text
  | moment value => value.text
  | other => other.innerText

end Tree

end OpenApiJava
