import OpenApiJava.Decimal.Numeral
import OpenApiJava.Text.Base64
import OpenApiJava.Text.Case
import OpenApiJava.Text.Split
import OpenApiJava.Tree.Basic
import OpenApiJava.Yaml.Cell
import OpenApiJava.Yaml.Tag

/-!
# Values of scalars

The value that a scalar stands for, by its tag. Underscores in numbers do not count.
-/

namespace OpenApiJava.Yaml

open OpenApiJava.Decimal

/-- A value that a text has to have. -/
def orMalformed {α : Type} (value : Option α) : Except Fault α :=
  match value with
  | some found => .ok found
  | none => .error .malformed

/-- The text without underscores, cut into a sign and the rest. Nothing is no number. -/
def numberText (text : List Char) : Except Fault (Bool × List Char) :=
  match text.filter (· != '_') with
  | [] => .error (.value .emptyNumber)
  | characters => .ok (signed characters)

/-- The number of groups of sixtieths, the largest first. -/
def sexagesimal (groups : List Int) : Int :=
  groups.foldl (fun value group => value * 60 + group) 0

/-- The integer that an unsigned text stands for: a mark in front tells its base. -/
def magnitude? (digits : List Char) : Option Int :=
  match digits with
  | ['0'] => some 0
  | '0' :: 'b' :: rest => integer? 2 rest
  | '0' :: 'x' :: rest => integer? 16 rest
  | '0' :: _ => integer? 8 digits
  | _ =>
      if digits.contains ':' then ((Text.pieces ':' digits).mapM (integer? 10)).map sexagesimal
      else integer? 10 digits

/-- The integer that a scalar stands for. -/
def integerOf (text : List Char) : Except Fault Int := do
  let (negative, digits) ← numberText text
  if digits.isEmpty then .error (.value .emptyNumber)
  else
    let value ← orMalformed (magnitude? digits)
    return if negative then -value else value

/-- The sum of groups of sixtieths, the smallest first, rounded at every step. -/
def floatSum (total : Binary64) (unit : Int) : List Binary64 → Except Fault Binary64
  | [] => .ok total
  | group :: rest =>
      let weight := Binary64.ofInt unit
      if weight.isInfinite then .error (.value .numberTooLarge)
      else floatSum (total.add (group.mul weight)) (unit * 60) rest

/-- The floating-point number that an unsigned text stands for. -/
def floatMagnitude (digits : List Char) : Except Fault Binary64 := do
  match String.ofList digits with
  | ".inf" => return .infinity false
  | ".nan" => return .nan
  | _ =>
      if digits.contains ':' then
        let groups ← orMalformed ((Text.pieces ':' digits).mapM float?)
        floatSum (.ofInt 0) 1 groups.reverse
      else orMalformed (float? digits)

/-- The floating-point number that a scalar stands for. There is one NaN of its own name; any other
is told by where it comes from. -/
def floatOf (origin : Nat) (text : List Char) : Except Fault Binary64 := do
  let (negative, digits) ← numberText (Text.lower text)
  let value ← floatMagnitude digits
  if value.isNaN then
    return if String.ofList digits == ".nan" then .nan else .nanWith (origin + 1)
  else return if negative then value.neg else value

/-- The boolean that a scalar stands for, in any case of its letters. -/
def booleanOf (text : List Char) : Except Fault Bool :=
  match String.ofList (Text.lower text) with
  | "yes" => .ok true
  | "true" => .ok true
  | "on" => .ok true
  | "no" => .ok false
  | "false" => .ok false
  | "off" => .ok false
  | _ => .error (.value .unknownBoolean)

/-- The date or date-time that a scalar stands for. -/
def stampOf (text : List Char) : Except Fault Tree :=
  match Stamp.read? text with
  | none => .error (.value .unknownDate)
  | some stamp =>
      let date : Date := ⟨stamp.year, stamp.month, stamp.day⟩
      match stamp.time with
      | none => if date.isValid then .ok (.date date) else .error .malformed
      | some (hour, minute, second) =>
          let moment : Moment :=
            ⟨date, hour, minute, second, microseconds stamp.fraction, stamp.offset⟩
          if moment.isValid then .ok (.moment moment) else .error .malformed

/-- The bytes that a scalar stands for. -/
def binaryOf (text : List Char) : Except Fault (List UInt8) :=
  if text.all (·.toNat < 128) then orMalformed (Text.Base64.decode? text) else .error .malformed

/-- The value of a scalar that comes from the node with this number. -/
def scalarTree (tag : Tag) (origin : Nat) (text : String) : Except Fault Tree :=
  match tag with
  | .null => .ok .null
  | .boolean => (booleanOf text.toList).map .boolean
  | .integer => (integerOf text.toList).map .integer
  | .float => (floatOf origin text.toList).map .float
  | .timestamp => stampOf text.toList
  | .binary => (binaryOf text.toList).map .binary
  | .text => .ok (.text text)
  | _ => .error .malformed

end OpenApiJava.Yaml
