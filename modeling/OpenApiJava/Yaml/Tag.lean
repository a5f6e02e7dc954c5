import OpenApiJava.Text.Split
import OpenApiJava.Yaml.Stamp

/-!
# Tags

The tag of a node says what kind of value it stands for. A plain scalar without a tag gets the first
tag whose form it has.
-/

namespace OpenApiJava.Yaml

/-- The tags that nodes can have. -/
inductive Tag where
  | null
  | boolean
  | integer
  | float
  | timestamp
  | binary
  | text
  | list
  | pairs
  | set
  | mapping
  /-- The key whose value is merged into a mapping. -/
  | merge
  /-- The default value of a mapping; as a key it is a text. -/
  | default
  | unknown
deriving DecidableEq, Repr, Inhabited

namespace Tag

/-- Where the tags are registered. -/
def registry : String := "tag:yaml.org,2002:"

/-- The tags by their full names. -/
def names : List (String × Tag) := [
  ("null", null), ("bool", boolean), ("int", integer), ("float", float),
  ("timestamp", timestamp), ("binary", binary), ("str", text), ("seq", list), ("omap", pairs),
  ("pairs", pairs), ("set", set), ("map", mapping), ("merge", merge), ("value", default)]

/-- The tag with a full name. -/
def ofUri (uri : String) : Tag :=
  ((names.find? fun entry => registry ++ entry.1 == uri).map (·.2)).getD unknown

/-- The tag of a collection. -/
def isCollection (tag : Tag) : Bool :=
  [list, pairs, set, mapping].contains tag

/-- The text after a sign, if one stands in front. -/
def unsigned : List Char → List Char
  | '+' :: rest => rest
  | '-' :: rest => rest
  | other => other

/-- A digit, or the underscore that may stand between digits. -/
def isDigitPart (character : Char) : Bool :=
  character.isDigit || character == '_'

/-- A digit, followed by digits and underscores. -/
def isDigits : List Char → Bool
  | first :: rest => first.isDigit && rest.all isDigitPart
  | [] => false

/-- A number below sixty of one or two digits. -/
def isSixtieth : List Char → Bool
  | [ones] => ones.isDigit
  | [tens, ones] => '0' ≤ tens && tens ≤ '5' && ones.isDigit
  | _ => false

/-- Digits, and at least one group of sixtieths after a colon. -/
def isSexagesimal (text : List Char) : Bool :=
  match Text.pieces ':' text with
  | whole :: groups => isDigits whole && !groups.isEmpty && groups.all isSixtieth
  | [] => false

/-- One or more characters, all of a class. -/
def isRun (isPart : Char → Bool) (text : List Char) : Bool :=
  !text.isEmpty && text.all isPart

/-- A digit in base sixteen, or an underscore. -/
def isHexPart (character : Char) : Bool :=
  isDigitPart character || ('a' ≤ character && character ≤ 'f') ||
    ('A' ≤ character && character ≤ 'F')

/-- The form of an integer: in base two, sixteen, eight or ten, or in groups of sixtieths. -/
def isInteger (text : List Char) : Bool :=
  match unsigned text with
  | '0' :: 'b' :: rest => isRun (fun c => c == '0' || c == '1' || c == '_') rest
  | '0' :: 'x' :: rest => isRun isHexPart rest
  | '0' :: rest => rest.all fun c => ('0' ≤ c && c ≤ '7') || c == '_'
  | digits => isDigits digits || isSexagesimal digits

/-- The form of an exponent, which has a sign; it may be left out. -/
def isExponent : List Char → Bool
  | [] => true
  | mark :: sign :: digits =>
      (mark == 'e' || mark == 'E') && (sign == '+' || sign == '-') && isRun Char.isDigit digits
  | _ => false

/-- The form of a floating-point number. It has a point. -/
def isFloat (text : List Char) : Bool :=
  let digits := unsigned text
  let whole := digits.takeWhile (· != '.')
  match digits.dropWhile (· != '.') with
  | '.' :: rest =>
      let places := rest.takeWhile isDigitPart
      let tail := rest.dropWhile isDigitPart
      if whole.isEmpty then
        ["inf", "Inf", "INF"].contains (String.ofList rest) ||
          (text == digits &&
            (["nan", "NaN", "NAN"].contains (String.ofList rest) ||
              (isDigits places && isExponent tail)))
      else (isDigits whole && isExponent tail) || (isSexagesimal whole && tail.isEmpty)
  | _ => false

/-- The words that spell true. -/
def trueWords : List String :=
  ["yes", "Yes", "YES", "true", "True", "TRUE", "on", "On", "ON"]

/-- The words that spell false. -/
def falseWords : List String :=
  ["no", "No", "NO", "false", "False", "FALSE", "off", "Off", "OFF"]

/-- The words that spell null. -/
def nullWords : List String := ["~", "null", "Null", "NULL", ""]

/-- The marks that begin other tokens and stand for nothing as scalars. -/
def strayMarks : List String := ["!", "&", "*"]

/-- The tag of a text by its form. A line feed at its end does not count unless it stands alone. -/
def ofPlain (written : List Char) : Tag :=
  let text := if written.length ≤ 1 then written else withoutFinalBreak written
  let word := String.ofList text
  if trueWords.contains word || falseWords.contains word then boolean
  else if isFloat text then float
  else if isInteger text then integer
  else if word == "<<" then merge
  else if nullWords.contains word then null
  else if isPlainStamp text then timestamp
  else if word == "=" then default
  else if strayMarks.contains word then unknown
  else Tag.text

end Tag

end OpenApiJava.Yaml
