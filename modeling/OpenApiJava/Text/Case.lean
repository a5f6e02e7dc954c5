import OpenApiJava.Text.Case.Table

/-!
# Upper and lower case

Case mapping works on whole texts: one letter may become several, and the lower-case form of the
capital sigma depends on the letters around it. ASCII letters are mapped by rule, all other
characters by table.
-/

namespace OpenApiJava.Text

/-- The code point moved by a shift. -/
def shifted (code : Nat) (shift : Int) : Char :=
  Char.ofNat (code + shift).toNat

/-- The character that the first fitting run maps to. -/
def mapByRuns (runs : List CaseRun) (character : Char) : Char :=
  match runs.find? (·.has character.toNat) with
  | some run => shifted character.toNat run.shift
  | none => character

/-- The upper-case form of one character. -/
def upperChar (character : Char) : List Char :=
  if character.toNat < 128 then [character.toUpper]
  else
    match longUpperForms.find? (·.1 == character.toNat) with
    | some (_, codes) => codes.map Char.ofNat
    | none => [mapByRuns upperRuns character]

/-- The lower-case form of one character that does not depend on its neighbours. -/
def lowerChar (character : Char) : List Char :=
  if character.toNat < 128 then [character.toLower]
  else if character == 'İ' then ['i', '\u0307']
  else [mapByRuns lowerRuns character]

/-- A letter that has case and is not passed over in the search for one. -/
def isCased (character : Char) : Bool :=
  if character.toNat < 128 then character.isAlpha else casedRanges.has character

/-- A character that is passed over in the search for a letter that has case. -/
def isCaseIgnorable (character : Char) : Bool :=
  if character.toNat < 128 then
    ['\x27', '.', ':', '^', '\x60'].contains character
  else caseIgnorableRanges.has character

/-- The nearest character that is not case-ignorable has case. -/
def meetsCased (characters : List Char) : Bool :=
  match characters.dropWhile isCaseIgnorable with
  | [] => false
  | character :: _ => isCased character

/-- A capital sigma after the reversed text `before` and in front of `after` ends a word. -/
def endsWord (before after : List Char) : Bool :=
  meetsCased before && !meetsCased after

/-- The lower-case form of a text that follows the reversed text `before`. -/
def lowerAfter (before : List Char) : List Char → List Char
  | [] => []
  | character :: rest =>
      (if character == 'Σ' then [if endsWord before rest then 'ς' else 'σ']
        else lowerChar character) ++ lowerAfter (character :: before) rest

/-- The upper-case form of a text. -/
def upper (text : List Char) : List Char :=
  text.flatMap upperChar

/-- The lower-case form of a text. -/
def lower (text : List Char) : List Char :=
  lowerAfter [] text

/-- The text with its first character in upper case. -/
def upperFirst : List Char → List Char
  | [] => []
  | character :: rest => upperChar character ++ rest

/-- The text with its first character in lower case. -/
def lowerFirst : List Char → List Char
  | [] => []
  | character :: rest => lower [character] ++ rest

/-- The text with its first character in upper case and the others in lower case. -/
def capitalized : List Char → List Char
  | [] => []
  | character :: rest => upperChar character ++ lower rest

end OpenApiJava.Text
