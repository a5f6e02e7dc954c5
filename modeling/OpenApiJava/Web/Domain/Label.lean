import OpenApiJava.Text.Split
import OpenApiJava.Web.Domain.Composition
import OpenApiJava.Web.Domain.Punycode

/-!
# Labels of host names

A label is one of the words of a host name. Its characters may be of any script, within rules about
hyphens, marks, characters that need certain neighbours, and the directions of writing.
-/

namespace OpenApiJava.Web.Domain

open OpenApiJava.Text

/-- The most characters of a label, or of a host name with the dot at its end. -/
def longestName : Nat := 254

/-- The most characters of a label in ASCII. -/
def longestLabel : Nat := 63

/-- Hyphens stand neither at the ends nor at the third and fourth places together. -/
def hasPlainHyphens (label : List Char) : Bool :=
  (label.drop 2).take 2 != ['-', '-'] && label.head? != some '-' && label.getLast? != some '-'

/-- A mark that joins a letter to what follows. -/
def isJoiningMark (character : Char) : Bool :=
  combiningClass character.toNat == 9

/-- The characters join over marks to a character of the given kind. -/
def joinsTo (kind : Ranges) (characters : List Char) : Bool :=
  match characters.dropWhile transparentRanges.has with
  | [] => false
  | character :: _ => kind.has character

/-- A character that is not permitted anywhere may stand between the reversed text `before` and the
text `after`. -/
def isAtHome (before : List Char) (character : Char) (after : List Char) : Bool :=
  let others := before ++ after
  let isBetween (first last : Nat) (other : Char) : Bool :=
    first ≤ other.toNat && other.toNat ≤ last
  match character.toNat with
  | 0x200C =>
      (before.head?.any isJoiningMark) ||
        joinsTo joinsLeftRanges before && joinsTo joinsRightRanges after
  | 0x200D => before.head?.any isJoiningMark
  | 0xB7 => before.head? == some 'l' && after.head? == some 'l'
  | 0x375 => after.head?.any greekRanges.has
  | 0x5F3 | 0x5F4 => before.head?.any hebrewRanges.has
  | 0x30FB => others.any fun other => other != character && kanaRanges.has other
  | _ =>
      if isBetween 0x660 0x669 character then !others.any (isBetween 0x6F0 0x6F9)
      else if isBetween 0x6F0 0x6F9 character then !others.any (isBetween 0x660 0x669)
      else false

/-- All characters behind the reversed text `before` may stand where they stand. -/
def areAtHome (before : List Char) : List Char → Bool
  | [] => true
  | character :: after =>
      (permittedRanges.has character || isAtHome before character after) &&
        areAtHome (character :: before) after

/-- A letter that is written from left to right. -/
def isLeftToRight (character : Char) : Bool :=
  !(rightRanges.has character || arabicDigitRanges.has character || digitRanges.has character ||
    spacelessRanges.has character || neutralRanges.has character)

/-- The directions of writing agree: a label with anything from right to left starts with such a
letter, has no letter of the other direction and one kind of digits, and ends with a letter or a
digit. -/
def hasOneDirection (label : List Char) : Bool :=
  if label.any fun character => rightRanges.has character || arabicDigitRanges.has character then
    let ending := label.reverse.dropWhile spacelessRanges.has
    label.head?.any rightRanges.has && !label.any isLeftToRight &&
      !(label.any digitRanges.has && label.any arabicDigitRanges.has) &&
      ending.head?.any fun character =>
        rightRanges.has character || arabicDigitRanges.has character || digitRanges.has character
  else true

/-- The text can be a label. -/
def isLabel (label : List Char) : Bool :=
  let codes := label.map Char.toNat
  !label.isEmpty && label.length ≤ longestName && hasPlainHyphens label &&
    !label.head?.any markRanges.has && areAtHome [] label && hasOneDirection label &&
    composedForm codes == codes

/-- How the form of a label in ASCII starts. -/
def asciiMark : List Char := "xn--".toList

/-- The label that a text in ASCII stands for. -/
def labelOfAscii? (text : List Char) : Option (List Char) := do
  let lower := text.map Char.toLower
  if asciiMark.isPrefixOf lower then
    let spelling := lower.drop asciiMark.length
    if spelling.isEmpty || spelling.getLast? == some '-' then none
    else (ofPunycode? spelling).filter isLabel
  else if isLabel lower then some lower
  else none

/-- The characters of the text are ASCII characters. -/
def isAscii (text : List Char) : Bool :=
  text.all fun character => character.toNat < 128

/-- The form of a label in ASCII. -/
def asciiOfLabel? (label : List Char) : Option (List Char) :=
  let form? :=
    if isAscii label then (labelOfAscii? label).map fun _ => label
    else if isLabel label then some (asciiMark ++ punycode label)
    else none
  form?.filter fun form => form.length ≤ longestLabel

/-- The label of a text that is a label or its form in ASCII. -/
def labelOf? (text : List Char) : Option (List Char) :=
  if isAscii text then labelOfAscii? text
  else if isLabel text then some text
  else none

/-- The texts between the dots of a host name; there are four characters for a dot. A dot at the end
leaves an empty text there. -/
def labelTexts (name : List Char) : List (List Char) :=
  let isDot (character : Char) : Bool := ['.', '。', '．', '｡'].contains character
  pieces '.' (name.map fun character => if isDot character then '.' else character)

/-- The host name with another form of each label. -/
def mapLabels? (form? : List Char → Option (List Char)) (name : List Char) :
    Option (List Char) := do
  let texts := labelTexts name
  let last := if texts.getLast? == some [] then [[]] else []
  if texts == [[]] || longestName < name.length then none
  else
    let labels ← (texts.take (texts.length - last.length)).mapM form?
    return joined ['.'] (labels ++ last)

/-- The form of a host name in ASCII. -/
def asciiName? (name : List Char) : Option (List Char) :=
  (mapLabels? asciiOfLabel? name).filter fun form =>
    form.length < longestName || form.length == longestName && form.getLast? == some '.'

/-- The host name that a form in ASCII stands for. -/
def nameOfAscii? (name : List Char) : Option (List Char) :=
  mapLabels? labelOf? name

end OpenApiJava.Web.Domain
