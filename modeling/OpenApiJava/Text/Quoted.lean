import OpenApiJava.Text.Printable

/-!
# Quotations

A text is quoted on one line of printable characters: single quotes stand around it unless it holds
a single quote and no double quote; the backslash, the quote in use and the characters that do not
print are escaped.
-/

namespace OpenApiJava.Text

/-- The last digits of a number in base sixteen, in lower case. -/
def hexDigits : Nat → Nat → List Char
  | 0, _ => []
  | width + 1, number => hexDigits width (number / 16) ++ [Nat.digitChar (number % 16)]

/-- The quote that stands around a text. -/
def quoteMark (text : List Char) : Char :=
  if text.contains '\x27' && !text.contains '"' then '"' else '\x27'

/-- The form of one character between two quote marks. -/
def quotedChar (mark character : Char) : List Char :=
  if character == mark || character == '\\' then ['\\', character]
  else if character == '\n' then ['\\', 'n']
  else if character == '\r' then ['\\', 'r']
  else if character == '\t' then ['\\', 't']
  else if isPrintable character then [character]
  else if character.toNat < 0x100 then '\\' :: 'x' :: hexDigits 2 character.toNat
  else if character.toNat < 0x10000 then '\\' :: 'u' :: hexDigits 4 character.toNat
  else '\\' :: 'U' :: hexDigits 8 character.toNat

/-- The text between quote marks, on one line. -/
def quoted (text : List Char) : List Char :=
  let mark := quoteMark text
  mark :: text.flatMap (quotedChar mark) ++ [mark]

/-- The quotation of a string. -/
def quotedString (text : String) : String :=
  String.ofList (quoted text.toList)

/-- The form of one byte between two quote marks. -/
def quotedByte (mark : Char) (byte : UInt8) : List Char :=
  let character := Char.ofNat byte.toNat
  if byte < 0x7f then quotedChar mark character else '\\' :: 'x' :: hexDigits 2 byte.toNat

/-- The quotation of bytes, with a mark in front. -/
def quotedBytes (bytes : List UInt8) : String :=
  let mark := quoteMark (bytes.map fun byte => Char.ofNat byte.toNat)
  String.ofList ('b' :: mark :: bytes.flatMap (quotedByte mark) ++ [mark])

end OpenApiJava.Text
