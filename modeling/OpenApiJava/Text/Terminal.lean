import OpenApiJava.Text.Basic

/-!
# Terminal codes

A text may hold codes that tell a terminal how to show it: an escape character, a bracket, numbers
and a letter. Where no terminal shows the text, the codes are left out.
-/

namespace OpenApiJava.Text

/-- A character between the bracket and the letter of a code. -/
def isCodePart (character : Char) : Bool :=
  character.isDigit || character == ';' || character == '?'

/-- The length of a code that stands here, without its escape character. -/
def codeLength? : List Char → Option Nat
  | '[' :: rest =>
      let parts := rest.takeWhile isCodePart
      match rest.drop parts.length with
      | letter :: _ => if letter.isAlpha then some (parts.length + 2) else none
      | [] => none
  | _ => none

/-- The text without its codes, from the character on that stands behind as many characters. -/
def withoutCodesAfter : Nat → List Char → List Char
  | _, [] => []
  | left + 1, _ :: rest => withoutCodesAfter left rest
  | 0, character :: rest =>
      match if character == '\x1b' then codeLength? rest else none with
      | some length => withoutCodesAfter length rest
      | none => character :: withoutCodesAfter 0 rest

def withoutCodes (text : String) : String :=
  onString (withoutCodesAfter 0) text

end OpenApiJava.Text
