import OpenApiJava.Text.Blank
import OpenApiJava.Text.Charset

/-!
# Content types

The type of a content is a text with parameters between semicolons. A semicolon between quotes does
not count. One of the parameters names the charset.
-/

namespace OpenApiJava.Web

open OpenApiJava.Text

/-- The pieces of a text between semicolons. A quote opens or ends a part in which semicolons do not
count, unless a backslash stands before it. -/
def parametersFrom (quoted : Bool) (before : Option Char) : List Char → List (List Char)
  | [] => [[]]
  | character :: rest =>
      if character == ';' && !quoted then [] :: parametersFrom false none rest
      else
        let turns := character == '"' && before != some '\\'
        match parametersFrom (quoted != turns) (some character) rest with
        | [] => [[character]]
        | piece :: others => (character :: piece) :: others

/-- The name of a parameter and its value. -/
def parameterOf (text : List Char) : List Char × List Char :=
  let name := text.takeWhile (· != '=')
  let value := (text.dropWhile (· != '=')).drop 1
  ((trimBlanks name).map Char.toLower, trimBlanks value)

/-- The text without the backslashes that escape a character. -/
def withoutEscapes (escapes : Char → Bool) : List Char → List Char
  | '\\' :: character :: rest =>
      if escapes character then character :: withoutEscapes escapes rest
      else '\\' :: withoutEscapes escapes (character :: rest)
  | character :: rest => character :: withoutEscapes escapes rest
  | [] => []

/-- The text without the quotes or the angle brackets around it. -/
def withoutQuotes (text : List Char) : List Char :=
  match text, text.getLast? with
  | '"' :: (inner@(_ :: _)), some '"' =>
      withoutEscapes (· == '"') (withoutEscapes (· == '\\') inner.dropLast)
  | '<' :: (inner@(_ :: _)), some '>' => inner.dropLast
  | _, _ => text

/-- The name of the charset that a content type tells. -/
def charsetName? (contentType : List Char) : Option (List Char) :=
  let parameters := (parametersFrom false none contentType).map parameterOf
  (parameters.lookup "charset".toList).map withoutQuotes

/-- The charset of a content type; UTF-8 where none is known. -/
def charsetOf (contentType : Option (List Char)) : Charset :=
  let charset? := do
    let contentType ← contentType
    let name ← charsetName? contentType
    Charset.ofName? name
  charset?.getD .utf8

end OpenApiJava.Web
