import OpenApiJava.Text.Basic

/-!
# String literals

Between double quotes, a backslash and a double quote have a backslash in front of them.
-/

namespace OpenApiJava.Java

/-- The form of one character in a literal. -/
def escapedChar (character : Char) : List Char :=
  if character == '\\' || character == '"' then ['\\', character] else [character]

/-- The form of a text in a literal, without the quotes. -/
def escapedChars (text : List Char) : List Char :=
  text.flatMap escapedChar

/-- The form of a text in a literal, without the quotes. -/
def literalBody (text : String) : String :=
  Text.onString escapedChars text

end OpenApiJava.Java
