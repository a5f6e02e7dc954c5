import OpenApiJava.Text.Basic
import OpenApiJava.Text.Word

/-!
# Identifiers

Any text is turned into a name: characters that are no word characters become underscores, a digit
in front gets an underscore before it, a reserved word one after it, and a text without characters
has a name of its own.
-/

namespace OpenApiJava.Java

open OpenApiJava.Text

/-- The name of the empty text. -/
def emptyName : String := "ROOT"

/-- The words that are no names. -/
def reservedWords : List String := [
  "abstract", "assert", "boolean", "break", "byte", "case", "catch", "char", "class", "const",
  "continue", "default", "do", "double", "else", "enum", "extends", "final", "finally", "float",
  "for", "goto", "if", "implements", "import", "instanceof", "int", "interface", "long", "native",
  "new", "package", "private", "protected", "public", "return", "short", "static", "strictfp",
  "super", "switch", "synchronized", "this", "throw", "throws", "transient", "try", "void",
  "volatile", "while", "true", "false", "null", "var", "record", "yield", "_"]

/-- The text is a reserved word. -/
def isReserved (text : List Char) : Bool :=
  reservedWords.any fun word => word.toList == text

/-- A word character, or an underscore in place of any other. -/
def nameCharacter (character : Char) : Char :=
  if isWord character then character else '_'

/-- A name that keeps clear of digits in front and of reserved words. -/
def legalName : List Char → List Char
  | [] => emptyName.toList
  | first :: rest =>
      if isDigit first then '_' :: first :: rest
      else if isReserved (first :: rest) then first :: rest ++ ['_']
      else first :: rest

/-- The name that stands for a text. -/
def nameOf (text : List Char) : List Char :=
  legalName (text.map nameCharacter)

/-- The identifier that stands for a text. -/
def identifier (text : String) : String :=
  onString nameOf text

end OpenApiJava.Java
