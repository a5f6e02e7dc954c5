import OpenApiJava.Text.Basic
import OpenApiJava.Text.Case
import OpenApiJava.Text.Split
import OpenApiJava.Text.Words

/-!
# Class and constant names

The class of a service is named after a tag, the constant of a URL after a path. Names are not kept
apart: different tags and different paths may have one name.
-/

namespace OpenApiJava.Java

open OpenApiJava.Text

/-- What the name of a service class ends in. -/
def serviceSuffix : String := "Service"

/-- What stands in front of the name of a path parameter. -/
def parameterMarker : String := "BY_"

/-- A character between the words of a tag. -/
def separatesTag (character : Char) : Bool :=
  character == '-' || isBlank character

/-- A tag in one word: words with a dash or a space between them are capitalised and joined; a tag
without either only gets its first character in upper case. -/
def tagWord (tag : List Char) : List Char :=
  if tag.contains '-' || tag.contains ' ' then
    (wordsBy separatesTag tag).flatMap capitalized
  else upperFirst tag

/-- The name that the operations of a tag go by. -/
def serviceBaseName (tag : String) : String :=
  onString tagWord tag

def serviceClassName (tag : String) : String :=
  serviceBaseName tag ++ serviceSuffix

/-- The text after an open brace, with the characters since the brace. A brace that closes a name of
at least one character is a parameter; any other brace stands for itself. -/
def markParametersFrom : Option (List Char) → List Char → List Char
  | none, [] => []
  | some name, [] => '{' :: name
  | none, character :: rest =>
      if character == '{' then markParametersFrom (some []) rest
      else character :: markParametersFrom none rest
  | some name, character :: rest =>
      if character == '}' then
        (if name.isEmpty then ['{', '}'] else parameterMarker.toList ++ name) ++
          markParametersFrom none rest
      else markParametersFrom (some (name ++ [character])) rest

/-- The text with a marker in front of every name in braces, and without these braces. -/
def markParameters (text : List Char) : List Char :=
  markParametersFrom none text

/-- The text without a slash in front. -/
def withoutSlash : List Char → List Char
  | '/' :: rest => rest
  | text => text

/-- The name of the constant that holds a path. -/
def constantWord (path : List Char) : List Char :=
  upper (replaceChar '-' '_' (replaceChar '/' '_' (markParameters (withoutSlash path))))

/-- The name of the constant that holds a path. -/
def constantName (path : String) : String :=
  onString constantWord path

/-- The words between underscores, capitalised and joined. -/
def pascalWord (text : List Char) : List Char :=
  (wordsBy (· == '_') text).flatMap capitalized

/-- A constant name as part of a method name. -/
def pascal (text : String) : String :=
  onString pascalWord text

end OpenApiJava.Java
