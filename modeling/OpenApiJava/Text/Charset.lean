import OpenApiJava.Text.Basic
import OpenApiJava.Text.Charset.Table
import OpenApiJava.Text.Split

/-!
# Names of charsets

A charset is asked for by any of its names. Neither case nor the marks between the words of a name
matter.
-/

namespace OpenApiJava.Text

/-- The words of a name: what stands between marks other than the dot. -/
def nameWords (text : List Char) : List (List Char) :=
  let marked := text.map fun character =>
    if character.isAlphanum || character == '.' then character.toLower else '_'
  (pieces '_' marked).filter fun word => !word.isEmpty

namespace Charset

/-- The charset that a name asks for. A dot counts as an underscore in all names but a charset's
own. -/
def ofName? (text : List Char) : Option Charset :=
  let own := String.ofList (joined ['_'] (nameWords text))
  let undotted := onString (replaceChar '.' '_') own
  (namedCharsets.find? fun named =>
    named.aliases.contains own || named.aliases.contains undotted || named.name == own).map
      (·.charset)

end Charset

end OpenApiJava.Text
