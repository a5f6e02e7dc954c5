/-!
# Strings as lists of characters

Functions on texts are written on lists of characters and lifted to strings.
-/

namespace OpenApiJava.Text

/-- A function on lists of characters, on strings. -/
def onString (function : List Char → List Char) (text : String) : String :=
  String.ofList (function text.toList)

/-- The first text stands at the front of the second. -/
def startsWith (front text : String) : Bool :=
  front.toList.isPrefixOf text.toList

/-- The first text stands at the end of the second. -/
def endsWith (back text : String) : Bool :=
  back.toList.isSuffixOf text.toList

@[simp]
theorem toList_onString (function : List Char → List Char) (text : String) :
    (onString function text).toList = function text.toList := by
  simp [onString]

end OpenApiJava.Text
