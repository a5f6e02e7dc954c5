import OpenApiJava.Text.Basic
import OpenApiJava.Text.Split
import OpenApiJava.Text.Words

/-!
# Comment text

A text inside a block comment stands on one line with single spaces between its words, and nothing
in it closes the comment.
-/

namespace OpenApiJava.Java

open OpenApiJava.Text

/-- What stands for a slash that would close the comment. -/
def slashEntity : List Char := "&#47;".toList

/-- The text with the slash escaped wherever it follows a star. -/
def openMarks : List Char → List Char
  | [] => []
  | '*' :: '/' :: rest => '*' :: (slashEntity ++ openMarks rest)
  | character :: rest => character :: openMarks rest

/-- The words of a text that closes no comment, with one space between each two. -/
def commentChars (text : List Char) : List Char :=
  joined [' '] (words (openMarks text))

/-- The text as it stands in a comment. -/
def commentText (text : String) : String :=
  onString commentChars text

end OpenApiJava.Java
