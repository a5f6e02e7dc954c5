import OpenApiJava.Text.Ranges

/-!
# Blanks

Blanks are the space, the ASCII control characters that separate, and the other space, line and
paragraph separators.
-/

namespace OpenApiJava.Text

/-- The blank characters. -/
def blankRanges : Ranges := [
  (9, 13), (28, 32), (133, 133), (160, 160), (5760, 5760), (8192, 8202), (8232, 8233),
  (8239, 8239), (8287, 8287), (12288, 12288)]

/-- A character that separates words. -/
def isBlank (character : Char) : Bool :=
  blankRanges.has character

/-- The text without the blanks at both ends. -/
def trimBlanks (text : List Char) : List Char :=
  ((text.dropWhile isBlank).reverse.dropWhile isBlank).reverse

end OpenApiJava.Text
