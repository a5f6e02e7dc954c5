/-!
# Ranges of code points

A character class is a list of closed ranges. The classes of this library follow version 14 of the
Unicode character database.
-/

namespace OpenApiJava.Text

/-- Closed ranges of code points, in increasing order. -/
abbrev Ranges := List (Nat × Nat)

/-- Some range holds the code point of the character. -/
def Ranges.has (ranges : Ranges) (character : Char) : Bool :=
  ranges.any fun range => range.1 ≤ character.toNat && character.toNat ≤ range.2

end OpenApiJava.Text
