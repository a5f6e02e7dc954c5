/-!
# Source text

A source file is a list of lines, each of which ends in a line break.
-/

namespace OpenApiJava.Source

/-- The text of a list of lines. -/
def ofLines (lines : List String) : String :=
  String.join (lines.map fun line => line ++ "\n")

theorem toList_ofLines (lines : List String) :
    (ofLines lines).toList = lines.flatMap fun line => line.toList ++ ['\n'] := by
  simp [ofLines, String.toList_join, List.flatMap_map]

/-- A line that stands under a condition. -/
def lineIf (condition : Bool) (line : String) : List String :=
  if condition then [line] else []

end OpenApiJava.Source
