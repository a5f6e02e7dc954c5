import OpenApiJava.Text.Split

/-!
# Path parameters

A segment of a path that is a name in braces stands for a value.
-/

namespace OpenApiJava

/-- A parameter of a path, with the text that stands for it. -/
structure PathParameter where
  name : String
  token : String
deriving DecidableEq, Repr, Inhabited

namespace PathParameter

def ofSegment? (segment : List Char) : Option PathParameter :=
  match segment with
  | '{' :: rest =>
      if 1 < rest.length && rest.getLast? == some '}' then
        some ⟨String.ofList rest.dropLast, String.ofList segment⟩
      else none
  | _ => none

/-- The parameters of a path in the order of its segments. -/
def ofPath (path : String) : List PathParameter :=
  (Text.pieces '/' path.toList).filterMap ofSegment?

end PathParameter

end OpenApiJava
