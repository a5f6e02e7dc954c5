import OpenApiJava.Text.Basic
import OpenApiJava.Text.Split

/-!
# File paths

A path is a list of names. Empty names and single dots vanish when a path is read; double dots stay,
since what they mean depends on the disk.
-/

namespace OpenApiJava

/-- A path, from the root of the disk or from the working folder. -/
structure FilePath where
  absolute : Bool
  names : List String
deriving DecidableEq, Repr, Inhabited

namespace FilePath

/-- The path of the working folder. -/
def here : FilePath := ⟨false, []⟩

/-- The path that a text spells. -/
def ofString (text : String) : FilePath :=
  let names := (Text.pieces '/' text.toList).map String.ofList
  ⟨Text.startsWith "/" text, names.filter fun name => name != "" && name != "."⟩

/-- The first path with the second one after it. An absolute path replaces what stands before it. -/
def append (first second : FilePath) : FilePath :=
  if second.absolute then second else ⟨first.absolute, first.names ++ second.names⟩

instance : Append FilePath := ⟨append⟩

/-- The path followed by the path that a text spells. -/
def child (path : FilePath) (text : String) : FilePath :=
  path ++ ofString text

/-- The path without its last name. -/
def parent (path : FilePath) : FilePath :=
  ⟨path.absolute, path.names.dropLast⟩

def text (path : FilePath) : String :=
  let names := String.ofList (Text.joined ['/'] (path.names.map String.toList))
  if path.absolute then "/" ++ names
  else if path.names.isEmpty then "."
  else names

/-- The end of a name from its last dot on, if characters stand on both sides of the dot. -/
def suffixOf (name : List Char) : List Char :=
  let ending := name.reverse.takeWhile (· != '.')
  if ending.isEmpty || name.length ≤ ending.length + 1 then [] else '.' :: ending.reverse

/-- The suffix of the last name. -/
def suffix (path : FilePath) : String :=
  match path.names.getLast? with
  | some name => Text.onString suffixOf name
  | none => ""

end FilePath

end OpenApiJava
