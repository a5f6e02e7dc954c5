import OpenApiJava.Decimal.Binary64
import OpenApiJava.Tree.Calendar

/-!
# Trees

The data that a specification is written in: scalars, lists, sets, pairs, and mappings whose entries
keep their order and may have keys of any kind. Keys are compared by value, so that a whole number,
a floating-point number of the same value and the boolean that counts as it are one key.
-/

namespace OpenApiJava

open OpenApiJava.Decimal

/-- A value of a specification. -/
inductive Tree where
  | null
  | boolean (value : Bool)
  | integer (value : Int)
  | float (value : Binary64)
  | text (value : String)
  | date (value : Date)
  | moment (value : Moment)
  | binary (bytes : List UInt8)
  | list (items : List Tree)
  | set (items : List Tree)
  | pair (first second : Tree)
  | mapping (entries : List (Tree × Tree))
deriving Inhabited

/-- The entries of a mapping. -/
abbrev Entries := List (Tree × Tree)

/-- The value of the first entry with this text as its key. -/
def findNamed? {α : Type} (name : String) : List (Tree × α) → Option α
  | [] => none
  | (.text key, value) :: rest => if key = name then some value else findNamed? name rest
  | _ :: rest => findNamed? name rest

/-- The value of the first entry of a mapping with this text as its key. -/
def Entries.find? (name : String) (entries : Entries) : Option Tree :=
  findNamed? name entries

/-- Some entry has this text as its key. -/
def Entries.has (entries : Entries) (name : String) : Bool :=
  (entries.find? name).isSome

namespace Tree

/-- The value found under a name, if the tree is a mapping. -/
def get? (tree : Tree) (name : String) : Option Tree :=
  match tree with
  | mapping entries => Entries.find? name entries
  | _ => none

/-- The tree is neither null nor false nor zero nor empty. -/
def isTruthy : Tree → Bool
  | null => false
  | boolean value => value
  | integer value => value != 0
  | float value => !value.isZero
  | text value => !value.isEmpty
  | date _ => true
  | moment _ => true
  | binary bytes => !bytes.isEmpty
  | list items => !items.isEmpty
  | set items => !items.isEmpty
  | pair _ _ => true
  | mapping entries => !entries.isEmpty

/-- The integer that a whole number or a boolean counts as. -/
def asInteger? : Tree → Option Int
  | boolean value => some value.toInt
  | integer value => some value
  | _ => none

/-- The two trees are the same key. Collections are no keys. A NaN is the same key as itself, down
to its bits. -/
def sameKey : Tree → Tree → Bool
  | null, null => true
  | text left, text right => left == right
  | date left, date right => left == right
  | moment left, moment right => left.sameInstant right
  | binary left, binary right => left == right
  | float left, float right => left.sameValue right || (left.isNaN && left == right)
  | float left, right =>
      match right.asInteger? with
      | some value => left.equalsInt value
      | none => false
  | left, float right =>
      match left.asInteger? with
      | some value => right.equalsInt value
      | none => false
  | left, right =>
      match left.asInteger?, right.asInteger? with
      | some first, some second => first == second
      | _, _ => false

/-- The tree may be the key of an entry. -/
def isKey : Tree → Bool
  | list _ => false
  | set _ => false
  | pair _ _ => false
  | mapping _ => false
  | _ => true

/-- The items of a list or a set. -/
def items? : Tree → Option (List Tree)
  | list items => some items
  | set items => some items
  | pair first second => some [first, second]
  | _ => none

/-- The text that a tree is: a text, or bytes that encode one. -/
def asText? : Tree → Option String
  | text value => some value
  | binary bytes => String.fromUTF8? ⟨bytes.toArray⟩
  | _ => none

end Tree

/-- Entries with one more. A key that is there already keeps its place and its spelling and takes
the new value. -/
def putEntry {α : Type} (entries : List (Tree × α)) (key : Tree) (value : α) : List (Tree × α) :=
  match entries with
  | [] => [(key, value)]
  | (other, old) :: rest =>
      if other.sameKey key then (other, value) :: rest
      else (other, old) :: putEntry rest key value

/-- The entries of a mapping with one more. -/
def Entries.put (entries : Entries) (key value : Tree) : Entries :=
  putEntry entries key value

/-- The entries that arise when the given ones are put one after the other. -/
def Entries.ofList (given : List (Tree × Tree)) : Entries :=
  given.foldl (fun entries entry => entries.put entry.1 entry.2) []

end OpenApiJava
