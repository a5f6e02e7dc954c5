import OpenApiJava.Document.Operation
import OpenApiJava.Text.Case

/-!
# Path items

The operations declared on one path, by method. Four methods have operations; all other keys are
kept so that skipped methods can be named.
-/

namespace OpenApiJava

/-- A method that the generator turns into an operation. -/
inductive HttpMethod where
  | get
  | post
  | put
  | delete
deriving DecidableEq, Repr, Inhabited

namespace HttpMethod

/-- The methods in the order in which they are processed. -/
def all : List HttpMethod := [get, post, put, delete]

def key : HttpMethod → String
  | get => "get"
  | post => "post"
  | put => "put"
  | delete => "delete"

/-- The name of a method in a request. -/
def name : HttpMethod → String
  | get => "GET"
  | post => "POST"
  | put => "PUT"
  | delete => "DELETE"

end HttpMethod

/-- The methods that are named and skipped. -/
def skippedMethods : List String := ["patch", "head", "options", "trace"]

/-- The operations of a path, and its other entries. -/
structure PathItem where
  get : Option Operation
  post : Option Operation
  put : Option Operation
  delete : Option Operation
  extras : List (String × Tree)
deriving Inhabited

namespace PathItem

def operation? (item : PathItem) : HttpMethod → Option Operation
  | .get => item.get
  | .post => item.post
  | .put => item.put
  | .delete => item.delete

/-- The methods that are there, with their operations. -/
def operations (item : PathItem) : List (HttpMethod × Operation) :=
  HttpMethod.all.filterMap fun method =>
    (item.operation? method).map fun operation => (method, operation)

/-- The extra key names a method that is skipped. -/
def isSkipped (key : String) : Bool :=
  skippedMethods.contains (String.ofList (Text.lower key.toList))

/-- The names of the skipped methods, in the order of the extra keys. -/
def unsupportedMethods (item : PathItem) : List String :=
  (item.extras.filter fun entry => isSkipped entry.1).map fun entry =>
    String.ofList (Text.upper entry.1.toList)

/-- The key belongs to one of the four methods. -/
def isMethodKey (name : String) : Bool :=
  HttpMethod.all.any fun method => method.key == name

/-- The entries that are no operations. -/
def checkExtras : List (Tree × Tree) → Checked (List (String × Tree))
  | [] => .valid []
  | (.text name, value) :: rest =>
      if isMethodKey name then checkExtras rest
      else List.cons (name, value) <$> checkExtras rest
  | (key, _) :: rest =>
      (fun _ others => others) <$>
        ((Checked.fault .badField : Checked Unit).under (Step.ofKey key))
        <*> checkExtras rest

/-- The operation of a method among the entries of a path item. -/
def checkMethod (entries : Entries) (method : HttpMethod) : Checked (Option Operation) :=
  Entries.optional entries method.key Operation.check

/-- The path item that a tree describes. -/
def check : Tree → Checked PathItem
  | .mapping entries =>
      PathItem.mk <$> checkMethod entries .get <*> checkMethod entries .post
        <*> checkMethod entries .put <*> checkMethod entries .delete <*> checkExtras entries
  | _ => .fault .notRecord

end PathItem

end OpenApiJava
