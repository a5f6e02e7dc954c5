import OpenApiJava.Document.PathItem
import OpenApiJava.Text.Basic
import OpenApiJava.Text.Split
import OpenApiJava.Tree.Display

/-!
# References

A reference is a pointer from the root of a specification, key by key. References to shared
parameters and request bodies are replaced by what they point to; references to schemas stay.
-/

namespace OpenApiJava

/-- Why a pointer leads nowhere. -/
inductive PointerFault where
  | missingKey
  | notMapping
deriving DecidableEq, Repr

/-- Why a reference is not replaced. -/
inductive ReferenceFault where
  | unresolved (reference : String)
  | notMapping (reference : String)
deriving DecidableEq, Repr

def ReferenceFault.message : ReferenceFault → String
  | unresolved reference => "unresolved reference " ++ reference
  | notMapping reference => "reference " ++ reference ++ " does not point to a mapping"

/-- Why the references of a specification are not replaced. -/
inductive ReplacementFault where
  | reference (fault : ReferenceFault)
  /-- What stands in place of a reference has no text. -/
  | notPrintable
deriving DecidableEq, Repr

namespace Reference

/-- Where shared parameters are registered. -/
def parameterRegistry : String := "#/components/parameters/"

/-- Where shared request bodies are registered. -/
def requestBodyRegistry : String := "#/components/requestBodies/"

/-- The keys of a pointer: the pieces between slashes, without the marks in front. -/
def keys (reference : String) : List String :=
  let path := reference.toList.dropWhile fun character => character == '#' || character == '/'
  (Text.pieces '/' path).map String.ofList

/-- The tree at the end of a way of keys. -/
def follow : List String → Tree → Except PointerFault Tree
  | [], tree => .ok tree
  | key :: rest, .mapping entries =>
      match Entries.find? key entries with
      | some tree => follow rest tree
      | none => .error .missingKey
  | _ :: _, _ => .error .notMapping

/-- The tree that a reference points to. -/
def resolve (root : Tree) (reference : String) : Except PointerFault Tree :=
  follow (keys reference) root

def into? (registry : String) (entry : Tree) : Option String :=
  match entry.get? "$ref" with
  | some (.text reference) => if Text.startsWith registry reference then some reference else none
  | _ => none

/-- The mapping that a reference points to. -/
def target (root : Tree) (reference : String) : Except ReferenceFault Tree :=
  match resolve root reference with
  | .error _ => .error (.unresolved reference)
  | .ok (.mapping entries) => .ok (.mapping entries)
  | .ok _ => .error (.notMapping reference)

/-- What stands in place of a reference has a text, if there is something. -/
def isPrintable (entry : Tree) : Bool :=
  ((entry.get? "$ref").map Tree.isPrintable).getD true

/-- The target of a reference into the registry; any other entry stays as it is. -/
def replaced (root : Tree) (registry : String) (entry : Tree) : Except ReplacementFault Tree :=
  match into? registry entry with
  | some reference => (target root reference).mapError .reference
  | none => if isPrintable entry then .ok entry else .error .notPrintable

end Reference

/-- The entries with a change to the value under a name, if there is one. -/
def Entries.revise {ε : Type} (name : String) (change : Tree → Except ε Tree) :
    Entries → Except ε Entries
  | [] => .ok []
  | (.text key, value) :: rest =>
      if key = name then do
        let changed ← change value
        return (.text key, changed) :: rest
      else do
        let others ← Entries.revise name change rest
        return (.text key, value) :: others
  | entry :: rest => do
      let others ← Entries.revise name change rest
      return entry :: others

/-- The entries with a change to every value. -/
def Entries.reviseAll {ε : Type} (change : Tree → Except ε Tree) : Entries → Except ε Entries
  | [] => .ok []
  | (key, value) :: rest => do
      let changed ← change value
      let others ← Entries.reviseAll change rest
      return (key, changed) :: others

namespace Reference

/-- A list of parameters with its references replaced. Anything else stays as it is. -/
def replaceParameters (root : Tree) : Tree → Except ReplacementFault Tree
  | .list items => do
      let changed ← items.mapM (replaced root parameterRegistry)
      return .list changed
  | other => .ok other

/-- An operation with the references of its parameters and of its request body replaced. -/
def replaceInOperation (root : Tree) : Tree → Except ReplacementFault Tree
  | .mapping entries => do
      let first ← Entries.revise "parameters" (replaceParameters root) entries
      let second ← first.revise "requestBody" (replaced root requestBodyRegistry)
      return .mapping second
  | other => .ok other

/-- A path item with the references of its operations replaced, method by method. -/
def replaceInPathItem (root : Tree) : Tree → Except ReplacementFault Tree
  | .mapping entries => do
      let changed ← HttpMethod.all.foldlM
        (fun entries method => Entries.revise method.key (replaceInOperation root) entries) entries
      return .mapping changed
  | other => .ok other

/-- A mapping of paths with the references of its path items replaced. -/
def replaceInPaths (root : Tree) : Tree → Except ReplacementFault Tree
  | .mapping entries => do
      let changed ← Entries.reviseAll (replaceInPathItem root) entries
      return .mapping changed
  | other => .ok other

/-- A specification with its references to parameters and request bodies replaced. Every target is
taken from the specification as it was given. -/
def replaceAll (specification : Entries) : Except ReplacementFault Entries :=
  Entries.revise "paths" (replaceInPaths (.mapping specification)) specification

end Reference

end OpenApiJava
