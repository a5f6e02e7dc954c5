import OpenApiJava.Document.Reference
import OpenApiJava.Graph.Basic
import OpenApiJava.Tree.Display

/-!
# References in graphs

An operation that stands in several places is one operation: what becomes of it in one place becomes
of it in all of them. References are replaced in the order of the paths, and each of them leads to
what stands at its end at that time.
-/

namespace OpenApiJava.Graph

/-- An action on a graph that may fail. -/
abbrev Replacement := StateT Graph (Except ReplacementFault)

/-- The value at the end of a way of keys. -/
def follow (graph : Graph) : List String → Value → Except PointerFault Value
  | [], value => .ok value
  | key :: rest, value =>
      match graph.entries? value with
      | none => .error .notMapping
      | some entries =>
          match findNamed? key entries with
          | some next => follow graph rest next
          | none => .error .missingKey

/-- The mapping that a reference points to. -/
def target (graph : Graph) (reference : String) : Except ReferenceFault Value :=
  match graph.follow (Reference.keys reference) graph.root with
  | .error _ => .error (.unresolved reference)
  | .ok value => if (graph.entries? value).isSome then .ok value else .error (.notMapping reference)

/-- The target of a reference into the registry; any other value stays as it is. -/
def replaced (registry : String) (value : Value) : Replacement Value := do
  let graph ← get
  match graph.get? value "$ref" with
  | none => return value
  | some (.leaf (.text reference)) =>
      if Text.startsWith registry reference then
        match graph.target reference with
        | .ok found => return found
        | .error fault => throw (.reference fault)
      else return value
  | some other => if (graph.treeOf other).isPrintable then return value else throw .notPrintable

/-- Replaces the references in the parameters of an operation by a list of its own. -/
def replaceParameters (operation : Value) : Replacement Unit := do
  let graph ← get
  match (graph.get? operation "parameters").bind graph.collection? with
  | some (.list items) =>
      let changed ← items.mapM (replaced Reference.parameterRegistry)
      modify fun graph =>
        let (larger, list) := graph.add (.list changed)
        larger.set operation "parameters" list
  | _ => return ()

/-- Replaces the reference in the request body of an operation. -/
def replaceBody (operation : Value) : Replacement Unit := do
  match (← get).get? operation "requestBody" with
  | some body =>
      let changed ← replaced Reference.requestBodyRegistry body
      modify fun graph => graph.set operation "requestBody" changed
  | none => return ()

/-- Replaces the references in the operations of a path item, method by method. -/
def replaceInPathItem (item : Value) : Replacement Unit :=
  HttpMethod.all.forM fun method => do
    match (← get).get? item method.key with
    | some operation =>
        replaceParameters operation
        replaceBody operation
    | none => return ()

/-- Replaces the references in all path items. -/
def replaceInPaths : Replacement Unit := do
  let graph ← get
  match (graph.get? graph.root "paths").bind graph.entries? with
  | some entries => entries.forM fun entry => replaceInPathItem entry.2
  | none => return ()

/-- The graph with its references to parameters and request bodies replaced. -/
def replaceAll (graph : Graph) : Except ReplacementFault Graph :=
  (replaceInPaths.run graph).map (·.2)

end OpenApiJava.Graph
