import OpenApiJava.Graph.Basic
import OpenApiJava.Yaml.Scalar
import OpenApiJava.Yaml.Stream

/-!
# Reading YAML

The data of a document. A node is given its value once, so that its aliases share it: scalars at
once, collections in the order in which they are come upon, once what was come upon before is
filled. Mappings that are merged into another one come before its own entries, so that its own
values win; of several merged in one list the first wins.
-/

namespace OpenApiJava.Yaml

/-- What is known while nodes are given their values. -/
structure Construction where
  /-- The nodes, with mappings merged as far as they had to be. -/
  nodes : Array Node
  /-- The values by number of node. -/
  values : Array (Option Graph.Value)
  /-- The collections by number of node. -/
  collections : Array Graph.Collection
  /-- The collections that were come upon, in order. -/
  queue : Array NodeId

/-- A step of a construction. -/
abbrev Build := StateT Construction (Except Fault)

namespace Build

/-- The node in a place. -/
def node (link : Link) : Build Node :=
  return nodeAt (← get).nodes link

/-- Nothing is nested deeper than there are nodes. -/
def depth : Build Nat :=
  return (← get).nodes.size + 1

/-- The text of a scalar. The text of a mapping is that of its default value. -/
def textInside : Nat → Link → Build String
  | 0, _ => throw .malformed
  | depth + 1, link => do
      match (← node link).content with
      | .scalar text => return text
      | .sequence _ => throw .malformed
      | .mapping entries =>
          let nodes := (← get).nodes
          match entries.find? fun entry => (nodeAt nodes entry.1).tag == .default with
          | some entry => textInside depth entry.2
          | none => throw .malformed

def scalarValue (number : NodeId) (tag : Tag) : Build Tree := do
  let text ← textInside (← depth) (some number)
  match tag, (← node (some number)).content with
  | .timestamp, .mapping _ => throw (.value .nestedDate)
  | _, _ => scalarTree tag number text

/-- The value of the node in a place. A collection is filled later. -/
def value (link : Link) : Build Graph.Value := do
  match link with
  | none => return .leaf .null
  | some number =>
      match (← get).values[number]?.join with
      | some known => return known
      | none =>
          let tag := (← node link).tag
          let found ←
            if tag.isCollection then
              modify fun state => { state with queue := state.queue.push number }
              pure (Graph.Value.collection number)
            else Graph.Value.leaf <$> scalarValue number tag
          modify fun state =>
            { state with values := state.values.setIfInBounds number (some found) }
          return found

/-- The key that the node in a place is. Collections are none. -/
def key (link : Link) : Build Tree := do
  match ← value link with
  | .leaf tree => return tree
  | .collection _ => throw .malformed

/-- The entries of the mapping in a place. -/
def entries (link : Link) : Build (List (Link × Link)) := do
  match (← node link).content with
  | .mapping entries => return entries
  | _ => throw .malformed

/-- The node with a number is changed. -/
def revise (number : NodeId) (change : Node → Node) : Build Unit :=
  modify fun state => { state with nodes := state.nodes.modify number change }

/-- Merges into the mapping in a place what its entries ask for. Its keys for default values become
texts. -/
def merge : Nat → Link → Build Unit
  | 0, _ => throw .malformed
  | depth + 1, link => do
      let mergedFrom (other : Link) : Build (List (Link × Link)) := do
        let _ ← entries other
        merge depth other
        entries other
      let split (contents : List (Link × Link) × List (Link × Link)) (entry : Link × Link) :
          Build (List (Link × Link) × List (Link × Link)) := do
        let (merged, own) := contents
        match (← node entry.1).tag, (← node entry.2).content with
        | .merge, .mapping _ => return (merged ++ (← mergedFrom entry.2), own)
        | .merge, .sequence items =>
            let parts ← items.mapM mergedFrom
            return (merged ++ parts.reverse.flatten, own)
        | .merge, .scalar _ => throw .malformed
        | .default, _ =>
            entry.1.forM fun number => revise number fun node => { node with tag := .text }
            return (merged, own ++ [entry])
        | _, _ => return (merged, own ++ [entry])
      let (merged, own) ← (← entries link).foldlM split ([], [])
      link.forM fun number =>
        revise number fun node => { node with content := .mapping (merged ++ own) }

/-- The entries of the mapping in a place, once what they ask for is merged into it. -/
def mergedEntries (link : Link) : Build (List (Link × Link)) := do
  let _ ← entries link
  merge (← depth) link
  entries link

/-- The entries of a mapping with their values. -/
def mapping (link : Link) : Build (List (Tree × Graph.Value)) := do
  (← mergedEntries link).foldlM (fun known entry => do
    let name ← key entry.1
    return putEntry known name (← value entry.2)) []

/-- The pair that a mapping of one entry is. -/
def pair (link : Link) : Build (Graph.Value × Graph.Value) := do
  match ← entries link with
  | [entry] => return (← value entry.1, ← value entry.2)
  | _ => throw .malformed

/-- The items of the sequence in a place. -/
def items (link : Link) : Build (List Link) := do
  match (← node link).content with
  | .sequence items => return items
  | _ => throw .malformed

def collection (number : NodeId) (tag : Tag) : Build Graph.Collection := do
  match tag with
  | .mapping => return .mapping (← mapping number)
  | .set => return .set ((← mapping number).map (·.1))
  | .pairs => return .pairs (← (← items number).mapM pair)
  | _ => return .list (← (← items number).mapM value)

/-- Fills the collections from a place in the queue on. Every collection stands there at most once.
-/
def fillFrom : Nat → Nat → Build Unit
  | 0, _ => return ()
  | left + 1, place => do
      match (← get).queue[place]? with
      | none => return ()
      | some number =>
          let filled ← collection number (← node number).tag
          modify fun state =>
            { state with collections := state.collections.setIfInBounds number filled }
          fillFrom left (place + 1)

/-- The data of the node in a place. -/
def graph (root : Link) : Build Graph := do
  let value ← value root
  fillFrom (← depth) 0
  return ⟨(← get).collections, value⟩

end Build

/-- The data of a document. -/
def NodeGraph.graph (document : NodeGraph) : Except Fault Graph :=
  let count := document.nodes.size
  let start : Construction :=
    ⟨document.nodes, .replicate count none, .replicate count (.list []), #[]⟩
  (Build.graph document.root).run' start

/-- The data that a text spells. A text without a document spells null. -/
def read (text : String) : Except Fault Graph := do
  (← NodeGraph.ofText text.toList).graph

end OpenApiJava.Yaml
