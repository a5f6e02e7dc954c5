import OpenApiJava.Tree.Basic

/-!
# Graphs

Data whose collections may be shared. A collection has a number, and every place that holds the
number holds that collection. Where a collection stands does not matter once the graph is unfolded
to a tree.
-/

namespace OpenApiJava

namespace Graph

/-- A value in a graph: a tree of its own, or the number of a collection. -/
inductive Value where
  | leaf (tree : Tree)
  | collection (number : Nat)
deriving Inhabited

/-- A collection. The items of a set are keys. -/
inductive Collection where
  | list (items : List Value)
  | pairs (items : List (Value × Value))
  | set (items : List Tree)
  | mapping (entries : List (Tree × Value))
deriving Inhabited

end Graph

/-- Collections by number, and the value that stands at the top. -/
structure Graph where
  collections : Array Graph.Collection
  root : Graph.Value
deriving Inhabited

namespace Graph

def collection? (graph : Graph) : Value → Option Collection
  | .leaf _ => none
  | .collection number => graph.collections[number]?

/-- The entries of a mapping. -/
def entries? (graph : Graph) (value : Value) : Option (List (Tree × Value)) :=
  match graph.collection? value with
  | some (.mapping entries) => some entries
  | _ => none

/-- The value found under a name, if the value is a mapping. -/
def get? (graph : Graph) (value : Value) (name : String) : Option Value :=
  (graph.entries? value).bind (findNamed? name)

/-- The graph with another collection under a number. -/
def put (graph : Graph) (number : Nat) (collection : Collection) : Graph :=
  { graph with collections := graph.collections.setIfInBounds number collection }

/-- The graph with one more collection. -/
def add (graph : Graph) (collection : Collection) : Graph × Value :=
  ({ graph with collections := graph.collections.push collection },
    .collection graph.collections.size)

/-- The graph with another value under a name of a mapping. -/
def set (graph : Graph) (mapping : Value) (name : String) (value : Value) : Graph :=
  match mapping, graph.entries? mapping with
  | .collection number, some entries =>
      graph.put number (.mapping (putEntry entries (.text name) value))
  | _, _ => graph

/-- The tree that a collection is, by the trees that its values are. -/
def Collection.tree (ofValue : Value → Tree) : Collection → Tree
  | .list items => .list (items.map ofValue)
  | .pairs items => .list (items.map fun item => .pair (ofValue item.1) (ofValue item.2))
  | .set items => .set items
  | .mapping entries => .mapping (entries.map fun entry => (entry.1, ofValue entry.2))

/-- The tree that a value unfolds to inside the collections given. A collection that stands inside
itself is unfolded twice; after that, only its leaves are kept. -/
def treeInside (graph : Graph) : Nat → List Nat → Value → Tree
  | _, _, .leaf tree => tree
  | 0, _, .collection _ => .null
  | depth + 1, around, .collection number =>
      let inner (value : Value) : Tree :=
        match value with
        | .leaf tree => tree
        | .collection _ =>
            if around.count number < 2 then treeInside graph depth (number :: around) value
            else .null
      match graph.collections[number]? with
      | some collection => collection.tree inner
      | none => .null

/-- The tree that a value unfolds to. No collection is nested more than twice in itself. -/
def treeOf (graph : Graph) (value : Value) : Tree :=
  graph.treeInside (2 * graph.collections.size + 2) [] value

/-- The tree that the whole graph unfolds to. -/
def tree (graph : Graph) : Tree :=
  graph.treeOf graph.root

end Graph

end OpenApiJava
