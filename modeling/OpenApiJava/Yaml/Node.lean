import OpenApiJava.Yaml.Mark
import OpenApiJava.Yaml.Tag

/-!
# YAML nodes

The nodes of a document are numbered, so that an alias can name a node that stands elsewhere, too. A
node has a tag and is a scalar, a sequence or a mapping. Its properties stand in front of it: the
tag, if it has one of its own, and the anchor that aliases name it by.
-/

namespace OpenApiJava.Yaml

/-- The number of a node. -/
abbrev NodeId := Nat

/-- What stands in the place of a node: its number, or nothing if the node is left out. What is left
out counts as an empty scalar. -/
abbrev Link := Option NodeId

/-- What a node holds. -/
inductive Content where
  | scalar (text : String)
  | sequence (items : List Link)
  | mapping (entries : List (Link × Link))
deriving Inhabited

structure Node where
  tag : Tag
  content : Content
deriving Inhabited

/-- The scalar that stands for a node that is left out. -/
def Node.empty : Node := ⟨.null, .scalar ""⟩

/-- The nodes of a document and the one at its root. -/
structure NodeGraph where
  nodes : Array Node
  root : Link

/-- The node in a place. -/
def nodeAt (nodes : Array Node) (link : Link) : Node :=
  (link.bind (nodes[·]?)).getD Node.empty

/-- What is written in front of a node. -/
structure Properties where
  anchor : Option String
  /-- The tag as it is written, until its handle is looked up. -/
  written : Option WrittenTag
  /-- The tag in full. -/
  tag : Option String
deriving Inhabited

def Properties.none : Properties := ⟨Option.none, Option.none, Option.none⟩

def Properties.hasTag (properties : Properties) : Bool :=
  properties.written.isSome || properties.tag.isSome

def Properties.isEmpty (properties : Properties) : Bool :=
  properties.anchor.isNone && !properties.hasTag

/-- An unfinished collection. A tag that says nothing leaves it the usual one. -/
def Properties.collection (properties : Properties) (usual : Tag) (content : Content) : Node :=
  match properties.tag with
  | some "!" => ⟨usual, content⟩
  | some uri => ⟨.ofUri uri, content⟩
  | Option.none => ⟨usual, content⟩

/-- A scalar with its properties. A tag that says nothing makes it plain. -/
def Properties.scalar (properties : Properties) (text : String) (plain : Bool) : Node :=
  match properties.tag with
  | some "!" => ⟨.ofPlain text.toList, .scalar text⟩
  | some uri => ⟨.ofUri uri, .scalar text⟩
  | Option.none => ⟨if plain then .ofPlain text.toList else .text, .scalar text⟩

end OpenApiJava.Yaml
