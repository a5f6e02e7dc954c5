import OpenApiJava.Yaml.Frame
import OpenApiJava.Yaml.Lexer

/-!
# Streams

A stream holds the directives and the nodes of one document. Its tokens are offered one by one to
the innermost frame as soon as they are known, so of two faults the one counts that comes first. An
alias stands for the node that its anchor was given to before.
-/

namespace OpenApiJava.Yaml

/-- What is known outside the frames: the handles of tags, the nodes that have begun, their anchors,
and the properties of the node that is about to begin. -/
structure Surroundings where
  handles : List (String × String)
  nodes : Array Node
  anchors : List (String × NodeId)
  properties : Properties

/-- The handles that need no directive. -/
def defaultHandles : List (String × String) := [("!", "!"), ("!!", Tag.registry)]

namespace Surroundings

/-- A tag in full. -/
def uriOf (around : Surroundings) (tag : WrittenTag) : Except Fault String :=
  match tag.handle with
  | none => .ok tag.suffix
  | some handle =>
      match around.handles.lookup handle with
      | some expansion => .ok (expansion ++ tag.suffix)
      | none => .error .malformed

/-- The handle of the tag is looked up if that has not been done. -/
def withFullTag (around : Surroundings) : Except Fault Surroundings :=
  match around.properties.written with
  | none => .ok around
  | some tag => do
      let uri ← around.uriOf tag
      return { around with
        properties := { around.properties with written := none, tag := some uri } }

/-- An anchor in front of a node, which has at most one. -/
def withAnchor (around : Surroundings) (name : String) : Except Fault Surroundings :=
  let properties := around.properties
  if properties.anchor.isSome then .error .malformed
  else { around with properties := { properties with anchor := some name } }.withFullTag

/-- A tag in front of a node, which has at most one. Its handle is looked up at once if an anchor is
there already, and otherwise with the next token. -/
def withTag (around : Surroundings) (tag : WrittenTag) : Except Fault Surroundings :=
  let properties := around.properties
  let tagged := { around with properties := { properties with written := some tag } }
  if properties.hasTag then .error .malformed
  else if properties.anchor.isSome then tagged.withFullTag
  else .ok tagged

/-- A node begins. Its anchor is given to it; each anchor only once. -/
def begin (around : Surroundings) (node : Node) : Except Fault (Surroundings × NodeId) :=
  let number := around.nodes.size
  let begun := { around with nodes := around.nodes.push node, properties := Properties.none }
  match around.properties.anchor with
  | none => .ok (begun, number)
  | some name =>
      if (around.anchors.lookup name).isSome then .error .malformed
      else .ok ({ begun with anchors := (name, number) :: around.anchors }, number)

/-- A collection is complete. -/
def complete (around : Surroundings) (number : NodeId) (content : Content) : Surroundings :=
  { around with nodes := around.nodes.modify number fun node => { node with content := content } }

end Surroundings

/-- The stages of a stream. -/
inductive Stage where
  /-- Before the document: whether anything was read, and whether a version was. -/
  | prologue (begun versioned : Bool)
  /-- Inside the frames, the innermost first; without a frame the root is about to begin. -/
  | inside (frames : List Frame)
  /-- After the root of the document. -/
  | ended (root : Link)
  /-- After a directive behind the document: whether a version was read there. -/
  | epilogue (versioned : Bool)
  | done (root : Link)

/-- How far the reading has come. -/
abbrev Progress := Surroundings × Stage

/-- A directive is read; whether a version was read is known before and after. -/
def readDirectiveIn (around : Surroundings) (versioned : Bool) (directive : Directive) :
    Except Fault (Surroundings × Bool) :=
  match directive with
  | .version major =>
      if versioned || major != 1 then .error .malformed else .ok (around, true)
  | .tag handle expansion =>
      if (around.handles.lookup handle).isSome then .error .malformed
      else .ok ({ around with handles := (handle, expansion) :: around.handles }, versioned)
  | .unknown => .ok (around, versioned)

/-- A token after the root. Another document is refused, but not before its directives are read. -/
def afterRoot (around : Surroundings) (root : Link) (token : Token) : Except Fault Progress :=
  match token with
  | .documentEnd => .ok (around, .ended root)
  | .streamEnd => .ok (around, .done root)
  | .directive directive => do
      let (around, versioned) ← readDirectiveIn { around with handles := [] } false directive
      return (around, .epilogue versioned)
  | _ => .error .malformed

/-- The stage once the node is there that the innermost frame waits for. -/
def Stage.filled (frames : List Frame) (node : Link) : Stage :=
  match frames with
  | [] => .ended node
  | frame :: outer => .inside (frame.fill node :: outer)

/-- A token is offered to a frame in which no node begins. -/
def pass (around : Surroundings) (token : Token) (frame : Frame) (outer : List Frame) :
    Except Fault Progress :=
  match frame.react token with
  | .take frame => .ok (around, .inside (frame :: outer))
  | .nest frame => do
      let (around, number) ← around.begin ⟨.mapping, .mapping []⟩
      return (around, .inside (.flowPair number .key none :: frame :: outer))
  | .close number content => .ok (around.complete number content, .filled outer (some number))
  | .leave number content =>
      let completed := around.complete number content
      match outer with
      | [] => afterRoot completed (some number) token
      | parent :: outer => pass completed token (parent.fill (some number)) outer
  | _ => .error .malformed

/-- A token follows a node that was left out. -/
def passFilled (around : Surroundings) (token : Token) (frames : List Frame) (node : Link) :
    Except Fault Progress :=
  match frames with
  | [] => afterRoot around node token
  | frame :: outer => pass around token (frame.fill node) outer

/-- A token begins what stands behind the properties of a node, if it is not left out. -/
def beginContent (around : Surroundings) (token : Token) (block flush : Bool)
    (frames : List Frame) : Except Fault Progress := do
  let properties := around.properties
  let collection (usual : Tag) (content : Content) (frame : NodeId → Frame) :
      Except Fault Progress := do
    let (around, number) ← around.begin (properties.collection usual content)
    return (around, .inside (frame number :: frames))
  let leftOut : Except Fault Progress :=
    if properties.isEmpty then .error .malformed
    else do
      let (around, number) ← around.begin (properties.scalar "" true)
      passFilled around token frames (some number)
  match token with
  | .alias name =>
      match properties.isEmpty, around.anchors.lookup name with
      | true, some number => return (around, .filled frames (some number))
      | _, _ => .error .malformed
  | .scalar text plain =>
      let (around, number) ← around.begin (properties.scalar text plain)
      return (around, .filled frames (some number))
  | .flowSequenceStart => collection .list (.sequence []) (.flowSequence · [] false)
  | .flowMappingStart => collection .mapping (.mapping []) (.flowMapping · [] .item)
  | .blockSequenceStart =>
      if block then collection .list (.sequence []) (.blockSequence · [] false) else leftOut
  | .blockMappingStart =>
      if block then collection .mapping (.mapping []) (.blockMapping · [] .entry) else leftOut
  | .blockEntry =>
      if flush then collection .list (.sequence []) (.flushSequence · [] true) else leftOut
  | _ => leftOut

/-- A token begins a node in the innermost frame, or completes its properties. -/
def beginNode (around : Surroundings) (token : Token) (block flush : Bool) (frames : List Frame) :
    Except Fault Progress := do
  match token with
  | .anchor name => return (← around.withAnchor name, .inside frames)
  | .tag tag => return (← around.withTag tag, .inside frames)
  | _ => beginContent (← around.withFullTag) token block flush frames

/-- The place of a frame where a node has begun with its properties. -/
def Frame.open? (frame : Frame) : Option (Bool × Bool) :=
  match frame.react (.scalar "" false) with
  | .begin block flush _ => some (block, flush)
  | _ => none

/-- The token stands outside the nodes of a document. -/
def Token.isOutside : Token → Bool
  | directive _ => true
  | documentStart => true
  | documentEnd => true
  | streamEnd => true
  | _ => false

/-- A token inside the document. Once properties were read, the node they belong to has begun. -/
def offer (around : Surroundings) (token : Token) (frames : List Frame) :
    Except Fault Progress :=
  match around.properties.isEmpty, frames with
  | true, [] =>
      if token.isOutside then afterRoot around none token
      else beginNode around token true false []
  | false, [] => beginNode around token true false []
  | true, frame :: outer =>
      match frame.react token with
      | .begin block flush frame => beginNode around token block flush (frame :: outer)
      | _ => pass around token frame outer
  | false, frame :: outer =>
      match frame.open? with
      | some (block, flush) => beginNode around token block flush (frame :: outer)
      | none => .error .malformed

/-- One more token. -/
def Progress.step (progress : Progress) (token : Token) : Except Fault Progress :=
  let (around, stage) := progress
  match stage, token with
  | .done _, _ => .error .malformed
  | .inside frames, _ => offer around token frames
  | .ended root, _ => afterRoot around root token
  | .epilogue versioned, .directive directive => do
      let (around, versioned) ← readDirectiveIn around versioned directive
      return (around, .epilogue versioned)
  | .epilogue _, _ => .error .malformed
  | .prologue _ versioned, .directive directive => do
      let (around, versioned) ← readDirectiveIn around versioned directive
      return (around, .prologue true versioned)
  | .prologue _ _, .documentStart =>
      .ok ({ around with handles := around.handles ++ defaultHandles }, .inside [])
  | .prologue true _, _ => .error .malformed
  | .prologue false _, .documentEnd => .error .malformed
  | .prologue false _, .streamEnd => .ok (around, .done none)
  | .prologue false _, _ => offer { around with handles := defaultHandles } token []

/-- The tokens of the cells from the next one on, each offered as soon as it need not be held back.
-/
def readFrom (lexer : Lexer) (progress : Progress) : List Cell → Except Fault Progress
  | [] => do (← lexer.finish).foldlM Progress.step progress
  | cell :: rest =>
      if cell.index < lexer.resume || cell.char == ' ' then readFrom lexer progress rest
      else if cell.char == '#' then
        readFrom (lexer.resumeAt (rest.dropWhile (!endsLine ·.char))) progress rest
      else if isBreak cell.char then
        readFrom { lexer with keysAllowed := lexer.keysAllowed || !lexer.inFlow } progress rest
      else do
        let arrived ← lexer.arrive cell
        if cell.char == endMark then (← arrived.finish).foldlM Progress.step progress
        else
          let found ← arrived.fetch cell rest
          let (tokens, waiting) ← found.release rest
          readFrom waiting (← tokens.foldlM Progress.step progress) rest

/-- The nodes of the only document that a text spells. A text without a document has no root. -/
def NodeGraph.ofText (text : List Char) : Except Fault NodeGraph := do
  let start : Progress := (⟨[], #[], [], Properties.none⟩, .prologue false false)
  match ← readFrom Lexer.start start (← cells text) with
  | (around, .done root) => return ⟨around.nodes, root⟩
  | _ => .error .malformed

end OpenApiJava.Yaml
