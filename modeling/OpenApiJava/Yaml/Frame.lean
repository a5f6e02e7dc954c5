import OpenApiJava.Yaml.Node
import OpenApiJava.Yaml.Token

/-!
# Frames

A frame is an unfinished collection, given by the number of its node. It is offered the next token,
and takes it, begins a node in one of its places, or is complete and leaves the token to the
collection around it.
-/

namespace OpenApiJava.Yaml

/-- What an unfinished mapping waits for. -/
inductive Slot where
  /-- A key or the end. -/
  | entry
  /-- A key or the end, after a comma. -/
  | item
  /-- The node of a key. -/
  | key
  /-- The node of a key that stands without a mark and has no value. -/
  | lone
  /-- The mark of a value. -/
  | colon (key : Link)
  /-- The node of a value. -/
  | value (key : Link)
  /-- The mark between two entries. -/
  | comma

/-- An unfinished collection; what it holds is reversed. Of a block sequence and of a sequence
without indentation of its own it is known whether an item was announced. -/
inductive Frame where
  | blockSequence (number : NodeId) (items : List Link) (announced : Bool)
  | flushSequence (number : NodeId) (items : List Link) (announced : Bool)
  | flowSequence (number : NodeId) (items : List Link) (afterItem : Bool)
  | blockMapping (number : NodeId) (entries : List (Link × Link)) (slot : Slot)
  | flowMapping (number : NodeId) (entries : List (Link × Link)) (slot : Slot)
  /-- A mapping of one entry inside a flow sequence. -/
  | flowPair (number : NodeId) (slot : Slot) (entry : Option (Link × Link))

/-- What a frame does with a token. -/
inductive Reaction where
  /-- It takes the token. -/
  | take (frame : Frame)
  /-- It takes the token and opens a mapping of one entry inside. -/
  | nest (frame : Frame)
  /-- It takes the token and is complete. -/
  | close (number : NodeId) (content : Content)
  /-- It is complete without the token. -/
  | leave (number : NodeId) (content : Content)
  /-- The token begins a node, in block style or as a sequence without indentation if these fit. -/
  | begin (block flush : Bool) (frame : Frame)
  | refuse

namespace Frame

/-- The frame once the node that it waits for is there. -/
def fill (frame : Frame) (node : Link) : Frame :=
  match frame with
  | blockSequence number items _ => blockSequence number (node :: items) false
  | flushSequence number items _ => flushSequence number (node :: items) false
  | flowSequence number items _ => flowSequence number (node :: items) true
  | blockMapping number entries (.value key) =>
      blockMapping number ((key, node) :: entries) .entry
  | blockMapping number entries _ => blockMapping number entries (.colon node)
  | flowMapping number entries (.value key) =>
      flowMapping number ((key, node) :: entries) .comma
  | flowMapping number entries .lone => flowMapping number ((node, none) :: entries) .comma
  | flowMapping number entries _ => flowMapping number entries (.colon node)
  | flowPair number (.value key) _ => flowPair number .comma (some (key, node))
  | flowPair number _ _ => flowPair number (.colon node) none

/-- A complete sequence. -/
def sequenceOf (reversed : List Link) : Content :=
  .sequence reversed.reverse

/-- A complete mapping. -/
def mappingOf (reversed : List (Link × Link)) : Content :=
  .mapping reversed.reverse

/-- What a block sequence does. -/
def reactBlockSequence (number : NodeId) (items : List Link) (announced : Bool)
    (token : Token) : Reaction :=
  let all := if announced then none :: items else items
  match token, announced with
  | .blockEntry, _ => .take (blockSequence number all true)
  | .blockEnd, _ => .close number (sequenceOf all)
  | _, true => .begin true false (blockSequence number items true)
  | _, false => .refuse

/-- What a sequence without indentation of its own does. -/
def reactFlushSequence (number : NodeId) (items : List Link) (announced : Bool)
    (token : Token) : Reaction :=
  let all := if announced then none :: items else items
  let leave := Reaction.leave number (sequenceOf all)
  match token, announced with
  | .blockEntry, _ => .take (flushSequence number all true)
  | .key, _ => leave
  | .value, _ => leave
  | .blockEnd, _ => leave
  | _, true => .begin true false (flushSequence number items true)
  | _, false => leave

/-- What a block mapping does. -/
def reactBlockMapping (number : NodeId) (entries : List (Link × Link)) (slot : Slot)
    (token : Token) : Reaction :=
  let withEntry (entries : List (Link × Link)) : Reaction :=
    match token with
    | .key => .take (blockMapping number entries .key)
    | .blockEnd => .close number (mappingOf entries)
    | _ => .refuse
  match slot, token with
  | .key, .value => .take (blockMapping number entries (.value none))
  | .key, .key => withEntry ((none, none) :: entries)
  | .key, .blockEnd => withEntry ((none, none) :: entries)
  | .key, _ => .begin true true (blockMapping number entries .key)
  | .colon key, .value => .take (blockMapping number entries (.value key))
  | .colon key, _ => withEntry ((key, none) :: entries)
  | .value key, .key => withEntry ((key, none) :: entries)
  | .value key, .blockEnd => withEntry ((key, none) :: entries)
  | .value _, .value => .refuse
  | .value key, _ => .begin true true (blockMapping number entries (.value key))
  | _, _ => withEntry entries

/-- What a flow sequence does. -/
def reactFlowSequence (number : NodeId) (items : List Link) (afterItem : Bool)
    (token : Token) : Reaction :=
  match token, afterItem with
  | .flowSequenceEnd, _ => .close number (sequenceOf items)
  | .flowEntry, true => .take (flowSequence number items false)
  | .key, false => .nest (flowSequence number items false)
  | _, true => .refuse
  | _, false => .begin false false (flowSequence number items false)

/-- What a mapping of one entry inside a flow sequence does. -/
def reactFlowPair (number : NodeId) (slot : Slot) (entry : Option (Link × Link))
    (token : Token) : Reaction :=
  let leave (key value : Link) : Reaction := .leave number (mappingOf [(key, value)])
  match slot, entry, token with
  | _, some (key, value), _ => leave key value
  | .key, _, .value => .take (flowPair number (.value none) none)
  | .key, _, .flowEntry => leave none none
  | .key, _, .flowSequenceEnd => leave none none
  | .key, _, _ => .begin false false (flowPair number .key none)
  | .colon key, _, .value => .take (flowPair number (.value key) none)
  | .colon key, _, _ => leave key none
  | .value key, _, .flowEntry => leave key none
  | .value key, _, .flowSequenceEnd => leave key none
  | .value key, _, _ => .begin false false (flowPair number (.value key) none)
  | _, _, _ => .refuse

/-- What a flow mapping does. -/
def reactFlowMapping (number : NodeId) (entries : List (Link × Link)) (slot : Slot)
    (token : Token) : Reaction :=
  let afterEntry (entries : List (Link × Link)) : Reaction :=
    match token with
    | .flowEntry => .take (flowMapping number entries .item)
    | .flowMappingEnd => .close number (mappingOf entries)
    | _ => .refuse
  match slot, token with
  | .comma, _ => afterEntry entries
  | .key, .value => .take (flowMapping number entries (.value none))
  | .key, .flowEntry => afterEntry ((none, none) :: entries)
  | .key, .flowMappingEnd => afterEntry ((none, none) :: entries)
  | .key, _ => .begin false false (flowMapping number entries .key)
  | .colon key, .value => .take (flowMapping number entries (.value key))
  | .colon key, _ => afterEntry ((key, none) :: entries)
  | .value key, .flowEntry => afterEntry ((key, none) :: entries)
  | .value key, .flowMappingEnd => afterEntry ((key, none) :: entries)
  | .value key, _ => .begin false false (flowMapping number entries (.value key))
  | _, .flowMappingEnd => afterEntry entries
  | _, .key => .take (flowMapping number entries .key)
  | _, _ => .begin false false (flowMapping number entries .lone)

def react : Frame → Token → Reaction
  | blockSequence number items announced, token =>
      reactBlockSequence number items announced token
  | flushSequence number items announced, token =>
      reactFlushSequence number items announced token
  | flowSequence number items afterItem, token =>
      reactFlowSequence number items afterItem token
  | blockMapping number entries slot, token =>
      reactBlockMapping number entries slot token
  | flowMapping number entries slot, token =>
      reactFlowMapping number entries slot token
  | flowPair number slot entry, token => reactFlowPair number slot entry token

end Frame

end OpenApiJava.Yaml
