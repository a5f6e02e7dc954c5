import OpenApiJava.Yaml.PlainScalar
import OpenApiJava.Yaml.QuotedScalar
import OpenApiJava.Yaml.Token

/-!
# Finding tokens

Tokens are found in one pass over the cells; cells that belong to a token already found are passed
over. Indentation opens and closes block collections. A key is recognised only at the colon behind
it, so the places where a key may have begun are remembered, one for each level of flow collections,
and the tokens from the first of these places on are held back.
-/

namespace OpenApiJava.Yaml

/-- A place where a key may have begun. -/
structure PossibleKey where
  /-- The number of tokens before it. -/
  position : Nat
  /-- Nothing but a key may stand here. -/
  required : Bool
  cell : Cell

/-- What is known between two tokens. -/
structure Lexer where
  /-- The tokens that are held back, in reverse. -/
  reversed : List Token
  /-- The number of tokens found so far. -/
  size : Nat
  /-- The number of open flow collections. -/
  flow : Nat
  /-- The indentation of the innermost block collection. -/
  indent : Int
  /-- The indentations of the block collections around it. -/
  outer : List Int
  /-- A key may begin here. -/
  keysAllowed : Bool
  /-- Where a key may have begun, by flow level, the innermost first. -/
  keys : List (Option PossibleKey)
  /-- The index of the first cell that belongs to no token yet. -/
  resume : Nat

namespace Lexer

/-- Nothing has been read. -/
def start : Lexer :=
  ⟨[], 0, 0, -1, [], true, [none], 0⟩

/-- The lexer inside flow collections. -/
def inFlow (lexer : Lexer) : Bool :=
  lexer.flow != 0

/-- One more token. -/
def push (lexer : Lexer) (token : Token) : Lexer :=
  { lexer with reversed := token :: lexer.reversed, size := lexer.size + 1 }

/-- A token before those that follow the first `position` ones. -/
def insertAt (lexer : Lexer) (position : Nat) (token : Token) : Lexer :=
  let depth := lexer.size - position
  { lexer with
    reversed := lexer.reversed.take depth ++ token :: lexer.reversed.drop depth
    size := lexer.size + 1 }

/-- The next token is looked for from these cells on. -/
def resumeAt (lexer : Lexer) (cells : List Cell) : Lexer :=
  match cells with
  | cell :: _ => { lexer with resume := cell.index }
  | [] => lexer

/-- The possible key unless the colon behind it comes too late: on another line, or too far on. -/
def freshKey (cell : Cell) (key : Option PossibleKey) : Except Fault (Option PossibleKey) :=
  match key with
  | none => .ok none
  | some place =>
      if place.cell.line != cell.line || place.cell.index + 1024 < cell.index then
        if place.required then .error .malformed else .ok none
      else .ok (some place)

/-- The lexer without the possible keys that came too early for this cell. -/
def dropStaleKeys (lexer : Lexer) (cell : Cell) : Except Fault Lexer := do
  let keys ← lexer.keys.mapM (freshKey cell)
  return { lexer with keys := keys }

/-- The lexer without the possible key of the innermost level. -/
def dropKey (lexer : Lexer) : Except Fault Lexer :=
  match lexer.keys with
  | some place :: rest =>
      if place.required then .error .malformed else .ok { lexer with keys := none :: rest }
  | _ => .ok lexer

/-- A key may begin at this cell. -/
def saveKey (lexer : Lexer) (cell : Cell) : Except Fault Lexer := do
  if lexer.keysAllowed then
    let cleared ← lexer.dropKey
    let required := !lexer.inFlow && lexer.indent == (cell.column : Int)
    let place : PossibleKey := ⟨lexer.size, required, cell⟩
    return { cleared with keys := some place :: cleared.keys.drop 1 }
  else return lexer

/-- The indentations once the blocks indented deeper than a column are closed, and the number of
these blocks. -/
def closeBlocks (column : Int) (indent : Int) : List Int → Int × List Int × Nat
  | [] => (indent, [], 0)
  | next :: rest =>
      if column < indent then
        let (left, outer, closed) := closeBlocks column next rest
        (left, outer, closed + 1)
      else (indent, next :: rest, 0)

/-- The lexer once the blocks indented deeper than a column are closed. -/
def unwind (lexer : Lexer) (column : Int) : Lexer :=
  if lexer.inFlow then lexer
  else
    let (indent, outer, closed) := closeBlocks column lexer.indent lexer.outer
    { lexer with
      reversed := List.replicate closed .blockEnd ++ lexer.reversed
      size := lexer.size + closed
      indent := indent
      outer := outer }

/-- A block collection at this column, unless it is open already. -/
def openBlock (lexer : Lexer) (column : Nat) (position : Nat) (token : Token) : Lexer :=
  if lexer.indent < column then
    let opened := lexer.insertAt position token
    { opened with indent := column, outer := lexer.indent :: lexer.outer }
  else lexer

/-- A block collection that begins with the next token, where one may begin. -/
def openBlockHere (lexer : Lexer) (cell : Cell) (token : Token) : Except Fault Lexer :=
  if lexer.inFlow then .ok lexer
  else if lexer.keysAllowed then
    .ok (lexer.openBlock cell.column lexer.size token)
  else .error .malformed

/-- A token that ends all blocks. -/
def atLineStart (lexer : Lexer) : Except Fault Lexer := do
  let cleared ← (lexer.unwind (-1)).dropKey
  return { cleared with keysAllowed := false }

/-- A flow collection opens. -/
def openFlow (lexer : Lexer) (cell : Cell) (token : Token) : Except Fault Lexer := do
  let saved ← lexer.saveKey cell
  let opened :=
    { saved with flow := saved.flow + 1, keysAllowed := true, keys := none :: saved.keys }
  return opened.push token

/-- A flow collection closes. -/
def closeFlow (lexer : Lexer) (token : Token) : Except Fault Lexer := do
  let cleared ← lexer.dropKey
  if cleared.flow == 0 then .error .malformed
  else
    let closed :=
      { cleared with flow := cleared.flow - 1, keysAllowed := false, keys := cleared.keys.drop 1 }
    return closed.push token

/-- An entry of a flow collection ends. -/
def flowEntry (lexer : Lexer) : Except Fault Lexer := do
  let cleared ← { lexer with keysAllowed := true }.dropKey
  return cleared.push .flowEntry

/-- An entry of a block sequence begins. -/
def blockEntry (lexer : Lexer) (cell : Cell) : Except Fault Lexer := do
  let opened ← lexer.openBlockHere cell .blockSequenceStart
  let cleared ← { opened with keysAllowed := true }.dropKey
  return cleared.push .blockEntry

/-- A key begins that is marked as one. -/
def explicitKey (lexer : Lexer) (cell : Cell) : Except Fault Lexer := do
  let opened ← lexer.openBlockHere cell .blockMappingStart
  let cleared ← { opened with keysAllowed := !lexer.inFlow }.dropKey
  return cleared.push .key

/-- A value begins. What stands before the colon is a key if a key may have begun there. -/
def value (lexer : Lexer) (cell : Cell) : Except Fault Lexer := do
  match lexer.keys with
  | some place :: rest =>
      let keyed := { lexer with keys := none :: rest }.insertAt place.position .key
      let opened :=
        if lexer.inFlow then keyed
        else keyed.openBlock place.cell.column place.position .blockMappingStart
      return { opened with keysAllowed := false }.push .value
  | _ =>
      let opened ← lexer.openBlockHere cell .blockMappingStart
      let cleared ← { opened with keysAllowed := !lexer.inFlow }.dropKey
      return cleared.push .value

/-- A token that may be a key, with the cells after it. -/
def content (lexer : Lexer) (cell : Cell) (token : Token) (rest : List Cell) :
    Except Fault Lexer := do
  let saved ← lexer.saveKey cell
  return ({ saved with keysAllowed := false }.push token).resumeAt rest

/-- A block scalar begins. -/
def block (lexer : Lexer) (folded : Bool) (rest : List Cell) : Except Fault Lexer := do
  let cleared ← { lexer with keysAllowed := true }.dropKey
  let (text, rest) ← readBlock folded lexer.indent rest
  return (cleared.push (.scalar (String.ofList text) false)).resumeAt rest

/-- A plain scalar begins. -/
def plain (lexer : Lexer) (cell : Cell) (cells : List Cell) : Except Fault Lexer := do
  let scalar := plainFrom lexer.inFlow (lexer.indent + 1) .none [] cells
  let token := Token.scalar (String.ofList scalar.reversed.reverse) true
  let found ← lexer.content cell token scalar.rest
  return { found with keysAllowed := scalar.brokeLine }

/-- A plain scalar may begin with these two characters. -/
def startsPlain (lexer : Lexer) (character next : Char) : Bool :=
  let special := isWide character || "-?:,[]{}#&*!|>'\"%@\x60".toList.contains character
  !special || (!isWide next && (character == '-' ||
    (!lexer.inFlow && (character == '?' || character == ':'))))

/-- The token that begins with this cell. -/
def fetch (lexer : Lexer) (cell : Cell) (rest : List Cell) : Except Fault Lexer := do
  let character := cell.char
  let next := firstChar rest
  let after := { lexer with resume := cell.index + 1 }
  if character == '%' && cell.column == 0 then
    let (directive, rest) ← readDirective (cell :: rest)
    return ((← after.atLineStart).push (.directive directive)).resumeAt rest
  else if cell.column == 0 && marksDocument '-' (cell :: rest) then
    return ((← after.atLineStart).push .documentStart).resumeAt (rest.drop 2)
  else if cell.column == 0 && marksDocument '.' (cell :: rest) then
    return ((← after.atLineStart).push .documentEnd).resumeAt (rest.drop 2)
  else if character == '[' then after.openFlow cell .flowSequenceStart
  else if character == '{' then after.openFlow cell .flowMappingStart
  else if character == ']' then after.closeFlow .flowSequenceEnd
  else if character == '}' then after.closeFlow .flowMappingEnd
  else if character == ',' then after.flowEntry
  else if character == '-' && isWide next then after.blockEntry cell
  else if character == '?' && (lexer.inFlow || isWide next) then after.explicitKey cell
  else if character == ':' && (lexer.inFlow || isWide next) then after.value cell
  else if character == '*' then
    let (name, rest) ← readAnchor rest
    after.content cell (.alias name) rest
  else if character == '&' then
    let (name, rest) ← readAnchor rest
    after.content cell (.anchor name) rest
  else if character == '!' then
    let (tag, rest) ← readTag (cell :: rest)
    after.content cell (.tag tag) rest
  else if character == '|' && !lexer.inFlow then after.block false rest
  else if character == '>' && !lexer.inFlow then after.block true rest
  else if character == '\x27' || character == '"' then
    let (text, rest) ← quotedFrom (character == '"') .word [] rest
    after.content cell (.scalar (String.ofList text) false) rest
  else if after.startsPlain character next then after.plain cell (cell :: rest)
  else .error .malformed

/-- The lexer at a cell where a token begins: keys and blocks that end before it are dealt with. -/
def arrive (lexer : Lexer) (cell : Cell) : Except Fault Lexer := do
  let fresh ← lexer.dropStaleKeys cell
  return fresh.unwind cell.column

/-- The tokens that are held back once the cells end. -/
def finish (lexer : Lexer) : Except Fault (List Token) := do
  let done ← (lexer.unwind (-1)).dropKey
  return (Token.streamEnd :: done.reversed).reverse

/-- The number of tokens before the first place where a key may have begun. -/
def settled (lexer : Lexer) : Nat :=
  lexer.keys.foldl
    (fun least key => (key.map fun place => min least place.position).getD least) lexer.size

/-- The tokens that need not be held back, and the lexer without them, once it has come to the first
of these cells that belongs to no token. -/
def release (lexer : Lexer) (cells : List Cell) : Except Fault (List Token × Lexer) := do
  let fresh ←
    match cells.find? fun cell => lexer.resume ≤ cell.index with
    | some cell => lexer.dropStaleKeys cell
    | none => .ok lexer
  let kept := fresh.size - fresh.settled
  return ((fresh.reversed.drop kept).reverse, { fresh with reversed := fresh.reversed.take kept })

end Lexer

end OpenApiJava.Yaml
