import OpenApiJava.Yaml.Cell

/-!
# Block scalars

A block scalar holds the lines below its header that are indented as its first line is. Literal
scalars keep line breaks; folded scalars make one space of a line break between two lines that start
with text. The header says what becomes of the line breaks at the end.
-/

namespace OpenApiJava.Yaml

/-- What becomes of the line breaks at the end. -/
inductive Chomping where
  | clip
  | strip
  | keep
deriving DecidableEq, Repr

/-- What the header of a block scalar says. -/
structure BlockHeader where
  chomping : Chomping
  increment : Option Nat

/-- A chomping indicator, if one stands here. -/
def chompingMark : List Cell → Option (Chomping × List Cell)
  | cell :: rest =>
      if cell.char == '+' then some (.keep, rest)
      else if cell.char == '-' then some (.strip, rest)
      else none
  | [] => none

/-- An indentation indicator, if one stands here. -/
def incrementMark : List Cell → Option (Nat × List Cell)
  | cell :: rest =>
      if cell.char.isDigit then some (cell.char.toNat - '0'.toNat, rest) else none
  | [] => none

/-- The header and the cells after its indicators. They stand in any order, each at most once. -/
def blockHeader (cells : List Cell) : BlockHeader × List Cell :=
  match chompingMark cells with
  | some (chomping, rest) =>
      match incrementMark rest with
      | some (increment, rest) => (⟨chomping, some increment⟩, rest)
      | none => (⟨chomping, none⟩, rest)
  | none =>
      match incrementMark cells with
      | some (increment, rest) =>
          match chompingMark rest with
          | some (chomping, rest) => (⟨chomping, some increment⟩, rest)
          | none => (⟨.clip, some increment⟩, rest)
      | none => (⟨.clip, none⟩, cells)

/-- The cells after the rest of a line that may only hold spaces and a comment. -/
def endOfLine (cells : List Cell) : Except Fault (List Cell) :=
  let afterSpaces := cells.dropWhile (·.char == ' ')
  let afterComment :=
    if firstChar afterSpaces == '#' then afterSpaces.dropWhile (!endsLine ·.char) else afterSpaces
  match afterComment with
  | cell :: rest =>
      if isBreak cell.char then .ok rest
      else if cell.char == endMark then .ok (cell :: rest)
      else .error .malformed
  | [] => .ok []

/-- The line breaks before the first line with text, and the greatest indentation of the lines of
spaces among them. -/
def leadingLines (deepest : Nat) (breaks : List Char) : List Cell → List Char × Nat × List Cell
  | [] => (breaks, deepest, [])
  | cell :: rest =>
      if cell.char == ' ' then leadingLines (max deepest (cell.column + 1)) breaks rest
      else if isBreak cell.char then leadingLines deepest (breaks ++ [cell.char]) rest
      else (breaks, deepest, cell :: rest)

/-- A line that has ended: its line break, and whether it starts with text. -/
structure EndedLine where
  lineBreak : Char
  startsWithText : Bool

/-- Where the reading of the lines stands. -/
inductive BlockMode where
  | lineStart (previous : Option EndedLine) (breaks : List Char)
  | inLine (startsWithText : Bool)

/-- A block scalar that was read: its text in reverse, the line break of its last line, the line
breaks after that, and the cells after it. -/
structure BlockScalar where
  reversed : List Char
  lastBreak : Option Char
  breaks : List Char
  rest : List Cell

/-- What stands between the line before and a line that starts with a character. -/
def lineJoint (folded : Bool) (previous : Option EndedLine) (breaks : List Char)
    (character : Char) : List Char :=
  match previous with
  | none => breaks
  | some line =>
      let isText := character != ' ' && character != '\t'
      if folded && line.lineBreak == '\n' && line.startsWithText && isText then
        if breaks.isEmpty then [' '] else breaks
      else line.lineBreak :: breaks

/-- The block scalar that goes on with these cells. -/
def blockFrom (folded : Bool) (indent : Nat) (mode : BlockMode) (reversed : List Char) :
    List Cell → BlockScalar
  | [] => ⟨reversed, none, [], []⟩
  | cell :: rest =>
      let character := cell.char
      match mode with
      | .inLine startsWithText =>
          if character == endMark then ⟨reversed, none, [], cell :: rest⟩
          else if isBreak character then
            blockFrom folded indent (.lineStart (some ⟨character, startsWithText⟩) []) reversed rest
          else blockFrom folded indent (.inLine startsWithText) (character :: reversed) rest
      | .lineStart previous breaks =>
          if character == ' ' && cell.column < indent then
            blockFrom folded indent (.lineStart previous breaks) reversed rest
          else if isBreak character then
            blockFrom folded indent (.lineStart previous (breaks ++ [character])) reversed rest
          else if cell.column == indent && character != endMark then
            let joint := lineJoint folded previous breaks character
            let startsWithText := character != ' ' && character != '\t'
            blockFrom folded indent (.inLine startsWithText)
              (character :: (joint.reverse ++ reversed)) rest
          else ⟨reversed, previous.map (·.lineBreak), breaks, cell :: rest⟩

/-- The text of a block scalar once the line breaks at its end are dealt with. -/
def BlockScalar.text (scalar : BlockScalar) (chomping : Chomping) : List Char :=
  let final := match chomping with
    | .strip => []
    | .clip => scalar.lastBreak.toList
    | .keep => scalar.lastBreak.toList ++ scalar.breaks
  scalar.reversed.reverse ++ final

/-- The block scalar whose header follows its indicator, inside a block of the given indentation. -/
def readBlock (folded : Bool) (outer : Int) (cells : List Cell) :
    Except Fault (List Char × List Cell) := do
  let (header, afterHeader) := blockHeader cells
  if header.increment == some 0 || !isGap (firstChar afterHeader) then .error .malformed
  else
    let body ← endOfLine afterHeader
    let least := (max (outer + 1) 1).toNat
    let scalar :=
      match header.increment with
      | some increment =>
          blockFrom folded (least + increment - 1) (.lineStart none []) [] body
      | none =>
          let (breaks, deepest, start) := leadingLines 0 [] body
          blockFrom folded (max least deepest) (.lineStart none breaks) [] start
    return (scalar.text header.chomping, scalar.rest)

end OpenApiJava.Yaml
