/-!
# Characters with places

Indentation matters in YAML, so every character is given its place: its line, its column, and its
distance from the start. A list of cells ends with an end mark. All line breaks but the two Unicode
separators count as line feeds.
-/

namespace OpenApiJava.Yaml

/-- Why a scalar has no value of the kind that its tag asks for. -/
inductive ValueFault where
  /-- A boolean is none of the known words. -/
  | unknownBoolean
  /-- A number has no digits. -/
  | emptyNumber
  /-- A date is none. -/
  | unknownDate
  /-- A date is the default value of a mapping. -/
  | nestedDate
  /-- A number is beyond the range of its kind. -/
  | numberTooLarge
deriving DecidableEq, Repr

/-- Why a text is no YAML document of one tree. -/
inductive Fault where
  | malformed
  | value (fault : ValueFault)
deriving DecidableEq, Repr

/-- A character and its place. -/
structure Cell where
  char : Char
  line : Nat
  column : Nat
  index : Nat
deriving Repr, Inhabited

def endMark : Char := '\x00'

/-- A line break, once line breaks are told by one character. -/
def isBreak (character : Char) : Bool :=
  character == '\n' || character == '\u2028' || character == '\u2029'

/-- A line break or the end. -/
def endsLine (character : Char) : Bool :=
  isBreak character || character == endMark

/-- A space, a line break or the end. -/
def isGap (character : Char) : Bool :=
  character == ' ' || endsLine character

/-- A space, a tab, a line break or the end. -/
def isWide (character : Char) : Bool :=
  character == '\t' || isGap character

/-- The place where the next cell goes. -/
structure Place where
  line : Nat
  column : Nat
  index : Nat

def Place.cell (place : Place) (character : Char) : Cell :=
  ⟨character, place.line, place.column, place.index⟩

/-- The place after a line break that takes some characters. -/
def Place.newLine (place : Place) (width : Nat) : Place :=
  ⟨place.line + 1, 0, place.index + width⟩

/-- The place after a character. A byte order mark takes no column. -/
def Place.next (place : Place) (character : Char) : Place :=
  { place with
    column := if character == '\ufeff' then place.column else place.column + 1
    index := place.index + 1 }

/-- The cells of a text from a place on, after the reversed cells before it. -/
def cellsFrom (place : Place) (reversed : List Cell) : List Char → List Cell
  | [] => (place.cell endMark :: reversed).reverse
  | '\r' :: '\n' :: rest => cellsFrom (place.newLine 2) (place.cell '\n' :: reversed) rest
  | character :: rest =>
      if character == '\r' || character == '\u0085' || character == '\n' then
        cellsFrom (place.newLine 1) (place.cell '\n' :: reversed) rest
      else if isBreak character then
        cellsFrom (place.newLine 1) (place.cell character :: reversed) rest
      else cellsFrom (place.next character) (place.cell character :: reversed) rest

/-- A character that may stand in a document. -/
def isAllowed (character : Char) : Bool :=
  let code := character.toNat
  code == 0x09 || code == 0x0a || code == 0x0d || code == 0x85 ||
    (0x20 ≤ code && code ≤ 0x7e) || (0xa0 ≤ code && code ≤ 0xd7ff) ||
    (0xe000 ≤ code && code ≤ 0xfffd) || 0x10000 ≤ code

/-- The cells of a text. A byte order mark in front is passed over. -/
def cells (text : List Char) : Except Fault (List Cell) :=
  if text.all isAllowed then
    match text with
    | '\ufeff' :: rest => .ok (cellsFrom ⟨0, 0, 1⟩ [] rest)
    | _ => .ok (cellsFrom ⟨0, 0, 0⟩ [] text)
  else .error .malformed

/-- The first character; after the end mark there are only end marks. -/
def firstChar : List Cell → Char
  | [] => endMark
  | cell :: _ => cell.char

/-- The cells begin with a mark of three characters that is followed by a gap. -/
def marksDocument (mark : Char) : List Cell → Bool
  | first :: second :: third :: rest =>
      first.char == mark && second.char == mark && third.char == mark && isWide (firstChar rest)
  | _ => false

/-- The cells begin with a mark that separates documents. -/
def separatesDocuments (cells : List Cell) : Bool :=
  marksDocument '-' cells || marksDocument '.' cells

/-- The characters of cells. -/
def chars (cells : List Cell) : List Char :=
  cells.map (·.char)

end OpenApiJava.Yaml
