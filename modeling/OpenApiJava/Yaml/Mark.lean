import OpenApiJava.Decimal.Numeral
import OpenApiJava.Yaml.BlockScalar

/-!
# Tags, anchors and directives

Tags are written with a handle and a suffix or in full; anchors and aliases are names; directives
stand in front of a document.
-/

namespace OpenApiJava.Yaml

structure WrittenTag where
  handle : Option String
  suffix : String
deriving DecidableEq, Repr

inductive Directive where
  | version (major : Nat)
  | tag (handle expansion : String)
  | unknown
deriving DecidableEq, Repr

/-- A character of an anchor or of a handle. -/
def isNamePart (character : Char) : Bool :=
  character.isAlphanum || character == '-' || character == '_'

/-- A character of a tag suffix; a percent sign begins an escape. -/
def isUriPart (character : Char) : Bool :=
  character.isAlphanum || "-;/?:@&=+$,_.!~*'()[]%".toList.contains character

/-- The name of an anchor or an alias, and the cells after it. -/
def readAnchor (cells : List Cell) : Except Fault (String × List Cell) :=
  let name := cells.takeWhile (isNamePart ·.char)
  let rest := cells.dropWhile (isNamePart ·.char)
  let next := firstChar rest
  if name.isEmpty then .error .malformed
  else if isWide next || ['?', ':', ',', ']', '}', '%', '@', '\x60'].contains next then
    .ok (String.ofList (chars name), rest)
  else .error .malformed

/-- The bytes of a suffix in which a percent sign and two digits stand for one byte. -/
def uriBytes : List Char → Except Fault (List UInt8)
  | [] => .ok []
  | '%' :: first :: second :: rest =>
      match (if first.isAlphanum then Decimal.digitValue? 16 first else none),
        (if second.isAlphanum then Decimal.digitValue? 16 second else none) with
      | some high, some low => (uriBytes rest).map (UInt8.ofNat (high * 16 + low) :: ·)
      | _, _ => .error .malformed
  | '%' :: _ => .error .malformed
  | character :: rest => (uriBytes rest).map (UInt8.ofNat character.toNat :: ·)

/-- The suffix of a tag, and the cells after it. -/
def readUri (cells : List Cell) : Except Fault (String × List Cell) := do
  let written := cells.takeWhile (isUriPart ·.char)
  let rest := cells.dropWhile (isUriPart ·.char)
  if written.isEmpty then .error .malformed
  else
    let bytes ← uriBytes (chars written)
    match String.fromUTF8? ⟨bytes.toArray⟩ with
    | some suffix => return (suffix, rest)
    | none => .error .malformed

/-- The handle of a tag, from its exclamation mark on, and the cells after it. -/
def readHandle : List Cell → Except Fault (String × List Cell)
  | mark :: rest =>
      if mark.char != '!' then .error .malformed
      else
        let name := rest.takeWhile (isNamePart ·.char)
        match rest.dropWhile (isNamePart ·.char) with
        | closing :: after =>
            if closing.char == '!' then .ok (String.ofList ('!' :: chars name ++ ['!']), after)
            else if name.isEmpty && closing.char == ' ' then .ok ("!", closing :: after)
            else .error .malformed
        | [] => .error .malformed
  | [] => .error .malformed

/-- The tag that begins with an exclamation mark, and the cells after it. -/
def readTag (cells : List Cell) : Except Fault (WrittenTag × List Cell) := do
  let (tag, rest) ←
    match cells.drop 1 with
    | [] => .ok (WrittenTag.mk none "!", [])
    | next :: after =>
        if next.char == '<' then do
          let (suffix, rest) ← readUri after
          match rest with
          | closing :: rest =>
              if closing.char == '>' then .ok (WrittenTag.mk none suffix, rest)
              else .error .malformed
          | [] => .error .malformed
        else if isWide next.char then .ok (WrittenTag.mk none "!", next :: after)
        else if (cells.drop 1).takeWhile (!isGap ·.char) |>.any (·.char == '!') then do
          let (handle, rest) ← readHandle cells
          let (suffix, rest) ← readUri rest
          .ok (WrittenTag.mk (some handle) suffix, rest)
        else do
          let (suffix, rest) ← readUri (next :: after)
          .ok (WrittenTag.mk (some "!") suffix, rest)
  if isGap (firstChar rest) then return (tag, rest) else .error .malformed

/-- A decimal number of ASCII digits, and the cells after it. -/
def readNumber (cells : List Cell) : Except Fault (Nat × List Cell) :=
  let digits := chars (cells.takeWhile (·.char.isDigit))
  match Decimal.digits? 10 digits with
  | some number =>
      if Decimal.longestNumeral < digits.length then .error .malformed
      else .ok (number, cells.dropWhile (·.char.isDigit))
  | none => .error .malformed

def afterSpaces (cells : List Cell) : List Cell :=
  cells.dropWhile (·.char == ' ')

/-- The directive that begins with a percent sign, and the cells after its line. -/
def readDirective (cells : List Cell) : Except Fault (Directive × List Cell) := do
  let name := (cells.drop 1).takeWhile (isNamePart ·.char)
  let rest := (cells.drop 1).dropWhile (isNamePart ·.char)
  if name.isEmpty || !isGap (firstChar rest) then .error .malformed
  else
    let (directive, rest) ←
      match String.ofList (chars name) with
      | "YAML" => do
          let (major, rest) ← readNumber (afterSpaces rest)
          if firstChar rest != '.' then .error .malformed
          else
            let (_, rest) ← readNumber (rest.drop 1)
            if isGap (firstChar rest) then .ok (Directive.version major, rest)
            else .error .malformed
      | "TAG" => do
          let (handle, rest) ← readHandle (afterSpaces rest)
          if firstChar rest != ' ' then .error .malformed
          else
            let (expansion, rest) ← readUri (afterSpaces rest)
            if isGap (firstChar rest) then .ok (Directive.tag handle expansion, rest)
            else .error .malformed
      | _ => .ok (Directive.unknown, rest.dropWhile (!endsLine ·.char))
    return (directive, ← endOfLine rest)

end OpenApiJava.Yaml
