import OpenApiJava.Text.Utf8

/-!
# Charsets

A charset tells which characters bytes stand for. Bytes that stand for nothing are read as
replacement characters; some charsets refuse bytes that do not start with a mark.
-/

namespace OpenApiJava.Text

/-- Which byte of a number comes first. -/
inductive ByteOrder where
  | smallestFirst
  | largestFirst
deriving DecidableEq, Repr

/-- How bytes stand for characters. -/
inductive Charset where
  /-- A byte stands for the code point of its own number, unless it belongs to a run. A run has a
  first byte and the characters of the bytes from there on. -/
  | bytes (runs : List (Nat × String))
  | utf8
  /-- A mark in front does not count. -/
  | utf8Marked
  | utf16 (order : ByteOrder)
  | utf32 (order : ByteOrder)
  /-- A mark in front tells the order of the bytes. -/
  | utf16Marked
  | utf32Marked
  /-- No bytes are read. -/
  | closed
  /-- A way to pack bytes, which has a name like a charset. -/
  | packing
  /-- A way to change letters, which has a name like a charset. -/
  | lettering
deriving DecidableEq, Repr

/-- Why bytes have no characters. -/
inductive CharsetFault where
  /-- The mark in front is missing, or no bytes are read at all. -/
  | refused
  | isPacking
  | isLettering
deriving DecidableEq, Repr

namespace ByteOrder

/-- The number that bytes spell. -/
def number (order : ByteOrder) (bytes : List UInt8) : Nat :=
  let largestFirst :=
    match order with
    | .smallestFirst => bytes.reverse
    | .largestFirst => bytes
  largestFirst.foldl (fun value byte => value * 256 + byte.toNat) 0

end ByteOrder

namespace Charset

/-- The character of a byte. -/
def byteChar (runs : List (Nat × List Char)) (byte : Nat) : Char :=
  let found := runs.findSome? fun run => if byte < run.1 then none else run.2[byte - run.1]?
  found.getD (Char.ofNat byte)

/-- The characters of bytes, one for each. -/
def byteChars (runs : List (Nat × String)) (bytes : List UInt8) : List Char :=
  let runs := runs.map fun run => (run.1, run.2.toList)
  let characters := ((List.range 256).map (byteChar runs)).toArray
  bytes.map fun byte => characters.getD byte.toNat replacement

/-- The number is the first half of a pair. -/
def isFirstHalf (unit : Nat) : Bool :=
  0xD800 ≤ unit && unit < 0xDC00

/-- The number is the second half of a pair. -/
def isSecondHalf (unit : Nat) : Bool :=
  0xDC00 ≤ unit && unit < 0xE000

/-- The characters of pairs of bytes after the first half of a pair, if there is one. What is left
at the end is one replacement character. -/
def pairChars (order : ByteOrder) (half : Option Nat) : List UInt8 → List Char
  | first :: second :: rest =>
      let unit := order.number [first, second]
      let lost := if half.isSome then [replacement] else []
      if isFirstHalf unit then lost ++ pairChars order (some unit) rest
      else if isSecondHalf unit then
        match half with
        | some before =>
            Char.ofNat (0x10000 + (before - 0xD800) * 0x400 + (unit - 0xDC00)) ::
              pairChars order none rest
        | none => replacement :: pairChars order none rest
      else lost ++ Char.ofNat unit :: pairChars order none rest
  | [_] => [replacement]
  | [] => if half.isSome then [replacement] else []

/-- The characters of groups of four bytes. What is left at the end is one replacement character. -/
def quadChars (order : ByteOrder) : List UInt8 → List Char
  | first :: second :: third :: fourth :: rest =>
      let code := order.number [first, second, third, fourth]
      (if code.isValidChar then Char.ofNat code else replacement) :: quadChars order rest
  | [] => []
  | _ => [replacement]

/-- The characters that bytes stand for. -/
def decode (charset : Charset) (content : List UInt8) : Except CharsetFault (List Char) :=
  match charset, content with
  | _, [] => .ok []
  | .bytes runs, _ => .ok (byteChars runs content)
  | .utf8Marked, 0xEF :: 0xBB :: 0xBF :: rest => .ok (Utf8.chars rest)
  | .utf8Marked, _ => .ok (Utf8.chars content)
  | .utf8, _ => .ok (Utf8.chars content)
  | .utf16 order, _ => .ok (pairChars order none content)
  | .utf32 order, _ => .ok (quadChars order content)
  | .utf16Marked, 0xFF :: 0xFE :: rest => .ok (pairChars .smallestFirst none rest)
  | .utf16Marked, 0xFE :: 0xFF :: rest => .ok (pairChars .largestFirst none rest)
  | .utf16Marked, [_] => .ok [replacement]
  | .utf16Marked, _ => .error .refused
  | .utf32Marked, 0xFF :: 0xFE :: 0 :: 0 :: rest => .ok (quadChars .smallestFirst rest)
  | .utf32Marked, 0 :: 0 :: 0xFE :: 0xFF :: rest => .ok (quadChars .largestFirst rest)
  | .utf32Marked, _ => if content.length < 4 then .ok [replacement] else .error .refused
  | .closed, _ => .error .refused
  | .packing, _ => .error .isPacking
  | .lettering, _ => .error .isLettering

end Charset

end OpenApiJava.Text
