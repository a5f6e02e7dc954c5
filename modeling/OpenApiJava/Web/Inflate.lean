/-!
# Deflated bytes

Deflated bytes are blocks of symbols. A symbol is a byte or tells how many bytes are repeated, and
from how far back. The codes of the symbols are prefix codes: short ones for frequent symbols, given
by the lengths of the codes alone. Bytes that end too early still give what they hold.
-/

namespace OpenApiJava.Web.Inflate

/-- Why the reading stops. -/
inductive Stop where
  /-- The bytes end. -/
  | ended
  /-- The bytes are not deflated. -/
  | broken
deriving DecidableEq, Repr

/-- How far the reading has come. -/
structure State where
  /-- The bits that are read. -/
  position : Nat
  output : Array UInt8

/-- A part of the reading. -/
abbrev Reading (α : Type) := ReaderT ByteArray (ExceptT Stop (StateM State)) α

def bit : Reading Nat := do
  let content ← read
  let state ← get
  match content[state.position / 8]? with
  | none => throw .ended
  | some byte =>
      set { state with position := state.position + 1 }
      return byte.toNat / Nat.pow 2 (state.position % 8) % 2

/-- Reads a number of so many bits, the smallest first. -/
def bits : Nat → Reading Nat
  | 0 => return 0
  | count + 1 => do
      let low ← bit
      let high ← bits count
      return low + 2 * high

/-- Passes the bits that are left of a byte. -/
def passToByte : Reading Unit :=
  modify fun state => { state with position := (state.position + 7) / 8 * 8 }

/-- Writes a byte. -/
def emit (byte : UInt8) : Reading Unit :=
  modify fun state => { state with output := state.output.push byte }

/-- The symbols with codes of one bit, of two bits and so on, in order. -/
abbrev PrefixCode := List (List Nat)

/-- The most bits of a code. -/
def longestCode : Nat := 15

/-- The code in which each symbol has a code of the given length; zero is no code. -/
def PrefixCode.ofLengths (lengths : List Nat) : PrefixCode :=
  let longest := max 1 (lengths.foldl max 0)
  (List.range longest).map fun length =>
    (List.range lengths.length).filter fun symbol => lengths[symbol]? == some (length + 1)

/-- The codes of the lengths that are left open when those of some lengths are taken; none if there
are too many. -/
def openCodes? (code : PrefixCode) : Option Nat :=
  code.foldlM (fun unused symbols =>
    if symbols.length ≤ 2 * unused then some (2 * unused - symbols.length) else none) 1

/-- Every text of bits is read with the code. A code of one bit may be alone if `mayBeAlone`, and
there may be no code at all. -/
def PrefixCode.isComplete (mayBeAlone : Bool) (code : PrefixCode) : Bool :=
  match openCodes? code with
  | none => false
  | some unused => unused == 0 || code.all List.isEmpty || mayBeAlone && code.length == 1

/-- Reads the symbol of a code that is `offset` behind the first code of its length. -/
def symbolFrom (offset : Nat) : PrefixCode → Reading Nat
  | [] => throw .broken
  | symbols :: longer => do
      let offset := 2 * offset + (← bit)
      match symbols[offset]? with
      | some symbol => return symbol
      | none => symbolFrom (offset - symbols.length) longer

def PrefixCode.symbol (code : PrefixCode) : Reading Nat :=
  symbolFrom 0 code

/-- How many bytes a symbol repeats at least, and how many bits tell how many more. -/
def repeats : List (Nat × Nat) := [
  (3, 0), (4, 0), (5, 0), (6, 0), (7, 0), (8, 0), (9, 0), (10, 0), (11, 1), (13, 1), (15, 1),
  (17, 1), (19, 2), (23, 2), (27, 2), (31, 2), (35, 3), (43, 3), (51, 3), (59, 3), (67, 4), (83, 4),
  (99, 4), (115, 4), (131, 5), (163, 5), (195, 5), (227, 5), (258, 0)]

/-- How far back a symbol reaches at least, and how many bits tell how much further. -/
def distances : List (Nat × Nat) := [
  (1, 0), (2, 0), (3, 0), (4, 0), (5, 1), (7, 1), (9, 2), (13, 2), (17, 3), (25, 3), (33, 4),
  (49, 4), (65, 5), (97, 5), (129, 6), (193, 6), (257, 7), (385, 7), (513, 8), (769, 8), (1025, 9),
  (1537, 9), (2049, 10), (3073, 10), (4097, 11), (6145, 11), (8193, 12), (12289, 12), (16385, 13),
  (24577, 13)]

/-- Reads the number that a symbol stands for in a table. -/
def amount (table : List (Nat × Nat)) (symbol : Nat) : Reading Nat :=
  match table[symbol]? with
  | none => throw .broken
  | some (least, count) => return least + (← bits count)

/-- Repeats bytes from a distance back. -/
def repeatBytes (distance : Nat) : Nat → Reading Unit
  | 0 => return
  | count + 1 => do
      let output := (← get).output
      emit (output.getD (output.size - distance) 0)
      repeatBytes distance count

/-- Reads symbols up to the end of a block, at most so many. -/
def symbols (bytes far : PrefixCode) : Nat → Reading Unit
  | 0 => throw .ended
  | most + 1 => do
      let symbol ← bytes.symbol
      if symbol < 256 then
        emit (UInt8.ofNat symbol)
        symbols bytes far most
      else if symbol == 256 then return
      else
        let count ← amount repeats (symbol - 257)
        let distance ← amount distances (← far.symbol)
        if (← get).output.size < distance then throw .broken
        else
          repeatBytes distance count
          symbols bytes far most

/-- Copies bytes as they are. -/
def copyBytes : Nat → Reading Unit
  | 0 => return
  | count + 1 => do
      emit (UInt8.ofNat (← bits 8))
      copyBytes count

/-- Reads a block of bytes as they are. -/
def storedBlock : Reading Unit := do
  passToByte
  let size ← bits 16
  let check ← bits 16
  if size + check == 0xFFFF then copyBytes size else throw .broken

/-- The lengths of the codes in a block that does not tell them. -/
def fixedLengths : List Nat :=
  List.replicate 144 8 ++ List.replicate 112 9 ++ List.replicate 24 7 ++ List.replicate 8 8

/-- The order in which a block tells the lengths of the codes for lengths. -/
def lengthOrder : List Nat :=
  [16, 17, 18, 0, 8, 7, 9, 6, 10, 5, 11, 4, 12, 3, 13, 2, 14, 1, 15]

/-- Reads so many lengths of codes after those that are read, which are reversed. At most `most`
symbols are read. -/
def codeLengths (code : PrefixCode) (count : Nat) (before : List Nat) : Nat → Reading (List Nat)
  | 0 => return before.reverse
  | most + 1 => do
      if before.length == count then return before.reverse
      else
        let symbol ← code.symbol
        if symbol < 16 then codeLengths code count (symbol :: before) most
        else
          let (length, times) ←
            match symbol, before with
            | 16, [] => throw .broken
            | 16, last :: _ => do pure (last, 3 + (← bits 2))
            | 17, _ => do pure (0, 3 + (← bits 3))
            | _, _ => do pure (0, 11 + (← bits 7))
          if count < before.length + times then throw .broken
          else codeLengths code count (List.replicate times length ++ before) most

/-- Reads so many lengths of three bits. -/
def shortLengths : Nat → Reading (List Nat)
  | 0 => return []
  | count + 1 => do
      let length ← bits 3
      return length :: (← shortLengths count)

/-- Reads the codes that a block tells. Where there is no code for lengths, each length takes a bit
and tells nothing. -/
def toldCodes : Reading (PrefixCode × PrefixCode) := do
  let byteCount := (← bits 5) + 257
  let farCount := (← bits 5) + 1
  let lengthCount := (← bits 4) + 4
  if 286 < byteCount || 30 < farCount then throw .broken
  else
    let short ← shortLengths lengthCount
    let told := lengthOrder.zip short
    let code := PrefixCode.ofLengths ((List.range 19).map fun symbol => (told.lookup symbol).getD 0)
    if !code.isComplete false then throw .broken
    else
      let total := byteCount + farCount
      let lengths ←
        if code.all List.isEmpty then do
          let _ ← bits total
          throw .broken
        else codeLengths code total [] total
      let bytes := PrefixCode.ofLengths (lengths.take byteCount)
      let far := PrefixCode.ofLengths (lengths.drop byteCount)
      if lengths[256]? == some 0 || !bytes.isComplete true || !far.isComplete true then
        throw .broken
      else return (bytes, far)

/-- Reads blocks up to the last, at most so many; a block has at most `most` symbols. -/
def blocks (most : Nat) : Nat → Reading Unit
  | 0 => throw .ended
  | left + 1 => do
      let isLast ← bit
      match ← bits 2 with
      | 0 => storedBlock
      | 1 =>
          let far := PrefixCode.ofLengths (List.replicate 32 5)
          symbols (.ofLengths fixedLengths) far most
      | 2 =>
          let (bytes, far) ← toldCodes
          symbols bytes far most
      | _ => throw .broken
      if isLast == 1 then return else blocks most left

def allBlocks : Reading Unit := do
  let most := 8 * (← read).size + 1
  blocks most most

/-- The sum that follows the blocks in an envelope. -/
def checksum (bytes : Array UInt8) : Nat :=
  let (low, high) := bytes.foldl (fun (low, high) byte =>
    let low := (low + byte.toNat) % 65521
    (low, (high + low) % 65521)) (1, 0)
  high * 65536 + low

/-- Reads a number of so many bytes, the largest first. -/
def bytesFrom (start : Nat) : Nat → Reading Nat
  | 0 => return start
  | count + 1 => do
      let byte ← bits 8
      bytesFrom (start * 256 + byte) count

/-- Reads the blocks in an envelope, which tells how they were made and the sum of what they hold.
-/
def envelope : Reading Unit := do
  let kind ← bits 8
  let flags ← bits 8
  if (kind * 256 + flags) % 31 != 0 || kind % 16 != 8 || 7 < kind / 16 then throw .broken
  else if flags / 32 % 2 == 1 then
    let _ ← bits 32
    throw .broken
  else
    allBlocks
    passToByte
    let told ← bytesFrom 0 4
    if told != checksum (← get).output then throw .broken

/-- What a reading gives of bytes; none if they are broken. -/
def output? (reading : Reading Unit) (content : ByteArray) : Option ByteArray :=
  match ((reading.run content).run).run ⟨0, #[]⟩ with
  | (.error .broken, _) => none
  | (_, state) => some ⟨state.output⟩

/-- What deflated bytes hold, with or without an envelope. -/
def inflate? (content : ByteArray) : Option ByteArray :=
  output? envelope content <|> output? allBlocks content

end OpenApiJava.Web.Inflate
