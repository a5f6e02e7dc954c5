/-!
# Characters from bytes

Bytes are read as UTF-8. Where they spell no character, the longest run that begins one is read as a
single replacement character.
-/

namespace OpenApiJava.Text

/-- The character that stands where bytes spell none. -/
def replacement : Char := '\ufffd'

namespace Utf8

/-- A character that has begun. -/
structure Beginning where
  /-- The number that the bytes so far spell. -/
  value : Nat
  /-- How many bytes are missing. -/
  missing : Nat
  /-- The range of the next byte. -/
  least : Nat
  most : Nat

/-- What a byte begins that is no ASCII character. -/
def beginning? (byte : Nat) : Option Beginning :=
  if byte < 0xC2 then none
  else if byte < 0xE0 then some ⟨byte - 0xC0, 1, 0x80, 0xBF⟩
  else if byte == 0xE0 then some ⟨0, 2, 0xA0, 0xBF⟩
  else if byte == 0xED then some ⟨0xD, 2, 0x80, 0x9F⟩
  else if byte < 0xF0 then some ⟨byte - 0xE0, 2, 0x80, 0xBF⟩
  else if byte == 0xF0 then some ⟨0, 3, 0x90, 0xBF⟩
  else if byte < 0xF4 then some ⟨byte - 0xF0, 3, 0x80, 0xBF⟩
  else if byte == 0xF4 then some ⟨4, 3, 0x80, 0x8F⟩
  else none

/-- What a byte spells and begins where no character has begun. -/
def firstStep (byte : Nat) : List Char × Option Beginning :=
  if byte < 0x80 then ([Char.ofNat byte], none)
  else
    match beginning? byte with
    | some beginning => ([], some beginning)
    | none => ([replacement], none)

/-- What a byte spells and begins. -/
def step (begun : Option Beginning) (byte : Nat) : List Char × Option Beginning :=
  match begun with
  | none => firstStep byte
  | some ⟨value, missing, least, most⟩ =>
      if least ≤ byte && byte ≤ most then
        let value := value * 64 + byte % 64
        if missing == 1 then ([Char.ofNat value], none)
        else ([], some ⟨value, missing - 1, 0x80, 0xBF⟩)
      else
        let (characters, begun) := firstStep byte
        (replacement :: characters, begun)

/-- The characters that bytes spell after what has begun. -/
def charsAfter (begun : Option Beginning) : List UInt8 → List Char
  | [] => if begun.isSome then [replacement] else []
  | byte :: rest =>
      let (characters, begun) := step begun byte.toNat
      characters ++ charsAfter begun rest

/-- The characters that bytes spell. -/
def chars (bytes : List UInt8) : List Char :=
  charsAfter none bytes

end Utf8

end OpenApiJava.Text
