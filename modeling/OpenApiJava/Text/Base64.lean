/-!
# Bytes in base sixty-four

Four characters carry three bytes. Characters that belong to no digit are passed over; equals signs
that fill up a group end the text, and a group that is not filled up is refused.
-/

namespace OpenApiJava.Text.Base64

/-- The value of a digit. -/
def digit? (character : Char) : Option Nat :=
  if character.isUpper then some (character.toNat - 'A'.toNat)
  else if character.isLower then some (character.toNat - 'a'.toNat + 26)
  else if character.isDigit then some (character.toNat - '0'.toNat + 52)
  else if character == '+' then some 62
  else if character == '/' then some 63
  else none

/-- How far a group of four digits has come. -/
structure Group where
  /-- The number of digits so far. -/
  size : Nat
  /-- The bits that belong to the next byte. -/
  left : Nat
  /-- The number of equals signs after the digits. -/
  signs : Nat

def Group.empty : Group := ⟨0, 0, 0⟩

/-- The group after one more digit, and the byte that is complete with it. -/
def Group.add (group : Group) (value : Nat) : Group × List UInt8 :=
  match group.size with
  | 0 => (⟨1, value, 0⟩, [])
  | 1 => (⟨2, value % 16, 0⟩, [UInt8.ofNat (group.left * 4 + value / 16)])
  | 2 => (⟨3, value % 4, 0⟩, [UInt8.ofNat (group.left * 16 + value / 4)])
  | _ => (Group.empty, [UInt8.ofNat (group.left * 64 + value)])

/-- The bytes that a text spells after an unfinished group. -/
def bytesAfter? (group : Group) : List Char → Option (List UInt8)
  | [] => if group.size == 0 then some [] else none
  | character :: rest =>
      if character == '=' then
        if group.size < 2 then bytesAfter? group rest
        else if 4 ≤ group.size + group.signs + 1 then some []
        else bytesAfter? { group with signs := group.signs + 1 } rest
      else
        match digit? character with
        | none => bytesAfter? group rest
        | some value =>
            let (next, bytes) := group.add value
            (bytesAfter? next rest).map (bytes ++ ·)

/-- The bytes that a text spells. -/
def decode? (text : List Char) : Option (List UInt8) :=
  bytesAfter? Group.empty text

end OpenApiJava.Text.Base64
