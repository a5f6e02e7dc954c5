import OpenApiJava.Decimal.Numeral
import OpenApiJava.Text.Quoted
import OpenApiJava.Text.Utf8

/-!
# Escapes in addresses

A part of an address holds printable ASCII characters, except a few that are the part's own. Any
other character is escaped: a percent sign and two digits stand for each of its bytes. The percent
sign itself stays, so that nothing is escaped twice.
-/

namespace OpenApiJava.Web

/-- The parts of an address that have escapes. -/
inductive Part where
  | userInfo
  | host
  | path
  | query
  | fragment
deriving DecidableEq, Repr

namespace Part

/-- The printable ASCII characters that a part cannot hold. -/
def excluded : Part → List Char
  | userInfo => [
      ' ', '"', '#', '<', '>', '?', '\x60', '{', '}',
      '/', ';', '=', '@', '[', '\\', ']', '^', '|']
  | host => [' ', '#', '/', ':', '<', '>', '?', '@', '[', ']', '^']
  | path => [' ', '"', '#', '<', '>', '?', '\x60', '{', '}']
  | query => [' ', '"', '#', '<', '>']
  | fragment => [' ', '"', '<', '>', '\x60']

/-- The part can hold the character. -/
def holds (part : Part) (character : Char) : Bool :=
  0x20 ≤ character.toNat && character.toNat < 0x7f && !part.excluded.contains character

end Part

def escapedByte (byte : UInt8) : List Char :=
  '%' :: (Text.hexDigits 2 byte.toNat).map Char.toUpper

/-- The text with escapes for the characters that a part cannot hold. -/
def escaped (part : Part) (text : List Char) : List Char :=
  text.flatMap fun character =>
    if part.holds character then [character]
    else (String.utf8EncodeChar character).flatMap escapedByte

/-- The byte of an escape with two digits. -/
def escapeByte? (high low : Char) : Option UInt8 := do
  let high ← Decimal.hexValue? high
  let low ← Decimal.hexValue? low
  return UInt8.ofNat (high * 16 + low)

/-- The bytes of a text; an escape is the byte that it stands for. -/
def unescapedBytes : List Char → List UInt8
  | '%' :: high :: low :: rest =>
      match escapeByte? high low with
      | some byte => byte :: unescapedBytes rest
      | none => String.utf8EncodeChar '%' ++ unescapedBytes (high :: low :: rest)
  | character :: rest => String.utf8EncodeChar character ++ unescapedBytes rest
  | [] => []

/-- The text that a text with escapes stands for. -/
def unescaped (text : List Char) : List Char :=
  Text.Utf8.chars (unescapedBytes text)

end OpenApiJava.Web
