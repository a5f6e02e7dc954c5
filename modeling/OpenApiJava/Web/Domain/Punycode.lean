/-!
# Characters of all scripts in ASCII

A label is written in ASCII as its ASCII characters, a hyphen, and numbers that tell which other
characters are put in and where. A number is written in digits whose weights depend on the bias,
which follows the size of the numbers before.
-/

namespace OpenApiJava.Web.Domain

/-- The digit of a value below thirty-six. -/
def puny (value : Nat) : Char :=
  if value < 26 then Char.ofNat ('a'.toNat + value) else Char.ofNat ('0'.toNat + (value - 26))

def punyValue? (digit : Char) : Option Nat :=
  if digit.isAlpha then some (digit.toLower.toNat - 'a'.toNat)
  else if digit.isDigit then some (digit.toNat - '0'.toNat + 26)
  else none

/-- The least value of a digit after which a number goes on. The digits stand at the positions
thirty-six, seventy-two and so on. -/
def threshold (position bias : Nat) : Nat :=
  if position ≤ bias then 1 else min 26 (position - bias)

theorem threshold_pos (position bias : Nat) : 1 ≤ threshold position bias := by
  unfold threshold
  split <;> omega

def punyDigits (bias position number : Nat) : List Char :=
  let least := threshold position bias
  if below : number < least then [puny number]
  else
    puny (least + (number - least) % (36 - least)) ::
      punyDigits bias (position + 36) ((number - least) / (36 - least))
termination_by number
decreasing_by
  have positive := threshold_pos position bias
  have quotient := Nat.div_le_self (number - threshold position bias)
    (36 - threshold position bias)
  omega

/-- How often a size is divided until it is small, thirty-six for each time, and what is left. -/
def shrunk (steps size : Nat) : Nat × Nat :=
  if 455 < size then shrunk (steps + 36) (size / 35) else (steps, size)
termination_by size
decreasing_by omega

/-- The bias after a number; `count` characters are there then. -/
def nextBias (number count : Nat) (isFirst : Bool) : Nat :=
  let size := if isFirst then number / 700 else number / 2
  let (steps, size) := shrunk 0 (size + size / count)
  steps + 36 * size / (size + 38)

/-- How far the writing has come. -/
structure Writing where
  /-- The number that is written next. -/
  number : Nat
  bias : Nat
  /-- How many characters are done. -/
  count : Nat
  isFirst : Bool
  /-- The digits so far. -/
  digits : List Char

namespace Writing

/-- Passes a character while all characters of one code point are written. -/
def pass (code : Nat) (writing : Writing) (character : Char) : Writing :=
  if character.toNat < code then { writing with number := writing.number + 1 }
  else if character.toNat == code then
    let count := writing.count + 1
    { number := 0
      bias := nextBias writing.number count writing.isFirst
      count
      isFirst := false
      digits := writing.digits ++ punyDigits writing.bias 36 writing.number }
  else writing

/-- Writes all characters of the given code points, which rise from `next` on. -/
def all (label : List Char) (next : Nat) (writing : Writing) : List Nat → Writing
  | [] => writing
  | code :: codes =>
      let skipped := writing.number + (code - next) * (writing.count + 1)
      let passed := label.foldl (pass code) { writing with number := skipped }
      all label (code + 1) { passed with number := passed.number + 1 } codes

end Writing

/-- A label in ASCII. -/
def punycode (label : List Char) : List Char :=
  let basic := label.filter fun character => character.toNat < 128
  let others := (label.filter fun character => 128 ≤ character.toNat).map Char.toNat
  let codes := (others.mergeSort fun first second => first ≤ second).eraseDups
  let writing := Writing.all label 128 ⟨0, 72, basic.length, true, []⟩ codes
  basic ++ (if basic.isEmpty then [] else ['-']) ++ writing.digits

/-- How far the reading has come. -/
structure Spelling where
  /-- The characters so far. -/
  label : List Char
  /-- The code point and the place of the next character, if the next number is zero. -/
  code : Nat
  place : Nat
  bias : Nat
  isFirst : Bool
  /-- The number that is read, the weight of its next digit, and the digit's position. -/
  number : Nat
  weight : Nat
  position : Nat

namespace Spelling

/-- Puts in the character that the number tells. -/
def insert? (spelling : Spelling) (number : Nat) : Option Spelling :=
  let count := spelling.label.length + 1
  let place := spelling.place + number
  let code := spelling.code + place / count
  let place := place % count
  if code.isValidChar then
    some {
      label := spelling.label.take place ++ Char.ofNat code :: spelling.label.drop place
      code
      place := place + 1
      bias := nextBias number count spelling.isFirst
      isFirst := false
      number := 0
      weight := 1
      position := 36 }
  else none

/-- Reads a digit. -/
def read? (spelling : Spelling) (digit : Char) : Option Spelling := do
  let value ← punyValue? digit
  let number := spelling.number + value * spelling.weight
  let least := threshold spelling.position spelling.bias
  if value < least then spelling.insert? number
  else
    return { spelling with
      number
      weight := spelling.weight * (36 - least)
      position := spelling.position + 36 }

end Spelling

/-- The label that a text in ASCII spells. -/
def ofPunycode? (text : List Char) : Option (List Char) := do
  let digits := (text.reverse.takeWhile (· != '-')).reverse
  let basic := (text.take (text.length - digits.length)).dropLast
  let spelling ← digits.foldlM Spelling.read? ⟨basic, 128, 0, 72, true, 0, 1, 36⟩
  if spelling.position == 36 then some spelling.label else none

end OpenApiJava.Web.Domain
