import OpenApiJava.Decimal.Binary64
import OpenApiJava.Text.Blank
import OpenApiJava.Text.Word

/-!
# Numerals

Reading integers in a base and floating-point numbers in base ten. Blanks around a numeral are
passed over, and decimal digits of every script count. An integer in base ten has at most
`longestNumeral` digits.
-/

namespace OpenApiJava.Decimal

open OpenApiJava.Text

/-- The most digits that an integer in base ten is read with. -/
def longestNumeral : Nat := 4300

/-- The value of a digit in a base of at most sixteen. -/
def digitValue? (base : Nat) (character : Char) : Option Nat :=
  let value? :=
    match decimalValue? character with
    | some value => some value
    | none =>
        let lower := character.toLower
        if 'a' ≤ lower && lower ≤ 'f' then some (lower.toNat - 'a'.toNat + 10) else none
  value?.filter (· < base)

/-- The value of an ASCII digit in base sixteen. -/
def hexValue? (character : Char) : Option Nat :=
  if character.isAlphanum then digitValue? 16 character else none

/-- The number that extends `start` by the digits of a text. -/
def digitsAfter? (base : Nat) (start : Nat) : List Char → Option Nat
  | [] => some start
  | character :: rest =>
      match digitValue? base character with
      | some value => digitsAfter? base (start * base + value) rest
      | none => none

/-- The number that a text of one or more digits stands for. -/
def digits? (base : Nat) (text : List Char) : Option Nat :=
  if text.isEmpty then none else digitsAfter? base 0 text

/-- A sign, if any, and the text after it. -/
def signed : List Char → Bool × List Char
  | '-' :: rest => (true, rest)
  | '+' :: rest => (false, rest)
  | text => (false, text)

/-- The text after the mark that may stand before the digits of a base. -/
def withoutBaseMark (base : Nat) (text : List Char) : List Char :=
  match base, text with
  | 2, '0' :: mark :: rest => if mark.toLower == 'b' then rest else text
  | 8, '0' :: mark :: rest => if mark.toLower == 'o' then rest else text
  | 16, '0' :: mark :: rest => if mark.toLower == 'x' then rest else text
  | _, _ => text

/-- The integer that a text stands for in a base. -/
def integer? (base : Nat) (text : List Char) : Option Int :=
  let (negative, unsigned) := signed (trimBlanks text)
  let digits := withoutBaseMark base unsigned
  if base == 10 && longestNumeral < digits.length then none
  else (digits? base digits).map fun number => if negative then -number else number

/-- A whole part, a fraction and an exponent, each as written. -/
structure DecimalParts where
  whole : List Char
  fraction : List Char
  exponent : Int

/-- The exponent at the end of a numeral; none at all counts as zero. -/
def exponent? : List Char → Option Int
  | [] => some 0
  | mark :: rest =>
      if mark == 'e' || mark == 'E' then
        let (negative, digits) := signed rest
        (digits? 10 digits).map fun number => if negative then -number else number
      else none

/-- The character is a decimal digit. -/
def isDecimal (character : Char) : Bool :=
  (decimalValue? character).isSome

/-- The parts of an unsigned numeral. At least one digit stands before or after the point. -/
def decimalParts? (text : List Char) : Option DecimalParts :=
  let whole := text.takeWhile isDecimal
  let (fraction, rest) :=
    match text.dropWhile isDecimal with
    | '.' :: rest => (rest.takeWhile isDecimal, rest.dropWhile isDecimal)
    | rest => ([], rest)
  if whole.isEmpty && fraction.isEmpty then none
  else (exponent? rest).map fun exponent => ⟨whole, fraction, exponent⟩

/-- The floating-point number nearest to the numeral that the parts spell. -/
def DecimalParts.nearest (parts : DecimalParts) (negative : Bool) : Binary64 :=
  let digits := (digitsAfter? 10 0 (parts.whole ++ parts.fraction)).getD 0
  Binary64.ofDecimal negative digits (parts.exponent - parts.fraction.length)

/-- The floating-point number that a text stands for. -/
def float? (text : List Char) : Option Binary64 :=
  let (negative, unsigned) := signed (trimBlanks text)
  let lower := String.ofList (unsigned.map Char.toLower)
  if lower == "inf" || lower == "infinity" then some (.infinity negative)
  else if lower == "nan" then some .nan
  else (decimalParts? unsigned).map fun parts => parts.nearest negative

end OpenApiJava.Decimal
