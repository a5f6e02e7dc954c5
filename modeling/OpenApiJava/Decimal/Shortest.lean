import OpenApiJava.Decimal.Binary64

/-!
# The shortest decimal text of a number

The digits written for a floating-point number are the fewest that read back as the number, and of
those the nearest to it. The text is positional while the leading digit stands between the fourth
place after the point and the sixteenth before it, and has a point even when the number is whole.
-/

namespace OpenApiJava.Decimal

/-- The positive number `digits · 10 ^ exponent`. -/
structure Digits where
  digits : Nat
  exponent : Int
deriving DecidableEq, Repr

/-- A positive number `mantissa · 2 ^ scale` with the reals that round to it, all counted in
quarters of its unit. -/
structure Neighbourhood where
  lowest : Nat
  middle : Nat
  highest : Nat
  closed : Bool
  quarter : Int

/-- The reals that round to a positive finite number. They lie closer below a power of two. -/
def Binary64.neighbourhood (number : Binary64) : Neighbourhood :=
  let mantissa := number.mantissa
  let narrow := number.fraction == 0 && 1 < number.exponentField
  { lowest := 4 * mantissa - if narrow then 1 else 2
    middle := 4 * mantissa
    highest := 4 * mantissa + 2
    closed := mantissa % 2 == 0
    quarter := number.scale - 2 }

/-- Factors that bring multiples of `10 ^ exponent` and of `2 ^ quarter` to a common unit. -/
def commonUnit (exponent quarter : Int) : Nat × Nat :=
  (Nat.pow 10 exponent.toNat * Nat.pow 2 (-quarter).toNat,
    Nat.pow 10 (-exponent).toNat * Nat.pow 2 quarter.toNat)

/-- The number `digits · 10 ^ exponent` rounds to the middle. -/
def Neighbourhood.holds (area : Neighbourhood) (candidate : Digits) : Bool :=
  let (tens, twos) := commonUnit candidate.exponent area.quarter
  let place := candidate.digits * tens
  if area.closed then area.lowest * twos ≤ place && place ≤ area.highest * twos
  else area.lowest * twos < place && place < area.highest * twos

/-- The distance of a candidate from the middle, in the common unit of its exponent. -/
def Neighbourhood.distance (area : Neighbourhood) (candidate : Digits) : Nat :=
  let (tens, twos) := commonUnit candidate.exponent area.quarter
  ((candidate.digits * tens : Int) - (area.middle * twos : Int)).natAbs

/-- The power of ten of the leading digit of the middle. -/
def Neighbourhood.leadingPower (area : Neighbourhood) : Int :=
  let guess := (((area.middle.log2 : Int) + area.quarter) * 30103).fdiv 100000
  let reaches (power : Int) : Bool :=
    let (tens, twos) := commonUnit power area.quarter
    tens ≤ area.middle * twos
  if reaches (guess + 1) then guess + 1 else if reaches guess then guess else guess - 1

/-- The better of the two multiples of `10 ^ exponent` around the middle, if one reads back. -/
def Neighbourhood.onGrid? (area : Neighbourhood) (exponent : Int) : Option Digits :=
  let (tens, twos) := commonUnit exponent area.quarter
  let below : Digits := ⟨area.middle * twos / tens, exponent⟩
  let above : Digits := ⟨below.digits + 1, exponent⟩
  match area.holds below, area.holds above with
  | true, true =>
      let left := area.distance below
      let right := area.distance above
      some (if left < right || (left == right && below.digits % 2 == 0) then below else above)
  | true, false => some below
  | false, true => some above
  | false, false => none

/-- The fewest digits that read back; seventeen always do. -/
def Neighbourhood.shortest (area : Neighbourhood) : Digits :=
  let power := area.leadingPower
  let grids := (List.range 17).map fun (more : Nat) => power - more
  (grids.findSome? area.onGrid?).getD ⟨area.middle, 0⟩

/-- The decimal digits of a natural number. -/
def digitText (number : Nat) : List Char :=
  Nat.toDigits 10 number

/-- The digits without the zeros at their end. -/
def dropFinalZeros (digits : List Char) : List Char :=
  (digits.reverse.dropWhile (· == '0')).reverse

/-- An exponent with its sign and at least two digits. -/
def exponentText (exponent : Int) : List Char :=
  let digits := digitText exponent.natAbs
  (if exponent < 0 then '-' else '+') :: (if digits.length < 2 then '0' :: digits else digits)

/-- The text of significant digits whose leading one stands at `10 ^ power`. -/
def placedText (digits : List Char) (power : Int) : List Char :=
  if -4 ≤ power && power < 0 then
    '0' :: '.' :: (List.replicate (-power - 1).toNat '0' ++ digits)
  else if 0 ≤ power && power < 16 then
    let places := power.toNat + 1
    let whole := digits.take places
    let rest := digits.drop places
    whole ++ List.replicate (places - whole.length) '0' ++
      '.' :: (if rest.isEmpty then ['0'] else rest)
  else
    let rest := digits.drop 1
    digits.take 1 ++ (if rest.isEmpty then [] else '.' :: rest) ++ 'e' :: exponentText power

/-- The text of the magnitude of a finite number. -/
def Binary64.magnitudeText (number : Binary64) : List Char :=
  if number.mantissa == 0 then ['0', '.', '0']
  else
    let shortest := number.neighbourhood.shortest
    let digits := digitText shortest.digits
    placedText (dropFinalZeros digits) (shortest.exponent + digits.length - 1)

def Binary64.text (number : Binary64) : String :=
  if number.isNaN then "nan"
  else
    let magnitude :=
      if number.isInfinite then ['i', 'n', 'f'] else number.magnitudeText
    String.ofList (if number.isNegative then '-' :: magnitude else magnitude)

end OpenApiJava.Decimal
