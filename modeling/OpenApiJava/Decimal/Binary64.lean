/-!
# Binary floating-point numbers of 64 bits

A number is given by its bits: one bit of sign, eleven of exponent, fifty-two of fraction. A finite
number is `mantissa · 2 ^ scale`. The nearest number to a ratio is found in exact arithmetic; a
ratio half-way between two numbers goes to the even one.
-/

namespace OpenApiJava.Decimal

/-- A floating-point number of 64 bits. -/
structure Binary64 where
  bits : UInt64
deriving DecidableEq, Inhabited, Repr

namespace Binary64

/-- The sign bit is set. -/
def isNegative (number : Binary64) : Bool :=
  number.bits.toNat / Nat.pow 2 63 == 1

/-- The biased exponent. -/
def exponentField (number : Binary64) : Nat :=
  number.bits.toNat / Nat.pow 2 52 % Nat.pow 2 11

/-- The fraction bits. -/
def fraction (number : Binary64) : Nat :=
  number.bits.toNat % Nat.pow 2 52

def isNaN (number : Binary64) : Bool :=
  number.exponentField == 2047 && number.fraction != 0

def isInfinite (number : Binary64) : Bool :=
  number.exponentField == 2047 && number.fraction == 0

/-- The number is neither infinite nor a NaN. -/
def isFinite (number : Binary64) : Bool :=
  number.exponentField != 2047

/-- The magnitude of a finite number in units of `2 ^ scale`. -/
def mantissa (number : Binary64) : Nat :=
  if number.exponentField == 0 then number.fraction else number.fraction + Nat.pow 2 52

/-- The exponent of the unit in which the mantissa of a finite number counts. -/
def scale (number : Binary64) : Int :=
  if number.exponentField == 0 then -1074 else number.exponentField - 1075

/-- Positive or negative zero. -/
def isZero (number : Binary64) : Bool :=
  number.isFinite && number.mantissa == 0

/-- The number with the given sign and the given 63 lower bits. -/
def ofMagnitude (negative : Bool) (magnitude : Nat) : Binary64 :=
  ⟨UInt64.ofNat (magnitude + if negative then Nat.pow 2 63 else 0)⟩

/-- The lower bits of an infinite number. -/
def infiniteMagnitude : Nat := 2047 * Nat.pow 2 52

def infinity (negative : Bool) : Binary64 :=
  ofMagnitude negative infiniteMagnitude

/-- A NaN that carries a number. -/
def nanWith (payload : Nat) : Binary64 :=
  ofMagnitude false (infiniteMagnitude + Nat.pow 2 51 + payload)

def nan : Binary64 :=
  nanWith 0

def neg (number : Binary64) : Binary64 :=
  ofMagnitude (!number.isNegative) (number.bits.toNat % Nat.pow 2 63)

/-- The sum, rounded to the nearest number. -/
def add (left right : Binary64) : Binary64 :=
  ⟨(Float.ofBits left.bits + Float.ofBits right.bits).toBits⟩

/-- The product, rounded to the nearest number. -/
def mul (left right : Binary64) : Binary64 :=
  ⟨(Float.ofBits left.bits * Float.ofBits right.bits).toBits⟩

/-- The integer nearest to a ratio; half-way cases go to the even neighbour. -/
def roundHalfEven (numerator denominator : Nat) : Nat :=
  let quotient := numerator / denominator
  let twice := 2 * (numerator % denominator)
  if twice < denominator then quotient
  else if denominator < twice then quotient + 1
  else quotient + quotient % 2

/-- The ratio `numerator / denominator · 2 ^ power` as a pair of natural numbers. -/
def scaled (numerator denominator : Nat) (power : Int) : Nat × Nat :=
  (numerator * Nat.pow 2 power.toNat, denominator * Nat.pow 2 (-power).toNat)

/-- The number nearest to a ratio. -/
def ofRatio (negative : Bool) (numerator denominator : Nat) : Binary64 :=
  if numerator == 0 then ofMagnitude negative 0
  else
    let guess : Int := numerator.log2 - denominator.log2
    let (up, down) := scaled numerator denominator (-guess)
    let leading := if down ≤ up then guess else guess - 1
    let unit := max (leading - 52) (-1074)
    let (top, bottom) := scaled numerator denominator (-unit)
    let magnitude := (unit + 1074).toNat * Nat.pow 2 52 + roundHalfEven top bottom
    ofMagnitude negative (min magnitude infiniteMagnitude)

/-- The number nearest to `digits · 10 ^ exponent`. -/
def ofDecimal (negative : Bool) (digits : Nat) (exponent : Int) : Binary64 :=
  let width : Int := digits.log2 / 3 + 1
  if digits == 0 then ofMagnitude negative 0
  else if exponent > 310 then infinity negative
  else if exponent + width < -330 then ofMagnitude negative 0
  else ofRatio negative (digits * Nat.pow 10 exponent.toNat) (Nat.pow 10 (-exponent).toNat)

/-- The number nearest to an integer. -/
def ofInt (value : Int) : Binary64 :=
  ofRatio (value < 0) value.natAbs 1

/-- The integer equals the number exactly. -/
def equalsInt (number : Binary64) (value : Int) : Bool :=
  number.isFinite &&
    (number.mantissa * Nat.pow 2 number.scale.toNat ==
        value.natAbs * Nat.pow 2 (-number.scale).toNat) &&
    (value == 0 || number.isNegative == decide (value < 0))

/-- The two numbers have equal values: zeros are equal, a NaN equals nothing. -/
def sameValue (left right : Binary64) : Bool :=
  !left.isNaN && !right.isNaN && (left == right || (left.isZero && right.isZero))

end Binary64

end OpenApiJava.Decimal
