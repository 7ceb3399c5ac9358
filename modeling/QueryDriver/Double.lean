/-!
Double-precision numbers, held as their sixty-four bits. A finite number is
`significand * 2 ^ power` in units of `2 ^ -1074`, the smallest positive double. Arithmetic is done
exactly on natural numbers and rounded once, to the nearest double and to the even one of two
equally near.
-/

namespace QueryDriver

structure Double where
  bits : UInt64
  deriving DecidableEq, Inhabited

namespace Double

/-- The weight of the sign bit, `2 ^ 63`. -/
def signWeight : Nat := 0x8000000000000000

/-- The weight of the lowest bit of the exponent field, `2 ^ 52`. -/
def exponentWeight : Nat := 0x10000000000000

def isNegative (number : Double) : Bool :=
  signWeight ≤ number.bits.toNat

def magnitude (number : Double) : Nat :=
  number.bits.toNat % signWeight

/-- The magnitude of the infinities; the magnitudes above it are those of the NaNs. -/
def infiniteMagnitude : Nat :=
  2047 * exponentWeight

def ofMagnitude (negative : Bool) (magnitude : Nat) : Double :=
  ⟨UInt64.ofNat (if negative then signWeight + magnitude else magnitude)⟩

def isFinite (number : Double) : Bool :=
  number.magnitude < infiniteMagnitude

def isNaN (number : Double) : Bool :=
  infiniteMagnitude < number.magnitude

def isZero (number : Double) : Bool :=
  number.magnitude = 0

def negate (number : Double) : Double :=
  ofMagnitude (!number.isNegative) number.magnitude

def significand (number : Double) : Nat :=
  if number.magnitude < exponentWeight then number.magnitude
  else exponentWeight + number.magnitude % exponentWeight

def power (number : Double) : Nat :=
  number.magnitude / exponentWeight - 1

/-- Whether two finite numbers have the same value: the two zeros do. -/
def equal (left right : Double) : Bool :=
  left.bits = right.bits || (left.isZero && right.isZero)

/-- The nearest integer to a quotient, the even one of two equally near. -/
def roundQuotient (numerator denominator : Nat) : Nat :=
  let quotient := numerator / denominator
  let twice := 2 * (numerator % denominator)
  if denominator < twice ∨ (twice = denominator ∧ quotient % 2 = 1) then quotient + 1
  else quotient

/-- The double nearest to a quotient of natural numbers; too large ones become infinite.
A significand that rounds up to `2 ^ 53` carries into the exponent field, which is the next
double. -/
def ofQuotient (negative : Bool) (numerator denominator : Nat) : Double :=
  let units := numerator * Nat.pow 2 1074
  let shift := Nat.log2 (units / denominator) - 52
  let rounded := roundQuotient units (denominator * Nat.pow 2 shift)
  ofMagnitude negative (min (shift * exponentWeight + rounded) infiniteMagnitude)

def ofNat (number : Nat) : Double :=
  ofQuotient false number 1

def ofInt (number : Int) : Double :=
  ofQuotient (number < 0) number.natAbs 1

def mul (left right : Double) : Double :=
  ofQuotient (left.isNegative != right.isNegative)
    (left.significand * right.significand * Nat.pow 2 (left.power + right.power))
    (Nat.pow 2 (2 * 1074))

/-- The quotient by a number that is not zero. -/
def div (left right : Double) : Double :=
  ofQuotient (left.isNegative != right.isNegative)
    (left.significand * Nat.pow 2 left.power) (right.significand * Nat.pow 2 right.power)

end Double

end QueryDriver
