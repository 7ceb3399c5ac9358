import QueryDriver.Double

/-!
Shortest decimal forms. The reals that round to a finite double form an interval; the shortest
decimal form is the number with the fewest digits in it, and the nearest of those. Everything is
compared exactly, in quarters of the unit `2 ^ -1074`, where the ends of the interval are integers.
-/

namespace QueryDriver.Double

/-- How a choice between two equally near decimals falls. -/
inductive Tie
  | even
  | up
  deriving DecidableEq

/-- A decimal number `digits * 10 ^ exponent`. -/
structure Decimal where
  digits : Nat
  exponent : Int
  deriving DecidableEq, Inhabited

/-- The reals that round to a double: `center` is its value and the ends belong to it when
`closed`. -/
structure Interval where
  low : Nat
  center : Nat
  high : Nat
  closed : Bool

def interval (number : Double) : Interval :=
  let unit := Nat.pow 2 number.power
  let below := if number.significand = exponentWeight ∧ 0 < number.power then unit else 2 * unit
  { low := 4 * number.significand * unit - below
    center := 4 * number.significand * unit
    high := 4 * number.significand * unit + 2 * unit
    closed := number.significand % 2 = 0 }

/-- A number of quarter units as a quotient, over `10 ^ exponent`. -/
def overTenTo (quarters : Nat) (exponent : Int) : Nat × Nat :=
  (quarters * Nat.pow 10 (-exponent).toNat, Nat.pow 2 1076 * Nat.pow 10 exponent.toNat)

/-- Whether `10 ^ exponent` is at most the number. -/
def reaches (quarters : Nat) (exponent : Int) : Bool :=
  let (numerator, denominator) := overTenTo quarters exponent
  denominator ≤ numerator

/-- The exponent `k` with `10 ^ k` at most the number and `10 ^ (k + 1)` above it. The binary
logarithm times 1233 / 4096, slightly less than the decimal logarithm of two, is off by one at
most. -/
def decade (quarters : Nat) : Int :=
  let estimate := ((Nat.log2 quarters : Int) - 1076) * 1233 / 4096
  if reaches quarters (estimate + 1) then estimate + 1
  else if reaches quarters estimate then estimate
  else estimate - 1

def Interval.contains (range : Interval) (exponent : Int) (candidate : Nat) : Bool :=
  let scaled := candidate * (overTenTo range.center exponent).2
  let low := (overTenTo range.low exponent).1
  let high := (overTenTo range.high exponent).1
  if range.closed then low ≤ scaled ∧ scaled ≤ high else low < scaled ∧ scaled < high

/-- The nearest multiple of `10 ^ exponent` to the center that lies in the interval. -/
def Interval.nearest? (tie : Tie) (range : Interval) (exponent : Int) : Option Decimal :=
  let (numerator, denominator) := overTenTo range.center exponent
  let floor := numerator / denominator
  let above := 2 * (numerator % denominator)
  let preferUp := denominator < above ∨
    (above = denominator ∧ (tie = .up ∨ floor % 2 = 1))
  let first := if preferUp then floor + 1 else floor
  let second := if preferUp then floor else floor + 1
  if range.contains exponent first then some ⟨first, exponent⟩
  else if range.contains exponent second then some ⟨second, exponent⟩
  else none

/-- The first hit on ever finer grids. -/
def Interval.search (tie : Tie) (range : Interval) : Nat → Int → Decimal
  | 0, exponent =>
      ⟨(overTenTo range.center exponent).1 / (overTenTo range.center exponent).2, exponent⟩
  | finer + 1, exponent =>
      match range.nearest? tie exponent with
      | some found => found
      | none => range.search tie finer (exponent - 1)

/-- Moves zeros at the end of the digits into the exponent. -/
def Decimal.trim : Nat → Decimal → Decimal
  | 0, number => number
  | steps + 1, number =>
      if number.digits ≠ 0 ∧ number.digits % 10 = 0 then
        trim steps ⟨number.digits / 10, number.exponent + 1⟩
      else number

/-- The shortest decimal form of a finite double other than zero. Seventeen digits are always
enough to tell a double from its neighbours. -/
def shortest (tie : Tie) (number : Double) : Decimal :=
  let range := number.interval
  (range.search tie 17 (decade range.center)).trim 18

end QueryDriver.Double
