import QueryDriver.Json.Basic

/-!
Numerals: how a number is written, and the number that is meant. An integer without point or
exponent that fits sixty-four bits, signed or unsigned, is itself. Every other number is a double,
put together from the digits that fit an unsigned sixty-four-bit significand and one multiplication
or division by a power of ten, so that the last bit may differ from that of the nearest double.
-/

namespace QueryDriver.Json

structure Numeral where
  negative : Bool
  whole : List Nat
  fraction : Option (List Nat)
  /-- Whether the exponent has a minus sign, and its digits. -/
  exponent : Option (Bool × List Nat)
  deriving DecidableEq

namespace Numeral

def isDigit (byte : UInt8) : Bool :=
  0x30 ≤ byte ∧ byte ≤ 0x39

/-- The digits at the start, at least one of them, and what follows. -/
def digits? (input : List UInt8) : Option (List Nat × List UInt8) :=
  let found := input.takeWhile isDigit
  if found.isEmpty then none
  else some (found.map (fun byte => byte.toNat - 0x30), input.dropWhile isDigit)

def scanFraction (input : List UInt8) : Option (Option (List Nat) × List UInt8) :=
  match input with
  | 0x2E :: rest => (digits? rest).map fun (digits, rest) => (some digits, rest)
  | _ => some (none, input)

def scanSign (input : List UInt8) : Bool × List UInt8 :=
  match input with
  | 0x2D :: rest => (true, rest)
  | 0x2B :: rest => (false, rest)
  | _ => (false, input)

def scanExponent (input : List UInt8) : Option (Option (Bool × List Nat) × List UInt8) :=
  match input with
  | first :: rest =>
      if first = 0x65 ∨ first = 0x45 then
        let (negative, rest) := scanSign rest
        (digits? rest).map fun (digits, rest) => (some (negative, digits), rest)
      else some (none, input)
  | [] => some (none, input)

/-- Reads a numeral. Its whole part has no needless zero in front. -/
def scan (input : List UInt8) : Option (Numeral × List UInt8) := do
  let (negative, input) := match input with
    | 0x2D :: rest => (true, rest)
    | _ => (false, input)
  let (whole, input) ← digits? input
  guard (whole.length = 1 ∨ whole.head? ≠ some 0)
  let (fraction, input) ← scanFraction input
  let (exponent, input) ← scanExponent input
  return (⟨negative, whole, fraction, exponent⟩, input)

def significandLimit : Nat := UInt64.size

/-- The leading digits that fit a significand, and the number of digits left out. -/
def wholePart (digits : List Nat) : Nat × Nat :=
  digits.foldl (fun (value, dropped) digit =>
    if dropped = 0 ∧ value * 10 + digit < significandLimit then (value * 10 + digit, 0)
    else (value, dropped + 1)) (0, 0)

/-- Appends the digits of a fraction until one no longer fits, and counts the digits appended. -/
def appendFraction (value : Nat) : List Nat → Nat × Nat
  | [] => (value, 0)
  | digit :: rest =>
      if value * 10 + digit < significandLimit then
        let (value, count) := appendFraction (value * 10 + digit) rest
        (value, count + 1)
      else (value, 0)

def tenTo (exponent : Nat) : Double :=
  Double.ofNat (Nat.pow 10 exponent)

/-- A finite double times a power of ten, none if it grows too large. Powers below `10 ^ -308` are
applied in several steps, which end as soon as the number is zero. -/
def scale (number : Double) (exponent : Int) : Option Double :=
  if 0 ≤ exponent then
    if exponent ≤ 308 then
      let product := number.mul (tenTo exponent.natAbs)
      if product.isFinite then some product else none
    else if number.isZero then some number
    else none
  else if -308 ≤ exponent then some (number.div (tenTo exponent.natAbs))
  else if number.isZero then some number
  else scale (number.div (tenTo 308)) (exponent + 308)
termination_by exponent.natAbs

def signed (negative : Bool) (number : Double) : Double :=
  if negative then number.negate else number

def exponentLimit : Nat := 0x80000000

/-- The exponent that is written, none if it needs more than thirty-one bits. A value at the limit
stays there, however many digits follow. -/
def writtenExponent? (digits : List Nat) : Option Nat :=
  let value := digits.foldl (fun value digit => min exponentLimit (value * 10 + digit)) 0
  if value < exponentLimit then some value else none

def double? (negative : Bool) (value : Nat) (shift : Int) : Option Json :=
  (scale (Double.ofNat value) shift).map fun number => .double (signed negative number)

/-- The number that a numeral stands for, none if it is too large for a double. -/
def value? (numeral : Numeral) : Option Json :=
  let (whole, dropped) := wholePart numeral.whole
  match numeral.fraction, numeral.exponent with
  | none, none =>
      if dropped ≠ 0 then double? numeral.negative whole dropped
      else if !numeral.negative then some (.int whole)
      else if whole = 0 ∨ Double.signWeight < whole then some (.double (Double.ofNat whole).negate)
      else some (.int (-whole))
  | fraction, exponent =>
      let (value, appended) := appendFraction whole (fraction.getD [])
      let shift := (dropped : Int) - appended
      match exponent with
      | none => double? numeral.negative value shift
      | some (downwards, digits) =>
          match writtenExponent? digits with
          | some written =>
              double? numeral.negative value
                (if downwards then shift - written else shift + written)
          | none =>
              if value ≠ 0 ∧ !downwards then none
              else some (.double (Double.ofMagnitude numeral.negative 0))

end Numeral

end QueryDriver.Json
