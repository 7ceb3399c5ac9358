import QueryDriver.Double.Shortest

/-!
Written forms of doubles: the shortest digits, with a point or with an exponent.
-/

namespace QueryDriver.Double

/-- The choices that a written form leaves open. -/
structure Style where
  tie : Tie
  /-- Put before an exponent that is not negative. -/
  exponentSign : String
  /-- The exponent of the first digit of the smallest numbers that are written with a point. -/
  leastPositional : Int

/-- Documents write `1e+16` and `0.00001`, and break ties to the even digit. -/
def documentStyle : Style :=
  ⟨.even, "+", -5⟩

/-- Developer-facing texts write `1e16` and `1e-5`, and break ties upwards. -/
def inspectionStyle : Style :=
  ⟨.up, "", -4⟩

/-- The digits of a number, with the exponent of its first digit. -/
def Decimal.split (number : Decimal) : List Char × Int :=
  let digits := Nat.toDigits 10 number.digits
  (digits, number.exponent + digits.length - 1)

def zeros (count : Nat) : List Char :=
  List.replicate count '0'

/-- Digits with a point, always with a digit on both sides of it. -/
def positional (digits : List Char) (leading : Int) : List Char :=
  if leading < 0 then
    '0' :: '.' :: zeros (-leading - 1).toNat ++ digits
  else
    let whole := leading.toNat + 1
    let fraction := digits.drop whole
    digits.take whole ++ zeros (whole - digits.length) ++ '.' ::
      (if fraction.isEmpty then ['0'] else fraction)

def scientific (style : Style) (digits : List Char) (leading : Int) : List Char :=
  let fraction := digits.drop 1
  digits.take 1 ++ (if fraction.isEmpty then [] else '.' :: fraction) ++ 'e' ::
    (if leading < 0 then ['-'] else style.exponentSign.toList) ++ Nat.toDigits 10 leading.natAbs

/-- The text of a finite number: with a point when the exponent of its first digit is at least the
least positional one and below 16, with an exponent otherwise. -/
def finiteText (style : Style) (number : Double) : List Char :=
  let sign := if number.isNegative then ['-'] else []
  if number.isZero then sign ++ ['0', '.', '0']
  else
    let (digits, leading) := (number.shortest style.tie).split
    sign ++ (if style.leastPositional ≤ leading ∧ leading < 16 then positional digits leading
      else scientific style digits leading)

/-- The developer-facing text of any number. -/
def inspect (number : Double) : String :=
  if number.isNaN then "NaN"
  else if number.isFinite then String.ofList (number.finiteText inspectionStyle)
  else if number.isNegative then "-inf"
  else "inf"

end QueryDriver.Double
