/-!
Points in time: seconds since the start of 1970 in universal time, and nanoseconds. A count of at
least a thousand million nanoseconds stands for a leap second, the sixtieth second of its minute.
-/

namespace QueryDriver

structure Instant where
  seconds : Int
  nanoseconds : Nat
  deriving DecidableEq, Inhabited

namespace Instant

structure Date where
  year : Int
  month : Nat
  day : Nat
  deriving DecidableEq

/-- The date of a day counted from the first of January 1970. Years are taken to begin in March,
so that a leap day ends its year, and to come in eras of four hundred. -/
def dateOfDay (day : Int) : Date :=
  let shifted := day + 719468
  let era := shifted / 146097
  let dayOfEra := (shifted % 146097).toNat
  let yearOfEra := (dayOfEra - dayOfEra / 1460 + dayOfEra / 36524 - dayOfEra / 146096) / 365
  let dayOfYear := dayOfEra - (365 * yearOfEra + yearOfEra / 4 - yearOfEra / 100)
  let monthFromMarch := (5 * dayOfYear + 2) / 153
  let month := if monthFromMarch < 10 then monthFromMarch + 3 else monthFromMarch - 9
  { year := era * 400 + yearOfEra + (if month ≤ 2 then 1 else 0)
    month
    day := dayOfYear - (153 * monthFromMarch + 2) / 5 + 1 }

def padded (width number : Nat) : List Char :=
  let digits := Nat.toDigits 10 number
  List.replicate (width - digits.length) '0' ++ digits

/-- Years of four digits stand bare; earlier and later ones have a sign. -/
def yearText (year : Int) : List Char :=
  if 0 ≤ year ∧ year ≤ 9999 then padded 4 year.toNat
  else (if year < 0 then '-' else '+') :: padded 4 year.natAbs

def nanosecondsPerSecond : Nat := 1000000000

def fraction (time : Instant) : Nat :=
  time.nanoseconds % nanosecondsPerSecond

def wholeText (time : Instant) : List Char :=
  let date := dateOfDay (time.seconds / 86400)
  let second := (time.seconds % 86400).toNat
  yearText date.year ++ '-' :: padded 2 date.month ++ '-' :: padded 2 date.day ++
    'T' :: padded 2 (second / 3600) ++ ':' :: padded 2 (second / 60 % 60) ++
    ':' :: padded 2 (second % 60 + time.nanoseconds / nanosecondsPerSecond)

/-- The ISO 8601 text, with the milliseconds cut off and not rounded. -/
def iso8601 (time : Instant) : String :=
  String.ofList (time.wholeText ++ '.' :: padded 3 (time.fraction / 1000000) ++ ['Z'])

/-- The developer-facing text, with three, six or nine digits of the second as they are needed. -/
def inspect (time : Instant) : String :=
  let fraction := time.fraction
  let digits :=
    if fraction = 0 then []
    else if fraction % 1000000 = 0 then '.' :: padded 3 (fraction / 1000000)
    else if fraction % 1000 = 0 then '.' :: padded 6 (fraction / 1000)
    else '.' :: padded 9 fraction
  String.ofList (time.wholeText ++ digits ++ ['Z'])

end Instant

end QueryDriver
