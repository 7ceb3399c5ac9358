import QueryDriver.Error

/-!
Iteration counts as text: decimal digits with an optional plus sign, for a number of thirty-two
bits.
-/

namespace QueryDriver.Scram

def countLimit : Nat := UInt32.size

/-- Reads digits behind those that make up the count so far. A letter that is no digit is noticed
before the count grows too large at it. -/
def readDigits (count : Nat) : List Char → Except CountFault Nat
  | [] => .ok count
  | letter :: rest =>
      if letter.isDigit then
        let count := count * 10 + (letter.toNat - '0'.toNat)
        if count < countLimit then readDigits count rest else .error .tooLarge
      else .error .invalidDigit

/-- Reads a count. A sign must have digits behind it. -/
def readCount (text : String) : Except CountFault Nat :=
  match text.toList with
  | [] => .error .empty
  | ['+'] => .error .invalidDigit
  | '+' :: digits => readDigits 0 digits
  | digits => readDigits 0 digits

end QueryDriver.Scram
