/-!
Text from bytes that need not be UTF-8. Each longest piece that begins a character but does not
complete it, and each byte that begins none, becomes one replacement character.
-/

namespace QueryDriver.Text

def replacement : Char := '\uFFFD'

/-- A character that has begun: the continuation bytes still owed, the bits so far, and the range
of the next byte. -/
structure Begun where
  owed : Nat
  value : Nat
  low : UInt8
  high : UInt8

/-- What the first byte of a character of several bytes begins. -/
def begin? (first : UInt8) : Option Begun :=
  if first < 0xC2 then none
  else if first < 0xE0 then some ⟨1, first.toNat - 0xC0, 0x80, 0xBF⟩
  else if first < 0xF0 then
    some ⟨2, first.toNat - 0xE0, if first = 0xE0 then 0xA0 else 0x80,
      if first = 0xED then 0x9F else 0xBF⟩
  else if first < 0xF5 then
    some ⟨3, first.toNat - 0xF0, if first = 0xF0 then 0x90 else 0x80,
      if first = 0xF4 then 0x8F else 0xBF⟩
  else none

/-- Takes a byte where a character starts. The characters found so far are in reverse. -/
def startCharacter (byte : UInt8) (found : List Char) : Option Begun × List Char :=
  if byte < 0x80 then (none, Char.ofNat byte.toNat :: found)
  else
    match begin? byte with
    | some begun => (some begun, found)
    | none => (none, replacement :: found)

def lossyChars : List UInt8 → Option Begun → List Char → List Char
  | [], none, found => found.reverse
  | [], some _, found => (replacement :: found).reverse
  | byte :: rest, none, found =>
      let (begun, found) := startCharacter byte found
      lossyChars rest begun found
  | byte :: rest, some begun, found =>
      if begun.low ≤ byte ∧ byte ≤ begun.high then
        let value := begun.value * 64 + (byte.toNat - 0x80)
        if begun.owed = 1 then lossyChars rest none (Char.ofNat value :: found)
        else lossyChars rest (some ⟨begun.owed - 1, value, 0x80, 0xBF⟩) found
      else
        let (begun, found) := startCharacter byte (replacement :: found)
        lossyChars rest begun found

def lossy (bytes : List UInt8) : String :=
  String.ofList (lossyChars bytes none [])

def bytes (text : String) : List UInt8 :=
  text.toUTF8.data.toList

end QueryDriver.Text
