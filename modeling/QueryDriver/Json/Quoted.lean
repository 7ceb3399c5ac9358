/-!
Quoted strings. Writing escapes the quote, the backslash and the control characters and nothing
else. Reading goes in two steps: `scan` finds the closing quote and checks the escapes one by one,
and `text?` puts the pieces together, which fails on half of a surrogate pair and on bytes that are
not UTF-8. A string that nobody asks for is only scanned.
-/

namespace QueryDriver.Json.Quoted

def quote : UInt8 := 0x22

def backslash : UInt8 := 0x5C

/-- Part of a string as it stands between the quotes: a byte, or the code unit of a `\u` escape. -/
inductive Piece
  | byte (value : UInt8)
  | unit (code : Nat)
  deriving DecidableEq

def hexDigit? (byte : UInt8) : Option Nat :=
  if 0x30 ≤ byte ∧ byte ≤ 0x39 then some (byte.toNat - 0x30)
  else if 0x41 ≤ byte ∧ byte ≤ 0x46 then some (byte.toNat - 0x41 + 10)
  else if 0x61 ≤ byte ∧ byte ≤ 0x66 then some (byte.toNat - 0x61 + 10)
  else none

def codeUnit? (first second third fourth : UInt8) : Option Nat := do
  return (((← hexDigit? first) * 16 + (← hexDigit? second)) * 16 + (← hexDigit? third)) * 16
    + (← hexDigit? fourth)

/-- The byte that a one-letter escape stands for. -/
def shortEscape? (letter : UInt8) : Option UInt8 :=
  if letter = quote ∨ letter = backslash ∨ letter = 0x2F then some letter
  else if letter = 0x62 then some 0x08
  else if letter = 0x66 then some 0x0C
  else if letter = 0x6E then some 0x0A
  else if letter = 0x72 then some 0x0D
  else if letter = 0x74 then some 0x09
  else none

/-- Reads up to the closing quote. The pieces found so far are given in reverse. -/
def scan : List UInt8 → List Piece → Option (List Piece × List UInt8)
  | [], _ => none
  | first :: rest, found =>
      if first = quote then some (found.reverse, rest)
      else if first = backslash then
        match rest with
        | [] => none
        | letter :: rest =>
            if letter = 0x75 then
              match rest with
              | a :: b :: c :: d :: rest =>
                  match codeUnit? a b c d with
                  | some code => scan rest (.unit code :: found)
                  | none => none
              | _ => none
            else
              match shortEscape? letter with
              | some byte => scan rest (.byte byte :: found)
              | none => none
      else if first < 0x20 then none
      else scan rest (.byte first :: found)

def isHighSurrogate (code : Nat) : Bool :=
  0xD800 ≤ code ∧ code < 0xDC00

def isLowSurrogate (code : Nat) : Bool :=
  0xDC00 ≤ code ∧ code < 0xE000

def combineSurrogates (high low : Nat) : Nat :=
  0x10000 + (high - 0xD800) * 0x400 + (low - 0xDC00)

/-- The bytes of a sequence of pieces. The bytes found so far are given in reverse. -/
def bytes? : List Piece → List UInt8 → Option (List UInt8)
  | [], found => some found.reverse
  | .byte value :: rest, found => bytes? rest (value :: found)
  | .unit code :: rest, found =>
      if isHighSurrogate code then
        match rest with
        | .unit low :: rest =>
            if isLowSurrogate low then
              let character := Char.ofNat (combineSurrogates code low)
              bytes? rest ((String.utf8EncodeChar character).reverse ++ found)
            else none
        | _ => none
      else if isLowSurrogate code then none
      else bytes? rest ((String.utf8EncodeChar (Char.ofNat code)).reverse ++ found)

def text? (pieces : List Piece) : Option String :=
  match bytes? pieces [] with
  | some bytes => String.fromUTF8? ⟨bytes.toArray⟩
  | none => none

/-- What is written for one character. -/
def escape (character : Char) : List Char :=
  if character = '"' then ['\\', '"']
  else if character = '\\' then ['\\', '\\']
  else if character = '\n' then ['\\', 'n']
  else if character = '\r' then ['\\', 'r']
  else if character = '\t' then ['\\', 't']
  else if character = '\x08' then ['\\', 'b']
  else if character = '\x0C' then ['\\', 'f']
  else if character.toNat < 0x20 then
    ['\\', 'u', '0', '0', Nat.digitChar (character.toNat / 16),
      Nat.digitChar (character.toNat % 16)]
  else [character]

def chars (text : String) : List Char :=
  '"' :: text.toList.flatMap escape ++ ['"']

end QueryDriver.Json.Quoted
