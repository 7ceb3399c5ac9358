/-!
Base64 with padding. A text is accepted only in its one written form: full groups of four, padding
only at the end, and no bits set that the padding cuts off.
-/

namespace QueryDriver.Base64

def letter (value : Nat) : Char :=
  if value < 26 then Char.ofNat (value + 65)
  else if value < 52 then Char.ofNat (value - 26 + 97)
  else if value < 62 then Char.ofNat (value - 52 + 48)
  else if value = 62 then '+'
  else '/'

def value? (letter : Char) : Option Nat :=
  let code := letter.toNat
  if 65 ≤ code ∧ code ≤ 90 then some (code - 65)
  else if 97 ≤ code ∧ code ≤ 122 then some (code - 97 + 26)
  else if 48 ≤ code ∧ code ≤ 57 then some (code - 48 + 52)
  else if letter = '+' then some 62
  else if letter = '/' then some 63
  else none

def encodeChars : List UInt8 → List Char
  | [] => []
  | [a] => [letter (a.toNat / 4), letter (a.toNat % 4 * 16), '=', '=']
  | [a, b] =>
      [letter (a.toNat / 4), letter (a.toNat % 4 * 16 + b.toNat / 16),
        letter (b.toNat % 16 * 4), '=']
  | a :: b :: c :: rest =>
      letter (a.toNat / 4) :: letter (a.toNat % 4 * 16 + b.toNat / 16) ::
        letter (b.toNat % 16 * 4 + c.toNat / 64) :: letter (c.toNat % 64) :: encodeChars rest

def encode (bytes : List UInt8) : String :=
  String.ofList (encodeChars bytes)

def group? (a b c d : Char) : Option (List UInt8) := do
  let bits := (((← value? a) * 64 + (← value? b)) * 64 + (← value? c)) * 64 + (← value? d)
  return [UInt8.ofNat (bits / 65536), UInt8.ofNat (bits / 256), UInt8.ofNat bits]

/-- The last group, which may be padded. -/
def lastGroup? (a b c d : Char) : Option (List UInt8) :=
  if d = '=' then
    if c = '=' then do
      let bits := (← value? a) * 64 + (← value? b)
      if bits % 16 = 0 then return [UInt8.ofNat (bits / 16)] else none
    else do
      let bits := ((← value? a) * 64 + (← value? b)) * 64 + (← value? c)
      if bits % 4 = 0 then return [UInt8.ofNat (bits / 1024), UInt8.ofNat (bits / 4)] else none
  else group? a b c d

def decodeChars? : List Char → Option (List UInt8)
  | [] => some []
  | [a, b, c, d] => lastGroup? a b c d
  | a :: b :: c :: d :: rest =>
      match group? a b c d, decodeChars? rest with
      | some bytes, some others => some (bytes ++ others)
      | _, _ => none
  | _ => none

def decode? (text : String) : Option (List UInt8) :=
  decodeChars? text.toList

end QueryDriver.Base64
