import QueryDriver.Text.Unprintable

/-!
Quoted text for developers: what cannot be told by its look is written by an escape.
-/

namespace QueryDriver.Text

def hexDigits (number : Nat) : List Char :=
  Nat.toDigits 16 number

def quotedCharacter (character : Char) : List Char :=
  if character = '"' then ['\\', '"']
  else if character = '\\' then ['\\', '\\']
  else if character = '\n' then ['\\', 'n']
  else if character = '\r' then ['\\', 'r']
  else if character = '\t' then ['\\', 't']
  else if character = '\x00' then ['\\', '0']
  else if character.toNat < 0x20 || isUnprintable character then
    '\\' :: 'u' :: '\x7b' :: hexDigits character.toNat ++ ['\x7d']
  else [character]

def quoted (text : String) : String :=
  String.ofList ('"' :: text.toList.flatMap quotedCharacter ++ ['"'])

end QueryDriver.Text
