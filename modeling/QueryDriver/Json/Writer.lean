import QueryDriver.Double.Text
import QueryDriver.Json.Basic
import QueryDriver.Json.Quoted

/-!
Compact JSON text: no spaces, members in their stored order, doubles by their shortest digits. A
text is built in front of what follows it, so that nesting costs no more than length.
-/

namespace QueryDriver.Json

def intChars (value : Int) : List Char :=
  if value < 0 then '-' :: Nat.toDigits 10 value.natAbs else Nat.toDigits 10 value.natAbs

mutual

/-- The text of a value, with more text behind it. -/
def charsThen : Json → List Char → List Char
  | .null, rest => 'n' :: 'u' :: 'l' :: 'l' :: rest
  | .bool true, rest => 't' :: 'r' :: 'u' :: 'e' :: rest
  | .bool false, rest => 'f' :: 'a' :: 'l' :: 's' :: 'e' :: rest
  | .int value, rest => intChars value ++ rest
  | .double value, rest => value.finiteText Double.documentStyle ++ rest
  | .string value, rest => Quoted.chars value ++ rest
  | .array items, rest => '[' :: itemsThen items (']' :: rest)
  | .object members, rest => '\x7b' :: membersThen members ('\x7d' :: rest)

/-- The texts of items with commas between them. -/
def itemsThen : List Json → List Char → List Char
  | [], rest => rest
  | [item], rest => charsThen item rest
  | item :: others, rest => charsThen item (',' :: itemsThen others rest)

def membersThen : List (String × Json) → List Char → List Char
  | [], rest => rest
  | [(key, value)], rest => Quoted.chars key ++ ':' :: charsThen value rest
  | (key, value) :: others, rest =>
      Quoted.chars key ++ ':' :: charsThen value (',' :: membersThen others rest)

end

def chars (value : Json) : List Char :=
  value.charsThen []

def compact (value : Json) : String :=
  String.ofList value.chars

def bytes (value : Json) : ByteArray :=
  value.compact.toUTF8

end QueryDriver.Json
