import QueryDriver.Json.Numeral
import QueryDriver.Json.Quoted

/-!
Documents as they are written: the grammar of JSON, without a limit on nesting and without a look
into numbers and strings. A reader of this tree decides which parts it needs, and only those have
to be representable. The containers that are open at a point of the text are kept in a list, so
that nesting costs no more than length.
-/

namespace QueryDriver.Json

inductive Document
  | null
  | bool (value : Bool)
  | number (numeral : Numeral)
  | string (pieces : List Quoted.Piece)
  | array (items : List Document)
  | object (members : List (List Quoted.Piece × Document))

namespace Document

/-- Reads something from the start of the input and gives what follows. -/
abbrev Scanner (α : Type) := List UInt8 → Option (α × List UInt8)

def isSpace (byte : UInt8) : Bool :=
  byte = 0x20 ∨ byte = 0x0A ∨ byte = 0x0D ∨ byte = 0x09

def skipSpace (input : List UInt8) : List UInt8 :=
  input.dropWhile isSpace

def literal {α : Type} (word : List UInt8) (result : α) : Scanner α :=
  fun input => if word.isPrefixOf input then some (result, input.drop word.length) else none

abbrev Key := List Quoted.Piece

/-- A container that is being read: what stands before the current item, the latest first. -/
inductive Opened
  | array (before : List Document)
  | object (before : List (Key × Document)) (key : Key)

/-- The name of a member and the colon after it. -/
def key : Scanner Key :=
  fun input =>
    match skipSpace input with
    | [] => none
    | next :: rest =>
        if next = Quoted.quote then
          match Quoted.scan rest [] with
          | none => none
          | some (key, rest) =>
              match skipSpace rest with
              | [] => none
              | next :: rest => if next = 0x3A then some (key, rest) else none
        else none

/-- The start of a value, with space before it: a whole value, or the opening of a container up to
its first item. -/
def enter : Scanner (Document ⊕ Opened) :=
  fun input =>
    match skipSpace input with
    | [] => none
    | first :: rest =>
        if first = 0x5B then
          match skipSpace rest with
          | [] => none
          | next :: after =>
              if next = 0x5D then some (.inl (.array []), after)
              else some (.inr (.array []), next :: after)
        else if first = 0x7B then
          match skipSpace rest with
          | [] => none
          | next :: after =>
              if next = 0x7D then some (.inl (.object []), after)
              else (key (next :: after)).map fun (key, rest) => (.inr (.object [] key), rest)
        else if first = Quoted.quote then
          (Quoted.scan rest []).map fun (pieces, rest) => (.inl (.string pieces), rest)
        else if first = 0x6E then literal [0x75, 0x6C, 0x6C] (.inl .null) rest
        else if first = 0x74 then literal [0x72, 0x75, 0x65] (.inl (.bool true)) rest
        else if first = 0x66 then literal [0x61, 0x6C, 0x73, 0x65] (.inl (.bool false)) rest
        else (Numeral.scan (first :: rest)).map fun (numeral, rest) => (.inl (.number numeral), rest)

/-- Puts a value into the containers around it, closing those that end with it: the value that is
whole then, or the containers that wait for their next item. -/
def settle : Document → List Opened → Scanner (Document ⊕ List Opened)
  | found, [], input => some (.inl found, input)
  | found, .array before :: outer, input =>
      match skipSpace input with
      | [] => none
      | next :: rest =>
          if next = 0x5D then settle (.array (found :: before).reverse) outer rest
          else if next = 0x2C then some (.inr (.array (found :: before) :: outer), rest)
          else none
  | found, .object before name :: outer, input =>
      match skipSpace input with
      | [] => none
      | next :: rest =>
          if next = 0x7D then settle (.object ((name, found) :: before).reverse) outer rest
          else if next = 0x2C then
            (key rest).map fun (next, rest) =>
              (.inr (.object ((name, found) :: before) next :: outer), rest)
          else none

/-- Reads from the start of an item up to the end of the outermost container. Every round takes a
byte at least, so the fuel need not exceed the length of the input. -/
def inside : Nat → List Opened → Scanner Document
  | 0, _, _ => none
  | fuel + 1, outer, input =>
      match enter input with
      | none => none
      | some (.inr opened, rest) => inside fuel (opened :: outer) rest
      | some (.inl found, rest) =>
          match settle found outer rest with
          | none => none
          | some (.inl found, rest) => some (found, rest)
          | some (.inr outer, rest) => inside fuel outer rest

/-- One value, with space before it. -/
def value : Scanner Document :=
  fun input => inside input.length [] input

def read? (input : List UInt8) : Option Document :=
  match value input with
  | some (found, rest) => if (skipSpace rest).isEmpty then some found else none
  | none => none

end Document

end QueryDriver.Json
