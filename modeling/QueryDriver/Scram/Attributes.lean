import QueryDriver.Error

/-!
Attribute lists, the form of every authentication string: segments between commas. A segment is a
key of one character alone or with an equals sign and a value that is not empty; an empty segment
says nothing. Of several attributes with one key the last counts.
-/

namespace QueryDriver.Scram

/-- The pieces of a text between its commas; there is always at least one. -/
def segments : List Char → List (List Char)
  | [] => [[]]
  | letter :: rest =>
      match segments rest with
      | [] => [[letter]]
      | first :: others =>
          if letter = ',' then [] :: first :: others else (letter :: first) :: others

structure Attribute where
  key : Char
  /-- Nothing for a key that stands alone. -/
  value : Option String
  deriving DecidableEq

/-- The attribute of a segment, if it is not empty. -/
def readSegment : List Char → Except DriverError (Option Attribute)
  | [] => .ok none
  | [key] => .ok (some ⟨key, none⟩)
  | key :: '=' :: first :: rest => .ok (some ⟨key, some (String.ofList (first :: rest))⟩)
  | segment => .error (.malformedAttributes (String.ofList segment))

abbrev Attributes := List Attribute

namespace Attributes

/-- Reads a text; the first segment that is no attribute is an error. -/
def parse (text : String) : Except DriverError Attributes := do
  return (← (segments text.toList).mapM readSegment).filterMap id

/-- Whether a key is given, with or without a value. -/
def contains (attributes : Attributes) (key : Char) : Bool :=
  attributes.any fun found => found.key = key

def get? (attributes : Attributes) (key : Char) : Option String :=
  (attributes.filter fun found => found.key = key).getLast?.bind (·.value)

def require (attributes : Attributes) (key : Char) : Except ProtocolError String :=
  match attributes.get? key with
  | some value => .ok value
  | none => .error (.invalidMessage (.missingAttribute key))

end Attributes

end QueryDriver.Scram
