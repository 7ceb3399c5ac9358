import QueryDriver.Json.Document

/-!
Reading JSON values: a document is a value when it is nested no deeper than allowed, its numbers
are not too large and its strings are text. Of two members with one key the later one counts.
-/

namespace QueryDriver.Json

/-- The number of arrays and objects that may stand inside each other in a message. -/
def nestingLimit : Nat := 127

mutual

/-- The value of a document, none if it nests deeper than allowed or holds what has no value. -/
def ofDocument? (nesting : Nat) : Document → Option Json
  | .null => some .null
  | .bool value => some (.bool value)
  | .number numeral => numeral.value?
  | .string pieces => (Quoted.text? pieces).map .string
  | .array items =>
      match nesting with
      | 0 => none
      | nesting + 1 => (ofItems? nesting items).map .array
  | .object members =>
      match nesting with
      | 0 => none
      | nesting + 1 => (ofMembers? nesting members).map fun pairs => .object (Members.ofPairs pairs)

def ofItems? (nesting : Nat) : List Document → Option (List Json)
  | [] => some []
  | item :: rest =>
      match ofDocument? nesting item, ofItems? nesting rest with
      | some value, some values => some (value :: values)
      | _, _ => none

def ofMembers? (nesting : Nat) : List (List Quoted.Piece × Document) → Option (List (String × Json))
  | [] => some []
  | (key, item) :: rest =>
      match Quoted.text? key, ofDocument? nesting item, ofMembers? nesting rest with
      | some key, some value, some pairs => some ((key, value) :: pairs)
      | _, _, _ => none

end

def read? (input : List UInt8) : Option Json :=
  (Document.read? input).bind (ofDocument? nestingLimit)

end QueryDriver.Json
