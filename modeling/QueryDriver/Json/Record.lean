import QueryDriver.Json.Reader
import QueryDriver.Json.Writer

/-!
Messages: objects with a fixed list of fields. A message may be read from an object, whose unknown
members are passed over unread, or from an array of its fields in their order. No field may be
given twice.
-/

namespace QueryDriver.Json

/-- The fields that a message gives, under their names. -/
abbrev Record := List (String × Json)

namespace Record

def ofMembers? (names : List String) : List (List Quoted.Piece × Document) → Option Record
  | [] => some []
  | (key, document) :: rest =>
      match Quoted.text? key, ofMembers? names rest with
      | some key, some record =>
          if key ∈ names then
            if key ∈ record.map (·.1) then none
            else (ofDocument? (nestingLimit - 1) document).map fun value => (key, value) :: record
          else some record
      | _, _ => none

/-- Reads the fields with the given names. -/
def read? (names : List String) (input : List UInt8) : Option Record :=
  match Document.read? input with
  | some (.object members) => ofMembers? names members
  | some (.array items) =>
      if items.length ≤ names.length then
        (ofItems? (nestingLimit - 1) items).map fun values => names.zip values
      else none
  | _ => none

def field (record : Record) (name : String) : Option Json :=
  record.lookup name

/-- A field that must be given, as a truth value. -/
def bool? (record : Record) (name : String) : Option Bool :=
  match record.field name with
  | some (.bool value) => some value
  | _ => none

/-- A field that must be given, as text. -/
def string? (record : Record) (name : String) : Option String :=
  match record.field name with
  | some (.string value) => some value
  | _ => none

def int64? : Json → Option Int64
  | .int value =>
      if Int64.minValue.toInt ≤ value ∧ value ≤ Int64.maxValue.toInt then some (Int64.ofInt value)
      else none
  | _ => none

def uint32? : Json → Option UInt32
  | .int value =>
      if 0 ≤ value ∧ value < UInt32.size then some (UInt32.ofNat value.toNat) else none
  | _ => none

/-- A field that may be missing or null. The outer option is none if the field is not as wanted. -/
def optional? {α : Type} (convert : Json → Option α) (record : Record) (name : String) :
    Option (Option α) :=
  match record.field name with
  | none => some none
  | some .null => some none
  | some value => (convert value).map some

/-- A field that has a value of its own when it is missing, but must not be null. -/
def withDefault? {α : Type} (convert : Json → Option α) (default : α) (record : Record)
    (name : String) : Option α :=
  match record.field name with
  | none => some default
  | some value => convert value

def text? : Json → Option String
  | .string value => some value
  | _ => none

def items? : Json → Option (List Json)
  | .array items => some items
  | _ => none

def int64s? (value : Json) : Option (List Int64) :=
  (items? value).bind fun items => items.mapM int64?

def optionalField (name : String) : Option Json → Record
  | some value => [(name, value)]
  | none => []

/-- A message as it is written: the fields in their order. -/
def toJson (record : Record) : Json :=
  .object record

end Record

end QueryDriver.Json
