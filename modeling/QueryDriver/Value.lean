import QueryDriver.Error
import QueryDriver.Instant
import QueryDriver.Term.Basic

/-!
Host values: what a caller may use as an operand of a query. A host function is given its parameters
as terms and runs when it is compiled. It may itself compile values, so it takes the next free
parameter id and gives back the one that is free after it.
-/

namespace QueryDriver

/-- A computation that builds part of a query. Parameter ids that it has handed out stay used also
when it fails. -/
abbrev Build := ExceptT DriverError (StateM Nat)

inductive Scalar
  /-- A missing value; it cannot be compiled. -/
  | undefined
  | null
  | bool (value : Bool)
  | int (value : Int64)
  | double (value : Double)
  | text (value : String)
  | time (value : Instant)
  | binary (bytes : ByteArray)

/-- An integer; one beyond sixty-four signed bits becomes the nearest double. -/
def Scalar.ofInt (value : Int) : Scalar :=
  if Int64.minValue.toInt ≤ value ∧ value ≤ Int64.maxValue.toInt then .int (Int64.ofInt value)
  else .double (Double.ofInt value)

inductive Value
  | scalar (value : Scalar)
  | array (items : List Value)
  | object (members : List (String × Value))
  | function (arity : Nat) (body : List Term → Nat → Except DriverError Value × Nat)
  /-- A term that has been built already. -/
  | term (term : Term)

namespace Value

/-- A host function from a computation over its parameters. -/
def ofFunction (arity : Nat) (body : List Term → Build Value) : Value :=
  .function arity body

/-- The computation of a function body. -/
def runBody (body : List Term → Nat → Except DriverError Value × Nat) (parameters : List Term) :
    Build Value :=
  body parameters

/-- An object from pairs in any order; of two pairs with the same key the later one stays. -/
def ofPairs (pairs : List (String × Value)) : Value :=
  .object (Members.ofPairs pairs)

def ofString (text : String) : Value :=
  .scalar (.text text)

def ofBool (value : Bool) : Value :=
  .scalar (.bool value)

mutual

/-- The host value with the structure of a JSON value. -/
def ofJson : Json → Value
  | .null => .scalar .null
  | .bool value => .scalar (.bool value)
  | .int value => .scalar (.ofInt value)
  | .double value => .scalar (.double value)
  | .string value => .scalar (.text value)
  | .array items => .array (ofJsonItems items)
  | .object members => .ofPairs (ofJsonMembers members)

def ofJsonItems : List Json → List Value
  | [] => []
  | item :: rest => ofJson item :: ofJsonItems rest

def ofJsonMembers : List (String × Json) → List (String × Value)
  | [] => []
  | (key, value) :: rest => (key, ofJson value) :: ofJsonMembers rest

end

end Value

end QueryDriver
