import QueryDriver.Json.Writer
import QueryDriver.Tag

/-!
Terms: compiled queries. A term is a literal or an operator node with operands in order and options
by name. On the wire a literal is the bare JSON value and a node is an array of its code, its
operands and, if it has any, its options.
-/

namespace QueryDriver

inductive Term
  | literal (value : Json)
  | node (tag : Tag) (operands : List Term) (options : List (String × Term))
  deriving Inhabited

namespace Term

def op (tag : Tag) (operands : List Term) : Term :=
  .node tag operands []

def null : Term :=
  .literal .null

def parameter (id : Nat) : Term :=
  op .var [.literal (.int id)]

def tag? : Term → Option Tag
  | .literal _ => none
  | .node tag _ _ => some tag

def operands : Term → List Term
  | .literal _ => []
  | .node _ operands _ => operands

def options? : Term → Option (Members Term)
  | .literal _ => none
  | .node _ _ options => some options

mutual

def toWire : Term → Json
  | .literal value => value
  | .node tag operands [] => .array [.int tag.code, .array (wireOperands operands)]
  | .node tag operands options =>
      .array [.int tag.code, .array (wireOperands operands), .object (wireOptions options)]

def wireOperands : List Term → List Json
  | [] => []
  | operand :: rest => toWire operand :: wireOperands rest

def wireOptions : List (String × Term) → List (String × Json)
  | [] => []
  | (key, value) :: rest => (key, toWire value) :: wireOptions rest

end

mutual

/-- Equality of terms; literals are compared as JSON values. -/
def equal : Term → Term → Bool
  | .literal left, .literal right => left.equal right
  | .node leftTag leftOperands leftOptions, .node rightTag rightOperands rightOptions =>
      leftTag = rightTag && equalOperands leftOperands rightOperands &&
        equalOptions leftOptions rightOptions
  | _, _ => false

def equalOperands : List Term → List Term → Bool
  | [], [] => true
  | left :: lefts, right :: rights => equal left right && equalOperands lefts rights
  | _, _ => false

def equalOptions : List (String × Term) → List (String × Term) → Bool
  | [], [] => true
  | (leftKey, left) :: lefts, (rightKey, right) :: rights =>
      leftKey == rightKey && equal left right && equalOptions lefts rights
  | _, _ => false

end

end Term

end QueryDriver
