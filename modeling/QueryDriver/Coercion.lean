import QueryDriver.Base64
import QueryDriver.Value

/-!
Coercion of host values into terms. Each array element, object value and function body uses up one
unit of the nesting budget, and with no budget left every value fails. Terms that have been built
already are taken as they are.
-/

namespace QueryDriver

def defaultBudget : Nat := 20

def refuse {α : Type} (fault : ArgumentFault) : Build α :=
  throw (.invalidArgument fault)

def allocate (count : Nat) : Build (List Nat) := do
  let first ← getModify (· + count)
  return List.range' first count

def Scalar.toTerm : Scalar → Build Term
  | .undefined => refuse .undefinedValue
  | .null => return .null
  | .bool value => return .literal (.bool value)
  | .int value => return .literal (.int value.toInt)
  | .double value =>
      if value.isFinite then return .literal (.double value) else refuse (.notFinite value)
  | .text value => return .literal (.string value)
  | .time value => return .op .iso8601 [.literal (.string value.iso8601)]
  | .binary bytes => return .op .binary [.literal (.string (Base64.encode bytes.data.toList))]

def Term.func (ids : List Nat) (body : Term) : Term :=
  .op .func [.op .makeArray (ids.map fun (id : Nat) => .literal (.int id)), body]

/-- Turns a host value into a term within a nesting budget. Object values are compiled in the order
of their keys; the ids of a function are handed out before its body runs. -/
def coerce : Nat → Value → Build Term
  | 0, _ => throw .depthExceeded
  | _ + 1, .scalar value => value.toTerm
  | _ + 1, .term term => return term
  | budget + 1, .array items => return .op .makeArray (← items.mapM (coerce budget))
  | budget + 1, .object members =>
      return .node .makeObj []
        (← members.mapM fun (key, value) => return (key, ← coerce budget value))
  | budget + 1, .function arity body => do
      let ids ← allocate arity
      let result ← Value.runBody body (ids.map Term.parameter)
      return .func ids (← coerce budget result)

def expr (value : Value) : Build Term :=
  coerce defaultBudget value

end QueryDriver
