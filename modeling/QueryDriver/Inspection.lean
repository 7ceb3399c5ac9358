import QueryDriver.Text.Quoted
import QueryDriver.Value

/-!
Developer-facing texts of values and terms, which show their structure.
-/

namespace QueryDriver

namespace Inspection

def list (parts : List String) : String :=
  "[" ++ ", ".intercalate parts ++ "]"

def members (parts : List String) : String :=
  "\x7b" ++ ", ".intercalate parts ++ "\x7d"

def member (key value : String) : String :=
  Text.quoted key ++ ": " ++ value

def wrap (constructor content : String) : String :=
  constructor ++ "(" ++ content ++ ")"

def truth (value : Bool) : String :=
  if value then "true" else "false"

end Inspection

open Inspection

namespace Json

mutual

def inspect : Json → String
  | .null => "Null"
  | .bool value => wrap "Bool" (truth value)
  | .int value => wrap "Number" (Json.int value).compact
  | .double value => wrap "Number" (Json.double value).compact
  | .string value => wrap "String" (Text.quoted value)
  | .array items => "Array " ++ Inspection.list (inspectItems items)
  | .object pairs => "Object " ++ Inspection.members (inspectMembers pairs)

def inspectItems : List Json → List String
  | [] => []
  | item :: rest => inspect item :: inspectItems rest

def inspectMembers : List (String × Json) → List String
  | [] => []
  | (key, value) :: rest => member key (inspect value) :: inspectMembers rest

end

end Json

namespace Term

mutual

def inspect : Term → String
  | .literal value => wrap "Datum" value.inspect
  | .node tag operands options =>
      "Op \x7b tag: " ++ tag.label ++ ", args: " ++ Inspection.list (inspectOperands operands) ++
        ", optargs: " ++ Inspection.members (inspectOptions options) ++ " \x7d"

def inspectOperands : List Term → List String
  | [] => []
  | operand :: rest => inspect operand :: inspectOperands rest

def inspectOptions : List (String × Term) → List String
  | [] => []
  | (key, value) :: rest => member key (inspect value) :: inspectOptions rest

end

end Term

def Scalar.inspect : Scalar → String
  | .undefined => "Undefined"
  | .null => "Null"
  | .bool value => wrap "Bool" (truth value)
  | .int value => wrap "Int" (toString value.toInt)
  | .double value => wrap "Float" value.inspect
  | .text value => wrap "String" (Text.quoted value)
  | .time value => wrap "Time" value.inspect
  | .binary bytes => wrap "Binary" (toString bytes.size ++ " bytes")

namespace Value

mutual

/-- The text of a host value; of a function it tells the number of parameters alone. -/
def inspect : Value → String
  | .scalar value => value.inspect
  | .array items => wrap "Array" (Inspection.list (inspectItems items))
  | .object pairs => wrap "Object" (Inspection.members (inspectMembers pairs))
  | .function arity _ =>
      wrap "Function" ("Closure \x7b arity: " ++ toString arity ++ ", .. \x7d")
  | .term found => wrap "Term" found.inspect

def inspectItems : List Value → List String
  | [] => []
  | item :: rest => inspect item :: inspectItems rest

def inspectMembers : List (String × Value) → List String
  | [] => []
  | (key, value) :: rest => member key (inspect value) :: inspectMembers rest

end

end Value

end QueryDriver
