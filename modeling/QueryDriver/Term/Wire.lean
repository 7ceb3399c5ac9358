import QueryDriver.Term.Basic

/-!
Reading terms from the values that are sent for them. Among these an array is an operator node, an
object is a list of options, which is left out when it is empty, and all else is a literal.
-/

namespace QueryDriver.Term

def tagOf? : Int → Option Tag
  | .ofNat code => Tag.ofCode? code
  | .negSucc _ => none

mutual

/-- The term that a value stands for. -/
def ofWire? : Json → Option Term
  | .array [.int code, .array operands] =>
      match tagOf? code, operandsOf? operands with
      | some tag, some operands => some (.op tag operands)
      | _, _ => none
  | .array [.int code, .array operands, .object (first :: others)] =>
      match tagOf? code, operandsOf? operands, optionsOf? (first :: others) with
      | some tag, some operands, some options => some (.node tag operands options)
      | _, _, _ => none
  | .array _ | .object _ => none
  | scalar => some (.literal scalar)

def operandsOf? : List Json → Option (List Term)
  | [] => some []
  | operand :: rest =>
      match ofWire? operand, operandsOf? rest with
      | some operand, some rest => some (operand :: rest)
      | _, _ => none

def optionsOf? : List (String × Json) → Option (List (String × Term))
  | [] => some []
  | (key, value) :: rest =>
      match ofWire? value, optionsOf? rest with
      | some value, some rest => some ((key, value) :: rest)
      | _, _ => none

end

end QueryDriver.Term
