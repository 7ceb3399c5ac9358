import QueryDriver.Builder

/-!
Host expressions: the programs that compute host values. They name the parameters of the functions
around them by level, counted from the innermost function, and by position. Evaluating an expression
builds the queries inside it, from left to right, and leaves its functions as functions; what a
function body does is done when the function is compiled.
-/

namespace QueryDriver

mutual

inductive Expression
  | scalar (value : Scalar)
  | array (items : List Expression)
  /-- An object from its pairs as they are written. -/
  | object (pairs : List (String × Expression))
  | function (arity : Nat) (body : Expression)
  | parameter (level index : Nat)
  | query (query : Query)
  | failure (fault : ArgumentFault)

inductive Query
  | expr (value : Expression)
  | exprWithin (budget : Nat) (value : Expression)
  | literal (value : Json)
  | parameter (level index : Nat)
  | reference (id : Nat)
  | node (tag : Tag) (operands : List Query)
  | call (tag : Tag) (operands : List Expression)
  | start (starter : Starter) (operands : List Expression)
  | chain (query : Query) (method : Method) (operands : List Expression)
  | opt (query : Query) (key : String) (value : Expression)
  | option (query : Query) (key : String) (value : Query)

end

mutual

def Expression.ofJson : Json → Expression
  | .null => .scalar .null
  | .bool value => .scalar (.bool value)
  | .int value => .scalar (.ofInt value)
  | .double value => .scalar (.double value)
  | .string value => .scalar (.text value)
  | .array items => .array (Expression.ofJsonItems items)
  | .object members => .object (Expression.ofJsonPairs members)

def Expression.ofJsonItems : List Json → List Expression
  | [] => []
  | item :: rest => .ofJson item :: Expression.ofJsonItems rest

def Expression.ofJsonPairs : List (String × Json) → List (String × Expression)
  | [] => []
  | (key, value) :: rest => (key, .ofJson value) :: Expression.ofJsonPairs rest

end

/-- The parameters of the functions around an expression, innermost function first. -/
abbrev Scope := List (List Term)

def Scope.resolve (scope : Scope) (level index : Nat) : Build Term :=
  match scope[level]? with
  | some parameters =>
      match parameters[index]? with
      | some parameter => return parameter
      | none => refuse (.unboundParameter level index)
  | none => refuse (.unboundParameter level index)

mutual

def Expression.eval : Expression → Scope → Build Value
  | .scalar value, _ => return .scalar value
  | .array items, scope => return .array (← Expression.evalItems items scope)
  | .object pairs, scope => return .ofPairs (← Expression.evalPairs pairs scope)
  | .function arity body, scope =>
      return .ofFunction arity fun parameters => body.eval (parameters :: scope)
  | .parameter level index, scope => return .term (← scope.resolve level index)
  | .query query, scope => return .term (← query.build scope)
  | .failure fault, _ => refuse fault

def Expression.evalItems : List Expression → Scope → Build (List Value)
  | [], _ => return []
  | item :: rest, scope => do
      let value ← item.eval scope
      return value :: (← Expression.evalItems rest scope)

def Expression.evalPairs : List (String × Expression) → Scope → Build (List (String × Value))
  | [], _ => return []
  | (key, item) :: rest, scope => do
      let value ← item.eval scope
      return (key, value) :: (← Expression.evalPairs rest scope)

/-- The term that a query builds. The operands of a step are all evaluated before the first of them
is coerced. -/
def Query.build : Query → Scope → Build Term
  | .expr value, scope => do expr (← value.eval scope)
  | .exprWithin budget value, scope => do coerce budget (← value.eval scope)
  | .literal value, _ => return .literal value
  | .parameter level index, scope => scope.resolve level index
  | .reference id, _ => return .parameter id
  | .node tag operands, scope => return .op tag (← Query.buildAll operands scope)
  | .call tag operands, scope => do Term.call tag (← Expression.evalItems operands scope)
  | .start starter operands, scope => do starter.build (← Expression.evalItems operands scope)
  | .chain query method operands, scope => do
      let term ← query.build scope
      method.build term (← Expression.evalItems operands scope)
  | .opt query key value, scope => do
      let term ← query.build scope
      term.opt key (← value.eval scope)
  | .option query key value, scope => do
      let term ← query.build scope
      term.withOption key (← value.build scope)

def Query.buildAll : List Query → Scope → Build (List Term)
  | [], _ => return []
  | query :: rest, scope => do
      let term ← query.build scope
      return term :: (← Query.buildAll rest scope)

end

end QueryDriver
