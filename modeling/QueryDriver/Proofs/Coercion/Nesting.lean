import QueryDriver.Proofs.Coercion.Hygiene

/-!
What the nesting budget means. Coercion goes through the nodes of a host value in a fixed order and
stops at the first one that lies too deep or is faulty itself. So a value is compiled exactly if the
budget is at least its height and nothing in it is faulty, and more budget changes nothing then.
-/

namespace QueryDriver

/-- What there is to compile in a host value, where each function stands for what its body gives. -/
inductive Nesting
  | scalar (value : Scalar)
  | term
  | container (parts : List Nesting)
  | failing (error : DriverError)
  | function (result : Nesting)

namespace Value

mutual

/-- Runs all functions in a host value, however deep they are, from a next free id on. -/
def nesting : Value → Nat → Nesting × Nat
  | .scalar value, next => (.scalar value, next)
  | .term _, next => (.term, next)
  | .array items, next =>
      let (parts, after) := itemNestings items next
      (.container parts, after)
  | .object members, next =>
      let (parts, after) := memberNestings members next
      (.container parts, after)
  | .function arity body, next =>
      resultNesting (body ((List.range' next arity).map Term.parameter) (next + arity))

def itemNestings : List Value → Nat → List Nesting × Nat
  | [], next => ([], next)
  | item :: rest, next =>
      let (part, between) := nesting item next
      let (parts, after) := itemNestings rest between
      (part :: parts, after)

def memberNestings : List (String × Value) → Nat → List Nesting × Nat
  | [], next => ([], next)
  | (_, item) :: rest, next =>
      let (part, between) := nesting item next
      let (parts, after) := memberNestings rest between
      (part :: parts, after)

def resultNesting : Except DriverError Value × Nat → Nesting × Nat
  | (.error error, after) => (.failing error, after)
  | (.ok value, between) =>
      let (result, after) := nesting value between
      (.function result, after)

end

theorem memberNestings_eq (members : List (String × Value)) (next : Nat) :
    memberNestings members next = itemNestings (members.map Prod.snd) next := by
  induction members generalizing next with
  | nil => rfl
  | cons member rest ih => simp only [memberNestings, List.map_cons, itemNestings, ih]

end Value

def Scalar.fault? : Scalar → Option DriverError
  | .undefined => some (.invalidArgument .undefinedValue)
  | .double value => if value.isFinite then none else some (.invalidArgument (.notFinite value))
  | _ => none

namespace Nesting

mutual

def height : Nesting → Nat
  | .scalar _ | .term | .failing _ => 1
  | .container parts => 1 + greatest parts
  | .function result => 1 + height result

def greatest : List Nesting → Nat
  | [] => 0
  | part :: rest => max (height part) (greatest rest)

end

/-- What is wrong with a node itself, whatever is nested in it. -/
def fault? : Nesting → Option DriverError
  | .scalar value => value.fault?
  | .failing error => some error
  | _ => none

def deeper (nodes : List (Nat × Nesting)) : List (Nat × Nesting) :=
  nodes.map fun (level, node) => (level + 1, node)

mutual

/-- The nodes in the order in which they are compiled, each with its level. -/
def nodes : Nesting → List (Nat × Nesting)
  | .container parts => (1, .container parts) :: deeper (nodesOfAll parts)
  | .function result => (1, .function result) :: deeper (nodes result)
  | leaf => [(1, leaf)]

def nodesOfAll : List Nesting → List (Nat × Nesting)
  | [] => []
  | part :: rest => nodes part ++ nodesOfAll rest

end

/-- Why a node at a level is refused. -/
def offence? (budget : Nat) : Nat × Nesting → Option DriverError
  | (level, node) => if budget < level then some .depthExceeded else node.fault?

theorem findSome?_deeper (budget : Nat) (nodes : List (Nat × Nesting)) :
    (deeper nodes).findSome? (offence? (budget + 1)) = nodes.findSome? (offence? budget) := by
  rw [deeper, List.findSome?_map]
  congr 1
  funext node
  simp [offence?]

theorem findSome?_without_budget (nesting : Nesting) :
    nesting.nodes.findSome? (offence? 0) = some .depthExceeded := by
  cases nesting <;> rfl

theorem forall_deeper (budget : Nat) (nodes : List (Nat × Nesting)) :
    (∀ node ∈ deeper nodes, node.1 ≤ budget + 1) ↔ ∀ node ∈ nodes, node.1 ≤ budget := by
  rw [deeper, List.forall_mem_map]
  simp only [Nat.add_le_add_iff_right]

mutual

theorem height_le_iff (budget : Nat) : ∀ nesting : Nesting,
    nesting.height ≤ budget ↔ ∀ node ∈ nesting.nodes, node.1 ≤ budget
  | .scalar _ | .term | .failing _ => by simp [height, nodes]
  | .container parts => by
      rw [height, nodes, List.forall_mem_cons]
      cases budget with
      | zero => simp
      | succ budget =>
          rw [forall_deeper, ← greatest_le_iff budget parts]
          omega
  | .function result => by
      rw [height, nodes, List.forall_mem_cons]
      cases budget with
      | zero => simp
      | succ budget =>
          rw [forall_deeper, ← height_le_iff budget result]
          omega

theorem greatest_le_iff (budget : Nat) : ∀ parts : List Nesting,
    greatest parts ≤ budget ↔ ∀ node ∈ nodesOfAll parts, node.1 ≤ budget
  | [] => by simp [greatest, nodesOfAll]
  | part :: rest => by
      rw [greatest, nodesOfAll, List.forall_mem_append, Nat.max_le, height_le_iff budget part,
        greatest_le_iff budget rest]

end

theorem findSome?_eq_none_iff {budget : Nat} {nesting : Nesting} :
    nesting.nodes.findSome? (offence? budget) = none ↔
      nesting.height ≤ budget ∧ ∀ node ∈ nesting.nodes, node.2.fault? = none := by
  rw [List.findSome?_eq_none_iff, height_le_iff, ← forall₂_and]
  refine forall₂_congr fun node _ => ?_
  by_cases tooDeep : budget < node.1
  · simp [offence?, tooDeep, Nat.not_le_of_lt tooDeep]
  · simp [offence?, tooDeep, Nat.le_of_not_lt tooDeep]

end Nesting

/-- How a computation ends: with an error, or with a value and an id that is free after it. -/
def Ends {α : Type} (run : Except DriverError α × Nat) (error? : Option DriverError) (after : Nat) :
    Prop :=
  match error? with
  | some error => run.1 = .error error
  | none => ∃ value, run = (.ok value, after)

namespace Ends

variable {α β : Type} {computation : Build α} {next : Nat}

theorem pure (value : α) (next : Nat) : Ends ((Pure.pure value : Build α) next) none next :=
  ⟨value, rfl⟩

theorem bind {rest : α → Build β} {between after : Nat} {first? second? : Option DriverError}
    (first : Ends (computation next) first? between)
    (second : ∀ value, Ends (rest value between) second? after) :
    Ends ((computation >>= rest) next) (first?.or second?) after := by
  rw [Computation.bind_apply]
  cases first? with
  | some error =>
      cases run : computation next with
      | mk result reached =>
          rw [run] at first
          cases first
          rfl
  | none =>
      obtain ⟨value, given⟩ := first
      rw [given]
      exact second value

theorem map {error? : Option DriverError} {after : Nat}
    (ends : Ends (computation next) error? after) (change : α → β) :
    Ends ((do return change (← computation) : Build β) next) error? after := by
  have both := ends.bind fun value => pure (change value) after
  rwa [Option.or_none] at both

theorem eq_ok_iff {run : Except DriverError α × Nat} {error? : Option DriverError} {after : Nat}
    (ends : Ends run error? after) :
    (∃ value last, run = (.ok value, last)) ↔ error? = none := by
  cases error? with
  | none =>
      obtain ⟨value, given⟩ := ends
      exact iff_of_true ⟨value, after, given⟩ rfl
  | some error =>
      refine iff_of_false ?_ (Option.some_ne_none error)
      rintro ⟨value, last, rfl⟩
      cases ends

theorem eq_error_iff {run : Except DriverError α × Nat} {error? : Option DriverError} {after : Nat}
    (ends : Ends run error? after) (error : DriverError) :
    run.1 = .error error ↔ error? = some error := by
  cases error? with
  | none =>
      obtain ⟨value, rfl⟩ := ends
      exact iff_of_false nofun nofun
  | some found =>
      change run.1 = _ at ends
      rw [ends, Except.error.injEq, Option.some.injEq]

end Ends

open Nesting

theorem Scalar.ends_toTerm (value : Scalar) (next : Nat) :
    Ends (value.toTerm next) value.fault? next := by
  cases value with
  | undefined => rfl
  | double value =>
      rw [toTerm, fault?]
      split
      · exact .pure _ next
      · rfl
  | _ => exact .pure _ next

section Parts

variable {budget : Nat} (ends : ∀ value next, Ends (coerce budget value next)
  ((value.nesting next).1.nodes.findSome? (offence? budget)) (value.nesting next).2)

theorem ends_mapM {α β : Type} (part : α → Value) {build : α → Build β}
    (each : ∀ item next, Ends (build item next)
      (((part item).nesting next).1.nodes.findSome? (offence? budget)) ((part item).nesting next).2)
    (items : List α) (next : Nat) :
    Ends (items.mapM build next)
      ((nodesOfAll (Value.itemNestings (items.map part) next).1).findSome? (offence? budget))
      (Value.itemNestings (items.map part) next).2 := by
  induction items generalizing next with
  | nil => exact .pure [] next
  | cons item rest ih =>
      rw [List.mapM_cons]
      simp only [List.map_cons, Value.itemNestings, nodesOfAll, List.findSome?_append]
      exact (each item next).bind fun value => (ih _).map (value :: ·)

include ends

theorem ends_array (items : List Value) (next : Nat) :
    Ends (coerce (budget + 1) (.array items) next)
      (((Value.array items).nesting next).1.nodes.findSome? (offence? (budget + 1)))
      ((Value.array items).nesting next).2 := by
  have coerced := ends_mapM id ends items next
  rw [List.map_id, ← findSome?_deeper] at coerced
  exact coerced.map (Term.op .makeArray)

theorem ends_object (members : List (String × Value)) (next : Nat) :
    Ends (coerce (budget + 1) (.object members) next)
      (((Value.object members).nesting next).1.nodes.findSome? (offence? (budget + 1)))
      ((Value.object members).nesting next).2 := by
  have coerced := ends_mapM Prod.snd
    (fun member next => (ends member.2 next).map (Prod.mk member.1)) members next
  rw [← Value.memberNestings_eq, ← findSome?_deeper] at coerced
  exact coerced.map (Term.node .makeObj [])

theorem ends_compileBody {body : List Term → Nat → Except DriverError Value × Nat}
    {ids : List Nat} {next : Nat} {run : Except DriverError Value × Nat}
    (ran : body (ids.map Term.parameter) next = run) :
    Ends (compileBody budget body ids next)
      ((Value.resultNesting run).1.nodes.findSome? (offence? (budget + 1)))
      (Value.resultNesting run).2 := by
  rw [compileBody, Computation.bind_apply, Value.runBody, ran]
  cases run with
  | mk result reached =>
      cases result with
      | error error => rfl
      | ok value =>
          have compiled := ends value reached
          rw [← findSome?_deeper] at compiled
          exact compiled.map (Term.func ids)

end Parts

/-- Coercion stops at the first node that is refused, and else goes through all of them. -/
theorem ends_coerce (budget : Nat) (value : Value) (next : Nat) :
    Ends (coerce budget value next)
      ((value.nesting next).1.nodes.findSome? (offence? budget)) (value.nesting next).2 := by
  induction budget generalizing value next with
  | zero =>
      rw [findSome?_without_budget]
      rfl
  | succ budget ih =>
      cases value with
      | scalar value =>
          have ends := value.ends_toTerm next
          simpa [coerce, Value.nesting, nodes, offence?, fault?] using ends
      | term term => exact .pure term next
      | array items => exact ends_array ih items next
      | object members => exact ends_object ih members next
      | function arity body =>
          rw [coerce_function]
          exact ends_compileBody ih rfl

theorem coerce_mono {budget more : Nat} (enough : budget ≤ more) {value : Value}
    {next after : Nat} {term : Term} (built : coerce budget value next = (.ok term, after)) :
    coerce more value next = (.ok term, after) := by
  induction budget generalizing more value next after term with
  | zero => cases built
  | succ budget ih =>
      obtain ⟨more, rfl⟩ := Nat.exists_eq_add_of_lt enough
      have smaller : budget ≤ budget + more := Nat.le_add_right budget more
      cases value with
      | scalar value => exact built
      | term term => exact built
      | array items =>
          obtain ⟨operands, between, coerced, built⟩ := Build.bind_eq_ok.mp built
          have coerced := Build.mapM_transfer (fun _ _ _ _ => ih smaller) coerced
          exact Build.bind_eq_ok.mpr ⟨operands, between, coerced, built⟩
      | object members =>
          obtain ⟨options, between, coerced, built⟩ := Build.bind_eq_ok.mp built
          refine Build.bind_eq_ok.mpr ⟨options, between, Build.mapM_transfer ?_ coerced, built⟩
          intro member next option after built
          obtain ⟨term, between, coerced, built⟩ := Build.bind_eq_ok.mp built
          exact Build.bind_eq_ok.mpr ⟨term, between, ih smaller coerced, built⟩
      | function arity body =>
          rw [coerce_function] at built ⊢
          obtain ⟨value, between, ran, built⟩ := Build.bind_eq_ok.mp built
          obtain ⟨result, last, coerced, built⟩ := Build.bind_eq_ok.mp built
          exact Build.bind_eq_ok.mpr ⟨value, between, ran,
            Build.bind_eq_ok.mpr ⟨result, last, ih smaller coerced, built⟩⟩

/-- An object in an array, with a function under one key that gives back its parameter in an array,
and then an undefined value. -/
def mixed (last : Scalar) : Value :=
  .array [.ofPairs [("second", .scalar .null),
    ("first", .function 1 fun parameters next => (.ok (.array (parameters.map .term)), next))],
    .scalar last]

end QueryDriver
