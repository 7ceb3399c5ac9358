import Mathlib.Data.List.Nodup
import QueryDriver.Coercion
import QueryDriver.Proofs.Members

/-!
The binding structure of terms. An outline is a term without ids: where the term has the id of a
parameter, it has the function around it that the parameter belongs to, counted from the innermost
one, and the parameter's position.
-/

namespace QueryDriver

inductive Outline.Head
  | operator (tag : Tag)
  | parameter (level index : Nat)
  | function (arity : Nat)

inductive Outline
  | literal (value : Json)
  | node (head : Outline.Head) (operands : List Outline) (options : List (String × Outline))

/-- The level and position of an id in the ids of the functions around it, innermost first. -/
def locate? (id : Nat) : List (List Nat) → Option (Nat × Nat)
  | [] => none
  | ids :: rest =>
      if id ∈ ids then some (0, ids.idxOf id)
      else (locate? id rest).map fun (level, index) => (level + 1, index)

/-- Each id is one above the id before it. -/
def Consecutive (ids : List Nat) : Prop :=
  ids = List.range' (ids.headD 0) ids.length

instance (ids : List Nat) : Decidable (Consecutive ids) :=
  inferInstanceAs (Decidable (_ = _))

namespace Term

def id? : Term → Option Nat
  | .literal (.int (.ofNat id)) => some id
  | _ => none

/-- The ids that a function lists, if they are consecutive. -/
def ids? (parameters : List Term) : Option (List Nat) :=
  match parameters.mapM id? with
  | some ids => if Consecutive ids then some ids else none
  | none => none

mutual

/-- The outline of a term inside functions that list the given ids. There is none where a parameter
belongs to no function around it, or where a function does not list consecutive ids. -/
def outline? (scope : List (List Nat)) : Term → Option Outline
  | .literal value => some (.literal value)
  | .node .var [.literal (.int (.ofNat id))] options => do
      let (level, index) ← locate? id scope
      return .node (.parameter level index) [] (← optionOutlines? scope options)
  | .node .func [.node .makeArray parameters [], body] options => do
      let ids ← ids? parameters
      return .node (.function ids.length) [← outline? (ids :: scope) body]
        (← optionOutlines? scope options)
  | .node .var _ _ | .node .func _ _ => none
  | .node tag operands options => do
      return .node (.operator tag) (← operandOutlines? scope operands)
        (← optionOutlines? scope options)

def operandOutlines? (scope : List (List Nat)) : List Term → Option (List Outline)
  | [] => some []
  | operand :: rest => do
      return (← outline? scope operand) :: (← operandOutlines? scope rest)

def optionOutlines? (scope : List (List Nat)) :
    List (String × Term) → Option (List (String × Outline))
  | [] => some []
  | (key, value) :: rest => do
      return (key, ← outline? scope value) :: (← optionOutlines? scope rest)

end

mutual

/-- The ids that each function in the term lists. -/
def functions : Term → List (List Nat)
  | .literal _ => []
  | .node .func [.node .makeArray parameters [], body] options =>
      parameters.filterMap id? :: (functions body ++ optionFunctions options)
  | .node _ operands options => operandFunctions operands ++ optionFunctions options

def operandFunctions : List Term → List (List Nat)
  | [] => []
  | operand :: rest => functions operand ++ operandFunctions rest

def optionFunctions : List (String × Term) → List (List Nat)
  | [] => []
  | (_, value) :: rest => functions value ++ optionFunctions rest

end

/-- All ids that functions in the term list, one after the other. -/
def listed (term : Term) : List Nat :=
  term.functions.flatten

end Term

namespace Outline

def withOption (outline : Outline) (key : String) (value : Outline) : Outline :=
  match outline with
  | .literal found => .literal found
  | .node head operands options => .node head operands (Members.insert key value options)

end Outline

/-- Whether an operator is one that coercion makes for functions and their parameters. -/
def Tag.binds (tag : Tag) : Bool :=
  tag = .var || tag = .func

theorem locate?_of_nodup {scope : List (List Nat)} (distinct : scope.flatten.Nodup)
    {level index id : Nat} {ids : List Nat} (atLevel : scope[level]? = some ids)
    (atIndex : ids[index]? = some id) : locate? id scope = some (level, index) := by
  induction scope generalizing level with
  | nil => cases atLevel
  | cons first rest ih =>
      -- no function further in lists the id, so the search passes them all
      rw [List.flatten_cons, List.nodup_append] at distinct
      obtain ⟨inFirst, inRest, apart⟩ := distinct
      cases level with
      | zero =>
          cases atLevel
          obtain ⟨small, rfl⟩ := List.getElem?_eq_some_iff.mp atIndex
          rw [locate?, if_pos (List.getElem_mem small), inFirst.idxOf_getElem]
      | succ level =>
          have behind : id ∈ rest.flatten :=
            List.mem_flatten.mpr ⟨ids, List.mem_of_getElem? atLevel, List.mem_of_getElem? atIndex⟩
          have absent : id ∉ first := fun member => apart id member id behind rfl
          rw [locate?, if_neg absent, ih inRest atLevel]
          rfl

namespace Term

variable {scope : List (List Nat)}

theorem outline?_operator {tag : Tag} (plain : tag.binds = false) {operands : List Term}
    {options : List (String × Term)} {outlines : List Outline}
    {optionOutlines : List (String × Outline)}
    (ofOperands : operandOutlines? scope operands = some outlines)
    (ofOptions : optionOutlines? scope options = some optionOutlines) :
    outline? scope (.node tag operands options) =
      some (.node (.operator tag) outlines optionOutlines) := by
  rw [outline?.eq_6, ofOperands, ofOptions]
  · rfl
  all_goals
    intros
    subst tag
    cases plain

theorem outline?_parameter {id level index : Nat}
    (located : locate? id scope = some (level, index)) :
    outline? scope (parameter id) = some (.node (.parameter level index) [] []) := by
  change (locate? id scope >>= _) = _
  rw [located]
  rfl

theorem mapM_id? (ids : List Nat) :
    (ids.map fun (id : Nat) => Term.literal (.int id)).mapM id? = some ids := by
  induction ids with
  | nil => rfl
  | cons id rest ih =>
      rw [List.map_cons, List.mapM_cons, ih]
      rfl

theorem ids?_range' (first count : Nat) :
    ids? ((List.range' first count).map fun (id : Nat) => .literal (.int id)) =
      some (List.range' first count) := by
  rw [ids?, mapM_id?]
  refine if_pos ?_
  rw [Consecutive]
  cases count with
  | zero => rfl
  | succ count =>
      rw [List.length_range', List.range'_succ]
      rfl

theorem filterMap_of_mapM_id? {parameters : List Term} {ids : List Nat}
    (read : parameters.mapM id? = some ids) : parameters.filterMap id? = ids := by
  induction parameters generalizing ids with
  | nil =>
      cases read
      rfl
  | cons first rest ih =>
      simp only [List.mapM_cons, Option.bind_eq_bind, Option.bind_eq_some_iff] at read
      obtain ⟨id, isId, others, behind, same⟩ := read
      cases same
      rw [List.filterMap_cons_some isId, ih behind]

theorem filterMap_of_ids? {parameters : List Term} {ids : List Nat}
    (lists : ids? parameters = some ids) : parameters.filterMap id? = ids ∧ Consecutive ids := by
  rw [ids?] at lists
  split at lists
  · rename_i found read
    split at lists
    · rename_i consecutive
      cases lists
      exact ⟨filterMap_of_mapM_id? read, consecutive⟩
    · cases lists
  · cases lists

theorem consecutive_of_outline? {term : Term} {outline : Outline}
    (outlined : term.outline? scope = some outline) : ∀ ids ∈ term.functions, Consecutive ids := by
  revert outlined outline
  refine outline?.induct
    (fun scope term => ∀ {outline}, term.outline? scope = some outline →
      ∀ ids ∈ term.functions, Consecutive ids)
    (fun scope operands => ∀ {outlines}, operandOutlines? scope operands = some outlines →
      ∀ ids ∈ operandFunctions operands, Consecutive ids)
    (fun scope options => ∀ {outlines}, optionOutlines? scope options = some outlines →
      ∀ ids ∈ optionFunctions options, Consecutive ids)
    ?literal ?parameter ?function ?noParameter ?noFunction ?operator ?noOperands ?operands
    ?noOptions ?options scope term
  case literal =>
    intro scope value outline _ ids member
    cases member
  case parameter =>
    intro scope id options ofOptions outline outlined
    simp only [outline?, Option.bind_eq_bind, Option.bind_eq_some_iff] at outlined
    obtain ⟨place, _, outlines, optionsOutlined, _⟩ := outlined
    exact ofOptions optionsOutlined
  case function =>
    intro scope parameters body options ofBody ofOptions outline outlined
    simp only [outline?, Option.bind_eq_bind, Option.bind_eq_some_iff] at outlined
    obtain ⟨ids, lists, bodyOutline, bodyOutlined, outlines, optionsOutlined, _⟩ := outlined
    obtain ⟨same, consecutive⟩ := filterMap_of_ids? lists
    rw [functions, same]
    refine List.forall_mem_cons.mpr ⟨consecutive, List.forall_mem_append.mpr ⟨?_, ?_⟩⟩
    · exact ofBody ids bodyOutlined
    · exact ofOptions optionsOutlined
  case noParameter =>
    intro scope operands options shape outline outlined
    rw [outline?.eq_4 _ _ _ shape] at outlined
    cases outlined
  case noFunction =>
    intro scope operands options shape outline outlined
    rw [outline?.eq_5 _ _ _ shape] at outlined
    cases outlined
  case operator =>
    intro scope tag operands options noParameter noFunction notVar notFunc ofOperands ofOptions
      outline outlined
    rw [outline?.eq_6 _ _ _ _ noParameter noFunction notVar notFunc] at outlined
    simp only [Option.bind_eq_bind, Option.bind_eq_some_iff] at outlined
    obtain ⟨outlines, operandsOutlined, others, optionsOutlined, _⟩ := outlined
    rw [functions.eq_3 _ _ _ noFunction]
    exact List.forall_mem_append.mpr ⟨ofOperands operandsOutlined, ofOptions optionsOutlined⟩
  case noOperands =>
    intro scope outlines _ ids member
    cases member
  case operands =>
    intro scope operand rest ofFirst ofRest outlines outlined
    simp only [operandOutlines?, Option.bind_eq_bind, Option.bind_eq_some_iff] at outlined
    obtain ⟨first, firstOutlined, others, restOutlined, _⟩ := outlined
    exact List.forall_mem_append.mpr ⟨ofFirst firstOutlined, ofRest restOutlined⟩
  case noOptions =>
    intro scope outlines _ ids member
    cases member
  case options =>
    intro scope key value rest ofFirst ofRest outlines outlined
    simp only [optionOutlines?, Option.bind_eq_bind, Option.bind_eq_some_iff] at outlined
    obtain ⟨first, firstOutlined, others, restOutlined, _⟩ := outlined
    exact List.forall_mem_append.mpr ⟨ofFirst firstOutlined, ofRest restOutlined⟩

theorem outline?_func {first arity : Nat} {body : Term} {outline : Outline}
    (ofBody : outline? (List.range' first arity :: scope) body = some outline) :
    outline? scope (func (List.range' first arity) body) =
      some (.node (.function arity) [outline] []) := by
  rw [func, op, op, outline?.eq_3, ids?_range']
  simp only [Option.bind_eq_bind, Option.bind_some, ofBody, optionOutlines?, List.length_range']
  rfl

theorem flatten_operandFunctions (operands : List Term) :
    (operandFunctions operands).flatten = operands.flatMap listed := by
  induction operands with
  | nil => rfl
  | cons operand rest ih =>
      rw [operandFunctions, List.flatten_append, ih]
      rfl

theorem flatten_optionFunctions (options : List (String × Term)) :
    (optionFunctions options).flatten = options.flatMap fun option => option.2.listed := by
  induction options with
  | nil => rfl
  | cons option rest ih =>
      rw [optionFunctions, List.flatten_append, ih]
      rfl

theorem filterMap_id? (ids : List Nat) :
    (ids.map fun (id : Nat) => Term.literal (.int id)).filterMap id? = ids := by
  rw [List.filterMap_map]
  exact List.filterMap_some

theorem listed_func (ids : List Nat) (body : Term) :
    (func ids body).listed = ids ++ body.listed := by
  rw [listed, func, op, op, functions.eq_2, filterMap_id?, List.flatten_cons, List.flatten_append]
  exact congrArg (ids ++ ·) (List.append_nil _)

theorem listed_node_of_shape {tag : Tag} {operands : List Term}
    (shape : ∀ parameters body, tag = .func → operands = [.node .makeArray parameters [], body] →
      False) (options : List (String × Term)) :
    (Term.node tag operands options).listed =
      operands.flatMap listed ++ options.flatMap fun option => option.2.listed := by
  rw [listed, functions.eq_3 _ _ _ shape, List.flatten_append, flatten_operandFunctions,
    flatten_optionFunctions]

theorem listed_operator {tag : Tag} (plain : tag.binds = false) (operands : List Term)
    (options : List (String × Term)) :
    (Term.node tag operands options).listed =
      operands.flatMap listed ++ options.flatMap fun option => option.2.listed := by
  refine listed_node_of_shape ?_ options
  intro _ _ isFunc _
  rw [isFunc] at plain
  cases plain

theorem listed_node (tag : Tag) (operands : List Term) :
    ∃ own, ∀ options : Members Term, (Term.node tag operands options).listed =
      own ++ options.flatMap fun option => option.2.listed := by
  by_cases shape : tag = .func ∧
      ∃ parameters body, operands = [.node .makeArray parameters [], body]
  · obtain ⟨rfl, parameters, body, rfl⟩ := shape
    refine ⟨parameters.filterMap id? ++ body.listed, fun options => ?_⟩
    rw [listed, functions.eq_2, List.flatten_cons, List.flatten_append, flatten_optionFunctions,
      List.append_assoc]
    rfl
  · refine ⟨operands.flatMap listed, fun options => listed_node_of_shape ?_ options⟩
    intro parameters body isFunc given
    exact shape ⟨isFunc, parameters, body, given⟩

theorem operandOutlines?_of_forall₂ {α : Type} {outline : α → Outline} {parts : List α}
    {operands : List Term}
    (each : List.Forall₂ (fun part operand => outline? scope operand = some (outline part))
      parts operands) :
    operandOutlines? scope operands = some (parts.map outline) := by
  induction each with
  | nil => rfl
  | cons first _ ih =>
      rw [operandOutlines?, first, ih]
      rfl

theorem optionOutlines?_of_forall₂ {α : Type} {key : α → String} {outline : α → Outline}
    {parts : List α} {options : List (String × Term)}
    (each : List.Forall₂ (fun part option =>
      option.1 = key part ∧ outline? scope option.2 = some (outline part)) parts options) :
    optionOutlines? scope options = some (parts.map fun part => (key part, outline part)) := by
  induction each with
  | nil => rfl
  | cons first _ ih =>
      rw [optionOutlines?, first.2, ih, first.1]
      rfl

theorem optionOutlines?_insert {options : Members Term} {outlines : Members Outline}
    (outlined : optionOutlines? scope options = some outlines) (key : String) {value : Term}
    {outline : Outline} (ofValue : value.outline? scope = some outline) :
    optionOutlines? scope (options.insert key value) = some (outlines.insert key outline) := by
  induction options generalizing outlines with
  | nil =>
      cases outlined
      simp [Members.insert, optionOutlines?, ofValue]
  | cons option rest ih =>
      simp only [optionOutlines?, Option.bind_eq_bind, Option.bind_eq_some_iff,
        Option.pure_def, Option.some.injEq] at outlined
      obtain ⟨first, ofFirst, others, ofRest, rfl⟩ := outlined
      simp only [Members.insert]
      split
      · simp [optionOutlines?, ofValue, ofFirst, ofRest]
      · split
        · simp [optionOutlines?, ofValue, ofRest]
        · simp [optionOutlines?, ofFirst, ih ofRest]

theorem outline?_insert {tag : Tag} {operands : List Term} {options : Members Term}
    {outline other : Outline}
    (outlined : outline? scope (.node tag operands options) = some outline)
    (key : String) {value : Term} (ofValue : value.outline? scope = some other) :
    outline? scope (.node tag operands (options.insert key value)) =
      some (outline.withOption key other) := by
  rw [outline?.eq_def] at outlined
  split at outlined
  · rename_i same
    cases same
  · rename_i id found same
    cases same
    simp only [Option.bind_eq_bind, Option.bind_eq_some_iff, Option.pure_def,
      Option.some.injEq] at outlined
    obtain ⟨place, located, outlines, ofOptions, rfl⟩ := outlined
    rw [outline?.eq_2, located, optionOutlines?_insert ofOptions key ofValue]
    rfl
  · rename_i parameters body found same
    cases same
    simp only [Option.bind_eq_bind, Option.bind_eq_some_iff, Option.pure_def,
      Option.some.injEq] at outlined
    obtain ⟨ids, lists, ofBody, bodyOutlined, outlines, ofOptions, rfl⟩ := outlined
    rw [outline?.eq_3, lists, optionOutlines?_insert ofOptions key ofValue]
    simp only [Option.bind_eq_bind, Option.bind_some, bodyOutlined]
    rfl
  · cases outlined
  · cases outlined
  · rename_i notParameter notFunction notVar notFunc same
    cases same
    simp only [Option.bind_eq_bind, Option.bind_eq_some_iff, Option.pure_def,
      Option.some.injEq] at outlined
    obtain ⟨outlines, ofOperands, others, ofOptions, rfl⟩ := outlined
    rw [outline?.eq_6 _ _ _ _ notParameter notFunction notVar notFunc, ofOperands,
      optionOutlines?_insert ofOptions key ofValue]
    rfl

theorem listed_insert (tag : Tag) (operands : List Term) (options : Members Term) (key : String)
    (value : Term) :
    (Term.node tag operands (options.insert key value)).listed.Subperm
      ((Term.node tag operands options).listed ++ value.listed) := by
  obtain ⟨own, same⟩ := listed_node tag operands
  rw [same, same, List.append_assoc]
  refine (List.subperm_append_left own).mpr ?_
  refine (subperm_flatMap (options.insert_subperm key value) fun option => option.2.listed).trans ?_
  exact List.perm_append_comm.subperm

end Term

end QueryDriver
