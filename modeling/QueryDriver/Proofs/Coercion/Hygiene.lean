import QueryDriver.Proofs.Build
import QueryDriver.Proofs.Coercion.Outline

/-!
Coercion gives terms the binding structure of the host values that they are made of, whatever the
ids are, and lists no id twice.
-/

namespace QueryDriver

def Scalar.outline : Scalar → Outline
  | .undefined | .null => .literal .null
  | .bool value => .literal (.bool value)
  | .int value => .literal (.int value.toInt)
  | .double value => .literal (.double value)
  | .text value => .literal (.string value)
  | .time value => .node (.operator .iso8601) [.literal (.string value.iso8601)] []
  | .binary bytes =>
      .node (.operator .binary) [.literal (.string (Base64.encode bytes.data.toList))] []

theorem Scalar.meets_toTerm (value : Scalar) (scope : List (List Nat)) (next : Nat) :
    value.toTerm.Meets next fun term _ =>
      term.outline? scope = some value.outline ∧ term.listed = [] := by
  cases value with
  | undefined => exact .throw _
  | double value =>
      rw [toTerm]
      split
      · exact .pure ⟨rfl, rfl⟩
      · exact .throw _
  | _ => exact .pure ⟨rfl, rfl⟩

/-- A part of a host value, with its outline and the ids that functions in its terms may list. -/
structure Value.Part where
  value : Value
  outline : Outline
  store : List Nat

/-- A host value to be coerced inside functions that list the given ids follows an outline if each of
its functions does, whatever the ids that it is given, from a bound on: its body gives back none of
those handed out, and what the body gives follows the outline of the body. The functions in its terms
list ids from a store; those in what a body gives also list ids that the body hands out. -/
inductive Value.Follows : List (List Nat) → Nat → Value → Outline → List Nat → Prop
  | scalar {scope : List (List Nat)} {bound : Nat} (value : Scalar) (store : List Nat) :
      Follows scope bound (.scalar value) value.outline store
  | term {scope : List (List Nat)} {bound : Nat} {term : Term} {outline : Outline}
      {store : List Nat} (outlined : term.outline? scope = some outline)
      (drawn : term.listed.Subperm store) : Follows scope bound (.term term) outline store
  | array {scope : List (List Nat)} {bound : Nat} {parts : List Part} {store : List Nat}
      (each : ∀ part ∈ parts, Follows scope bound part.value part.outline part.store)
      (drawn : (parts.flatMap Part.store).Subperm store) :
      Follows scope bound (.array (parts.map Part.value))
        (.node (.operator .makeArray) (parts.map Part.outline) []) store
  | object {scope : List (List Nat)} {bound : Nat} {parts : List (String × Part)}
      {store : List Nat}
      (each : ∀ part ∈ parts, Follows scope bound part.2.value part.2.outline part.2.store)
      (drawn : (parts.flatMap fun part => part.2.store).Subperm store) :
      Follows scope bound (.object (parts.map fun part => (part.1, part.2.value)))
        (.node (.operator .makeObj) [] (parts.map fun part => (part.1, part.2.outline))) store
  | function {scope : List (List Nat)} {bound arity : Nat}
      {body : List Term → Nat → Except DriverError Value × Nat} {outline : Outline}
      {store : List Nat}
      (grows : ∀ next, bound ≤ next →
        next + arity ≤ (body ((List.range' next arity).map Term.parameter) (next + arity)).2)
      (gives : ∀ next, bound ≤ next →
        let ids := List.range' next arity
        let run := body (ids.map Term.parameter) (next + arity)
        ∀ value, run.1 = .ok value →
          Follows (ids :: scope) run.2 value outline (store ++ handedOut (next + arity) run.2)) :
      Follows scope bound (.function arity body) (.node (.function arity) [outline] []) store

theorem Value.Follows.mono {scope : List (List Nat)} {bound later : Nat} {value : Value}
    {outline : Outline} {store more : List Nat} (follows : value.Follows scope bound outline store)
    (grows : bound ≤ later) (kept : store.Subperm more) :
    value.Follows scope later outline more := by
  induction follows generalizing later more with
  | scalar value store => exact .scalar value more
  | term outlined drawn => exact .term outlined (drawn.trans kept)
  | array _ drawn ih =>
      exact .array (fun part member => ih part member grows (List.Subperm.refl _))
        (drawn.trans kept)
  | object _ drawn ih =>
      exact .object (fun part member => ih part member grows (List.Subperm.refl _))
        (drawn.trans kept)
  | function growsOn _ ih =>
      refine .function (fun next above => growsOn next (Nat.le_trans grows above)) ?_
      intro next above ids run value given
      exact ih next (Nat.le_trans grows above) value given (Nat.le_refl _)
        ((List.subperm_append_right _).mpr kept)

/-- What is asked of a term that a host value is coerced into. -/
structure Term.Keeps (scope : List (List Nat)) (outline : Outline) (store : List Nat) (next : Nat)
    (term : Term) (after : Nat) : Prop where
  outlined : term.outline? scope = some outline
  drawn : term.listed.Subperm (store ++ handedOut next after)

section Parts

variable {scope : List (List Nat)} {bound next : Nat} {build : Value → Build Term}

/-- Parts that are coerced one after the other are the operands of a node with their outlines. -/
theorem meets_op {tag : Tag} (plain : tag.binds = false) {parts : List Value.Part}
    {store : List Nat} (drawn : (parts.flatMap Value.Part.store).Subperm store)
    (above : bound ≤ next)
    (each : ∀ part ∈ parts, ∀ next, bound ≤ next →
      (build part.value).Meets next (Term.Keeps scope part.outline part.store next)) :
    Build.Meets (do return .op tag (← (parts.map Value.Part.value).mapM build)) next
      (Term.Keeps scope (.node (.operator tag) (parts.map Value.Part.outline) []) store next) := by
  have coerced : ∀ part ∈ parts, ∀ next, bound ≤ next →
      (build part.value).Meets next fun operand after =>
        operand.outline? scope = some part.outline ∧
          operand.listed.Subperm (part.store ++ handedOut next after) := by
    intro part member next above
    exact (each part member next above).weaken fun _ _ _ kept => ⟨kept.outlined, kept.drawn⟩
  rw [List.mapM_map]
  refine (Build.Meets.mapM above coerced).bind ?_
  rintro operands after _ ⟨outlined, used⟩
  refine .pure ⟨?_, ?_⟩
  · exact Term.outline?_operator plain (Term.operandOutlines?_of_forall₂ outlined) rfl
  · rw [Term.op, Term.listed_operator plain, List.flatMap_nil, List.append_nil]
    exact used.trans ((List.subperm_append_right _).mpr drawn)

/-- Parts that are coerced one after the other, each under its key, are the options of a node with
their outlines. -/
theorem meets_options {tag : Tag} (plain : tag.binds = false)
    {parts : List (String × Value.Part)} {store : List Nat}
    (drawn : (parts.flatMap fun part => part.2.store).Subperm store) (above : bound ≤ next)
    (each : ∀ part ∈ parts, ∀ next, bound ≤ next →
      (build part.2.value).Meets next (Term.Keeps scope part.2.outline part.2.store next)) :
    Build.Meets (do
        return .node tag [] (← (parts.map fun part => (part.1, part.2.value)).mapM
          fun (key, value) => return (key, ← build value))) next
      (Term.Keeps scope
        (.node (.operator tag) [] (parts.map fun part => (part.1, part.2.outline))) store
        next) := by
  have coerced : ∀ part ∈ parts, ∀ next, bound ≤ next →
      Build.Meets (do return (part.1, ← build part.2.value)) next fun option after =>
        (option.1 = part.1 ∧ option.2.outline? scope = some part.2.outline) ∧
          option.2.listed.Subperm (part.2.store ++ handedOut next after) := by
    intro part member next above
    refine (each part member next above).bind ?_
    intro term after _ kept
    exact .pure ⟨⟨rfl, kept.outlined⟩, kept.drawn⟩
  rw [List.mapM_map]
  refine (Build.Meets.mapM above coerced).bind ?_
  rintro options after _ ⟨outlined, used⟩
  refine .pure ⟨?_, ?_⟩
  · exact Term.outline?_operator plain rfl (Term.optionOutlines?_of_forall₂ outlined)
  · rw [Term.listed_operator plain, List.flatMap_nil, List.nil_append]
    exact used.trans ((List.subperm_append_right _).mpr drawn)

end Parts

/-- What is left to do for a function when its ids are handed out. -/
def compileBody (budget : Nat) (body : List Term → Nat → Except DriverError Value × Nat)
    (ids : List Nat) : Build Term := do
  let result ← Value.runBody body (ids.map Term.parameter)
  return .func ids (← coerce budget result)

theorem coerce_function (budget arity : Nat)
    (body : List Term → Nat → Except DriverError Value × Nat) (next : Nat) :
    coerce (budget + 1) (.function arity body) next =
      compileBody budget body (List.range' next arity) (next + arity) := by
  rw [coerce, Computation.bind_apply]
  rfl

theorem meets_compileBody {scope : List (List Nat)} {budget next arity : Nat}
    {body : List Term → Nat → Except DriverError Value × Nat} {outline : Outline}
    {store : List Nat}
    (runs : (Value.runBody body ((List.range' next arity).map Term.parameter)).Meets (next + arity)
      fun value reached => (coerce budget value).Meets reached
        (Term.Keeps (List.range' next arity :: scope) outline
          (store ++ handedOut (next + arity) reached) reached)) :
    (compileBody budget body (List.range' next arity)).Meets (next + arity) fun term after =>
      term.Keeps scope (.node (.function arity) [outline] []) store next after ∧
        ∃ result, term = .func (List.range' next arity) result := by
  refine runs.bind ?_
  intro value reached grows coerced
  refine coerced.bind ?_
  intro result after growsOn kept
  refine .pure ⟨⟨Term.outline?_func kept.outlined, ?_⟩, result, rfl⟩
  -- the ids of the function come first, then those of its body and of the body's result
  have drawn := kept.drawn
  rw [List.append_assoc, handedOut_append grows growsOn] at drawn
  have own : (List.range' next arity).Subperm ([] ++ handedOut next (next + arity)) := by
    rw [handedOut_add]
    exact List.Subperm.refl _
  rw [Term.listed_func]
  exact subperm_handedOut own drawn (Nat.le_add_right _ _) (Nat.le_trans grows growsOn)

/-- Coercion keeps the binding structure. -/
theorem Value.Follows.meets_coerce {scope : List (List Nat)} {bound : Nat} {value : Value}
    {outline : Outline} {store : List Nat} (follows : value.Follows scope bound outline store)
    (budget : Nat) {next : Nat} (above : bound ≤ next) :
    (coerce budget value).Meets next (Term.Keeps scope outline store next) := by
  induction follows generalizing budget next with
  | @scalar scope _ value store =>
      cases budget with
      | zero => exact .throw _
      | succ budget =>
          refine (value.meets_toTerm scope next).weaken ?_
          rintro term after _ ⟨outlined, nothing⟩
          exact ⟨outlined, nothing ▸ List.nil_subperm⟩
  | term outlined drawn =>
      cases budget with
      | zero => exact .throw _
      | succ budget => exact .pure ⟨outlined, drawn.trans (List.sublist_append_left _ _).subperm⟩
  | array each drawn ih =>
      cases budget with
      | zero => exact .throw _
      | succ budget =>
          exact meets_op rfl drawn above fun part member _ above => ih part member budget above
  | object each drawn ih =>
      cases budget with
      | zero => exact .throw _
      | succ budget =>
          exact meets_options rfl drawn above fun part member _ above => ih part member budget above
  | function grows gives ih =>
      cases budget with
      | zero => exact .throw _
      | succ budget =>
          obtain ⟨growsOn, givesOn⟩ := meets_compileBody ⟨grows next above,
            fun value given => ih next above value given budget (Nat.le_refl _)⟩
          constructor <;> rw [coerce_function]
          · exact Nat.le_trans (Nat.le_add_right _ _) growsOn
          · exact fun term given => (givesOn term given).1

/-- The ids that a function takes stay its own, also when its body fails. -/
theorem Value.Follows.meets_function {scope : List (List Nat)} {bound arity : Nat}
    {body : List Term → Nat → Except DriverError Value × Nat} {outline : Outline}
    {store : List Nat} (follows : Value.Follows scope bound (.function arity body) outline store)
    (budget : Nat) {next : Nat} (above : bound ≤ next) :
    let run := coerce (budget + 1) (.function arity body) next
    next + arity ≤ run.2 ∧ ∀ term, run.1 = .ok term →
      ∃ result, term = .func (List.range' next arity) result := by
  cases follows with
  | function grows gives =>
      obtain ⟨growsOn, givesOn⟩ := meets_compileBody ⟨grows next above,
        fun value given => (gives next above value given).meets_coerce budget (Nat.le_refl _)⟩
      rw [coerce_function]
      exact ⟨growsOn, fun term given => (givesOn term given).2⟩

end QueryDriver
