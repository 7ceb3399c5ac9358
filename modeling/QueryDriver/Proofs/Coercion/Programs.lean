import QueryDriver.Expression
import QueryDriver.Proofs.Coercion.Hygiene

/-!
Programs that compile functions: what they evaluate to follows their own binding structure, so the
terms that they build have it too, and no id is listed twice in all of them.
-/

namespace QueryDriver

def Method.arrangeOutlines (method : Method) (term : Outline) (operands : List Outline) :
    List Outline :=
  match method, operands with
  | .apply, function :: others => function :: term :: others
  | _, operands => term :: operands

mutual

/-- The structure of a program as it is written. -/
def Expression.outline : Expression → Outline
  | .scalar value => value.outline
  | .array items => .node (.operator .makeArray) (Expression.itemOutlines items) []
  | .object pairs =>
      .node (.operator .makeObj) [] (Members.ofPairs (Expression.pairOutlines pairs))
  | .function arity body => .node (.function arity) [body.outline] []
  | .parameter level index => .node (.parameter level index) [] []
  | .query query => query.outline
  | .failure _ => .literal .null

def Expression.itemOutlines : List Expression → List Outline
  | [] => []
  | item :: rest => item.outline :: Expression.itemOutlines rest

def Expression.pairOutlines : List (String × Expression) → List (String × Outline)
  | [] => []
  | (key, item) :: rest => (key, item.outline) :: Expression.pairOutlines rest

def Query.outline : Query → Outline
  | .expr value | .exprWithin _ value => value.outline
  | .literal value => .literal value
  | .parameter level index => .node (.parameter level index) [] []
  | .reference _ => .literal .null
  | .node tag operands => .node (.operator tag) (Query.outlines operands) []
  | .call tag operands => .node (.operator tag) (Expression.itemOutlines operands) []
  | .start starter operands =>
      .node (.operator starter.tag) (Expression.itemOutlines operands) []
  | .chain query method operands =>
      .node (.operator method.tag)
        (method.arrangeOutlines query.outline (Expression.itemOutlines operands)) []
  | .opt query key value => query.outline.withOption key value.outline
  | .option query key value => query.outline.withOption key value.outline

def Query.outlines : List Query → List Outline
  | [] => []
  | query :: rest => query.outline :: Query.outlines rest

end

mutual

/-- Whether the program makes no parameters or functions by hand. -/
def Expression.isGenuine : Expression → Bool
  | .scalar _ | .parameter _ _ | .failure _ => true
  | .array items => Expression.areGenuine items
  | .object pairs => Expression.arePairsGenuine pairs
  | .function _ body => body.isGenuine
  | .query query => query.isGenuine

def Expression.areGenuine : List Expression → Bool
  | [] => true
  | item :: rest => item.isGenuine && Expression.areGenuine rest

def Expression.arePairsGenuine : List (String × Expression) → Bool
  | [] => true
  | (_, item) :: rest => item.isGenuine && Expression.arePairsGenuine rest

def Query.isGenuine : Query → Bool
  | .expr value | .exprWithin _ value => value.isGenuine
  | .literal _ | .parameter _ _ => true
  | .reference _ => false
  | .node tag operands => !tag.binds && Query.areGenuine operands
  | .call tag operands => !tag.binds && Expression.areGenuine operands
  | .start _ operands => Expression.areGenuine operands
  | .chain query _ operands => query.isGenuine && Expression.areGenuine operands
  | .opt query _ value => query.isGenuine && value.isGenuine
  | .option query _ value => query.isGenuine && value.isGenuine

def Query.areGenuine : List Query → Bool
  | [] => true
  | query :: rest => query.isGenuine && Query.areGenuine rest

end

/-- The ids of the functions around a program are apart and handed out already. -/
structure Apart (scope : List (List Nat)) (next : Nat) : Prop where
  distinct : scope.flatten.Nodup
  below : ∀ id ∈ scope.flatten, id < next

namespace Apart

variable {scope : List (List Nat)} {next : Nat}

theorem nil (next : Nat) : Apart [] next :=
  ⟨List.nodup_nil, fun _ member => nomatch member⟩

theorem mono (apart : Apart scope next) {later : Nat} (grows : next ≤ later) : Apart scope later :=
  ⟨apart.distinct, fun id member => Nat.lt_of_lt_of_le (apart.below id member) grows⟩

theorem enter (apart : Apart scope next) {first : Nat} (above : next ≤ first) (arity : Nat) :
    Apart (List.range' first arity :: scope) (first + arity) := by
  constructor
  · rw [List.flatten_cons, List.nodup_append]
    refine ⟨List.nodup_range', apart.distinct, ?_⟩
    rintro id own other member rfl
    have low := apart.below id member
    rw [List.mem_range'_1] at own
    omega
  · intro id member
    rw [List.flatten_cons, List.mem_append, List.mem_range'_1] at member
    rcases member with own | outer
    · exact own.2
    · have low := apart.below id outer
      omega

end Apart

/-- The parameters with the given ids. -/
def Scope.ofIds (scope : List (List Nat)) : Scope :=
  scope.map fun ids => ids.map Term.parameter

theorem meets_resolve {scope : List (List Nat)} {next : Nat} (apart : Apart scope next)
    (level index : Nat) :
    ((Scope.ofIds scope).resolve level index).Meets next
      (Term.Keeps scope (.node (.parameter level index) [] []) [] next) := by
  rw [Scope.resolve, Scope.ofIds, List.getElem?_map]
  cases atLevel : scope[level]? with
  | none => exact .throw _
  | some ids =>
      simp only [Option.map_some, List.getElem?_map]
      cases atIndex : ids[index]? with
      | none => exact .throw _
      | some id =>
          exact .pure ⟨Term.outline?_parameter (locate?_of_nodup apart.distinct atLevel atIndex),
            List.nil_subperm⟩

/-- Parts that were evaluated one after the other follow their outlines, and what functions in them
list was handed out meanwhile. -/
structure PartsFollow (scope : List (List Nat)) (parts : List Value.Part) (next after : Nat) :
    Prop where
  each : ∀ part ∈ parts, part.value.Follows scope after part.outline part.store
  drawn : (parts.flatMap Value.Part.store).Subperm (handedOut next after)

/-- What is asked of host values that are evaluated one after the other. -/
def FollowAll (scope : List (List Nat)) (outlines : List Outline) (next : Nat) (values : List Value)
    (after : Nat) : Prop :=
  ∃ parts : List Value.Part, parts.map Value.Part.value = values ∧
    parts.map Value.Part.outline = outlines ∧ PartsFollow scope parts next after

def FollowUnderKeys (scope : List (List Nat)) (outlines : List (String × Outline)) (next : Nat)
    (values : List (String × Value)) (after : Nat) : Prop :=
  ∃ parts : List (String × Value.Part), parts.map (fun part => (part.1, part.2.value)) = values ∧
    parts.map (fun part => (part.1, part.2.outline)) = outlines ∧
    PartsFollow scope (parts.map Prod.snd) next after

section Follow

variable {scope : List (List Nat)} {next between after : Nat}

theorem PartsFollow.nil : PartsFollow scope [] next next :=
  ⟨List.forall_mem_nil _, List.nil_subperm⟩

theorem PartsFollow.cons {value : Value} {outline : Outline} {parts : List Value.Part}
    (first : value.Follows scope between outline (handedOut next between)) (grows : next ≤ between)
    (growsOn : between ≤ after) (others : PartsFollow scope parts between after) :
    PartsFollow scope (⟨value, outline, handedOut next between⟩ :: parts) next after := by
  refine ⟨?_, ?_⟩
  · exact List.forall_mem_cons.mpr ⟨first.mono growsOn (List.Subperm.refl _), others.each⟩
  · rw [← handedOut_append grows growsOn]
    exact (List.subperm_append_left _).mpr others.drawn

theorem FollowAll.cons {value : Value} {outline : Outline} {values : List Value}
    {outlines : List Outline} (first : value.Follows scope between outline (handedOut next between))
    (grows : next ≤ between) (growsOn : between ≤ after)
    (others : FollowAll scope outlines between values after) :
    FollowAll scope (outline :: outlines) next (value :: values) after := by
  obtain ⟨parts, rfl, rfl, follow⟩ := others
  exact ⟨_, rfl, rfl, follow.cons first grows growsOn⟩

theorem FollowUnderKeys.cons {key : String} {value : Value} {outline : Outline}
    {values : List (String × Value)} {outlines : List (String × Outline)}
    (first : value.Follows scope between outline (handedOut next between))
    (grows : next ≤ between) (growsOn : between ≤ after)
    (others : FollowUnderKeys scope outlines between values after) :
    FollowUnderKeys scope ((key, outline) :: outlines) next ((key, value) :: values) after := by
  obtain ⟨parts, rfl, rfl, follow⟩ := others
  exact ⟨(key, _) :: parts, rfl, rfl, follow.cons first grows growsOn⟩

theorem FollowAll.array {values : List Value} {outlines : List Outline}
    (follow : FollowAll scope outlines next values after) :
    (Value.array values).Follows scope after (.node (.operator .makeArray) outlines [])
      (handedOut next after) := by
  obtain ⟨parts, rfl, rfl, each, drawn⟩ := follow
  exact .array each drawn

theorem FollowUnderKeys.object {pairs : List (String × Value)}
    {outlines : List (String × Outline)}
    (follow : FollowUnderKeys scope outlines next pairs after) :
    (Value.ofPairs pairs).Follows scope after
      (.node (.operator .makeObj) [] (Members.ofPairs outlines)) (handedOut next after) := by
  obtain ⟨parts, rfl, rfl, each, drawn⟩ := follow
  rw [List.flatMap_map] at drawn
  have kept := Members.ofPairs_subperm parts
  rw [Value.ofPairs, ← Members.ofPairs_map, ← Members.ofPairs_map]
  refine .object ?_ ((subperm_flatMap kept fun part => part.2.store).trans drawn)
  intro part member
  exact each part.2 (List.mem_map_of_mem (kept.subset member))

theorem follows_function {arity : Nat} {body : List Term → Build Value} {outline : Outline}
    {store : List Nat}
    (runs : ∀ first, next ≤ first → let ids := List.range' first arity
      (body (ids.map Term.parameter)).Meets (first + arity) fun value after =>
        value.Follows (ids :: scope) after outline (handedOut (first + arity) after)) :
    (Value.ofFunction arity body).Follows scope next (.node (.function arity) [outline] [])
      store := by
  refine .function (fun first above => (runs first above).grows) ?_
  intro first above ids run value given
  exact ((runs first above).gives value given).mono (Nat.le_refl _)
    (List.sublist_append_right _ _).subperm

theorem Term.Keeps.extend {outline : Outline} {term : Term}
    (kept : term.Keeps scope outline (handedOut next between) between after)
    (grows : next ≤ between) (growsOn : between ≤ after) : term.Keeps scope outline [] next after := by
  obtain ⟨outlined, drawn⟩ := kept
  rw [handedOut_append grows growsOn] at drawn
  exact ⟨outlined, drawn⟩

theorem Value.Follows.coerce_extends {value : Value} {outline : Outline}
    (follows : value.Follows scope between outline (handedOut next between))
    (grows : next ≤ between) (budget : Nat) :
    (coerce budget value).Meets between (Term.Keeps scope outline [] next) :=
  (follows.meets_coerce budget (Nat.le_refl between)).weaken fun _ _ growsOn kept =>
    kept.extend grows growsOn

theorem FollowAll.meets_call {values : List Value} {outlines : List Outline}
    (follow : FollowAll scope outlines next values between) (grows : next ≤ between) {tag : Tag}
    (plain : tag.binds = false) :
    (Term.call tag values).Meets between
      (Term.Keeps scope (.node (.operator tag) outlines []) [] next) := by
  obtain ⟨parts, rfl, rfl, each, drawn⟩ := follow
  refine (meets_op plain drawn (Nat.le_refl between) ?_).weaken fun _ _ growsOn kept =>
    kept.extend grows growsOn
  intro part member later above
  exact (each part member).meets_coerce defaultBudget above

theorem FollowAll.swap {first second : Value} {values : List Value} {one other : Outline}
    {outlines : List Outline}
    (follow : FollowAll scope (one :: other :: outlines) next (first :: second :: values) after) :
    FollowAll scope (other :: one :: outlines) next (second :: first :: values) after := by
  obtain ⟨parts, given, outlined, each, drawn⟩ := follow
  obtain ⟨part, others, rfl, rfl, behind⟩ := List.map_eq_cons_iff.mp given
  obtain ⟨another, rest, rfl, rfl, rfl⟩ := List.map_eq_cons_iff.mp behind
  cases outlined
  have same : (another :: part :: rest).Perm (part :: another :: rest) := List.Perm.swap _ _ rest
  refine ⟨another :: part :: rest, rfl, rfl, fun found member => ?_, ?_⟩
  · exact each found (same.mem_iff.mp member)
  · exact (same.flatMap_right _).subperm.trans drawn

theorem FollowAll.arrange {term : Term} {outline : Outline} {values : List Value}
    {outlines : List Outline} (kept : term.Keeps scope outline [] next between)
    (grows : next ≤ between) (growsOn : between ≤ after)
    (others : FollowAll scope outlines between values after) (method : Method) :
    FollowAll scope (method.arrangeOutlines outline outlines) next (method.arrange term values)
      after := by
  have inFront : FollowAll scope (outline :: outlines) next (.term term :: values) after :=
    .cons (.term kept.outlined kept.drawn) grows growsOn others
  unfold Method.arrange Method.arrangeOutlines
  obtain ⟨parts, rfl, rfl, _⟩ := others
  cases parts with
  | nil => cases method <;> exact inFront
  | cons first rest =>
      by_cases isApply : method = .apply
      · subst isApply
        exact inFront.swap
      · split
        · exact absurd rfl isApply
        · split
          · exact absurd rfl isApply
          · exact inFront

theorem Term.Keeps.meets_withOption {term value : Term} {outline other : Outline}
    (kept : term.Keeps scope outline [] next between) (grows : next ≤ between)
    (growsOn : between ≤ after) (keptValue : value.Keeps scope other [] between after)
    (key : String) :
    (term.withOption key value).Meets after
      (Term.Keeps scope (outline.withOption key other) [] next) := by
  cases term with
  | literal found => exact .throw _
  | node tag operands options =>
      refine .pure ⟨Term.outline?_insert kept.outlined key keptValue.outlined, ?_⟩
      refine (Term.listed_insert tag operands options key value).trans ?_
      exact subperm_handedOut kept.drawn keptValue.drawn grows growsOn

end Follow

mutual

theorem Expression.meets_eval : ∀ {expression : Expression}, expression.isGenuine = true →
    ∀ {scope : List (List Nat)} {next : Nat}, Apart scope next →
      (expression.eval (Scope.ofIds scope)).Meets next fun value after =>
        value.Follows scope after expression.outline (handedOut next after)
  | .scalar value, _, scope, next, _ => .pure (.scalar value _)
  | .array items, genuine, scope, next, apart => by
      rw [Expression.isGenuine] at genuine
      refine (Expression.meets_evalItems genuine apart).bind ?_
      intro values after _ follow
      exact .pure follow.array
  | .object pairs, genuine, scope, next, apart => by
      rw [Expression.isGenuine] at genuine
      refine (Expression.meets_evalPairs genuine apart).bind ?_
      intro values after _ follow
      exact .pure follow.object
  | .function arity body, genuine, scope, next, apart => by
      rw [Expression.isGenuine] at genuine
      -- the body runs when the function is coerced, with whatever ids come next then
      refine .pure (follows_function ?_)
      intro first above ids
      exact Expression.meets_eval genuine (apart.enter above arity)
  | .parameter level index, _, scope, next, apart => by
      refine (meets_resolve apart level index).bind ?_
      intro term after _ kept
      exact .pure (.term kept.outlined kept.drawn)
  | .query query, genuine, scope, next, apart => by
      rw [Expression.isGenuine] at genuine
      refine (Query.meets_build genuine apart).bind ?_
      intro term after _ kept
      exact .pure (.term kept.outlined kept.drawn)
  | .failure fault, _, _, _, _ => .throw _

theorem Expression.meets_evalItems : ∀ {items : List Expression},
    Expression.areGenuine items = true → ∀ {scope : List (List Nat)} {next : Nat},
      Apart scope next → (Expression.evalItems items (Scope.ofIds scope)).Meets next
        (FollowAll scope (Expression.itemOutlines items) next)
  | [], _, scope, next, _ => .pure ⟨[], rfl, rfl, .nil⟩
  | item :: rest, genuine, scope, next, apart => by
      rw [Expression.areGenuine, Bool.and_eq_true] at genuine
      refine (Expression.meets_eval genuine.1 apart).bind ?_
      intro value between grows follows
      refine (Expression.meets_evalItems genuine.2 (apart.mono grows)).bind ?_
      intro values after growsOn follow
      exact .pure (.cons follows grows growsOn follow)

theorem Expression.meets_evalPairs : ∀ {pairs : List (String × Expression)},
    Expression.arePairsGenuine pairs = true → ∀ {scope : List (List Nat)} {next : Nat},
      Apart scope next → (Expression.evalPairs pairs (Scope.ofIds scope)).Meets next
        (FollowUnderKeys scope (Expression.pairOutlines pairs) next)
  | [], _, scope, next, _ => .pure ⟨[], rfl, rfl, .nil⟩
  | (key, item) :: rest, genuine, scope, next, apart => by
      rw [Expression.arePairsGenuine, Bool.and_eq_true] at genuine
      refine (Expression.meets_eval genuine.1 apart).bind ?_
      intro value between grows follows
      refine (Expression.meets_evalPairs genuine.2 (apart.mono grows)).bind ?_
      intro values after growsOn follow
      exact .pure (.cons follows grows growsOn follow)

theorem Query.meets_build : ∀ {query : Query}, query.isGenuine = true →
    ∀ {scope : List (List Nat)} {next : Nat}, Apart scope next →
      (query.build (Scope.ofIds scope)).Meets next (Term.Keeps scope query.outline [] next)
  | .expr value, genuine, scope, next, apart => by
      rw [Query.isGenuine] at genuine
      refine (Expression.meets_eval genuine apart).bind ?_
      intro host between grows follows
      exact follows.coerce_extends grows defaultBudget
  | .exprWithin budget value, genuine, scope, next, apart => by
      rw [Query.isGenuine] at genuine
      refine (Expression.meets_eval genuine apart).bind ?_
      intro host between grows follows
      exact follows.coerce_extends grows budget
  | .literal value, _, scope, next, _ => .pure ⟨rfl, List.nil_subperm⟩
  | .parameter level index, _, scope, next, apart => meets_resolve apart level index
  | .reference _, genuine, _, _, _ => nomatch genuine
  | .node tag operands, genuine, scope, next, apart => by
      rw [Query.isGenuine, Bool.and_eq_true, Bool.not_eq_true'] at genuine
      refine (Query.meets_buildAll genuine.2 apart).bind ?_
      rintro terms after _ ⟨outlined, drawn⟩
      refine .pure ⟨Term.outline?_operator genuine.1 outlined rfl, ?_⟩
      rw [Term.op, Term.listed_operator genuine.1, List.flatMap_nil, List.append_nil]
      exact drawn
  | .call tag operands, genuine, scope, next, apart => by
      rw [Query.isGenuine, Bool.and_eq_true, Bool.not_eq_true'] at genuine
      refine (Expression.meets_evalItems genuine.2 apart).bind ?_
      intro values between grows follow
      exact follow.meets_call grows genuine.1
  | .start starter operands, genuine, scope, next, apart => by
      rw [Query.isGenuine] at genuine
      refine (Expression.meets_evalItems genuine apart).bind ?_
      intro values between grows follow
      exact follow.meets_call grows (by cases starter <;> rfl)
  | .chain query method operands, genuine, scope, next, apart => by
      rw [Query.isGenuine, Bool.and_eq_true] at genuine
      refine (Query.meets_build genuine.1 apart).bind ?_
      intro term between grows kept
      refine (Expression.meets_evalItems genuine.2 (apart.mono grows)).bind ?_
      intro values after growsOn follow
      exact (follow.arrange kept grows growsOn method).meets_call (Nat.le_trans grows growsOn)
        (by cases method <;> rfl)
  | .opt query key value, genuine, scope, next, apart => by
      rw [Query.isGenuine, Bool.and_eq_true] at genuine
      refine (Query.meets_build genuine.1 apart).bind ?_
      intro term between grows kept
      refine (Expression.meets_eval genuine.2 (apart.mono grows)).bind ?_
      intro host reached growsOn follows
      refine (follows.coerce_extends growsOn defaultBudget).bind ?_
      intro option after grown keptOption
      exact kept.meets_withOption grows (Nat.le_trans growsOn grown) keptOption key
  | .option query key value, genuine, scope, next, apart => by
      rw [Query.isGenuine, Bool.and_eq_true] at genuine
      refine (Query.meets_build genuine.1 apart).bind ?_
      intro term between grows kept
      refine (Query.meets_build genuine.2 (apart.mono grows)).bind ?_
      intro option after growsOn keptOption
      exact kept.meets_withOption grows growsOn keptOption key

theorem Query.meets_buildAll : ∀ {queries : List Query}, Query.areGenuine queries = true →
    ∀ {scope : List (List Nat)} {next : Nat}, Apart scope next →
      (Query.buildAll queries (Scope.ofIds scope)).Meets next fun terms after =>
        Term.operandOutlines? scope terms = some (Query.outlines queries) ∧
          (terms.flatMap Term.listed).Subperm (handedOut next after)
  | [], _, scope, next, _ => .pure ⟨rfl, List.nil_subperm⟩
  | query :: rest, genuine, scope, next, apart => by
      rw [Query.areGenuine, Bool.and_eq_true] at genuine
      refine (Query.meets_build genuine.1 apart).bind ?_
      intro term between grows kept
      refine (Query.meets_buildAll genuine.2 (apart.mono grows)).bind ?_
      rintro terms after growsOn ⟨outlined, drawn⟩
      have drawn : (terms.flatMap Term.listed).Subperm ([] ++ handedOut between after) := drawn
      refine .pure ⟨?_, subperm_handedOut kept.drawn drawn grows growsOn⟩
      rw [Term.operandOutlines?, kept.outlined, outlined]
      rfl

end

/-- The outcomes of queries that are built one after the other, and the id that is free then. -/
def Query.buildInTurn : List Query → Nat → List (Except DriverError Term) × Nat
  | [], next => ([], next)
  | query :: rest, next =>
      let (result, between) := query.build [] next
      let (results, after) := buildInTurn rest between
      (result :: results, after)

theorem Query.buildInTurn_cons (query : Query) (rest : List Query) (next : Nat) :
    buildInTurn (query :: rest) next =
      ((query.build [] next).1 :: (buildInTurn rest (query.build [] next).2).1,
        (buildInTurn rest (query.build [] next).2).2) :=
  rfl

theorem Query.buildInTurn_keeps {queries : List Query}
    (genuine : ∀ query ∈ queries, query.isGenuine = true) (next : Nat) :
    let built := buildInTurn queries next
    let terms := built.1.filterMap Except.toOption
    next ≤ built.2 ∧
      List.Forall₂ (fun query result =>
        ∀ term, result = Except.ok term → term.outline? [] = some query.outline) queries built.1 ∧
      (∀ term ∈ terms, ∀ ids ∈ term.functions, Consecutive ids) ∧
      (terms.flatMap Term.listed).Subperm (handedOut next built.2) := by
  induction queries generalizing next with
  | nil => exact ⟨Nat.le_refl next, .nil, List.forall_mem_nil _, List.nil_subperm⟩
  | cons query rest ih =>
      obtain ⟨ofFirst, ofRest⟩ := List.forall_mem_cons.mp genuine
      obtain ⟨grows, gives⟩ := Query.meets_build ofFirst (Apart.nil next)
      obtain ⟨growsOn, outlined, consecutive, drawn⟩ := ih ofRest (query.build [] next).2
      rw [buildInTurn_cons]
      refine ⟨Nat.le_trans grows growsOn, .cons ?_ outlined, ?_⟩
      · intro term given
        exact (gives term given).outlined
      · cases result : (query.build [] next).1 with
        | error error =>
            -- the ids that were handed out before the failure are in no term
            refine ⟨consecutive, drawn.trans ?_⟩
            rw [← handedOut_append grows growsOn]
            exact (List.sublist_append_right _ _).subperm
        | ok term =>
            have kept := gives term result
            refine ⟨List.forall_mem_cons.mpr ⟨Term.consecutive_of_outline? kept.outlined,
              consecutive⟩, ?_⟩
            have drawn : List.Subperm _ ([] ++ handedOut _ _) := drawn
            exact subperm_handedOut kept.drawn drawn grows growsOn

/-- A function whose result is a function that has the outer parameter as a term already. -/
def capturing : Value :=
  .function 1 fun outer next =>
    (.ok (.function 1 fun inner next => (.ok (.array ((outer ++ inner).map .term)), next)), next)

def capturingOutline : Outline :=
  .node (.function 1) [.node (.function 1) [.node (.operator .makeArray)
    [.node (.parameter 1 0) [] [], .node (.parameter 0 0) [] []] []] []] []

theorem capturing_follows : capturing.Follows [] 0 capturingOutline [] := by
  refine .function (fun next _ => Nat.le_refl _) ?_
  intro outer _ _ _ value given
  cases given
  refine .function (fun next _ => Nat.le_refl _) ?_
  intro inner later _ _ value given
  cases given
  have apart : Apart [[inner], [outer]] (inner + 1) :=
    ((Apart.nil outer).enter (Nat.le_refl _) 1).enter later 1
  have place (level index id : Nat) (ids : List Nat)
      (atLevel : [[inner], [outer]][level]? = some ids) (atIndex : ids[index]? = some id) :
      (Term.parameter id).outline? [[inner], [outer]] =
        some (.node (.parameter level index) [] []) :=
    Term.outline?_parameter (locate?_of_nodup apart.distinct atLevel atIndex)
  have each : ∀ part ∈ [Value.Part.mk (.term (.parameter outer)) (.node (.parameter 1 0) [] []) [],
      .mk (.term (.parameter inner)) (.node (.parameter 0 0) [] []) []],
      part.value.Follows [[inner], [outer]] (inner + 1) part.outline part.store := by
    refine List.forall_mem_cons.mpr ⟨?_, List.forall_mem_singleton.mpr ?_⟩
    · exact .term (place 1 0 outer _ rfl rfl) List.nil_subperm
    · exact .term (place 0 0 inner _ rfl rfl) List.nil_subperm
  exact .array each List.nil_subperm

/-- Functions inside a function, then one whose body fails, then one more. -/
def inTurn : List Query :=
  [.expr (.function 1 (.array [.parameter 0 0,
      .function 2 (.query (.chain (.parameter 1 0) .equals [.parameter 0 1]))])),
    .expr (.function 3 (.scalar .undefined)),
    .start .not [.function 1 (.parameter 0 0)]]

end QueryDriver
