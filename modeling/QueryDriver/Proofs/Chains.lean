import QueryDriver.Builder
import QueryDriver.Proofs.Build

/-!
Chains of methods. The term that has been built so far goes through coercion again with every step,
but as it is and at no cost, so a chain depends on the operands of its steps alone: it does what
coercing them one after another does, each with a budget of its own.
-/

namespace QueryDriver

namespace Build

variable {α β : Type} {build : α → Build β}

theorem length_of_mapM {items : List α} {next after : Nat} {values : List β}
    (built : items.mapM build next = (.ok values, after)) : values.length = items.length := by
  induction items generalizing next after values with
  | nil =>
      rw [List.mapM_nil, pure_eq_ok] at built
      rw [← built.1]
      rfl
  | cons item rest ih =>
      rw [List.mapM_cons] at built
      obtain ⟨value, between, first, built⟩ := bind_eq_ok.mp built
      obtain ⟨others, last, behind, built⟩ := bind_eq_ok.mp built
      rw [pure_eq_ok] at built
      rw [← built.1, List.length_cons, ih behind, List.length_cons]

theorem mapM_of_error {before behind : List α} {item : α} {next between after : Nat}
    {values : List β} {error : DriverError}
    (earlier : before.mapM build next = (.ok values, between))
    (fails : build item between = (.error error, after)) :
    (before ++ item :: behind).mapM build next = (.error error, after) := by
  rw [List.mapM_append, Computation.bind_apply, earlier]
  simp only [List.mapM_cons, Computation.bind_apply, fails]

/-- Either each item is built when its turn comes, or one is the first to fail. -/
theorem mapM_cases (build : α → Build β) (items : List α) (next : Nat) :
    (∃ values after, items.mapM build next = (.ok values, after)) ∨
      ∃ before item behind values between error after, items = before ++ item :: behind ∧
        before.mapM build next = (.ok values, between) ∧
        build item between = (.error error, after) := by
  induction items generalizing next with
  | nil => exact .inl ⟨[], next, rfl⟩
  | cons item rest ih =>
      cases run : build item next with
      | mk result between =>
          cases result with
          | error error => exact .inr ⟨[], item, rest, [], next, error, between, rfl, rfl, run⟩
          | ok value =>
              rcases ih between with ⟨values, after, others⟩ |
                ⟨before, other, behind, values, last, error, after, rfl, others, fails⟩
              · refine .inl ⟨value :: values, after, ?_⟩
                simp only [List.mapM_cons, Computation.bind_apply, run, others]
                rfl
              · refine .inr ⟨item :: before, other, behind, value :: values, last, error, after, rfl,
                  ?_, fails⟩
                simp only [List.mapM_cons, Computation.bind_apply, run, others]
                rfl

end Build

/-- A step of a chain: a method and its operands. -/
structure Call where
  method : Method
  operands : List Value

/-- The term that the steps of a chain build from a term. -/
def Term.chain (term : Term) (calls : List Call) : Build Term :=
  calls.foldlM (fun term call => call.method.build term call.operands) term

/-- The operands of the node that a method makes: the term so far is the first, or the second after
a function that is applied to it. -/
def Method.place (method : Method) (term : Term) (operands : List Term) : List Term :=
  match method, operands with
  | .apply, function :: others => function :: term :: others
  | _, operands => term :: operands

/-- The term of a chain, from the coerced operands of all its steps: each step makes a node of its
method without options, around the node before it and the operands that are its own. -/
def Term.link (term : Term) : List Call → List Term → Term
  | [], _ => term
  | call :: rest, operands =>
      link (.node call.method.tag
          (call.method.place term (operands.take call.operands.length)) []) rest
        (operands.drop call.operands.length)

theorem expr_eq : expr = coerce 20 :=
  rfl

theorem expr_term (term : Term) : expr (.term term) = pure term :=
  rfl

theorem Method.build_eq (method : Method) (term : Term) (operands : List Value) :
    method.build term operands = do
      return .node method.tag (method.place term (← operands.mapM expr)) [] := by
  have inFront : Term.call method.tag (.term term :: operands) = do
      return .node method.tag (term :: (← operands.mapM expr)) [] := by
    simp only [Term.call, List.mapM_cons, expr_term, pure_bind, bind_assoc]
    rfl
  cases method with
  | apply =>
      cases operands with
      | nil => exact inFront
      | cons function others =>
          simp only [build, arrange, Term.call, List.mapM_cons, expr_term, pure_bind, bind_assoc]
          rfl
  | _ => exact inFront

theorem Term.link_cons (term : Term) (call : Call) (rest : List Call) {built : List Term}
    (all : built.length = call.operands.length) (others : List Term) :
    link term (call :: rest) (built ++ others) =
      link (.node call.method.tag (call.method.place term built) []) rest others := by
  rw [link, ← all, List.take_left, List.drop_left]

/-- A chain is the coercion of all operands, in turn. -/
theorem Term.chain_eq (term : Term) (calls : List Call) :
    chain term calls = do return link term calls (← (calls.flatMap Call.operands).mapM expr) := by
  induction calls generalizing term with
  | nil => rfl
  | cons call rest ih =>
      funext next
      have first := call.method.build_eq term call.operands
      rw [chain, List.foldlM_cons, first, List.flatMap_cons, List.mapM_append]
      simp only [bind_assoc, pure_bind]
      rw [Computation.bind_apply, Computation.bind_apply]
      cases run : call.operands.mapM expr next with
      | mk result between =>
          cases result with
          | error error => rfl
          | ok built =>
              have steps := congrFun
                (ih (.node call.method.tag (call.method.place term built) [])) between
              simp only [link_cons term call rest (Build.length_of_mapM run)]
              exact steps

theorem Term.chain_apply (term : Term) (calls : List Call) (next : Nat) :
    chain term calls next =
      match (calls.flatMap Call.operands).mapM (coerce 20) next with
      | (.ok built, after) => (.ok (link term calls built), after)
      | (.error error, after) => (.error error, after) := by
  rw [chain_eq, expr_eq, Computation.bind_apply]
  cases (calls.flatMap Call.operands).mapM (coerce 20) next with
  | mk result after => cases result <;> rfl

theorem Term.chain_of_error {calls : List Call} {before behind : List Value} {operand : Value}
    (split : calls.flatMap Call.operands = before ++ operand :: behind) {next between after : Nat}
    {built : List Term} {error : DriverError}
    (earlier : before.mapM (coerce 20) next = (.ok built, between))
    (fails : coerce 20 operand between = (.error error, after)) (term : Term) :
    chain term calls next = (.error error, after) := by
  rw [chain_apply, split, Build.mapM_of_error earlier fails]

/-- The last step takes up the term before it as it is, however deep that has become. -/
theorem Term.chain_step {term previous : Term} {before : List Call} {call : Call}
    {next between after : Nat} {own : List Term}
    (reached : chain term before next = (.ok previous, between))
    (coerced : call.operands.mapM (coerce 20) between = (.ok own, after)) :
    chain term (before ++ [call]) next =
      (.ok (.node call.method.tag (call.method.place previous own) []), after) := by
  rw [chain] at reached
  rw [chain, List.foldlM_append, Computation.bind_apply, reached]
  simp only [List.foldlM_cons, List.foldlM_nil, Method.build_eq, expr_eq, Computation.bind_apply,
    coerced]
  rfl

/-- A chain of any length is built if each operand is coerced when its turn comes, with a budget of
its own, and every step consists of the term before it and its own operands then. Else the chain
fails as the first operand does that fails. -/
theorem Term.chains_without_budget (term : Term) (calls : List Call) (next : Nat) :
    let operands := calls.flatMap Call.operands
    ((∃ result after, chain term calls next = (.ok result, after)) ↔
      ∀ before operand behind built between, operands = before ++ operand :: behind →
        before.mapM (coerce 20) next = (.ok built, between) →
          ∃ value after, coerce 20 operand between = (.ok value, after)) ∧
    (∀ built after, operands.mapM (coerce 20) next = (.ok built, after) →
      chain term calls next = (.ok (link term calls built), after)) ∧
    (∀ before call previous between own after, chain term before next = (.ok previous, between) →
      call.operands.mapM (coerce 20) between = (.ok own, after) →
        chain term (before ++ [call]) next =
          (.ok (.node call.method.tag (call.method.place previous own) []), after)) ∧
    ∀ before operand behind built between error after, operands = before ++ operand :: behind →
      before.mapM (coerce 20) next = (.ok built, between) →
        coerce 20 operand between = (.error error, after) →
          chain term calls next = (.error error, after) := by
  intro operands
  refine ⟨⟨?_, ?_⟩, ?_, ?_, ?_⟩
  · rintro ⟨result, after, built⟩ before operand behind values between split earlier
    cases coerced : coerce 20 operand between with
    | mk outcome last =>
        cases outcome with
        | ok value => exact ⟨value, last, rfl⟩
        | error error =>
            rw [chain_of_error split earlier coerced] at built
            cases built
  · intro each
    rcases Build.mapM_cases (coerce 20) operands next with ⟨values, after, built⟩ |
      ⟨before, operand, behind, values, between, error, after, split, earlier, fails⟩
    · rw [chain_apply, built]
      exact ⟨_, _, rfl⟩
    · obtain ⟨value, last, coerced⟩ := each before operand behind values between split earlier
      rw [fails] at coerced
      cases coerced
  · intro built after coerced
    rw [chain_apply, coerced]
  · intro before call previous between own after reached coerced
    exact chain_step reached coerced
  · intro before operand behind built between error after split earlier fails
    exact chain_of_error split earlier fails term

/-- A term that is deeper than the budget for a value allows. -/
def deepTerm : Term :=
  Nat.repeat (fun term => .op .not [term]) 21 .null

def identity : Value :=
  .function 1 fun parameters next => (.ok (.array (parameters.map .term)), next)

/-- A function is applied to a field, and of the two operands that fail then the first one counts. -/
theorem Term.chains_without_budget_deep :
    let applied : List Call := [⟨.getField, [.ofString "a"]⟩, ⟨.apply, [identity]⟩]
    let failing : List Call := [⟨.between, [identity, .scalar .undefined]⟩,
      ⟨.skip, [.function 0 fun _ next => (.error .depthExceeded, next)]⟩]
    chain deepTerm applied 7 =
        (.ok (.node .funcall [.func [7] (.op .makeArray [.parameter 7]),
          .node .getField [deepTerm, .literal (.string "a")] []] []), 8) ∧
      chain deepTerm (applied ++ failing) 7 = (.error (.invalidArgument .undefinedValue), 9) := by
  intro applied failing
  obtain ⟨_, built, _⟩ := chains_without_budget deepTerm applied 7
  obtain ⟨_, _, _, fails⟩ := chains_without_budget deepTerm (applied ++ failing) 7
  constructor
  · exact built [.literal (.string "a"), .func [7] (.op .makeArray [.parameter 7])] 8 rfl
  · exact fails [.ofString "a", identity, identity] (.scalar .undefined) _ _ 9 _ 9 rfl rfl rfl

end QueryDriver
