import QueryDriver.Builder
import QueryDriver.Proofs.Build
import QueryDriver.Proofs.Members
import QueryDriver.Proofs.Term.Wire

/-!
The literals of compiled terms. Coercion takes arrays, objects and functions apart and turns times
and bytes into operators over texts, so that only scalars are left as literals.
-/

namespace QueryDriver

/-- All literals are scalars in the terms that the value holds, and in those that its functions give
for their parameters. -/
inductive Value.Plain : Value → Prop
  | scalar (value : Scalar) : Plain (.scalar value)
  | array {items : List Value} (plainItems : ∀ item ∈ items, Plain item) : Plain (.array items)
  | object {members : List (String × Value)} (plainMembers : ∀ member ∈ members, Plain member.2) :
      Plain (.object members)
  | function {arity : Nat} {body : List Term → Nat → Except DriverError Value × Nat}
      (plainResults : ∀ first next value after,
        body ((List.range' first arity).map Term.parameter) next = (.ok value, after) →
          Plain value) :
      Plain (.function arity body)
  | term {term : Term} (plain : term.Plain) : Plain (.term term)

namespace Term

theorem plain_op (tag : Tag) {operands : List Term} (plain : ∀ operand ∈ operands, operand.Plain) :
    (op tag operands).Plain :=
  .node tag plain (List.forall_mem_nil _)

theorem plain_func (ids : List Nat) {body : Term} (plain : body.Plain) : (func ids body).Plain := by
  refine plain_op .func (List.forall_mem_cons.mpr ⟨plain_op .makeArray ?_, ?_⟩)
  · intro operand member
    obtain ⟨id, _, rfl⟩ := List.mem_map.mp member
    exact .literal rfl
  · exact List.forall_mem_singleton.mpr plain

end Term

theorem Scalar.plain_of_toTerm {value : Scalar} {term : Term} {next after : Nat}
    (built : value.toTerm next = (.ok term, after)) : term.Plain := by
  have text (tag : Tag) (content : String) : (Term.op tag [.literal (.string content)]).Plain :=
    Term.plain_op tag (List.forall_mem_singleton.mpr (.literal rfl))
  cases value with
  | undefined => cases built
  | double value =>
      rw [toTerm] at built
      split at built
      · cases built
        exact .literal rfl
      · cases built
  | time value =>
      cases built
      exact text .iso8601 _
  | binary bytes =>
      cases built
      exact text .binary _
  | _ =>
      cases built
      exact .literal rfl

theorem plain_of_coerce {budget : Nat} {value : Value} (plain : value.Plain) {next after : Nat}
    {term : Term} (built : coerce budget value next = (.ok term, after)) : term.Plain := by
  induction budget generalizing value next after term with
  | zero => cases built
  | succ budget ih =>
      cases plain with
      | scalar value => exact Scalar.plain_of_toTerm built
      | array plainItems =>
          obtain ⟨operands, between, coerced, built⟩ := Build.bind_eq_ok.mp built
          rw [Build.pure_eq_ok] at built
          rw [← built.1]
          exact Term.plain_op .makeArray (Build.forall_of_mapM
            (fun item member _ _ _ => ih (plainItems item member)) coerced)
      | object plainMembers =>
          obtain ⟨options, between, coerced, built⟩ := Build.bind_eq_ok.mp built
          rw [Build.pure_eq_ok] at built
          rw [← built.1]
          refine .node .makeObj (List.forall_mem_nil _) (Build.forall_of_mapM ?_ coerced)
          intro member isMember next option after built
          obtain ⟨term, between, coerced, built⟩ := Build.bind_eq_ok.mp built
          rw [Build.pure_eq_ok] at built
          rw [← built.1]
          exact ih (plainMembers member isMember) coerced
      | function plainResults =>
          obtain ⟨ids, between, allocated, built⟩ := Build.bind_eq_ok.mp built
          cases allocated
          obtain ⟨result, later, run, built⟩ := Build.bind_eq_ok.mp built
          obtain ⟨body, last, coerced, built⟩ := Build.bind_eq_ok.mp built
          rw [Build.pure_eq_ok] at built
          rw [← built.1]
          exact Term.plain_func _ (ih (plainResults _ _ _ _ run) coerced)
      | term plain =>
          cases built
          exact plain

theorem plain_of_call {tag : Tag} {operands : List Value}
    (plain : ∀ operand ∈ operands, operand.Plain) {next after : Nat} {term : Term}
    (built : Term.call tag operands next = (.ok term, after)) : term.Plain := by
  obtain ⟨terms, between, coerced, built⟩ := Build.bind_eq_ok.mp built
  rw [Build.pure_eq_ok] at built
  rw [← built.1]
  exact Term.plain_op tag (Build.forall_of_mapM
    (fun operand member _ _ _ => plain_of_coerce (plain operand member)) coerced)

/-- A builder that takes a term further. -/
inductive Continuation
  | method (method : Method) (operands : List Value)
  | opt (key : String) (value : Value)
  | option (key : String) (value : Term)

namespace Continuation

def build : Continuation → Term → Build Term
  | .method name operands, term => name.build term operands
  | .opt key value, term => term.opt key value
  | .option key value, term => term.withOption key value

def Plain : Continuation → Prop
  | .method _ operands => ∀ operand ∈ operands, operand.Plain
  | .opt _ value => value.Plain
  | .option _ value => value.Plain

/-- Takes a term further by builders in turn. -/
def buildAll (continuations : List Continuation) (term : Term) : Build Term :=
  continuations.foldlM (fun term continuation => continuation.build term) term

end Continuation

theorem Term.plain_of_withOption {term value : Term} (plain : term.Plain) (plainValue : value.Plain)
    {key : String} {next after : Nat} {built : Term}
    (given : term.withOption key value next = (.ok built, after)) : built.Plain := by
  cases plain with
  | literal _ => cases given
  | node tag plainOperands plainOptions =>
      cases given
      exact .node tag plainOperands (Members.forall_insert plainOptions key plainValue)

theorem Method.plain_arrange (method : Method) {term : Term} (plain : term.Plain)
    {operands : List Value} (plainOperands : ∀ operand ∈ operands, operand.Plain) :
    ∀ operand ∈ method.arrange term operands, operand.Plain := by
  unfold arrange
  split
  · obtain ⟨first, others⟩ := List.forall_mem_cons.mp plainOperands
    exact List.forall_mem_cons.mpr ⟨first, List.forall_mem_cons.mpr ⟨.term plain, others⟩⟩
  · exact List.forall_mem_cons.mpr ⟨.term plain, plainOperands⟩

theorem Continuation.plain_of_build {continuation : Continuation} (plain : continuation.Plain)
    {term : Term} (plainTerm : term.Plain) {next after : Nat} {built : Term}
    (given : continuation.build term next = (.ok built, after)) : built.Plain := by
  cases continuation with
  | method name operands => exact plain_of_call (name.plain_arrange plainTerm plain) given
  | opt key value =>
      obtain ⟨option, between, coerced, given⟩ := Build.bind_eq_ok.mp given
      exact Term.plain_of_withOption plainTerm (plain_of_coerce plain coerced) given
  | option key value => exact Term.plain_of_withOption plainTerm plain given

theorem Continuation.plain_of_buildAll {continuations : List Continuation}
    (plain : ∀ continuation ∈ continuations, continuation.Plain) {term : Term}
    (plainTerm : term.Plain) {next after : Nat} {built : Term}
    (given : buildAll continuations term next = (.ok built, after)) : built.Plain := by
  induction continuations generalizing term next with
  | nil =>
      cases given
      exact plainTerm
  | cons continuation rest ih =>
      obtain ⟨ofFirst, ofRest⟩ := List.forall_mem_cons.mp plain
      rw [buildAll, List.foldlM_cons] at given
      obtain ⟨reached, between, first, given⟩ := Build.bind_eq_ok.mp given
      exact ih ofRest (plain_of_build ofFirst plainTerm first) given

/-- What is built from host values has only scalars as literals, so what is sent for it tells it:
the terms that can be read are those with such literals, each from what is sent for it. -/
theorem Term.compiles_unambiguously :
    (∀ budget value, value.Plain → ∀ next term after,
      coerce budget value next = (.ok term, after) → term.Plain) ∧
    (∀ tag operands, (∀ operand ∈ operands, operand.Plain) → ∀ next term after,
      call tag operands next = (.ok term, after) → term.Plain) ∧
    (∀ starter operands, (∀ operand ∈ operands, operand.Plain) → ∀ next term after,
      Starter.build starter operands next = (.ok term, after) → term.Plain) ∧
    (∀ continuations term, (∀ continuation ∈ continuations, continuation.Plain) → term.Plain →
      ∀ next built after,
        Continuation.buildAll continuations term next = (.ok built, after) → built.Plain) ∧
    (∀ left right : Term, left.Plain → right.Plain →
      (left.toWire = right.toWire → left = right) ∧
        left.toWire.equal right.toWire = left.equal right) ∧
    ∀ json term, ofWire? json = some term ↔ term.Plain ∧ term.toWire = json := by
  refine ⟨?_, ?_, ?_, ?_, ?_, ?_⟩
  · intro budget value plain next term after built
    exact plain_of_coerce plain built
  · intro tag operands plain next term after built
    exact plain_of_call plain built
  · intro starter operands plain next term after built
    exact plain_of_call plain built
  · intro continuations term plain plainTerm next built after given
    exact Continuation.plain_of_buildAll plain plainTerm given
  · intro left right plainLeft plainRight
    exact ⟨toWire_injective plainLeft plainRight, equal_toWire plainLeft plainRight⟩
  · intro json term
    constructor
    · intro read
      exact plain_of_ofWire? json term read
    · rintro ⟨plain, same⟩
      rw [← same]
      exact ofWire?_toWire plain

/-- A filter by a function that gives back its parameter in an array, with an option. -/
def filtering : List Continuation :=
  [.method .filter [.function 1 fun parameters next => (.ok (.array (parameters.map .term)), next)],
    .opt "default" (.ofBool true)]

theorem Term.compiles_unambiguously_filtering :
    ∃ built, Continuation.buildAll filtering (op .table [.literal (.string "posts")]) 5 =
        (.ok built, 6) ∧
      ofWire? built.toWire = some built := by
  obtain ⟨_, _, _, continues, _, reads⟩ := compiles_unambiguously
  have posts : (op .table [.literal (.string "posts")]).Plain :=
    plain_op .table (List.forall_mem_singleton.mpr (.literal rfl))
  have plain : ∀ continuation ∈ filtering, continuation.Plain := by
    refine List.forall_mem_cons.mpr ⟨List.forall_mem_singleton.mpr (.function ?_),
      List.forall_mem_singleton.mpr (.scalar _)⟩
    intro first next value after gives
    cases gives
    exact .array (List.forall_mem_singleton.mpr
      (.term (plain_op .var (List.forall_mem_singleton.mpr (.literal rfl)))))
  exact ⟨_, rfl, (reads _ _).mpr ⟨continues filtering _ plain posts 5 _ 6 rfl, rfl⟩⟩

end QueryDriver
