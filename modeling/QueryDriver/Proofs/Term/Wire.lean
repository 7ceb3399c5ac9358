import QueryDriver.Term.Wire

/-!
Reading terms back from what is sent for them. The terms whose literals are scalars are those that
can be read, and each is read back as it was; so no two of them are sent alike.
-/

namespace QueryDriver

def Json.isScalar : Json → Bool
  | .array _ | .object _ => false
  | _ => true

namespace Tag

theorem ofCode?_code (tag : Tag) : ofCode? tag.code = some tag := by
  cases tag <;> decide +kernel

theorem code_of_ofCode? {code : Nat} {tag : Tag} (found : ofCode? code = some tag) :
    tag.code = code := by
  have matches' := List.find?_some found
  exact of_decide_eq_true matches'

theorem code_injective {left right : Tag} (same : left.code = right.code) : left = right := by
  have found := ofCode?_code left
  rw [same, ofCode?_code] at found
  exact (Option.some.inj found).symm

end Tag

namespace Term

/-- All literals of the term are scalars. -/
inductive Plain : Term → Prop
  | literal {value : Json} (scalar : value.isScalar = true) : Plain (.literal value)
  | node (tag : Tag) {operands : List Term} {options : List (String × Term)}
      (plainOperands : ∀ operand ∈ operands, Plain operand)
      (plainOptions : ∀ option ∈ options, Plain option.2) : Plain (.node tag operands options)

theorem tagOf?_code (tag : Tag) : tagOf? tag.code = some tag :=
  Tag.ofCode?_code tag

theorem code_of_tagOf? {code : Int} {tag : Tag} (found : tagOf? code = some tag) :
    (tag.code : Int) = code := by
  cases code with
  | ofNat code => exact congrArg Int.ofNat (Tag.code_of_ofCode? found)
  | negSucc _ => cases found

theorem operandsOf?_wireOperands {operands : List Term}
    (read : ∀ operand ∈ operands, ofWire? operand.toWire = some operand) :
    operandsOf? (wireOperands operands) = some operands := by
  induction operands with
  | nil => rfl
  | cons operand rest ih =>
      have first := read operand List.mem_cons_self
      have others := ih fun other member => read other (.tail operand member)
      simp only [wireOperands, operandsOf?, first, others]

theorem optionsOf?_wireOptions {options : List (String × Term)}
    (read : ∀ option ∈ options, ofWire? option.2.toWire = some option.2) :
    optionsOf? (wireOptions options) = some options := by
  induction options with
  | nil => rfl
  | cons option rest ih =>
      have first := read option List.mem_cons_self
      have others := ih fun other member => read other (.tail option member)
      simp only [wireOptions, optionsOf?, first, others]

theorem ofWire?_toWire {term : Term} (plain : term.Plain) : ofWire? term.toWire = some term := by
  induction plain with
  | @literal value scalar =>
      cases value with
      | array items => cases scalar
      | object members => cases scalar
      | _ => rfl
  | node tag _ _ readOperands readOptions =>
      rename_i operands options _ _
      have operandsRead := operandsOf?_wireOperands readOperands
      have optionsRead := optionsOf?_wireOptions readOptions
      cases options with
      | nil => simp only [toWire, ofWire?, tagOf?_code, operandsRead, op]
      | cons first rest =>
          simp only [wireOptions] at optionsRead
          simp only [toWire, wireOptions, ofWire?, tagOf?_code, operandsRead, optionsRead]

theorem plain_of_operandsOf? {items : List Json} {operands : List Term}
    (plain : ∀ item ∈ items, ∀ term, ofWire? item = some term → term.Plain ∧ term.toWire = item)
    (read : operandsOf? items = some operands) :
    (∀ operand ∈ operands, operand.Plain) ∧ wireOperands operands = items := by
  induction items generalizing operands with
  | nil =>
      cases read
      exact ⟨List.forall_mem_nil _, rfl⟩
  | cons item rest ih =>
      rw [operandsOf?] at read
      split at read
      · rename_i operand others first behind
        cases read
        obtain ⟨plainOperand, same⟩ := plain item List.mem_cons_self _ first
        obtain ⟨plainOthers, sameOthers⟩ :=
          ih (fun other member => plain other (.tail item member)) behind
        exact ⟨List.forall_mem_cons.mpr ⟨plainOperand, plainOthers⟩,
          by rw [wireOperands, same, sameOthers]⟩
      · cases read

theorem plain_of_optionsOf? {members : List (String × Json)} {options : List (String × Term)}
    (plain : ∀ pair ∈ members, ∀ term, ofWire? pair.2 = some term →
      term.Plain ∧ term.toWire = pair.2)
    (read : optionsOf? members = some options) :
    (∀ option ∈ options, option.2.Plain) ∧ wireOptions options = members := by
  induction members generalizing options with
  | nil =>
      cases read
      exact ⟨List.forall_mem_nil _, rfl⟩
  | cons pair rest ih =>
      rw [optionsOf?] at read
      split at read
      · rename_i value others first behind
        cases read
        obtain ⟨plainValue, same⟩ := plain pair List.mem_cons_self _ first
        obtain ⟨plainOthers, sameOthers⟩ :=
          ih (fun other member => plain other (.tail pair member)) behind
        exact ⟨List.forall_mem_cons.mpr ⟨plainValue, plainOthers⟩,
          by rw [wireOptions, same, sameOthers]⟩
      · cases read

/-- Only terms whose literals are scalars are read, each from what is sent for it. -/
theorem plain_of_ofWire? (json : Json) (term : Term) (read : ofWire? json = some term) :
    term.Plain ∧ term.toWire = json := by
  rw [ofWire?.eq_def] at read
  split at read
  · rename_i code operands
    split at read
    · rename_i tag terms isTag behind
      cases read
      obtain ⟨plain, same⟩ := plain_of_operandsOf? (fun item member => plain_of_ofWire? item) behind
      refine ⟨.node tag plain (List.forall_mem_nil _), ?_⟩
      rw [op, toWire, same, code_of_tagOf? isTag]
    · cases read
  · rename_i code operands first others
    split at read
    · rename_i tag terms options isTag behind last
      cases read
      obtain ⟨plain, same⟩ := plain_of_operandsOf? (fun item member => plain_of_ofWire? item) behind
      obtain ⟨plainOptions, sameOptions⟩ :=
        plain_of_optionsOf? (fun pair member => plain_of_ofWire? pair.2) last
      refine ⟨.node tag plain plainOptions, ?_⟩
      cases options with
      | nil => cases sameOptions
      | cons option rest => rw [toWire, same, sameOptions, code_of_tagOf? isTag]; rintro ⟨⟩
    · cases read
  · cases read
  · cases read
  · cases read
    rename_i noArray noObject
    refine ⟨.literal ?_, rfl⟩
    cases json with
    | array items => exact absurd rfl (noArray items)
    | object members => exact absurd rfl (noObject members)
    | _ => rfl
termination_by sizeOf json
decreasing_by
  · have smaller := List.sizeOf_lt_of_mem member
    simp only [‹json = _›, Json.array.sizeOf_spec, List.cons.sizeOf_spec]
    omega
  · have smaller := List.sizeOf_lt_of_mem member
    simp only [‹json = _›, Json.array.sizeOf_spec, List.cons.sizeOf_spec]
    omega
  · have smaller := List.sizeOf_lt_of_mem member
    cases pair
    simp only [‹json = _›, Json.array.sizeOf_spec, Json.object.sizeOf_spec, List.cons.sizeOf_spec,
      Prod.mk.sizeOf_spec] at *
    omega

theorem toWire_injective {left right : Term} (plainLeft : left.Plain) (plainRight : right.Plain)
    (same : left.toWire = right.toWire) : left = right := by
  have read := ofWire?_toWire plainLeft
  rw [same, ofWire?_toWire plainRight] at read
  exact (Option.some.inj read).symm

theorem equalItems_wireOperands {lefts : List Term}
    (equals : ∀ left ∈ lefts, ∀ right : Term, right.Plain →
      left.toWire.equal right.toWire = left.equal right)
    {rights : List Term} (plain : ∀ right ∈ rights, right.Plain) :
    Json.equalItems (wireOperands lefts) (wireOperands rights) = equalOperands lefts rights := by
  induction lefts generalizing rights with
  | nil => cases rights <;> rfl
  | cons left lefts ih =>
      cases rights with
      | nil => rfl
      | cons right rights =>
          obtain ⟨plainRight, plainRights⟩ := List.forall_mem_cons.mp plain
          have first := equals left List.mem_cons_self right plainRight
          have others := ih (fun other member => equals other (.tail left member)) plainRights
          simp only [wireOperands, Json.equalItems, equalOperands, first, others]

theorem equalMembers_wireOptions {lefts : List (String × Term)}
    (equals : ∀ left ∈ lefts, ∀ right : Term, right.Plain →
      left.2.toWire.equal right.toWire = left.2.equal right)
    {rights : List (String × Term)} (plain : ∀ right ∈ rights, right.2.Plain) :
    Json.equalMembers (wireOptions lefts) (wireOptions rights) = equalOptions lefts rights := by
  induction lefts generalizing rights with
  | nil => cases rights <;> rfl
  | cons left lefts ih =>
      cases rights with
      | nil => rfl
      | cons right rights =>
          obtain ⟨plainRight, plainRights⟩ := List.forall_mem_cons.mp plain
          have first := equals left List.mem_cons_self right.2 plainRight
          have others := ih (fun other member => equals other (.tail left member)) plainRights
          simp only [wireOptions, Json.equalMembers, equalOptions, first, others]

theorem code_beq (left right : Tag) :
    ((left.code : Int) == (right.code : Int)) = decide (left = right) := by
  rw [Bool.eq_iff_iff, beq_iff_eq, decide_eq_true_iff, Int.ofNat_inj]
  exact ⟨Tag.code_injective, congrArg Tag.code⟩

/-- Terms are as equal as what is sent for them, also where equality takes the two zeros among the
doubles for one. -/
theorem equal_toWire {left : Term} (plainLeft : left.Plain) {right : Term}
    (plainRight : right.Plain) : left.toWire.equal right.toWire = left.equal right := by
  induction plainLeft generalizing right with
  | @literal value scalar =>
      cases plainRight with
      | literal _ => rfl
      | @node tag _ options _ _ =>
          cases value with
          | array items => cases scalar
          | object members => cases scalar
          | _ => cases options <;> rfl
  | @node tag operands options _ _ equalOfOperands equalOfOptions =>
      cases plainRight with
      | @literal value scalar =>
          cases value with
          | array items => cases scalar
          | object members => cases scalar
          | _ => cases options <;> rfl
      | @node other others settings plainOperands plainOptions =>
          have first := equalItems_wireOperands equalOfOperands plainOperands
          have last := equalMembers_wireOptions equalOfOptions plainOptions
          cases options <;> cases settings <;>
            simp only [wireOptions] at last <;>
            simp [toWire, wireOptions, Json.equal, Json.equalItems, equal, code_beq, first, last,
              equalOptions, Bool.and_assoc]

end Term

end QueryDriver
