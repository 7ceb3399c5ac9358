import QueryDriver.Coercion
import QueryDriver.Proofs.Double
import QueryDriver.Proofs.Members

/-!
Documents as host values. A document within the nesting budget is compiled, and read back as it was
from what is sent for it, also where it looks like a compiled one itself. A higher one is refused
for its height alone.
-/

namespace QueryDriver

namespace Build

variable {α β : Type}

/-- Gives a value unless it is higher than the budget allows. -/
def within (budget height : Nat) (value : α) : Build α :=
  if height ≤ budget then pure value else throw .depthExceeded

theorem within_succ (budget height : Nat) (value : α) :
    within (budget + 1) (1 + height) value = within budget height value := by
  simp only [within, Nat.add_comm 1 height, Nat.add_le_add_iff_right]

theorem within_map (budget height : Nat) (value : α) (change : α → β) :
    (do return change (← within budget height value)) = within budget height (change value) := by
  rw [within]
  split
  · rw [within, if_pos ‹_›, pure_bind]
  · rw [within, if_neg ‹_›]
    rfl

theorem mapM_within {build : α → Build β} {budget greatest : Nat} {height : α → Nat}
    {given : α → β} {items : List α}
    (each : ∀ item ∈ items, build item = within budget (height item) (given item))
    (bound : greatest ≤ budget ↔ ∀ item ∈ items, height item ≤ budget) :
    items.mapM build = within budget greatest (items.map given) := by
  simp only [within, bound]
  clear bound
  induction items with
  | nil => simp
  | cons item rest ih =>
      obtain ⟨first, others⟩ := List.forall_mem_cons.mp each
      rw [List.mapM_cons, first, ih others, within]
      simp only [List.forall_mem_cons (p := fun item => height item ≤ budget), List.map_cons]
      by_cases one : height item ≤ budget
      · by_cases all : ∀ other ∈ rest, height other ≤ budget
        · rw [if_pos one, if_pos all, if_pos ⟨one, all⟩, pure_bind, pure_bind]
        · have high : ¬(height item ≤ budget ∧ ∀ other ∈ rest, height other ≤ budget) :=
            fun both => all both.2
          rw [if_pos one, if_neg all, if_neg high, pure_bind]
          rfl
      · have high : ¬(height item ≤ budget ∧ ∀ other ∈ rest, height other ≤ budget) :=
          fun both => one both.1
        rw [if_neg one, if_neg high]
        rfl

end Build

namespace Json

mutual

/-- Scalars have height one; arrays and objects stand one above the highest of their members. -/
def height : Json → Nat
  | .array items => 1 + greatestHeight items
  | .object members => 1 + greatestMemberHeight members
  | _ => 1

def greatestHeight : List Json → Nat
  | [] => 0
  | item :: rest => max (height item) (greatestHeight rest)

def greatestMemberHeight : List (String × Json) → Nat
  | [] => 0
  | (_, value) :: rest => max (height value) (greatestMemberHeight rest)

end

theorem greatestHeight_le_iff {items : List Json} {bound : Nat} :
    greatestHeight items ≤ bound ↔ ∀ item ∈ items, item.height ≤ bound := by
  induction items with
  | nil => simp [greatestHeight]
  | cons item rest ih => rw [greatestHeight, Nat.max_le, ih, List.forall_mem_cons]

theorem greatestMemberHeight_le_iff {members : List (String × Json)} {bound : Nat} :
    greatestMemberHeight members ≤ bound ↔ ∀ member ∈ members, member.2.height ≤ bound := by
  induction members with
  | nil => simp [greatestMemberHeight]
  | cons member rest ih => rw [greatestMemberHeight, Nat.max_le, ih, List.forall_mem_cons]

theorem height_pos (document : Json) : 0 < document.height := by
  cases document <;> simp only [height] <;> omega

/-- Documents as they are held: integers are in range, doubles are finite, and members ascend. -/
inductive Held (range : Int → Prop) : Json → Prop
  | null : Held range .null
  | bool (value : Bool) : Held range (.bool value)
  | int {value : Int} (inside : range value) : Held range (.int value)
  | double {value : Double} (finite : value.isFinite = true) : Held range (.double value)
  | string (value : String) : Held range (.string value)
  | array {items : List Json} (heldItems : ∀ item ∈ items, Held range item) :
      Held range (.array items)
  | object {members : List (String × Json)} (ascending : Members.Ascending members)
      (heldMembers : ∀ member ∈ members, Held range member.2) : Held range (.object members)

/-- An integer that sixty-four bits with a sign are enough for. -/
abbrev Signed (value : Int) : Prop :=
  Int64.minValue.toInt ≤ value ∧ value ≤ Int64.maxValue.toInt

theorem fits_of_signed {value : Int} (inside : Signed value) : Numeral.Fits value :=
  ⟨inside.1, Int.lt_of_le_of_lt inside.2 (by decide)⟩

theorem Held.weaken {range wider : Int → Prop} (inside : ∀ value, range value → wider value)
    {document : Json} (held : document.Held range) : document.Held wider := by
  induction held with
  | null => exact .null
  | bool value => exact .bool value
  | int inRange => exact .int (inside _ inRange)
  | double finite => exact .double finite
  | string value => exact .string value
  | array _ each => exact .array each
  | object ascending _ each => exact .object ascending each

mutual

/-- The document that stands behind what is sent for it, where an array is `[2, [items]]` and an
object `[3, [], {members}]`, or `[3, []]` if it is empty. -/
def decompile : Json → Json
  | .array [.int 2, .array items] => .array (decompileItems items)
  | .array [.int 3, .array [], .object members] => .object (decompileMembers members)
  | .array [.int 3, .array []] => .object []
  | scalar => scalar

def decompileItems : List Json → List Json
  | [] => []
  | item :: rest => decompile item :: decompileItems rest

def decompileMembers : List (String × Json) → List (String × Json)
  | [] => []
  | (key, value) :: rest => (key, decompile value) :: decompileMembers rest

end

end Json

namespace Term

mutual

/-- The term that a document is compiled to. -/
def ofJson : Json → Term
  | .array items => .node .makeArray (ofJsonItems items) []
  | .object members => .node .makeObj [] (ofJsonMembers members)
  | .int value =>
      .literal (if Json.Signed value then .int value else .double (Double.ofInt value))
  | scalar => .literal scalar

def ofJsonItems : List Json → List Term
  | [] => []
  | item :: rest => ofJson item :: ofJsonItems rest

def ofJsonMembers : List (String × Json) → List (String × Term)
  | [] => []
  | (key, value) :: rest => (key, ofJson value) :: ofJsonMembers rest

end

theorem ofJsonItems_eq_map (items : List Json) : ofJsonItems items = items.map ofJson := by
  induction items with
  | nil => rfl
  | cons item rest ih => rw [ofJsonItems, ih, List.map_cons]

theorem ofJsonMembers_eq_map (members : List (String × Json)) :
    ofJsonMembers members = members.map fun member => (member.1, ofJson member.2) := by
  induction members with
  | nil => rfl
  | cons member rest ih => rw [ofJsonMembers, ih, List.map_cons]

theorem decompileItems_wireOperands {items : List Json}
    (each : ∀ item ∈ items, (ofJson item).toWire.decompile = item) :
    Json.decompileItems (wireOperands (ofJsonItems items)) = items := by
  induction items with
  | nil => rfl
  | cons item rest ih =>
      obtain ⟨first, others⟩ := List.forall_mem_cons.mp each
      rw [ofJsonItems, wireOperands, Json.decompileItems, first, ih others]

theorem decompileMembers_wireOptions {members : List (String × Json)}
    (each : ∀ member ∈ members, (ofJson member.2).toWire.decompile = member.2) :
    Json.decompileMembers (wireOptions (ofJsonMembers members)) = members := by
  induction members with
  | nil => rfl
  | cons member rest ih =>
      obtain ⟨first, others⟩ := List.forall_mem_cons.mp each
      rw [ofJsonMembers, wireOptions, Json.decompileMembers, first, ih others]

theorem decompile_toWire {document : Json} (held : document.Held Json.Signed) :
    (ofJson document).toWire.decompile = document := by
  induction held with
  | int inside =>
      rw [ofJson, if_pos inside]
      rfl
  | array _ each =>
      rw [ofJson, toWire]
      exact congrArg Json.array (decompileItems_wireOperands each)
  | @object members _ _ each =>
      cases members with
      -- without members there is no record of options to read them from
      | nil => rfl
      | cons first rest => exact congrArg Json.object (decompileMembers_wireOptions each)
  | _ => rfl

end Term

namespace Value

theorem ofJsonItems_eq_map (items : List Json) : ofJsonItems items = items.map ofJson := by
  induction items with
  | nil => rfl
  | cons item rest ih => rw [ofJsonItems, ih, List.map_cons]

theorem ofJsonMembers_eq_map (members : List (String × Json)) :
    ofJsonMembers members = members.map fun member => (member.1, ofJson member.2) := by
  induction members with
  | nil => rfl
  | cons member rest ih => rw [ofJsonMembers, ih, List.map_cons]

theorem ofJson_object {members : List (String × Json)} (ascending : Members.Ascending members) :
    ofJson (.object members) = .object (members.map fun member => (member.1, ofJson member.2)) := by
  rw [ofJson, ofPairs, ofJsonMembers_eq_map, ← Members.ofPairs_map, ascending.ofPairs_eq]

end Value

theorem Scalar.toTerm_double {value : Double} (finite : value.isFinite = true) :
    (Scalar.double value).toTerm = pure (.literal (.double value)) := by
  rw [toTerm, if_pos finite]

theorem Scalar.toTerm_ofInt {value : Int} (fits : Json.Numeral.Fits value) :
    (Scalar.ofInt value).toTerm = pure (Term.ofJson (.int value)) := by
  by_cases inside : Json.Signed value
  · have back : (Int64.ofInt value).toInt = value :=
      Int64.toInt_ofInt_of_le inside.1 (Int.lt_of_le_of_lt inside.2 (by decide))
    rw [Scalar.ofInt, if_pos inside, toTerm, back, Term.ofJson, if_pos inside]
  · rw [Scalar.ofInt, if_neg inside, toTerm_double (Double.isFinite_ofInt fits), Term.ofJson,
      if_neg inside]

open Build (within)

theorem coerce_without_budget (document : Json) (value : Value) (term : Term) :
    coerce 0 value = within 0 document.height term := by
  rw [within, if_neg (Nat.not_le_of_lt document.height_pos)]
  rfl

theorem coerce_scalar {scalar : Scalar} {term : Term} (built : scalar.toTerm = pure term)
    (budget : Nat) : coerce (budget + 1) (.scalar scalar) = within (budget + 1) 1 term := by
  rw [coerce, built, within, if_pos (Nat.le_add_left 1 budget)]

/-- A document within the budget is compiled, and a higher one is refused for its height. -/
theorem coerce_ofJson {document : Json} (held : document.Held Json.Numeral.Fits) (budget : Nat) :
    coerce budget (.ofJson document) = within budget document.height (Term.ofJson document) := by
  -- a level takes one off the budget of what stands in it, as it does off the height
  induction budget generalizing document with
  | zero => exact coerce_without_budget document _ _
  | succ budget ih =>
      cases held with
      | null => exact coerce_scalar rfl budget
      | bool value => exact coerce_scalar rfl budget
      | int fits => exact coerce_scalar (Scalar.toTerm_ofInt fits) budget
      | double finite => exact coerce_scalar (Scalar.toTerm_double finite) budget
      | string value => exact coerce_scalar rfl budget
      | @array items heldItems =>
          have each : ∀ item ∈ items, (coerce budget ∘ Value.ofJson) item =
              within budget item.height (Term.ofJson item) :=
            fun item isItem => ih (heldItems item isItem)
          rw [Value.ofJson, Value.ofJsonItems_eq_map, coerce, List.mapM_map,
            Build.mapM_within each Json.greatestHeight_le_iff, Build.within_map, Json.height,
            Build.within_succ, Term.ofJson, Term.ofJsonItems_eq_map, Term.op]
      | @object members ascending heldMembers =>
          have each : ∀ member ∈ members,
              (do return (member.1, ← coerce budget (.ofJson member.2))) =
                within budget member.2.height (member.1, Term.ofJson member.2) := by
            intro member isMember
            rw [ih (heldMembers member isMember), Build.within_map]
          rw [Value.ofJson_object ascending, coerce, List.mapM_map, Function.comp_def,
            Build.mapM_within each Json.greatestMemberHeight_le_iff, Build.within_map, Json.height,
            Build.within_succ, Term.ofJson, Term.ofJsonMembers_eq_map]

/-- A document of at most twenty levels is compiled and read back as it was, also where it looks
like a compiled one itself; a higher one is refused for its height. No parameter id is used. -/
theorem Value.documents_survive_compilation (document : Json) (next : Nat) :
    (document.Held Json.Signed → document.height ≤ 20 →
      ∃ term, expr (.ofJson document) next = (.ok term, next) ∧
        term.toWire.decompile = document) ∧
    (document.Held Json.Numeral.Fits → 20 < document.height →
      expr (.ofJson document) next = (.error .depthExceeded, next)) := by
  constructor
  · intro held low
    have fits := held.weaken fun _ inside => Json.fits_of_signed inside
    refine ⟨Term.ofJson document, ?_, Term.decompile_toWire held⟩
    rw [expr, coerce_ofJson fits, within, if_pos (show document.height ≤ defaultBudget from low)]
    rfl
  · intro fits high
    have tooHigh : ¬document.height ≤ defaultBudget := Nat.not_le_of_lt high
    rw [expr, coerce_ofJson fits, within, if_neg tooHigh]
    rfl

/-- A document that looks like what is sent for arrays and for objects, with a zero that has a
sign. -/
def lookalike : Json :=
  .array [.array [.int 2, .array []],
    .object [("", .array [.int 3, .array []]), ("a", .object [])],
    .double ⟨0x8000000000000000⟩]

theorem held_lookalike : lookalike.Held Json.Signed := by
  have call (code : Int) (inside : Json.Signed code) :
      (Json.array [.int code, .array []]).Held Json.Signed :=
    .array (by simp [Json.Held.int inside, Json.Held.array])
  have empty : (Json.object []).Held Json.Signed := .object .nil (List.forall_mem_nil _)
  have object : (Json.object [("", .array [.int 3, .array []]), ("a", .object [])]).Held
      Json.Signed := by
    refine .object (List.pairwise_pair.mpr (by decide)) ?_
    simp [call 3 (by decide), empty]
  have zero : (Json.double ⟨0x8000000000000000⟩).Held Json.Signed := .double (by decide)
  exact .array (by simp [call 2 (by decide), object, zero])

/-- Arrays in arrays, around a null. -/
def tower : Nat → Json
  | 0 => .null
  | levels + 1 => .array [tower levels]

theorem held_tower (levels : Nat) : (tower levels).Held Json.Numeral.Fits := by
  induction levels with
  | zero => exact .null
  | succ levels ih => exact .array (List.forall_mem_singleton.mpr ih)

theorem Value.documents_survive_compilation_lookalike :
    (∃ term, expr (.ofJson lookalike) 7 = (.ok term, 7) ∧ term.toWire.decompile = lookalike) ∧
      expr (.ofJson (tower 20)) 7 = (.error .depthExceeded, 7) :=
  ⟨(documents_survive_compilation lookalike 7).1 held_lookalike (by decide),
    (documents_survive_compilation (tower 20) 7).2 (held_tower 20) (by decide)⟩

end QueryDriver
