import QueryDriver.Proofs.Json.Document
import QueryDriver.Proofs.Members

/-!
Values and documents. A value whose numbers are integers is read back from its document where
nesting as deep as its own is allowed, and a document whose numbers are integers is read as such a
value.
-/

namespace QueryDriver.Json

/-- All numbers are integers of sixty-four bits, and the members of objects ascend, as they do in
every object that is built or read. -/
inductive Exact : Json → Prop
  | null : Exact .null
  | bool (value : Bool) : Exact (.bool value)
  | int {value : Int} (fits : Numeral.Fits value) : Exact (.int value)
  | string (value : String) : Exact (.string value)
  | array {items : List Json} (exactItems : ∀ item ∈ items, Exact item) : Exact (.array items)
  | object {members : List (String × Json)} (ascending : Members.Ascending members)
      (exactMembers : ∀ member ∈ members, Exact member.2) : Exact (.object members)

theorem Exact.whole {value : Json} (exact' : value.Exact) : value.Whole := by
  induction exact' with
  | null => exact .null
  | bool value => exact .bool value
  | int _ => exact .int _
  | string value => exact .string value
  | array _ each => exact .array each
  | object _ _ each => exact .object each

mutual

/-- The number of arrays and objects that stand inside each other. -/
def depth : Json → Nat
  | .array items => depthOfItems items + 1
  | .object members => depthOfMembers members + 1
  | _ => 0

def depthOfItems : List Json → Nat
  | [] => 0
  | item :: rest => max (depth item) (depthOfItems rest)

def depthOfMembers : List (String × Json) → Nat
  | [] => 0
  | (_, value) :: rest => max (depth value) (depthOfMembers rest)

end

theorem depthOfItems_le_iff {items : List Json} {bound : Nat} :
    depthOfItems items ≤ bound ↔ ∀ item ∈ items, item.depth ≤ bound := by
  induction items with
  | nil => simp [depthOfItems]
  | cons item rest ih => rw [depthOfItems, Nat.max_le, ih, List.forall_mem_cons]

theorem depthOfMembers_le_iff {members : List (String × Json)} {bound : Nat} :
    depthOfMembers members ≤ bound ↔ ∀ member ∈ members, member.2.depth ≤ bound := by
  induction members with
  | nil => simp [depthOfMembers]
  | cons member rest ih => rw [depthOfMembers, Nat.max_le, ih, List.forall_mem_cons]

theorem ofItems?_itemDocuments {items : List Json} {nesting : Nat}
    (each : ∀ item ∈ items, ofDocument? nesting item.document = some item) :
    ofItems? nesting (itemDocuments items) = some items := by
  induction items with
  | nil => rfl
  | cons item rest ih =>
      obtain ⟨first, others⟩ := List.forall_mem_cons.mp each
      rw [itemDocuments, ofItems?, first, ih others]

theorem ofMembers?_memberDocuments {members : List (String × Json)} {nesting : Nat}
    (each : ∀ member ∈ members, ofDocument? nesting member.2.document = some member.2) :
    ofMembers? nesting (memberDocuments members) = some members := by
  induction members with
  | nil => rfl
  | cons member rest ih =>
      obtain ⟨first, others⟩ := List.forall_mem_cons.mp each
      rw [memberDocuments, ofMembers?, textPieces, Quoted.text?_pieces, first, ih others]

theorem ofDocument?_document {value : Json} (exact' : value.Exact) {nesting : Nat}
    (shallow : value.depth ≤ nesting) : ofDocument? nesting value.document = some value := by
  induction exact' generalizing nesting with
  | null => rfl
  | bool value => rfl
  | int fits => exact Numeral.value?_ofInt fits
  | string value =>
      rw [document, ofDocument?, textPieces, Quoted.text?_pieces]
      rfl
  | array _ each =>
      cases nesting with
      | zero => cases shallow
      | succ nesting =>
          have inside := depthOfItems_le_iff.mp (Nat.le_of_succ_le_succ shallow)
          rw [document, ofDocument?,
            ofItems?_itemDocuments fun item member => each item member (inside item member)]
          rfl
  | object ascending _ each =>
      cases nesting with
      | zero => cases shallow
      | succ nesting =>
          have inside := depthOfMembers_le_iff.mp (Nat.le_of_succ_le_succ shallow)
          rw [document, ofDocument?, ofMembers?_memberDocuments
            fun member isMember => each member isMember (inside member isMember),
            Option.map_some, ascending.ofPairs_eq]

namespace Document

mutual

/-- All numbers are written as integers of sixty-four bits, none of them as zero with a sign. -/
def AllIntegers : Document → Prop
  | .number numeral => numeral.IsInteger
  | .array items => AllIntegersOfItems items
  | .object members => AllIntegersOfMembers members
  | _ => True

def AllIntegersOfItems : List Document → Prop
  | [] => True
  | item :: rest => AllIntegers item ∧ AllIntegersOfItems rest

def AllIntegersOfMembers : List (List Quoted.Piece × Document) → Prop
  | [] => True
  | (_, value) :: rest => AllIntegers value ∧ AllIntegersOfMembers rest

end

mutual

theorem exact_of_ofDocument? (nesting : Nat) (value : Json) : ∀ document : Document,
    document.AllIntegers → ofDocument? nesting document = some value →
      value.Exact ∧ value.depth ≤ nesting
  | .null, _, read => by
      cases read
      exact ⟨.null, Nat.zero_le _⟩
  | .bool value, _, read => by
      cases read
      exact ⟨.bool value, Nat.zero_le _⟩
  | .number numeral, integer, read => by
      rw [ofDocument?, Numeral.value?_of_isInteger integer] at read
      cases read
      exact ⟨.int (Numeral.fits_of_isInteger integer), Nat.zero_le _⟩
  | .string pieces, _, read => by
      obtain ⟨text, _, rfl⟩ := Option.map_eq_some_iff.mp read
      exact ⟨.string text, Nat.zero_le _⟩
  | .array items, integers, read => by
      cases nesting with
      | zero => cases read
      | succ nesting =>
          obtain ⟨values, inside, rfl⟩ := Option.map_eq_some_iff.mp read
          have each := exact_of_ofItems? nesting values items integers inside
          exact ⟨.array fun item member => (each item member).1,
            Nat.succ_le_succ (depthOfItems_le_iff.mpr fun item member => (each item member).2)⟩
  | .object members, integers, read => by
      cases nesting with
      | zero => cases read
      | succ nesting =>
          obtain ⟨pairs, inside, rfl⟩ := Option.map_eq_some_iff.mp read
          have each := exact_of_ofMembers? nesting pairs members integers inside
          have kept (member : String × Json) (isMember : member ∈ Members.ofPairs pairs) :=
            each member ((Members.ofPairs_subperm pairs).subset isMember)
          have ascending := Members.ofPairs_ascending pairs
          exact ⟨.object ascending fun member isMember => (kept member isMember).1,
            Nat.succ_le_succ (depthOfMembers_le_iff.mpr fun member isMember =>
              (kept member isMember).2)⟩

theorem exact_of_ofItems? (nesting : Nat) (values : List Json) : ∀ items : List Document,
    AllIntegersOfItems items → ofItems? nesting items = some values →
      ∀ value ∈ values, value.Exact ∧ value.depth ≤ nesting
  | [], _, read => by
      cases read
      exact List.forall_mem_nil _
  | item :: rest, integers, read => by
      rw [ofItems?] at read
      split at read
      · rename_i value others first behind
        cases read
        exact List.forall_mem_cons.mpr ⟨exact_of_ofDocument? nesting value item integers.1 first,
          exact_of_ofItems? nesting others rest integers.2 behind⟩
      · cases read

theorem exact_of_ofMembers? (nesting : Nat) (pairs : List (String × Json)) :
    ∀ members : List (List Quoted.Piece × Document), AllIntegersOfMembers members →
      ofMembers? nesting members = some pairs →
        ∀ pair ∈ pairs, pair.2.Exact ∧ pair.2.depth ≤ nesting
  | [], _, read => by
      cases read
      exact List.forall_mem_nil _
  | (key, item) :: rest, integers, read => by
      rw [ofMembers?] at read
      split at read
      · rename_i key value others _ first behind
        cases read
        exact List.forall_mem_cons.mpr ⟨exact_of_ofDocument? nesting value item integers.1 first,
          exact_of_ofMembers? nesting others rest integers.2 behind⟩
      · cases read

end

end Document

end QueryDriver.Json
