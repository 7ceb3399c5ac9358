import QueryDriver.Coercion
import QueryDriver.Proofs.Members

/-!
Objects from pairs in any order. Before anything of an object is compiled its members stand in the
order of their keys, each with its last value; so no other order of the pairs and no value that has
been replaced is seen by what is compiled.
-/

namespace QueryDriver

namespace Members

variable {α : Type}

/-- Pairs in another order, except that those with equal keys keep theirs. -/
def Reordered (pairs others : List (String × α)) : Prop :=
  ∀ key, (pairs.filter fun pair => pair.1 = key) = others.filter fun pair => pair.1 = key

theorem ofPairs_congr {pairs others : List (String × α)}
    (same : ∀ key, last? key pairs = last? key others) : ofPairs pairs = ofPairs others := by
  apply (ofPairs_ascending pairs).ext (ofPairs_ascending others)
  intro key
  rw [get?_ofPairs, get?_ofPairs, same]

theorem Reordered.ofPairs_eq {pairs others : List (String × α)} (same : Reordered pairs others) :
    ofPairs pairs = ofPairs others := by
  apply ofPairs_congr
  intro key
  rw [last?, same key, last?]

/-- A pair whose key is given again later makes no difference. -/
theorem ofPairs_replaced (before : List (String × α)) {key : String} (value : α)
    {after : List (String × α)} (again : key ∈ keys after) :
    ofPairs (before ++ (key, value) :: after) = ofPairs (before ++ after) := by
  apply ofPairs_congr
  intro name
  rw [last?_append, last?_append, last?_cons]
  by_cases same : key = name
  · obtain ⟨later, found⟩ := last?_of_mem_keys (same ▸ again)
    rw [found]
    rfl
  · rw [if_neg same, Option.or_none]

end Members

/-- An object is compiled alike from its pairs in any order that keeps pairs with equal keys in
theirs, and so from different keys in every order: to one term and one next free id, or to one
error. Of pairs with equal keys the last one counts, and the others might not be there. -/
theorem Value.objects_compile_in_any_order (pairs : List (String × Value)) (budget next : Nat) :
    (∀ others, Members.Reordered pairs others →
      coerce budget (ofPairs pairs) next = coerce budget (ofPairs others) next) ∧
    (∀ others, pairs.Perm others → (Members.keys pairs).Nodup →
      coerce budget (ofPairs pairs) next = coerce budget (ofPairs others) next) ∧
    (∃ members, ofPairs pairs = .object members ∧ Members.Ascending members ∧
      ∀ key, Members.get? key members = Members.last? key pairs) ∧
    ∀ before key value after, pairs = before ++ (key, value) :: after →
      key ∈ Members.keys after →
        coerce budget (ofPairs pairs) next = coerce budget (ofPairs (before ++ after)) next := by
  refine ⟨?_, ?_, ?_, ?_⟩
  · intro others same
    rw [ofPairs, same.ofPairs_eq, ofPairs]
  · intro others same distinct
    rw [ofPairs, Members.ofPairs_perm same distinct, ofPairs]
  · exact ⟨_, rfl, Members.ofPairs_ascending pairs, Members.get?_ofPairs pairs⟩
  · rintro before key value after rfl again
    rw [ofPairs, Members.ofPairs_replaced before value again, ofPairs]

/-- A function that is compiled. -/
def kept : Value :=
  .function 1 fun parameters next => (.ok (.array (parameters.map .term)), next)

/-- A function that would use up ids and fail. -/
def replaced : Value :=
  .function 2 fun _ next => (.error .depthExceeded, next + 5)

theorem Value.objects_compile_in_any_order_replaced :
    let pairs := [("b", replaced), ("c", kept), ("a", kept), ("b", kept)]
    let others := [("a", kept), ("b", replaced), ("b", kept), ("c", kept)]
    let compiled := coerce 20 (ofPairs [("a", kept), ("b", kept), ("c", kept)]) 4
    Members.Reordered pairs others ∧ coerce 20 (ofPairs pairs) 4 = coerce 20 (ofPairs others) 4 ∧
      coerce 20 (ofPairs pairs) 4 = compiled ∧ compiled.2 = 7 := by
  intro pairs others compiled
  have reordered : Members.Reordered pairs others := by
    intro key
    by_cases named : "a" = key ∨ "b" = key ∨ "c" = key
    · rcases named with rfl | rfl | rfl <;> rfl
    · rw [not_or, not_or] at named
      simp [pairs, others, named]
  have rotated : [("c", kept), ("a", kept), ("b", kept)].Perm
      [("a", kept), ("b", kept), ("c", kept)] :=
    (List.perm_append_comm : ([("c", kept)] ++ [("a", kept), ("b", kept)]).Perm _)
  obtain ⟨alike, _, _, unseen⟩ := objects_compile_in_any_order pairs 20 4
  obtain ⟨_, shuffled, _⟩ :=
    objects_compile_in_any_order [("c", kept), ("a", kept), ("b", kept)] 20 4
  have unreplaced := unseen [] "b" replaced [("c", kept), ("a", kept), ("b", kept)] rfl (by decide)
  exact ⟨reordered, alike others reordered,
    unreplaced.trans (shuffled _ rotated (by decide)), rfl⟩

end QueryDriver
