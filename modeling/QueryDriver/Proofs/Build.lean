import Mathlib.Data.List.Perm.Subperm
import QueryDriver.Coercion
import QueryDriver.Proofs.Computation

/-!
How computations that build parts of a query run: what one gives, and after it another, and which
parameter ids they hand out meanwhile.
-/

namespace QueryDriver

namespace Build

variable {α β : Type}

theorem bind_eq_ok {computation : Build α} {rest : α → Build β} {next after : Nat} {value : β} :
    (computation >>= rest) next = (.ok value, after) ↔
      ∃ first between, computation next = (.ok first, between) ∧
        rest first between = (.ok value, after) := by
  rw [Computation.bind_apply]
  cases computation next with
  | mk result between =>
      cases result with
      | ok first =>
          constructor
          · intro built
            exact ⟨first, between, rfl, built⟩
          · rintro ⟨_, _, same, built⟩
            cases same
            exact built
      | error error =>
          constructor
          · intro failed
            cases failed
          · rintro ⟨_, _, failed, _⟩
            cases failed

theorem pure_eq_ok {value result : α} {next after : Nat} :
    (pure value : Build α) next = (.ok result, after) ↔ value = result ∧ next = after := by
  change (Except.ok value, next) = _ ↔ _
  rw [Prod.mk.injEq, Except.ok.injEq]

theorem forall_of_mapM {build : α → Build β} {items : List α} {holds : β → Prop}
    (each : ∀ item ∈ items, ∀ next value after,
      build item next = (.ok value, after) → holds value)
    {next after : Nat} {values : List β} (built : items.mapM build next = (.ok values, after)) :
    ∀ value ∈ values, holds value := by
  induction items generalizing next after values with
  | nil =>
      rw [List.mapM_nil, pure_eq_ok] at built
      rw [← built.1]
      exact List.forall_mem_nil _
  | cons item rest ih =>
      rw [List.mapM_cons, bind_eq_ok] at built
      obtain ⟨value, between, first, built⟩ := built
      obtain ⟨others, last, behind, built⟩ := bind_eq_ok.mp built
      rw [pure_eq_ok] at built
      rw [← built.1]
      exact List.forall_mem_cons.mpr ⟨each item List.mem_cons_self _ _ _ first,
        ih (fun other member => each other (.tail item member)) behind⟩

theorem mapM_transfer {build other : α → Build β}
    (each : ∀ item next value after,
      build item next = (.ok value, after) → other item next = (.ok value, after))
    {items : List α} {next after : Nat} {values : List β}
    (built : items.mapM build next = (.ok values, after)) :
    items.mapM other next = (.ok values, after) := by
  induction items generalizing next after values with
  | nil => exact built
  | cons item rest ih =>
      rw [List.mapM_cons] at built ⊢
      obtain ⟨value, between, first, built⟩ := bind_eq_ok.mp built
      obtain ⟨others, last, behind, built⟩ := bind_eq_ok.mp built
      exact bind_eq_ok.mpr ⟨value, between, each _ _ _ _ first,
        bind_eq_ok.mpr ⟨others, last, ih behind, built⟩⟩

/-- From a next free id on, the computation gives back none that it was given, also when it fails;
and what it gives is such that `holds` with the id that is free after it. -/
structure Meets (computation : Build α) (next : Nat) (holds : α → Nat → Prop) : Prop where
  grows : next ≤ (computation next).2
  gives : ∀ value, (computation next).1 = .ok value → holds value (computation next).2

namespace Meets

variable {computation : Build α} {next : Nat} {holds : α → Nat → Prop}

theorem pure {value : α} (held : holds value next) : Meets (Pure.pure value) next holds :=
  ⟨Nat.le_refl _, fun _ same => Except.ok.inj same ▸ held⟩

theorem throw (error : DriverError) : Meets (MonadExcept.throw error) next holds :=
  ⟨Nat.le_refl _, fun _ failed => nomatch failed⟩

theorem bind {between : α → Nat → Prop} {rest : α → Build β} {holds : β → Nat → Prop}
    (first : computation.Meets next between)
    (others : ∀ value after, next ≤ after → between value after → (rest value).Meets after holds) :
    Meets (computation >>= rest) next holds := by
  obtain ⟨grows, gives⟩ := first
  have applied := Computation.bind_apply computation rest next
  cases run : computation next with
  | mk result after =>
      rw [run] at grows gives applied
      cases result with
      | ok value =>
          obtain ⟨growsOn, givesOn⟩ := others value after grows (gives value rfl)
          refine ⟨?_, ?_⟩ <;> rw [applied]
          · exact Nat.le_trans grows growsOn
          · exact givesOn
      | error error =>
          refine ⟨?_, ?_⟩ <;> rw [applied]
          · exact grows
          · intro value failed
            cases failed

theorem weaken {other : α → Nat → Prop} (meets : computation.Meets next holds)
    (weaker : ∀ value after, next ≤ after → holds value after → other value after) :
    computation.Meets next other :=
  ⟨meets.grows, fun value given => weaker value _ meets.grows (meets.gives value given)⟩

end Meets

end Build

/-- The ids that are handed out while the next free one goes from `low` to `high`. -/
def handedOut (low high : Nat) : List Nat :=
  List.range' low (high - low)

theorem count_handedOut (low high id : Nat) :
    (handedOut low high).count id = if low ≤ id ∧ id < high then 1 else 0 := by
  rw [handedOut, List.count_range']
  congr 1
  simp only [eq_iff_iff]
  constructor
  · rintro ⟨index, small, rfl⟩
    omega
  · rintro ⟨above, below⟩
    exact ⟨id - low, by omega, by omega⟩

theorem handedOut_add (first count : Nat) :
    handedOut first (first + count) = List.range' first count := by
  rw [handedOut, Nat.add_sub_cancel_left]

theorem handedOut_append {low between high : Nat} (grows : low ≤ between)
    (growsOn : between ≤ high) :
    handedOut low between ++ handedOut between high = handedOut low high := by
  obtain ⟨count, rfl⟩ := Nat.exists_eq_add_of_le grows
  obtain ⟨others, rfl⟩ := Nat.exists_eq_add_of_le growsOn
  rw [Nat.add_assoc, handedOut_add, handedOut_add, ← List.range'_append_1, ← Nat.add_assoc,
    handedOut_add]

/-- What is drawn from a store of ids and from those handed out, one time and then another. -/
theorem subperm_handedOut {used store others rest : List Nat} {low between high : Nat}
    (first : used.Subperm (store ++ handedOut low between))
    (second : others.Subperm (rest ++ handedOut between high))
    (grows : low ≤ between) (growsOn : between ≤ high) :
    (used ++ others).Subperm (store ++ rest ++ handedOut low high) := by
  rw [List.subperm_iff_count] at *
  intro id
  have one := first id
  have two := second id
  simp only [List.count_append, count_handedOut] at *
  split at one <;> split at two <;> split <;> omega

namespace Build.Meets

variable {α β : Type}

theorem mapM {build : α → Build β} {holds : α → β → Prop} {listed : β → List Nat}
    {store : α → List Nat} {items : List α} {bound next : Nat} (above : bound ≤ next)
    (each : ∀ item ∈ items, ∀ next, bound ≤ next → (build item).Meets next fun value after =>
      holds item value ∧ (listed value).Subperm (store item ++ handedOut next after)) :
    Meets (items.mapM build) next fun values after =>
      List.Forall₂ holds items values ∧
        (values.flatMap listed).Subperm (items.flatMap store ++ handedOut next after) := by
  induction items generalizing next with
  | nil =>
      rw [List.mapM_nil]
      exact .pure ⟨.nil, List.nil_subperm⟩
  | cons item rest ih =>
      rw [List.mapM_cons]
      refine (each item List.mem_cons_self next above).bind ?_
      rintro value between grows ⟨held, used⟩
      have others :=
        ih (Nat.le_trans above grows) fun other member => each other (.tail item member)
      refine others.bind ?_
      rintro values after growsOn ⟨heldAll, usedAll⟩
      refine .pure ⟨.cons held heldAll, ?_⟩
      exact subperm_handedOut used usedAll grows growsOn

end Build.Meets

end QueryDriver
