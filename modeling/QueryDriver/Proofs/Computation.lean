/-!
How computations end that can fail: what one gives, and after it another. One that changes a state
as well keeps what it has changed also when it fails.
-/

namespace QueryDriver

/-- A computation on a state runs as far as it does not fail, and the next one from where it is. -/
theorem Computation.bind_apply {ε σ α β : Type} (computation : ExceptT ε (StateM σ) α)
    (rest : α → ExceptT ε (StateM σ) β) (state : σ) :
    (computation >>= rest) state =
      match computation state with
      | (.ok value, after) => rest value after
      | (.error error, after) => (.error error, after) := by
  change (match computation state with
    | (result, after) => (ExceptT.bindCont rest result : StateM σ _) after) = _
  cases computation state with
  | mk result after => cases result <;> rfl

theorem bind_eq_ok {ε α β : Type} {first : Except ε α} {next : α → Except ε β} {result : β} :
    first >>= next = .ok result ↔ ∃ value, first = .ok value ∧ next value = .ok result := by
  cases first with
  | error error =>
      constructor
      · intro failed
        cases failed
      · rintro ⟨value, failed, _⟩
        cases failed
  | ok value =>
      constructor
      · intro done
        exact ⟨value, rfl, done⟩
      · rintro ⟨other, same, done⟩
        cases same
        exact done

theorem then_eq_ok {ε β : Type} {first : Except ε Unit} {next : Unit → Except ε β} {result : β} :
    first >>= next = .ok result ↔ first = .ok () ∧ next () = .ok result :=
  bind_eq_ok.trans ⟨fun ⟨_, done⟩ => done, fun done => ⟨(), done⟩⟩

theorem map_bind {ε α β γ : Type} (change : β → γ) (first : Except ε α)
    (next : α → Except ε β) :
    (first >>= next).map change = first >>= fun value => (next value).map change := by
  cases first <;> rfl

theorem mapError_bind {ε δ α β : Type} (translate : ε → δ) (first : Except ε α)
    (next : α → Except ε β) :
    (first >>= next).mapError translate =
      first.mapError translate >>= fun value => (next value).mapError translate := by
  cases first <;> rfl

/-- What stands behind a check is done only if nothing is refused. -/
theorem unless_eq_ok {ε α β : Type} {refused : Prop} [Decidable refused] {error : ε}
    {instead : β → Except ε α} {rest : Except ε α} {result : α} :
    (if refused then throw error >>= instead else rest) = .ok result ↔
      ¬refused ∧ rest = .ok result := by
  by_cases holds : refused
  · rw [if_pos holds]
    exact ⟨nofun, fun both => absurd holds both.1⟩
  · rw [if_neg holds]
    exact ⟨fun done => ⟨holds, done⟩, And.right⟩

/-- Items are computed one after another, as long as none fails. -/
theorem mapM_of_ok {ε α β : Type} {compute : α → Except ε β} {result : α → β} {items : List α}
    (each : ∀ item ∈ items, compute item = .ok (result item)) :
    items.mapM compute = .ok (items.map result) := by
  induction items with
  | nil => rfl
  | cons item rest ih =>
      obtain ⟨first, others⟩ := List.forall_mem_cons.mp each
      rw [List.mapM_cons, first, ih others]
      rfl

theorem mapM_of_error {ε α β : Type} {compute : α → Except ε β} {result : α → β}
    {before after : List α} {item : α} {error : ε}
    (each : ∀ earlier ∈ before, compute earlier = .ok (result earlier))
    (fails : compute item = .error error) :
    (before ++ item :: after).mapM compute = .error error := by
  rw [List.mapM_append, mapM_of_ok each, List.mapM_cons, fails]
  rfl

theorem mapError_eq_ok {ε δ α : Type} {translate : ε → δ} {result : Except ε α} {value : α} :
    result.mapError translate = .ok value ↔ result = .ok value := by
  constructor
  · intro same
    cases result with
    | error error => cases same
    | ok other =>
        cases same
        rfl
  · intro same
    rw [same]
    rfl

theorem mapError_eq_error {ε δ α : Type} {translate : ε → δ} {result : Except ε α} {error : δ} :
    result.mapError translate = .error error ↔
      ∃ cause, result = .error cause ∧ translate cause = error := by
  constructor
  · intro failed
    cases result with
    | error cause =>
        cases failed
        exact ⟨cause, rfl, rfl⟩
    | ok value => cases failed
  · rintro ⟨cause, rfl, rfl⟩
    rfl

theorem pure_eq_ok {ε α : Type} {value result : α} :
    (pure value : Except ε α) = .ok result ↔ value = result :=
  Iff.of_eq (Except.ok.injEq value result)

theorem ok_of_toOption {ε α : Type} {result : Except ε α} {value : α}
    (given : result.toOption = some value) : result = .ok value := by
  cases result with
  | error error => cases given
  | ok other =>
      cases given
      rfl

end QueryDriver
