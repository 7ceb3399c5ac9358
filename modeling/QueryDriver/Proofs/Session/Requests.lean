import QueryDriver.Session.Trace

/-!
The bookkeeping of requests. A reply is expected for exactly the requests whose callers wait, and an
occurrence ends a request that waits just as it says, and touches no other.
-/

namespace QueryDriver

/-- The request that an occurrence concerns alone, and what its end is told by. -/
def Occurrence.single? : Occurrence → Option (UInt64 × Notice)
  | .arrived frame => some (frame.token, .ended frame.token (.ok frame.payload))
  | .expired token => some (token, .ended token (.error .timeout))
  | .abandoned token => some (token, .abandoned token)
  | .closing _ => none

theorem single_ending {occurrence : Occurrence} {token : UInt64} {notice : Notice}
    (single : occurrence.single? = some (token, notice)) (other : UInt64) :
    notice.ending? other = occurrence.ending? other ∧
      (occurrence.ending? other = none ↔ token ≠ other) := by
  cases occurrence <;> cases single <;> simp [Notice.ending?, Occurrence.ending?]

/-- A notice of an end tells nothing else: it registers nothing, writes nothing, turns no frame away
and refuses nothing. -/
theorem only_ends {notice : Notice} {token : UInt64} (ends : (notice.ending? token).isSome) :
    notice.registered? = none ∧ notice.written? = none ∧ notice.unsent? = none ∧
      ∀ error, notice ≠ .refused error := by
  cases notice <;> simp_all [Notice.ending?, Notice.registered?, Notice.written?, Notice.unsent?]

namespace Requests

/-- What holds between any two occurrences. -/
structure Sound (requests : Requests) : Prop where
  expected : requests.pending = requests.waiting
  closed : requests.closed = true → requests.waiting = []

/-- What holds as well after a number of tokens has been given out, unless they have run out. -/
structure Correct (issued : Nat) (requests : Requests) : Prop extends Sound requests where
  nextToken : requests.nextToken = UInt64.ofNat (issued + 1)
  distinct : requests.waiting.Nodup
  bounded : ∀ token ∈ requests.waiting, 0 < token.toNat ∧ token.toNat ≤ issued

theorem mem_waiting_leave (requests : Requests) (token other : UInt64) :
    other ∈ (requests.leave token).waiting ↔ other ∈ requests.waiting ∧ other ≠ token := by
  simp [leave, forget]

theorem Sound.leave {requests : Requests} (sound : Sound requests) (token : UInt64) :
    Sound (requests.leave token) := by
  constructor
  · simp [Requests.leave, forget, sound.expected]
  · intro closed
    simp [Requests.leave, forget, sound.closed closed]

theorem Correct.leave {issued : Nat} {requests : Requests} (correct : Correct issued requests)
    (token : UInt64) : Correct issued (requests.leave token) := by
  refine ⟨correct.toSound.leave token, correct.nextToken, correct.distinct.filter _, ?_⟩
  intro other waits
  exact correct.bounded other ((mem_waiting_leave requests token other).mp waits).1

theorem Sound.register {requests : Requests} (sound : Sound requests)
    (isOpen : requests.closed = false) : Sound requests.register := by
  constructor
  · simp [Requests.register, sound.expected]
  · simp [Requests.register, isOpen]

theorem Correct.lt_of_nextToken {issued : Nat} {requests : Requests}
    (correct : Correct issued requests) (few : issued < UInt64.size)
    (notRound : requests.nextToken ≠ 0) : issued + 1 < UInt64.size := by
  refine Nat.lt_of_le_of_ne few fun last => notRound ?_
  rw [correct.nextToken, last]
  rfl

theorem Correct.nextToken_toNat {issued : Nat} {requests : Requests}
    (correct : Correct issued requests) (room : issued + 1 < UInt64.size) :
    requests.nextToken.toNat = issued + 1 := by
  rw [correct.nextToken, UInt64.toNat_ofNat_of_lt' room]

theorem Correct.register {issued : Nat} {requests : Requests} (correct : Correct issued requests)
    (isOpen : requests.closed = false) (room : issued + 1 < UInt64.size) :
    Correct (issued + 1) requests.register := by
  have number := correct.nextToken_toNat room
  refine ⟨correct.toSound.register isOpen, ?_, ?_, ?_⟩
  · simp [Requests.register, correct.nextToken, UInt64.ofNat_add]
  · rw [Requests.register, List.nodup_append]
    refine ⟨correct.distinct, by simp, ?_⟩
    intro token waits other next same
    have bound := (correct.bounded token waits).2
    rw [same, List.mem_singleton.mp next, number] at bound
    omega
  · intro token waits
    simp only [Requests.register, List.mem_append, List.mem_singleton] at waits
    rcases waits with before | rfl
    · have bounds := correct.bounded token before
      omega
    · omega

theorem Sound.complete_eq_finish {requests : Requests} (sound : Sound requests) (frame : Frame) :
    requests.complete frame = requests.finish frame.token (.ok frame.payload) := by
  by_cases waits : frame.token ∈ requests.waiting
  · simp [complete, finish, forget, Requests.leave, sound.expected, waits, List.filter_filter]
  · simp [complete, finish, sound.expected, waits]

theorem endings_finish (requests : Requests) (token other : UInt64)
    (outcome : Except ClientError ByteArray) :
    endings token (requests.finish other outcome).2 =
      if token ∈ requests.waiting ∧ other = token then [.outcome outcome] else [] := by
  by_cases same : other = token
  · subst other
    by_cases waits : token ∈ requests.waiting <;> simp [finish, waits, endings, Notice.ending?]
  · by_cases waits : other ∈ requests.waiting <;>
      simp [finish, waits, endings, Notice.ending?, same]

theorem mem_waiting_finish (requests : Requests) (token other : UInt64)
    (outcome : Except ClientError ByteArray) :
    token ∈ (requests.finish other outcome).1.waiting ↔
      token ∈ requests.waiting ∧ other ≠ token := by
  by_cases waits : other ∈ requests.waiting
  · simp [finish, waits, mem_waiting_leave, ne_comm]
  · simp only [finish, waits, if_false, iff_self_and]
    intro member same
    exact waits (same ▸ member)

theorem failAll_cons (requests : Requests) (error : ClientError) (token : UInt64)
    (rest : List UInt64) :
    requests.failAll error (token :: rest) =
      (((requests.finish token (.error error)).1.failAll error rest).1,
        (requests.finish token (.error error)).2 ++
          ((requests.finish token (.error error)).1.failAll error rest).2) := rfl

theorem endings_failAll (requests : Requests) (error : ClientError) (tokens : List UInt64)
    (token : UInt64) :
    endings token (requests.failAll error tokens).2 =
      if token ∈ requests.waiting ∧ token ∈ tokens then [.outcome (.error error)] else [] := by
  induction tokens generalizing requests with
  | nil => simp [failAll]
  | cons first rest ih =>
      simp only [failAll_cons, endings_append, endings_finish, ih, mem_waiting_finish]
      by_cases same : first = token
      · subst first
        by_cases waits : token ∈ requests.waiting <;> simp [waits]
      · simp [same, Ne.symm same]

theorem failAll_requests (requests : Requests) (forgotten : requests.pending = [])
    (error : ClientError) (tokens : List UInt64) :
    (requests.failAll error tokens).1 =
      { requests with waiting := requests.waiting.filter fun token => token ∉ tokens } := by
  induction tokens generalizing requests with
  | nil =>
      rw [List.filter_eq_self.mpr (by simp)]
      rfl
  | cons first rest ih =>
      rw [failAll_cons, finish]
      split
      · rw [ih _ (by simp [leave, forget, forgotten])]
        simp [leave, forget, forgotten, List.filter_filter, Bool.and_comm]
      · rename_i gone
        rw [ih _ forgotten]
        congr 1
        apply List.filter_congr
        intro token waits
        simp [ne_of_mem_of_not_mem waits gone]

theorem closeWith_closed (requests : Requests) (error : ClientError) :
    (requests.closeWith error).1.closed = true := by
  by_cases isClosed : requests.closed = true
  · simp [closeWith, isClosed]
  · simp [closeWith, isClosed, failAll_requests]

theorem Sound.closeWith_requests {requests : Requests} (sound : Sound requests)
    (isOpen : requests.closed = false) (error : ClientError) :
    (requests.closeWith error).1 =
      { requests with pending := [], waiting := [], closed := true } := by
  simp only [closeWith, isOpen, Bool.false_eq_true, if_false]
  rw [failAll_requests _ rfl, sound.expected]
  simp

theorem Sound.react_single {requests : Requests} (sound : Sound requests) {occurrence : Occurrence}
    {token : UInt64} {notice : Notice} (single : occurrence.single? = some (token, notice)) :
    requests.react occurrence =
      if token ∈ requests.waiting then (requests.leave token, [notice]) else (requests, []) := by
  cases occurrence with
  | arrived frame =>
      cases single
      exact sound.complete_eq_finish frame
  | closing cause => simp [Occurrence.single?] at single
  | _ =>
      cases single
      rfl

theorem failAll_only_fails (requests : Requests) (error : ClientError) (tokens : List UInt64) :
    ∀ notice ∈ (requests.failAll error tokens).2,
      ∃ token, notice = .ended token (.error error) := by
  induction tokens generalizing requests with
  | nil => simp [failAll]
  | cons first rest ih =>
      intro notice member
      rw [failAll_cons, List.mem_append] at member
      rcases member with now | later
      · rw [finish] at now
        split at now
        · exact ⟨first, List.mem_singleton.mp now⟩
        · simp at now
      · exact ih _ notice later

/-- All that a reaction can do: nothing, ending one request that waits, or ending all of them. -/
theorem Sound.react_cases {requests : Requests} (sound : Sound requests)
    (occurrence : Occurrence) :
    (requests.react occurrence = (requests, []) ∧
      (occurrence.cause?.isSome → requests.closed = true) ∧
      ∀ token ∈ requests.waiting, occurrence.ending? token = none) ∨
    (∃ token notice, token ∈ requests.waiting ∧ occurrence.single? = some (token, notice) ∧
      requests.react occurrence = (requests.leave token, [notice])) ∨
    (∃ cause, occurrence = .closing cause ∧
      requests.react occurrence =
        ({ requests with pending := [], waiting := [], closed := true },
          ({ requests with pending := [], closed := true }.failAll cause requests.waiting).2)) := by
  cases single : occurrence.single? with
  | some told =>
      obtain ⟨token, notice⟩ := told
      have reacted := sound.react_single single
      by_cases waits : token ∈ requests.waiting
      · rw [if_pos waits] at reacted
        exact .inr (.inl ⟨token, notice, waits, rfl, reacted⟩)
      · rw [if_neg waits] at reacted
        refine .inl ⟨reacted, ?_, ?_⟩
        · cases occurrence <;> simp_all [Occurrence.single?, Occurrence.cause?]
        · intro other waiting
          have different : token ≠ other := by
            rintro rfl
            exact waits waiting
          exact (single_ending single other).2.mpr different
  | none =>
      cases occurrence with
      | closing cause =>
          by_cases isClosed : requests.closed = true
          · refine .inl ⟨by simp [react, closeWith, isClosed], fun _ => isClosed, ?_⟩
            simp [sound.closed isClosed]
          · refine .inr (.inr ⟨cause, rfl, Prod.ext ?_ ?_⟩)
            · exact sound.closeWith_requests (by simpa using isClosed) cause
            · simp [react, closeWith, isClosed, sound.expected]
      | _ => simp [Occurrence.single?] at single

theorem Sound.react {requests : Requests} (sound : Sound requests) (occurrence : Occurrence) :
    Sound (requests.react occurrence).1 := by
  rcases sound.react_cases occurrence with
    ⟨result, _⟩ | ⟨token, notice, _, _, result⟩ | ⟨cause, _, result⟩ <;> rw [result]
  · exact sound
  · exact sound.leave token
  · exact ⟨rfl, fun _ => rfl⟩

theorem Sound.react_shrinks {requests : Requests} (sound : Sound requests)
    (occurrence : Occurrence) :
    (requests.react occurrence).1.nextToken = requests.nextToken ∧
      (requests.react occurrence).1.waiting.Sublist requests.waiting := by
  rcases sound.react_cases occurrence with
    ⟨result, _⟩ | ⟨token, notice, _, _, result⟩ | ⟨cause, _, result⟩ <;> rw [result]
  · exact ⟨rfl, List.Sublist.refl _⟩
  · exact ⟨rfl, List.filter_sublist⟩
  · exact ⟨rfl, List.nil_sublist _⟩

theorem Sound.closed_react {requests : Requests} (sound : Sound requests)
    (occurrence : Occurrence) :
    (requests.react occurrence).1.closed = (requests.closed || occurrence.cause?.isSome) := by
  rcases sound.react_cases occurrence with
    ⟨result, closes, _⟩ | ⟨token, notice, _, single, result⟩ | ⟨cause, rfl, result⟩ <;> rw [result]
  · cases cause : occurrence.cause? with
    | none => simp
    | some error => simp [closes (by simp [cause])]
  · cases occurrence <;>
      simp_all [Occurrence.single?, Occurrence.cause?, Requests.leave, forget]
  · simp [Occurrence.cause?]

/-- A reaction ends a request that waits as its occurrence says, and no other. -/
theorem Sound.endings_react {requests : Requests} (sound : Sound requests)
    (occurrence : Occurrence) (token : UInt64) :
    endings token (requests.react occurrence).2 =
      if token ∈ requests.waiting then (occurrence.ending? token).toList else [] := by
  rcases sound.react_cases occurrence with
    ⟨result, _, unconcerned⟩ | ⟨other, notice, waits, single, result⟩ | ⟨cause, rfl, result⟩ <;>
    rw [result]
  · split
    · rename_i waits
      rw [unconcerned token waits]
      rfl
    · rfl
  · have told : endings token [notice] = (occurrence.ending? token).toList := by
      rw [← (single_ending single token).1]
      cases ends : notice.ending? token <;> simp [endings, ends]
    rw [told]
    split
    · rfl
    · rename_i absent
      have different : other ≠ token := by
        rintro rfl
        exact absent waits
      rw [(single_ending single token).2.mpr different]
      rfl
  · rw [endings_failAll]
    simp [Occurrence.ending?]

theorem Sound.mem_waiting_react {requests : Requests} (sound : Sound requests)
    (occurrence : Occurrence) (token : UInt64) :
    token ∈ (requests.react occurrence).1.waiting ↔
      token ∈ requests.waiting ∧ occurrence.ending? token = none := by
  rcases sound.react_cases occurrence with
    ⟨result, _, unconcerned⟩ | ⟨other, notice, waits, single, result⟩ | ⟨cause, rfl, result⟩ <;>
    rw [result]
  · exact ⟨fun waits => ⟨waits, unconcerned token waits⟩, And.left⟩
  · rw [mem_waiting_leave, (single_ending single token).2, ne_comm]
  · simp [Occurrence.ending?]

theorem Sound.react_only_ends {requests : Requests} (sound : Sound requests)
    (occurrence : Occurrence) :
    ∀ notice ∈ (requests.react occurrence).2, ∃ token, (notice.ending? token).isSome := by
  rcases sound.react_cases occurrence with
    ⟨result, _⟩ | ⟨token, notice, _, single, result⟩ | ⟨cause, rfl, result⟩ <;> rw [result]
  · simp
  · intro other member
    rw [List.mem_singleton.mp member]
    refine ⟨token, ?_⟩
    cases occurrence <;> cases single <;> simp [Notice.ending?]
  · intro notice member
    obtain ⟨token, rfl⟩ := failAll_only_fails _ cause _ notice member
    exact ⟨token, by simp [Notice.ending?]⟩

/-- A reaction gives at most one reply, and only the frame that has arrived. -/
theorem Sound.answers_react {requests : Requests} (sound : Sound requests)
    (occurrence : Occurrence) :
    (answers (requests.react occurrence).2).Sublist occurrence.frame?.toList := by
  rcases sound.react_cases occurrence with
    ⟨result, _⟩ | ⟨token, notice, _, single, result⟩ | ⟨cause, rfl, result⟩ <;> rw [result]
  · exact List.nil_sublist _
  · cases occurrence <;> cases single <;> exact List.Sublist.refl _
  · have nothing : answers ({ requests with pending := [], closed := true }.failAll cause
        requests.waiting).2 = [] := by
      apply List.filterMap_eq_nil_iff.mpr
      intro notice member
      obtain ⟨token, rfl⟩ := failAll_only_fails _ cause _ notice member
      rfl
    rw [nothing]
    exact List.nil_sublist _

theorem reactAll_cons (requests : Requests) (occurrence : Occurrence) (rest : List Occurrence) :
    requests.reactAll (occurrence :: rest) =
      (((requests.react occurrence).1.reactAll rest).1,
        (requests.react occurrence).2 ++ ((requests.react occurrence).1.reactAll rest).2) := rfl

theorem reactAll_append (requests : Requests) (first second : List Occurrence) :
    requests.reactAll (first ++ second) =
      (((requests.reactAll first).1.reactAll second).1,
        (requests.reactAll first).2 ++ ((requests.reactAll first).1.reactAll second).2) := by
  induction first generalizing requests with
  | nil => rfl
  | cons occurrence rest ih =>
      simp only [List.cons_append, reactAll_cons, ih, List.append_assoc]

theorem reactAll_arrived (requests : Requests) (frames : List Frame) :
    requests.reactAll (frames.map Occurrence.arrived) = requests.completeAll frames := by
  induction frames generalizing requests with
  | nil => rfl
  | cons frame rest ih => simp only [List.map_cons, reactAll_cons, ih, react, completeAll]

theorem Sound.reactAll {requests : Requests} (sound : Sound requests)
    (occurrences : List Occurrence) : Sound (requests.reactAll occurrences).1 := by
  induction occurrences generalizing requests with
  | nil => exact sound
  | cons occurrence rest ih => exact ih (sound.react occurrence)

theorem Sound.reactAll_shrinks {requests : Requests} (sound : Sound requests)
    (occurrences : List Occurrence) :
    (requests.reactAll occurrences).1.nextToken = requests.nextToken ∧
      (requests.reactAll occurrences).1.waiting.Sublist requests.waiting := by
  induction occurrences generalizing requests with
  | nil => exact ⟨rfl, List.Sublist.refl _⟩
  | cons occurrence rest ih =>
      have now := sound.react_shrinks occurrence
      have later := ih (sound.react occurrence)
      exact ⟨later.1.trans now.1, later.2.trans now.2⟩

theorem Correct.reactAll {issued : Nat} {requests : Requests} (correct : Correct issued requests)
    (occurrences : List Occurrence) : Correct issued (requests.reactAll occurrences).1 := by
  obtain ⟨same, fewer⟩ := correct.toSound.reactAll_shrinks occurrences
  refine ⟨correct.toSound.reactAll occurrences, same.trans correct.nextToken,
    correct.distinct.sublist fewer, ?_⟩
  intro token waits
  exact correct.bounded token (fewer.subset waits)

theorem Sound.closed_reactAll {requests : Requests} (sound : Sound requests)
    (occurrences : List Occurrence) :
    (requests.reactAll occurrences).1.closed =
      (requests.closed || (occurrences.findSome? Occurrence.cause?).isSome) := by
  induction occurrences generalizing requests with
  | nil => simp [Requests.reactAll]
  | cons occurrence rest ih =>
      rw [reactAll_cons, ih (sound.react occurrence), sound.closed_react]
      cases cause : occurrence.cause? <;> simp [cause]

/-- The first occurrence that concerns a request decides how it ends. -/
theorem Sound.endings_reactAll {requests : Requests} (sound : Sound requests)
    (occurrences : List Occurrence) (token : UInt64) :
    endings token (requests.reactAll occurrences).2 =
      if token ∈ requests.waiting then
        (occurrences.findSome? (Occurrence.ending? token)).toList else [] := by
  induction occurrences generalizing requests with
  | nil => simp [Requests.reactAll]
  | cons occurrence rest ih =>
      rw [reactAll_cons, endings_append, sound.endings_react, ih (sound.react occurrence)]
      by_cases waits : token ∈ requests.waiting
      · cases ends : occurrence.ending? token <;>
          simp [waits, ends, sound.mem_waiting_react]
      · simp [waits, sound.mem_waiting_react]

theorem Sound.mem_waiting_reactAll {requests : Requests} (sound : Sound requests)
    (occurrences : List Occurrence) (token : UInt64) :
    token ∈ (requests.reactAll occurrences).1.waiting ↔
      token ∈ requests.waiting ∧ occurrences.findSome? (Occurrence.ending? token) = none := by
  induction occurrences generalizing requests with
  | nil => simp [Requests.reactAll]
  | cons occurrence rest ih =>
      rw [reactAll_cons, ih (sound.react occurrence), sound.mem_waiting_react]
      cases ends : occurrence.ending? token <;> simp [ends]

theorem Sound.reactAll_only_ends {requests : Requests} (sound : Sound requests)
    (occurrences : List Occurrence) :
    ∀ notice ∈ (requests.reactAll occurrences).2, ∃ token, (notice.ending? token).isSome := by
  induction occurrences generalizing requests with
  | nil => simp [Requests.reactAll]
  | cons occurrence rest ih =>
      intro notice member
      rw [reactAll_cons, List.mem_append] at member
      rcases member with now | later
      · exact sound.react_only_ends occurrence notice now
      · exact ih (sound.react occurrence) notice later

theorem Sound.answers_reactAll {requests : Requests} (sound : Sound requests)
    (occurrences : List Occurrence) :
    (answers (requests.reactAll occurrences).2).Sublist
      (occurrences.filterMap Occurrence.frame?) := by
  induction occurrences generalizing requests with
  | nil => simp [Requests.reactAll]
  | cons occurrence rest ih =>
      have both := (sound.answers_react occurrence).append (ih (sound.react occurrence))
      rw [reactAll_cons, answers_append]
      cases frame : occurrence.frame? <;> simpa [frame] using both

end Requests

end QueryDriver
