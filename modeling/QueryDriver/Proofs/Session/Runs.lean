import QueryDriver.Proofs.Session.Steps

/-!
Runs of a session, seen from its requests. Tokens are given out in turn, and a caller waits as long
as the request is registered and has no ending.
-/

namespace QueryDriver.Session

open Requests (Sound Correct)

theorem run_cons (session : Session) (event : Event) (rest : List Event) :
    session.run (event :: rest) =
      (((session.step event).1.run rest).1,
        (session.step event).2 ++ ((session.step event).1.run rest).2) := rfl

theorem run_append (session : Session) (first second : List Event) :
    session.run (first ++ second) =
      (((session.run first).1.run second).1,
        (session.run first).2 ++ ((session.run first).1.run second).2) := by
  induction first generalizing session with
  | nil => rfl
  | cons event rest ih => simp only [List.cons_append, run_cons, ih, List.append_assoc]

theorem correct_run {issued : Nat} {session : Session} (correct : Correct issued session.toRequests)
    {events rest : List Event} (room : issued + requestCount (events ++ rest) < UInt64.size) :
    Correct (issued + (registrations (session.run events).2).length)
        (session.run events).1.toRequests ∧
      issued + (registrations (session.run events).2).length + requestCount rest <
        UInt64.size := by
  induction events generalizing issued session with
  | nil => exact ⟨correct, room⟩
  | cons event later ih =>
      obtain ⟨stepped, left⟩ := correct_step correct room
      rw [run_cons, registrations_append, List.length_append, ← Nat.add_assoc]
      exact ih stepped left

theorem sound_run {session : Session} (sound : Sound session.toRequests) (events : List Event) :
    Sound (session.run events).1.toRequests := by
  induction events generalizing session with
  | nil => exact sound
  | cons event rest ih => exact ih (sound_step sound event)

theorem closed_run {session : Session} (sound : Sound session.toRequests)
    (isClosed : session.closed = true) (events : List Event) :
    (session.run events).1.closed = true := by
  induction events generalizing session with
  | nil => exact isClosed
  | cons event rest ih => exact ih (sound_step sound event) (closed_step sound isClosed event)

theorem length_registrations_run {session : Session} (sound : Sound session.toRequests)
    (events : List Event) :
    (registrations (session.run events).2).length ≤ requestCount events := by
  induction events generalizing session with
  | nil => exact Nat.zero_le _
  | cons event rest ih =>
      have later := ih (sound_step sound event)
      rw [requestCount] at later ⊢
      rw [run_cons, registrations_append, List.length_append, registrations_step sound,
        List.countP_cons]
      cases event.isRequest <;> cases session.closed <;> simp <;> omega

theorem toNat_of_registered {issued : Nat} {session : Session}
    (correct : Correct issued session.toRequests) {event : Event} {rest : List Event}
    (room : issued + requestCount (event :: rest) < UInt64.size) {token : UInt64}
    (registered : token ∈ registrations (session.step event).2) : token.toNat = issued + 1 := by
  rw [registrations_step correct.toSound] at registered
  split at registered
  · rename_i request
    rw [Bool.and_eq_true] at request
    rw [List.mem_singleton.mp registered]
    apply correct.nextToken_toNat
    simp only [requestCount, List.countP_cons, request.1, if_true] at room
    omega
  · cases registered

/-- Tokens are given out in turn. -/
theorem registrations_run {issued : Nat} {session : Session}
    (correct : Correct issued session.toRequests) {events : List Event}
    (room : issued + requestCount events < UInt64.size) :
    (registrations (session.run events).2).map UInt64.toNat =
      List.range' (issued + 1) (registrations (session.run events).2).length := by
  induction events generalizing issued session with
  | nil => rfl
  | cons event rest ih =>
      obtain ⟨stepped, left⟩ := correct_step correct room
      have later := ih stepped left
      have number (token : UInt64) (registered : token ∈ registrations (session.step event).2) :=
        toNat_of_registered correct room registered
      rw [run_cons, registrations_append, List.map_append, later, List.length_append]
      rw [registrations_step correct.toSound] at number ⊢
      split at number
      · rename_i request
        simp [request, number session.nextToken (List.mem_singleton_self _), Nat.add_comm 1,
          List.range'_succ]
      · rename_i silent
        simp [silent]

theorem registrations_run_bounds {issued : Nat} {session : Session}
    (correct : Correct issued session.toRequests) {events : List Event}
    (room : issued + requestCount events < UInt64.size) {token : UInt64}
    (registered : token ∈ registrations (session.run events).2) :
    issued < token.toNat ∧
      token.toNat ≤ issued + (registrations (session.run events).2).length := by
  have number : token.toNat ∈ List.range' (issued + 1)
      (registrations (session.run events).2).length := by
    rw [← registrations_run correct room]
    exact List.mem_map_of_mem registered
  rw [List.mem_range'_1] at number
  omega

theorem registrations_run_nodup {issued : Nat} {session : Session}
    (correct : Correct issued session.toRequests) {events : List Event}
    (room : issued + requestCount events < UInt64.size) :
    (registrations (session.run events).2).Nodup := by
  have numbers : ((registrations (session.run events).2).map UInt64.toNat).Nodup := by
    rw [registrations_run correct room]
    exact List.nodup_range'
  refine List.Pairwise.of_map UInt64.toNat ?_ numbers
  intro first second different same
  exact different (congrArg UInt64.toNat same)

/-- A request that does not wait and is not registered ends nowhere. -/
theorem endings_run_eq_nil {issued : Nat} {session : Session}
    (correct : Correct issued session.toRequests) {events : List Event}
    (room : issued + requestCount events < UInt64.size) {token : UInt64}
    (absent : token ∉ session.waiting)
    (unregistered : token ∉ registrations (session.run events).2) :
    endings token (session.run events).2 = [] := by
  induction events generalizing issued session with
  | nil => rfl
  | cons event rest ih =>
      obtain ⟨stepped, left⟩ := correct_step correct room
      rw [run_cons, registrations_append, List.mem_append, not_or] at unregistered
      have still : token ∉ (session.step event).1.waiting := by
        rw [mem_waiting_step_old correct.toSound event unregistered.1]
        exact fun waits => absent waits.1
      rw [run_cons, endings_append, endings_step correct.toSound event unregistered.1,
        if_neg absent, ih stepped left still unregistered.2, List.append_nil]

/-- After a run the callers wait whose requests were there or are new, and have not ended. -/
theorem mem_waiting_run {issued : Nat} {session : Session}
    (correct : Correct issued session.toRequests) {events : List Event}
    (room : issued + requestCount events < UInt64.size) (token : UInt64) :
    token ∈ (session.run events).1.waiting ↔
      (token ∈ session.waiting ∨ token ∈ registrations (session.run events).2) ∧
        endings token (session.run events).2 = [] := by
  induction events generalizing issued session with
  | nil => simp [run]
  | cons event rest ih =>
      obtain ⟨stepped, left⟩ := correct_step correct room
      have distinct := registrations_run_nodup correct room
      rw [run_cons, registrations_append, List.nodup_append] at distinct
      -- a token that is still to be given out has no ending yet
      have early : token ∈ registrations ((session.step event).1.run rest).2 →
          endings token (session.step event).2 = [] := by
        intro later
        have old : token ∉ registrations (session.step event).2 :=
          fun now => distinct.2.2 token now token later rfl
        have absent : token ∉ session.waiting := by
          intro waits
          have bound := (correct.bounded token waits).2
          have bounds := registrations_run_bounds stepped left later
          omega
        rw [endings_step correct.toSound event old, if_neg absent]
      rw [run_cons, ih stepped left, mem_waiting_step correct.toSound, registrations_append,
        List.mem_append, endings_append, List.append_eq_nil_iff]
      constructor
      · rintro ⟨(⟨now, unended⟩ | later), rest⟩
        · rcases now with before | new
          · exact ⟨.inl before, unended, rest⟩
          · exact ⟨.inr (.inl new), unended, rest⟩
        · exact ⟨.inr (.inr later), early later, rest⟩
      · rintro ⟨(before | new | later), unended, rest⟩
        · exact ⟨.inl ⟨.inl before, unended⟩, rest⟩
        · exact ⟨.inl ⟨.inr new, unended⟩, rest⟩
        · exact ⟨.inr later, rest⟩

/-- A request that waits ends as the first occurrence for it says, and only so. -/
theorem endings_run_of_waiting {issued : Nat} {session : Session}
    (correct : Correct issued session.toRequests) {events : List Event}
    (room : issued + requestCount events < UInt64.size) {token : UInt64}
    (waits : token ∈ session.waiting) :
    endings token (session.run events).2 =
      ((session.trace events).findSome? (Occurrence.ending? token)).toList := by
  induction events generalizing issued session with
  | nil => rfl
  | cons event rest ih =>
      obtain ⟨stepped, left⟩ := correct_step correct room
      have old : token ∉ registrations (session.run (event :: rest)).2 := by
        intro registered
        have bound := (correct.bounded token waits).2
        have bounds := registrations_run_bounds correct room registered
        omega
      rw [run_cons, registrations_append, List.mem_append, not_or] at old
      have stays := mem_waiting_step_old correct.toSound event old.1
      rw [run_cons, endings_append, endings_step correct.toSound event old.1, if_pos waits, trace,
        List.findSome?_append]
      cases first : (session.occurrences event).findSome? (Occurrence.ending? token) with
      | none =>
          rw [ih stepped left (stays.mpr ⟨waits, first⟩)]
          rfl
      | some ending =>
          have gone : token ∉ (session.step event).1.waiting := by
            rw [stays, first]
            simp
          rw [endings_run_eq_nil stepped left gone old.2]
          rfl

/-- Every reply that a request is given is a frame that has arrived, and no frame is given twice. -/
theorem answers_run {session : Session} (sound : Sound session.toRequests) (events : List Event) :
    (answers (session.run events).2).Sublist
      ((session.trace events).filterMap Occurrence.frame?) := by
  induction events generalizing session with
  | nil => exact List.nil_sublist _
  | cons event rest ih =>
      rw [run_cons, answers_append, trace, List.filterMap_append]
      exact (answers_step sound event).append (ih (sound_step sound event))

theorem start_correct (maxMessageSize : Nat) (serverVersion : Option String) (unread : List UInt8) :
    Correct 0 (start maxMessageSize serverVersion unread).toRequests := by
  refine ⟨⟨rfl, fun _ => rfl⟩, rfl, List.nodup_nil, ?_⟩
  simp [start]

end QueryDriver.Session
