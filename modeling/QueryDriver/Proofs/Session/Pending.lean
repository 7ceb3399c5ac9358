import QueryDriver.Proofs.Session.Queueing

/-!
Which replies a session expects: exactly those of the requests that are registered and have not
ended. Nothing is left behind when a request ends, and nothing is expected on a closed session.
-/

namespace QueryDriver.Session

open Requests (Sound Correct)

theorem run_dispatches {session : Session} (isOpen : session.closed = false) {payload : ByteArray}
    (fits : payload.size ≤ Frame.maxPayload) (count : Nat) :
    let ran := session.run (List.replicate count (.dispatch payload))
    ran.1.closed = false ∧ (registrations ran.2).length = count ∧
      ∀ token, endings token ran.2 = [] := by
  induction count generalizing session with
  | zero => exact ⟨isOpen, rfl, fun _ => rfl⟩
  | succ count ih =>
      have request : Event.payload? (.dispatch payload) = some payload := rfl
      obtain ⟨told, stillOpen⟩ : (session.step (.dispatch payload)).2 =
          [.registered session.nextToken] ∧
            (session.step (.dispatch payload)).1.closed = false := by
        obtain ⟨unsent, _, result⟩ := request_of_fits isOpen fits request
        rw [result]
        exact ⟨rfl, isOpen⟩
      obtain ⟨later, length, unended⟩ := ih stillOpen
      simp only [List.replicate_succ, run_cons, told]
      refine ⟨later, ?_, fun token => ?_⟩
      · rw [registrations_append, List.length_append, length]
        exact Nat.add_comm 1 count
      · rw [endings_append, unended token]
        rfl

theorem requestCount_dispatches (payload : ByteArray) (count : Nat) :
    requestCount (List.replicate count (.dispatch payload)) = count := by
  rw [requestCount, List.countP_replicate]
  rfl

/-- After a number of requests, none of which has ended, they all are expected. -/
theorem pending_dispatches {payload : ByteArray} (fits : payload.size ≤ Frame.maxPayload)
    {count : Nat} (positive : 0 < count) (few : count < UInt64.size) :
    let session := ((start 8 none []).run (List.replicate count (.dispatch payload))).1
    session.nextToken = UInt64.ofNat (count + 1) ∧ 1 ∈ session.pending := by
  intro session
  let events := List.replicate count (Event.dispatch payload)
  have before := start_correct 8 none []
  have room : 0 + requestCount events < UInt64.size := by
    rwa [Nat.zero_add, requestCount_dispatches]
  obtain ⟨_, length, unended⟩ : _ ∧ (registrations ((start 8 none []).run events).2).length =
      count ∧ ∀ token, endings token ((start 8 none []).run events).2 = [] :=
    run_dispatches rfl fits count
  have correct : Correct count session.toRequests := by
    have left : 0 + requestCount (events ++ []) < UInt64.size := by rwa [List.append_nil]
    have ran := (correct_run before left).1
    rwa [length, Nat.zero_add] at ran
  have number : (1 : UInt64).toNat ∈
      (registrations ((start 8 none []).run events).2).map UInt64.toNat := by
    rw [registrations_run before room, length, List.mem_range'_1]
    exact ⟨Nat.le_refl 1, Nat.lt_add_of_pos_right positive⟩
  have registered : 1 ∈ registrations ((start 8 none []).run events).2 := by
    obtain ⟨token, member, same⟩ := List.mem_map.mp number
    rwa [← UInt64.toNat_inj.mp same]
  refine ⟨correct.nextToken, ?_⟩
  rw [correct.expected, mem_waiting_run before room]
  exact ⟨.inr registered, unended 1⟩

/-- A reply is expected for exactly the requests that are registered and have not ended. Their
tokens are below the next one, unless that has come round to zero after the very last token. On a
closed session every request has ended, and no call goes on but those that have yet to come to the
queue with their frames. -/
theorem pending_iff_unended (maxMessageSize : Nat) (serverVersion : Option String)
    (unread : List UInt8) (events : List Event) (few : requestCount events < UInt64.size) :
    let session := ((start maxMessageSize serverVersion unread).run events).1
    let notices := ((start maxMessageSize serverVersion unread).run events).2
    let issued := (registrations notices).length
    session.pending.Nodup ∧
    (∀ token, token ∈ session.pending ↔
      token ∈ registrations notices ∧ endings token notices = []) ∧
    session.nextToken.toNat = (firstToken.toNat + issued) % UInt64.size ∧
    (∀ token ∈ session.pending, firstToken ≤ token ∧ token.toNat < firstToken.toNat + issued ∧
      (session.nextToken ≠ 0 → token < session.nextToken)) ∧
    (session.closed = true → session.pending = [] ∧ session.waiting = [] ∧
      ∀ token ∈ registrations notices, endings token notices ≠ []) ∧
    session.pendingRequests = session.waiting.length ∧
    session.pendingRequests =
      ((registrations notices).filter fun token => (endings token notices).isEmpty).length ∧
    (session.kept.map Frame.token).Nodup ∧
    ∀ token, session.holds token = true →
      token ∈ registrations notices ∧ token ∉ unsents notices ∧
        token ∉ ((start maxMessageSize serverVersion unread).offered events).map Frame.token := by
  intro session notices issued
  have room : 0 + requestCount events < UInt64.size := by omega
  have before := start_correct maxMessageSize serverVersion unread
  have correct : Correct issued session.toRequests := by
    have left : 0 + requestCount (events ++ []) < UInt64.size := by simpa using few
    simpa [issued, notices] using (correct_run before left).1
  have unended (token : UInt64) : token ∈ session.pending ↔
      token ∈ registrations notices ∧ endings token notices = [] := by
    rw [correct.expected, mem_waiting_run before room]
    simp [start, notices]
  have distinct : session.pending.Nodup := by
    rw [correct.expected]
    exact correct.distinct
  have number : session.nextToken.toNat = (firstToken.toNat + issued) % UInt64.size := by
    rw [correct.nextToken, UInt64.toNat_ofNat', Nat.add_comm]
    rfl
  have some : issued ≤ requestCount events := length_registrations_run before.toSound events
  have once (token : UInt64) : (registrations notices).count token ≤ 1 :=
    List.nodup_iff_count.mp (registrations_run_nodup before room) token
  have balance (token : UInt64) :
      (unsents notices).count token +
          (((start maxMessageSize serverVersion unread).offered events).map Frame.token).count
            token +
          (session.kept.map Frame.token).count token ≤
        (registrations notices).count token :=
    count_told_le before.toSound rfl events token
  refine ⟨distinct, unended, number, ?_, ?_, ?_, ?_, ?_, ?_⟩
  · intro token expected
    rw [correct.expected] at expected
    have bounds := correct.bounded token expected
    have first : firstToken.toNat = 1 := rfl
    refine ⟨?_, by omega, ?_⟩
    · rw [UInt64.le_iff_toNat_le]
      omega
    · intro notRound
      have below := correct.lt_of_nextToken (by omega) notRound
      rw [UInt64.lt_iff_toNat_lt, number, Nat.mod_eq_of_lt (by omega)]
      omega
  · intro closed
    rw [correct.expected]
    refine ⟨correct.closed closed, correct.closed closed, fun token registered none => ?_⟩
    have waits := (mem_waiting_run before room token).mpr ⟨.inr registered, none⟩
    rw [correct.closed closed] at waits
    cases waits
  · rw [pendingRequests, correct.expected]
  · apply List.Perm.length_eq
    rw [List.perm_ext_iff_of_nodup distinct ((registrations_run_nodup before room).filter _)]
    intro token
    rw [unended, List.mem_filter, List.isEmpty_iff]
  · refine List.nodup_iff_count.mpr fun token => ?_
    have told := balance token
    have single := once token
    omega
  · intro token holds
    have told := balance token
    have single := once token
    have kept : 0 < (session.kept.map Frame.token).count token :=
      List.count_pos_iff.mpr (holds_iff_mem_kept.mp holds)
    refine ⟨List.count_pos_iff.mp ?_, List.count_eq_zero.mp ?_, List.count_eq_zero.mp ?_⟩ <;> omega

/-- Three requests, of which one is answered and one is given up. -/
def oneLeft : List Event :=
  [.dispatch ⟨#[97]⟩, .dispatch ⟨#[98]⟩, .dispatch ⟨#[99]⟩,
    .receive (Frame.header 2 1 ++ [121]), .abandon 1]

theorem pending_iff_unended_oneLeft :
    requestCount oneLeft < UInt64.size ∧
      3 ∈ ((start 8 none []).run oneLeft).1.pending ∧
      1 ∉ ((start 8 none []).run oneLeft).1.pending ∧
      2 ∉ ((start 8 none []).run oneLeft).1.pending := by
  have few : requestCount oneLeft < UInt64.size := by decide
  obtain ⟨_, unended, _⟩ := pending_iff_unended 8 none [] oneLeft few
  have given : registrations ((start 8 none []).run oneLeft).2 = [1, 2, 3] := rfl
  refine ⟨few, ?_, ?_, ?_⟩
  · rw [unended, given]
    exact ⟨by decide, rfl⟩
  · rw [unended]
    rintro ⟨_, none⟩
    cases none
  · rw [unended]
    rintro ⟨_, none⟩
    cases none

/-- After the very last token the next one is zero, and below all that are in use. And on a session
that is closed there may be a caller who has yet to come to the queue. -/
theorem nextToken_comes_round :
    let events := List.replicate (UInt64.size - 1) (Event.dispatch ⟨#[]⟩)
    let session := ((start 8 none []).run events).1
    let held := ((start 8 none []).run [.register ⟨#[]⟩, .close]).1
    requestCount events < UInt64.size ∧ session.nextToken = 0 ∧
      1 ∈ session.pending ∧ ¬(1 : UInt64) < session.nextToken ∧
      held.closed = true ∧ held.holds 1 = true := by
  have last : UInt64.size - 1 < UInt64.size := by decide
  have empty : ByteArray.size ⟨#[]⟩ ≤ Frame.maxPayload := by decide
  obtain ⟨next, expected⟩ := pending_dispatches empty (by decide) last
  have round : UInt64.ofNat (UInt64.size - 1 + 1) = 0 := by decide
  rw [round] at next
  refine ⟨?_, next, expected, ?_, rfl, rfl⟩
  · rw [requestCount_dispatches]
    exact last
  · rw [next]
    decide

end QueryDriver.Session
