import QueryDriver.Proofs.Frame.Wire
import QueryDriver.Proofs.Session.Queueing

/-!
What a session writes. The bytes on the connection are whole frames of its requests, each with its
own token and payload, in turn, and none of them is begun once the session is closed.
-/

namespace QueryDriver.Session

open Requests (Sound)

/-- Whether every request finds room in the queue when it is made. -/
def Unpressed (session : Session) : List Event → Prop
  | [] => True
  | event :: rest =>
      (event.isRequest = true → session.queuesAtOnce event = true) ∧
        (session.step event).1.Unpressed rest

theorem unsent_of_unpressed {session : Session} (sound : Sound session.toRequests)
    (nobody : session.unsent = []) {event : Event}
    (atOnce : event.isRequest = true → session.queuesAtOnce event = true) :
    (session.step event).1.unsent = [] ∧
      session.offers event = writable (session.admits event) := by
  rcases event.request_or_not with ⟨payload, request⟩ | notRequest
  · have queues := atOnce (isRequest_of_payload request)
    rw [offers_of_request request, if_pos queues]
    refine ⟨?_, rfl⟩
    rcases session.request_cases request with
      ⟨_, result⟩ | ⟨_, _, unsent, _, result⟩ | ⟨_, _, result⟩
    · rw [result]
      exact nobody
    · rw [result, queues, nobody]
      rfl
    · rw [result]
      exact nobody
  · rw [admits_eq_nil notRequest, step_eq sound event notRequest]
    cases event with
    | enqueue token =>
        have unchanged : session.enqueue token = (session, []) := by rw [enqueue, nobody]; rfl
        refine ⟨?_, ?_⟩
        · exact (congrArg (·.1.unsent) unchanged).trans nobody
        · have none : session.keptUnder token = [] := by rw [keptUnder, kept, nobody]; rfl
          rw [offers, none, ite_self]
          rfl
    | withdraw token =>
        refine ⟨?_, rfl⟩
        simp [unsentAfter, release, nobody]
    | _ => exact ⟨nobody, offers_eq_nil notRequest (by simp)⟩

/-- Where every request finds room they are all queued, in the order of their tokens. -/
theorem offered_of_unpressed {session : Session} (sound : Sound session.toRequests)
    (nobody : session.unsent = []) {events : List Event} (unpressed : session.Unpressed events) :
    session.offered events = writable (session.admitted events) := by
  induction events generalizing session with
  | nil => rfl
  | cons event rest ih =>
      obtain ⟨now, later⟩ := unpressed
      obtain ⟨left, offers⟩ := unsent_of_unpressed sound nobody now
      rw [offered, admitted, writable_append, offers, ih (sound_step sound event) left later]

theorem fits_of_offered {session : Session} (sound : Sound session.toRequests)
    (nobody : session.unsent = []) {events : List Event} {frame : Frame}
    (member : frame ∈ session.offered events) : frame.payload.size ≤ Frame.maxPayload :=
  fits_of_writable ((offered_subperm sound nobody events).subset member)

theorem encode_of_fits {frames : List Frame}
    (fit : ∀ frame ∈ frames, frame.payload.size ≤ Frame.maxPayload) :
    frames.map Frame.encode = (frames.map Frame.wire).map Except.ok := by
  rw [List.map_map]
  exact List.map_congr_left fun frame member => Frame.encode_eq_wire (fit frame member)

/-- The bytes on the connection are whole frames of the requests in the order in which they were
queued, each of them once. One is written whenever the writer of an open session takes it, and never
else. -/
theorem writes_whole_frames (maxMessageSize : Nat) (serverVersion : Option String)
    (unread : List UInt8) (events : List Event) :
    let session := start maxMessageSize serverVersion unread
    let notices := (session.run events).2
    let written := (session.offered events).take (writes notices).length
    registrations notices = (session.admitted events).map Frame.token ∧
    (session.offered events).Subperm (writable (session.admitted events)) ∧
    (session.Unpressed events → session.offered events = writable (session.admitted events)) ∧
    (writes notices).map Except.ok = written.map Frame.encode ∧
    (∀ before event after, events = before ++ event :: after →
      let reached := session.run before
      let due := (session.offered before).drop (writes reached.2).length
      (writes (reached.1.step event).2).map Except.ok =
        match event with
        | .transmit => if reached.1.closed then [] else due.head?.toList.map Frame.encode
        | _ => []) ∧
    ∀ limit, Frame.maxPayload ≤ limit →
      Frame.Layout limit ((writes notices).flatMap fun bytes => bytes.data.toList) written
        .boundary := by
  intro session notices written
  have sound : Sound session.toRequests := (start_correct _ _ _).toSound
  have fit (frame : Frame) (member : frame ∈ written) : frame.payload.size ≤ Frame.maxPayload :=
    fits_of_offered sound rfl (List.mem_of_mem_take member)
  have wires : writes notices = written.map Frame.wire := by
    have queued : writes notices <+: (session.offered events).map Frame.wire :=
      ⟨_, (queue_balance_run sound events).symm⟩
    rw [List.map_take]
    exact List.prefix_iff_eq_take.mp queued
  refine ⟨registrations_eq_admitted sound events, offered_subperm sound rfl events,
    offered_of_unpressed sound rfl, ?_, ?_, ?_⟩
  · rw [wires, encode_of_fits fit]
  · intro before event after split reached due
    rw [writes_step_eq (sound_run sound before) event]
    cases event with
    | transmit =>
        dsimp only
        split
        · rfl
        · have balance := queue_balance_run sound before
          have queued : due.map Frame.wire = reached.1.queue := by
            rw [List.map_drop]
            exact (congrArg (List.drop (writes reached.2).length) balance).trans List.drop_left
          have next : due.head?.toList.map Frame.wire = reached.1.queue.head?.toList := by
            rw [← queued]
            cases due <;> rfl
          rw [← next]
          refine (encode_of_fits ?_).symm
          intro frame member
          have first : due.head? = some frame := by simpa using member
          exact fits_of_offered sound rfl (List.mem_of_mem_drop (List.mem_of_mem_head? first))
    | _ => rfl
  · intro limit above
    rw [wires]
    apply Frame.layout_of_wires
    intro frame member
    have fits := fit frame member
    omega

/-- Two requests, of which one is given up before it is written and the other comes too late. -/
def givenUp : List Event :=
  [.dispatch ⟨#[97]⟩, .dispatch ⟨#[98]⟩, .abandon 1, .transmit, .close, .transmit]

theorem writes_whole_frames_givenUp :
    (writes ((start 8 none []).run givenUp).2).map Except.ok = [Frame.encode ⟨1, ⟨#[97]⟩⟩] ∧
      Frame.Layout Frame.maxPayload
        ((writes ((start 8 none []).run givenUp).2).flatMap fun bytes => bytes.data.toList)
        [⟨1, ⟨#[97]⟩⟩] .boundary := by
  obtain ⟨_, _, _, whole, _, layout⟩ := writes_whole_frames 8 none [] givenUp
  exact ⟨whole, layout Frame.maxPayload (Nat.le_refl _)⟩

end QueryDriver.Session
