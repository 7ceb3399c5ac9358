import QueryDriver.Proofs.Session.Closing
import QueryDriver.Proofs.Session.Clock
import QueryDriver.Proofs.Start
import QueryDriver.Session.Results

/-!
Fatal errors. A call that is given a fatal error finds the session closed, and one that is given any
other error has lost nothing but its own request: its end closes nothing and leaves the requests of
all others as they are.
-/

namespace QueryDriver

theorem isFatal_ofProtocol (error : ProtocolError) :
    (ClientError.ofProtocol error).isFatal = false := by
  cases error <;> rfl

theorem isFatal_of_lift {α : Type} {result : Except ProtocolError α} {error : ClientError}
    (failed : lift result = .error error) : error.isFatal = false := by
  cases result with
  | error cause =>
      cases failed
      exact isFatal_ofProtocol cause
  | ok value => cases failed

theorem mem_endings {token : UInt64} {outcome : Except ClientError ByteArray}
    {notices : List Notice} :
    .outcome outcome ∈ endings token notices ↔ .ended token outcome ∈ notices := by
  rw [endings, List.mem_filterMap]
  constructor
  · rintro ⟨notice, member, tells⟩
    cases notice with
    | ended other result =>
        simp only [Notice.ending?, Option.ite_none_right_eq_some, Option.some.injEq,
          Ending.outcome.injEq] at tells
        obtain ⟨rfl, rfl⟩ := tells
        exact member
    | abandoned other => simp [Notice.ending?] at tells
    | _ => cases tells
  · intro member
    exact ⟨_, member, if_pos rfl⟩

namespace Requests

variable {requests : Requests} {token : UInt64} {outcome : Except ClientError ByteArray}

theorem Sound.ended_react (sound : Sound requests) {occurrence : Occurrence}
    (ended : .ended token outcome ∈ (requests.react occurrence).2) :
    token ∈ requests.waiting ∧ occurrence.ending? token = some (.outcome outcome) := by
  rw [← mem_endings, sound.endings_react] at ended
  split at ended
  · rename_i waits
    exact ⟨waits, Option.mem_toList.mp ended⟩
  · cases ended

/-- Behind the end of a request there is one occurrence, and the request waits until then. -/
theorem Sound.ended_reactAll (sound : Sound requests) {occurrences : List Occurrence}
    (ended : .ended token outcome ∈ (requests.reactAll occurrences).2) :
    ∃ earlier occurrence later, occurrences = earlier ++ occurrence :: later ∧
      token ∈ (requests.reactAll earlier).1.waiting ∧
      occurrence.ending? token = some (.outcome outcome) := by
  induction occurrences generalizing requests with
  | nil => cases ended
  | cons first rest ih =>
      rw [reactAll_cons, List.mem_append] at ended
      rcases ended with now | later
      · obtain ⟨waits, ends⟩ := sound.ended_react now
        exact ⟨[], first, rest, rfl, waits, ends⟩
      · obtain ⟨earlier, occurrence, behind, split, waits, ends⟩ := ih (sound.react first) later
        exact ⟨first :: earlier, occurrence, behind, congrArg (first :: ·) split, waits, ends⟩

end Requests

namespace Session

open Requests (Sound Correct)

variable {session : Session} {event : Event} {token : UInt64} {cause : ClientError}
variable {issued : Nat}

/-- What an occurrence tells of the event that it is part of. -/
inductive Brings (session : Session) : Event → Occurrence → Prop
  | arrived {event : Event} (frame : Frame) : Brings session event (.arrived frame)
  | expired (token : UInt64) : session.holds token = false →
      Brings session (.expire token) (.expired token)
  | abandoned {event : Event} (token : UInt64) : Brings session event (.abandoned token)
  | closing {event : Event} {cause : ClientError} : cause.isFatal = true →
      Brings session event (.closing cause)

theorem brings_of_mem_arrivals {chunk : List UInt8} {occurrence : Occurrence}
    (member : occurrence ∈ session.arrivals chunk) : session.Brings event occurrence := by
  obtain ⟨_, frames, read, ⟨fault, rfl⟩ | unfailed⟩ := session.feed_cases chunk
  · rw [arrivals_of_failed read, List.mem_append, List.mem_singleton] at member
    rcases member with arrived | rfl
    · obtain ⟨frame, _, rfl⟩ := List.mem_map.mp arrived
      exact .arrived frame
    · exact .closing rfl
  · rw [arrivals_of_unfailed read unfailed] at member
    obtain ⟨frame, _, rfl⟩ := List.mem_map.mp member
    exact .arrived frame

theorem brings_of_mem_occurrences {occurrence : Occurrence}
    (member : occurrence ∈ session.occurrences event) : session.Brings event occurrence := by
  by_cases isClosed : session.closed = true
  · rw [occurrences_of_closed isClosed] at member
    cases member
  simp only [occurrences, isClosed, Bool.false_eq_true, if_false] at member
  cases event with
  | withdraw token =>
      dsimp only at member
      split at member
      · exact List.mem_singleton.mp member ▸ .abandoned token
      · cases member
  | transmitFails reason =>
      dsimp only at member
      split at member
      · cases member
      · exact List.mem_singleton.mp member ▸ .closing rfl
  | receive chunk => exact brings_of_mem_arrivals member
  | receiveFails reason =>
      rcases List.mem_append.mp member with read | last
      · exact brings_of_mem_arrivals read
      · exact List.mem_singleton.mp last ▸ .closing rfl
  | endOfStream =>
      rcases List.mem_append.mp member with read | last
      · exact brings_of_mem_arrivals read
      · exact List.mem_singleton.mp last ▸ .closing rfl
  | expire token =>
      dsimp only at member
      split at member
      · cases member
      · rename_i free
        exact List.mem_singleton.mp member ▸ .expired token (Bool.eq_false_iff.mpr free)
  | abandon token =>
      dsimp only at member
      split at member
      · cases member
      · exact List.mem_singleton.mp member ▸ .abandoned token
  | close => exact List.mem_singleton.mp member ▸ .closing rfl
  | drop => exact List.mem_singleton.mp member ▸ .closing rfl
  | _ => cases member

theorem ended_step (sound : Sound session.toRequests) (notRequest : event.isRequest = false)
    {outcome : Except ClientError ByteArray}
    (ended : .ended token outcome ∈ (session.step event).2) :
    ∃ earlier occurrence later, session.occurrences event = earlier ++ occurrence :: later ∧
      token ∈ (session.toRequests.reactAll earlier).1.waiting ∧
      occurrence ∈ session.occurrences event ∧
      occurrence.ending? token = some (.outcome outcome) := by
  have reacted : .ended token outcome ∈
      (session.toRequests.reactAll (session.occurrences event)).2 := by
    rw [step_eq sound event notRequest, List.mem_append] at ended
    refine ended.resolve_right fun remark => ?_
    rcases remarks_cases remark with ⟨_, _, same⟩ | ⟨_, same⟩ | ⟨_, _, _, _, _, same⟩ <;> cases same
  obtain ⟨earlier, occurrence, later, split, waits, ends⟩ := sound.ended_reactAll reacted
  have member : occurrence ∈ session.occurrences event := by
    rw [split]
    exact List.mem_append_right earlier List.mem_cons_self
  exact ⟨earlier, occurrence, later, split, waits, member, ends⟩

/-- A request that the session itself ends with an error is one that is too large, one whose
deadline passes, or one that waits when the session closes. -/
theorem ended_error_cases (sound : Sound session.toRequests) {error : ClientError}
    (ended : .ended token (.error error) ∈ (session.step event).2) :
    (event.isRequest = true ∧ token = session.nextToken ∧ error.isFatal = false ∧
      session.closed = false ∧
      session.step event = ({ session with toRequests := session.register.leave token },
        [.registered token, .ended token (.error error)])) ∨
    (event.isRequest = false ∧ error.isFatal = false ∧ session.closed = false ∧
      session.step event = ({ session with toRequests := session.toRequests.leave token },
        [.ended token (.error error)])) ∨
    (error.isFatal = true ∧ (session.step event).1.closed = true) := by
  rcases event.request_or_not with ⟨payload, request⟩ | notRequest
  · rcases session.request_cases request with
      ⟨isClosed, result⟩ | ⟨isOpen, _, unsent, _, result⟩ | ⟨isOpen, _, result⟩
    · simp [result] at ended
    · simp [result] at ended
    · simp only [result, List.mem_cons, List.not_mem_nil, or_false, reduceCtorEq, false_or,
        Notice.ended.injEq, Except.error.injEq] at ended
      obtain ⟨rfl, rfl⟩ := ended
      exact .inl ⟨isRequest_of_payload request, rfl, rfl, isOpen, result⟩
  · obtain ⟨earlier, occurrence, later, _, waits, member, ends⟩ :=
      ended_step sound notRequest ended
    cases brings_of_mem_occurrences member with
    | arrived frame => simp [Occurrence.ending?] at ends
    | abandoned other => simp [Occurrence.ending?] at ends
    | expired other free =>
        simp only [Occurrence.ending?, Option.ite_none_right_eq_some, Option.some.injEq,
          Ending.outcome.injEq, Except.error.injEq] at ends
        obtain ⟨rfl, rfl⟩ := ends
        -- it has waited from before the event, and a closed session has no one who waits
        have waiting := ((sound.mem_waiting_reactAll earlier other).mp waits).1
        have isOpen : session.closed = false := by
          refine Bool.eq_false_iff.mpr fun isClosed => ?_
          rw [sound.closed isClosed] at waiting
          cases waiting
        refine .inr (.inl ⟨rfl, rfl, isOpen, ?_⟩)
        simp [step, free, update_eq, Requests.expire, Requests.finish, waiting]
    | closing fatal =>
        simp only [Occurrence.ending?, Option.some.injEq, Ending.outcome.injEq,
          Except.error.injEq] at ends
        subst ends
        exact .inr (.inr ⟨fatal, closed_of_closing sound member⟩)

/-- A request that is given a reply is ended by a frame, which ends nothing else. -/
theorem ended_ok_cases (sound : Sound session.toRequests) {payload : ByteArray}
    (ended : .ended token (.ok payload) ∈ (session.step event).2) :
    ∃ earlier later, session.occurrences event = earlier ++ .arrived ⟨token, payload⟩ :: later ∧
      let requests := (session.toRequests.reactAll earlier).1
      requests.react (.arrived ⟨token, payload⟩) =
        (requests.leave token, [.ended token (.ok payload)]) := by
  rcases event.request_or_not with ⟨sent, request⟩ | notRequest
  · rcases session.request_cases request with
      ⟨_, result⟩ | ⟨_, _, unsent, _, result⟩ | ⟨_, _, result⟩ <;> simp [result] at ended
  · obtain ⟨earlier, occurrence, later, split, waits, _, ends⟩ :=
      ended_step sound notRequest ended
    cases occurrence with
    | arrived frame =>
        simp only [Occurrence.ending?, Option.ite_none_right_eq_some, Option.some.injEq,
          Ending.outcome.injEq, Except.ok.injEq] at ends
        obtain ⟨rfl, rfl⟩ := ends
        exact ⟨earlier, later, split, ((sound.reactAll earlier).react_single rfl).trans
          (if_pos waits)⟩
    | _ => simp [Occurrence.ending?] at ends

/-- A session that is closed and stays closed. -/
def ClosedForGood (session : Session) : Prop :=
  ∀ after, (session.run after).1.closed = true

/-- A change by which a session loses the request with a token and nothing else. -/
structure LosesOnly (token : UInt64) (session after : Session) (notices : List Notice) : Prop where
  stillOpen : after.closed = false
  pending : after.pending = session.pending.filter fun other => other ≠ token
  waiting : after.waiting = session.waiting.filter fun other => other ≠ token
  unsent : after.unsent = session.unsent
  queue : after.queue = session.queue
  others : ∀ other, other ≠ token → endings other notices = []

theorem closedForGood (sound : Sound session.toRequests) (isClosed : session.closed = true) :
    session.ClosedForGood :=
  closed_run sound isClosed

theorem losesOnly_of_ended (correct : Correct issued session.toRequests)
    (room : issued + requestCount [event] < UInt64.size) {error : ClientError}
    (ended : .ended token (.error error) ∈ (session.step event).2)
    (passing : error.isFatal = false) :
    session.LosesOnly token (session.step event).1 (session.step event).2 ∧
      (event.isRequest = true → token ∉ session.pending) := by
  rcases ended_error_cases correct.toSound ended with
    ⟨request, rfl, _, isOpen, result⟩ | ⟨notRequest, _, isOpen, result⟩ | ⟨fatal, _⟩
  · rw [result]
    refine ⟨⟨isOpen, ?_, ?_, rfl, rfl, ?_⟩, fun _ expected => ?_⟩
    · simp [Requests.register, Requests.leave, Requests.forget]
    · simp [Requests.register, Requests.leave, Requests.forget]
    · intro other different
      simp [endings, Notice.ending?, Ne.symm different]
    · -- the number of a new request is above those of all others
      rw [correct.expected] at expected
      have bound := (correct.bounded _ expected).2
      rw [correct.nextToken_toNat (by simpa [requestCount, request] using room)] at bound
      omega
  · rw [result]
    refine ⟨⟨isOpen, rfl, rfl, rfl, rfl, ?_⟩, fun request => ?_⟩
    · intro other different
      simp [endings, Notice.ending?, Ne.symm different]
    · rw [notRequest] at request
      cases request
  · rw [passing] at fatal
    cases fatal

theorem refused_step (sound : Sound session.toRequests) {error : ClientError}
    (refused : .refused error ∈ (session.step event).2) :
    error.isFatal = true ∧ session.closed = true ∧ (session.step event).1 = session := by
  rcases event.request_or_not with ⟨payload, request⟩ | notRequest
  · rcases session.request_cases request with
      ⟨isClosed, result⟩ | ⟨_, _, unsent, _, result⟩ | ⟨_, _, result⟩
    · simp only [result, List.mem_singleton, Notice.refused.injEq] at refused
      rw [refused, result]
      exact ⟨rfl, isClosed, rfl⟩
    · simp [result] at refused
    · simp [result] at refused
  · rw [step_eq sound event notRequest, List.mem_append] at refused
    rcases refused with reacted | remark
    · obtain ⟨_, ends⟩ := sound.reactAll_only_ends (session.occurrences event) _ reacted
      exact absurd rfl ((only_ends ends).2.2.2 error)
    · rcases remarks_cases remark with ⟨_, _, same⟩ | ⟨_, same⟩ | ⟨_, _, _, _, _, same⟩ <;>
        cases same

/-- Who finds no queue any more finds a session that is closed. -/
theorem unsent_step (sound : Sound session.toRequests)
    (told : .unsent token ∈ (session.step event).2) : (session.step event).1.closed = true := by
  have unsent : token ∈ unsents (session.step event).2 :=
    List.mem_filterMap.mpr ⟨_, told, rfl⟩
  exact closed_step sound (gone_of_mem_unsents sound unsent).1 event

theorem isFatal_of_values {payload : ByteArray} {error : ClientError}
    (failed : values payload = .error error) : error.isFatal = false :=
  isFatal_of_lift failed

theorem isFatal_of_valuesAs {α : Type} {convert : Json → Option α} {payload : ByteArray}
    {error : ClientError} (failed : valuesAs convert payload = .error error) :
    error.isFatal = false := by
  rw [valuesAs] at failed
  cases read : values payload with
  | error cause =>
      rw [read] at failed
      cases failed
      exact isFatal_of_values read
  | ok found =>
      simp only [read, bind, Except.bind] at failed
      cases converted : found.mapM convert with
      | some values =>
          rw [converted] at failed
          cases failed
      | none =>
          rw [converted] at failed
          cases failed
          rfl

/-- Whoever is given a fatal error finds the session closed for good. Any other error is the end of
one request and no more: neither the deadline of a request, nor its size, nor what its reply holds
closes the session or touches the requests of others. -/
theorem isFatal_tells_closing (maxMessageSize : Nat) (serverVersion : Option String)
    (unread : List UInt8) (before : List Event) (event : Event)
    (few : requestCount (before ++ [event]) < UInt64.size) :
    let begun := start maxMessageSize serverVersion unread
    let session := (begun.run before).1
    let stepped := session.step event
    (∀ error, .refused error ∈ stepped.2 →
      error.isFatal = true ∧ stepped.1.ClosedForGood ∧ stepped.1 = session) ∧
    (∀ token, .unsent token ∈ stepped.2 →
      ClientError.sessionClosed.isFatal = true ∧ stepped.1.ClosedForGood) ∧
    (∀ token error, .ended token (.error error) ∈ stepped.2 →
      (error.isFatal = true → stepped.1.ClosedForGood) ∧
      (error.isFatal = false → session.LosesOnly token stepped.1 stepped.2 ∧
        (event.isRequest = true → token ∉ session.pending))) ∧
    (∀ token payload, .ended token (.ok payload) ∈ stepped.2 →
      (∀ error, values payload = .error error → error.isFatal = false) ∧
      (∀ (α : Type) (convert : Json → Option α) error,
        valuesAs convert payload = .error error → error.isFatal = false) ∧
      ∃ earlier later,
        session.occurrences event = earlier ++ .arrived ⟨token, payload⟩ :: later ∧
        let requests := (session.toRequests.reactAll earlier).1
        requests.react (.arrived ⟨token, payload⟩) =
          ({ requests with
              pending := requests.pending.filter fun other => other ≠ token
              waiting := requests.waiting.filter fun other => other ≠ token },
            [.ended token (.ok payload)])) ∧
    (∀ term options next, ∃ payload, Start.payload term options next = (.ok payload, next)) ∧
    ∀ config actions,
      let timed := Timed.start config begun
      (timed.performAll actions).1.session = (begun.run (timed.allEvents actions)).1 ∧
        (timed.performAll actions).2 = (begun.run (timed.allEvents actions)).2 := by
  intro begun session stepped
  have correctStart := start_correct maxMessageSize serverVersion unread
  obtain ⟨correct, room⟩ := correct_run correctStart (by rwa [Nat.zero_add] : _ < _)
  have sound := correct.toSound
  have forGood : stepped.1.closed = true → stepped.1.ClosedForGood :=
    closedForGood (sound_step sound event)
  refine ⟨?_, fun token told => ⟨rfl, forGood (unsent_step sound told)⟩, ?_, ?_, ?_, ?_⟩
  · intro error refused
    obtain ⟨fatal, isClosed, same⟩ := refused_step sound refused
    exact ⟨fatal, forGood (same.symm ▸ isClosed), same⟩
  · intro token error ended
    refine ⟨fun fatal => ?_, fun passing => losesOnly_of_ended correct room ended passing⟩
    rcases ended_error_cases sound ended with
      ⟨_, _, passing, _⟩ | ⟨_, passing, _⟩ | ⟨_, isClosed⟩
    · rw [fatal] at passing
      cases passing
    · rw [fatal] at passing
      cases passing
    · exact forGood isClosed
  · intro token payload ended
    exact ⟨fun _ => isFatal_of_values, fun _ _ _ => isFatal_of_valuesAs, ended_ok_cases sound ended⟩
  · exact fun term options next => ⟨_, Start.payload_eq term options next⟩
  · exact fun config actions => (Timed.start config begun).performAll_eq_run actions

/-- Of two requests the deadline of the first passes; or a reply that cannot be read comes for it,
and then the header of a frame that is too long. -/
theorem isFatal_tells_closing_tooLong :
    let before : List Event := [.dispatch ⟨#[97]⟩, .dispatch ⟨#[98]⟩]
    let session := ((start 8 none []).run before).1
    let expired := session.step (.expire 1)
    let failed := session.step (.receive tooLong)
    requestCount (before ++ [.expire 1]) < UInt64.size ∧
      requestCount (before ++ [.receive tooLong]) < UInt64.size ∧
      ClientError.timeout.isFatal = false ∧ session.LosesOnly 1 expired.1 expired.2 ∧
      failed.1.ClosedForGood ∧
      values ⟨#[120]⟩ = .error (.protocol (.decode 1 "x")) ∧
      (ClientError.protocol (.decode 1 "x")).isFatal = false := by
  intro before session expired failed
  have few : requestCount (before ++ [.expire 1]) < UInt64.size := by decide
  have few' : requestCount (before ++ [.receive tooLong]) < UInt64.size := by decide
  obtain ⟨_, _, late, _⟩ := isFatal_tells_closing 8 none [] before (.expire 1) few
  obtain ⟨_, _, lost, answered, _⟩ := isFatal_tells_closing 8 none [] before (.receive tooLong) few'
  have unread : values ⟨#[120]⟩ = .error (.protocol (.decode 1 "x")) := rfl
  have told : failed.2 = [.ended 1 (.ok ⟨#[120]⟩),
      .ended 2 (.error (readError (.protocol (.invalidMessage (.frameTooLong 9 8)))))] := rfl
  have timedOut : .ended 1 (.error .timeout) ∈ expired.2 := List.mem_singleton_self _
  have closing := lost 2 _ (told ▸ List.mem_cons_of_mem _ (List.mem_singleton_self _))
  have reply := answered 1 ⟨#[120]⟩ (told ▸ List.mem_cons_self)
  exact ⟨few, few', rfl, ((late 1 .timeout timedOut).2 rfl).1, closing.1 rfl, unread,
    reply.1 _ unread⟩

end Session

end QueryDriver
