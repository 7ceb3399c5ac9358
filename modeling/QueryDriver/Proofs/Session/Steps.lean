import QueryDriver.Proofs.Session.Requests

/-!
The steps of a session, seen from its requests. A request of a caller is registered or refused;
every other event acts on the requests through its occurrences alone.
-/

namespace QueryDriver.Session

open Requests (Sound Correct)

theorem update_eq (session : Session) (change : Requests → Requests × List Notice) :
    session.update change =
      ({ session with toRequests := (change session.toRequests).1 },
        (change session.toRequests).2) := rfl

theorem closeWith_eq (session : Session) (error : ClientError) :
    session.closeWith error =
      ({ session with toRequests := (session.toRequests.closeWith error).1 },
        (session.toRequests.closeWith error).2) := rfl

def Event.reads : Event → Bool
  | .receive _ | .receiveFails _ | .endOfStream => true
  | _ => false

def Event.received : Event → List UInt8
  | .receive chunk => chunk
  | _ => []

/-- Where reading stands after an event, and what is not read yet. -/
def readingAfter (session : Session) (event : Event) : Frame.Progress × List UInt8 :=
  if session.closed || !event.reads then (session.incoming, session.unread)
  else
    ((session.incoming.feed session.maxMessageSize (session.unread ++ event.received)).1, [])

/-- What is not queued yet after an event that is no request. -/
def unsentAfter (session : Session) : Event → List Unsent
  | .enqueue token => (session.enqueue token).1.unsent
  | .withdraw token => (session.release token).unsent
  | _ => session.unsent

/-- What is not written yet after an event that is no request. -/
def queueAfter (session : Session) : Event → List ByteArray
  | .enqueue token => (session.enqueue token).1.queue
  | .transmit => if session.closed then session.queue else session.queue.tail
  | _ => session.queue

def writerEndedAfter (session : Session) : Event → Bool
  | .writerEnds => session.closed || session.writerEnded
  | _ => session.writerEnded

/-- What an event tells beside what it means for requests. -/
def remarks (session : Session) : Event → List Notice
  | .enqueue token => (session.enqueue token).2
  | .transmit => if session.closed then [] else (session.queue.head?.map Notice.written).toList
  | .close => [.acknowledged]
  | _ => []

theorem occurrences_of_closed {session : Session} (isClosed : session.closed = true)
    (event : Event) : session.occurrences event = [] := by
  simp [occurrences, isClosed]

theorem closed_reactAll_arrived {requests : Requests} (sound : Sound requests)
    (frames : List Frame) :
    (requests.reactAll (frames.map Occurrence.arrived)).1.closed = requests.closed := by
  simp [sound.closed_reactAll, List.findSome?_map, Function.comp_def, Occurrence.cause?]

/-- Reading a chunk gives its frames to their requests, and closes if one is refused. -/
theorem receive_eq {session : Session} (sound : Sound session.toRequests)
    (isOpen : session.closed = false) (chunk : List UInt8) :
    session.receive chunk =
      let reacted := session.toRequests.reactAll (session.arrivals chunk)
      ({ session with
          toRequests := reacted.1
          incoming :=
            (session.incoming.feed session.maxMessageSize (session.unread ++ chunk)).1
          unread := [] },
        reacted.2) := by
  obtain ⟨incoming, frames, read⟩ : ∃ incoming frames,
      session.incoming.feed session.maxMessageSize (session.unread ++ chunk) =
        (incoming, frames) := ⟨_, _, rfl⟩
  have stays := closed_reactAll_arrived sound frames
  rw [Requests.reactAll_arrived, isOpen] at stays
  simp only [receive, arrivals, isOpen, read, Bool.false_eq_true, if_false]
  cases incoming with
  | failed fault =>
      simp [Requests.reactAll_append, Requests.reactAll_arrived, update_eq, closeWith_eq,
        Requests.reactAll, Requests.react]
  | header found => simp [update_eq, Requests.reactAll_arrived]
  | payload token missing found => simp [update_eq, Requests.reactAll_arrived]

theorem receiveFails_eq {session : Session} (sound : Sound session.toRequests)
    (isOpen : session.closed = false) (reason : String) :
    session.receiveFails reason =
      let reacted := session.toRequests.reactAll
        (session.arrivals [] ++ [.closing (readError (.io reason))])
      ({ session with
          toRequests := reacted.1
          incoming := (session.incoming.feed session.maxMessageSize session.unread).1
          unread := [] },
        reacted.2) := by
  simp only [receiveFails, receive_eq sound isOpen, closeWith_eq, Requests.reactAll_append,
    Requests.reactAll, Requests.react, List.append_nil]

theorem transmit_eq (session : Session) :
    session.transmit =
      ({ session with queue := session.queueAfter .transmit }, session.remarks .transmit) := by
  rw [transmit, queueAfter, remarks]
  cases session.closed with
  | true => rfl
  | false =>
      obtain ⟨requests, limit, version, unsent, queue, ended, unread, incoming⟩ := session
      cases queue <;> rfl

theorem transmitFails_eq (session : Session) (reason : String) :
    session.transmitFails reason =
      if session.queue.isEmpty then (session, []) else session.closeWith (.transport reason) := by
  rw [transmitFails]
  cases session.queue <;> rfl

/-- A frame is turned away, queued or kept by its caller. -/
theorem offer_cases (session : Session) (unsent : Unsent) :
    (session.closed = true ∧ session.writerEnded = true ∧
      session.offer unsent = (session, [.unsent unsent.frame.token])) ∨
    ((session.closed && session.writerEnded) = false ∧ session.queue.length < queueLimit ∧
      session.offer unsent = ({ session with queue := session.queue ++ [unsent.bytes] }, [])) ∨
    ((session.closed && session.writerEnded) = false ∧ queueLimit ≤ session.queue.length ∧
      session.offer unsent = ({ session with unsent := session.unsent ++ [unsent] }, [])) := by
  rw [offer]
  cases gone : session.closed && session.writerEnded with
  | true =>
      rw [Bool.and_eq_true] at gone
      exact .inl ⟨gone.1, gone.2, rfl⟩
  | false =>
      by_cases room : session.queue.length < queueLimit
      · exact .inr (.inl ⟨rfl, room, by simp [room]⟩)
      · exact .inr (.inr ⟨rfl, by omega, by simp [room]⟩)

/-- A frame has one encoding. -/
theorem unsent_eq {first second : Unsent} (same : first.frame = second.frame) : first = second := by
  have bytes : first.bytes = second.bytes := by
    have encoded := first.encoded
    rw [same, second.encoded] at encoded
    exact (Except.ok.inj encoded).symm
  cases first
  cases second
  cases same
  cases bytes
  rfl

theorem mem_unsent_of_find {session : Session} {token : UInt64} {unsent : Unsent}
    (found : session.unsent.find? (fun unsent => unsent.frame.token = token) = some unsent) :
    unsent ∈ session.unsent ∧ unsent.frame.token = token :=
  ⟨List.mem_of_find?_eq_some found, by simpa using List.find?_some found⟩

theorem holds_iff {session : Session} {token : UInt64} :
    session.holds token = true ↔ ∃ unsent ∈ session.unsent, unsent.frame.token = token := by
  simp [holds]

/-- A call that goes on offers its frame, if that is still to be queued. -/
theorem enqueue_cases (session : Session) (token : UInt64) :
    (session.holds token = false ∧ session.enqueue token = (session, [])) ∨
    ∃ unsent ∈ session.unsent, unsent.frame.token = token ∧
      session.enqueue token = (session.release token).offer unsent := by
  rw [enqueue]
  cases found : session.unsent.find? fun unsent => unsent.frame.token = token with
  | none =>
      refine .inl ⟨Bool.eq_false_iff.mpr fun held => ?_, rfl⟩
      obtain ⟨unsent, member, same⟩ := holds_iff.mp held
      simpa [same] using List.find?_eq_none.mp found unsent member
  | some unsent =>
      obtain ⟨member, same⟩ := mem_unsent_of_find found
      exact .inr ⟨unsent, member, same, rfl⟩

/-- Going on concerns frames alone. -/
theorem enqueue_eq (session : Session) (token : UInt64) :
    session.enqueue token =
      ({ session with
          unsent := session.unsentAfter (.enqueue token)
          queue := session.queueAfter (.enqueue token) },
        session.remarks (.enqueue token)) := by
  rw [unsentAfter, queueAfter, remarks]
  rcases session.enqueue_cases token with ⟨_, result⟩ | ⟨unsent, _, _, result⟩
  · rw [result]
  · rw [result]
    rcases (session.release token).offer_cases unsent with
      ⟨_, _, offered⟩ | ⟨_, _, offered⟩ | ⟨_, _, offered⟩ <;> rw [offered] <;> rfl

theorem release_of_not_holds {session : Session} {token : UInt64}
    (free : session.holds token = false) : session.release token = session := by
  have others : session.unsent.filter (fun unsent => unsent.frame.token ≠ token) =
      session.unsent := by
    refine List.filter_eq_self.mpr fun unsent member => ?_
    rw [decide_eq_true_iff]
    intro same
    rw [holds_iff.mpr ⟨unsent, member, same⟩] at free
    cases free
  rw [release, others]

theorem enqueue_of_not_holds {session : Session} {token : UInt64}
    (free : session.holds token = false) : session.enqueue token = (session, []) := by
  rcases session.enqueue_cases token with ⟨_, result⟩ | ⟨unsent, held, same, _⟩
  · exact result
  · rw [holds_iff.mpr ⟨unsent, held, same⟩] at free
    cases free

/-- The frame that was kept last is offered as if it had never been kept. -/
theorem enqueue_last {session : Session} {unsent : Unsent}
    (free : session.holds unsent.frame.token = false) :
    { session with unsent := session.unsent ++ [unsent] }.enqueue unsent.frame.token =
      session.offer unsent := by
  have others := congrArg Session.unsent (release_of_not_holds free)
  have nobody : session.unsent.find? (fun other => other.frame.token = unsent.frame.token) =
      none := by
    rw [List.find?_eq_none]
    exact List.any_eq_false.mp free
  have found : (session.unsent ++ [unsent]).find?
      (fun other => other.frame.token = unsent.frame.token) = some unsent := by
    rw [List.find?_append, nobody]
    simp
  have released : { session with unsent := session.unsent ++ [unsent] }.release
      unsent.frame.token = session := by
    rw [release] at others ⊢
    simp only [List.filter_append]
    dsimp only at others
    rw [others]
    simp
  rw [enqueue]
  simp only [found]
  rw [released]

theorem step_of_closed {session : Session} (sound : Sound session.toRequests)
    (isClosed : session.closed = true) (event : Event) (notRequest : event.isRequest = false) :
    session.step event =
      ({ session with
          unsent := session.unsentAfter event
          queue := session.queueAfter event
          writerEnded := session.writerEndedAfter event },
        session.remarks event) := by
  have nobody : session.waiting = [] := sound.closed isClosed
  have again (error : ClientError) : session.closeWith error = (session, []) := by
    simp [closeWith_eq, Requests.closeWith, isClosed]
  have deaf (chunk : List UInt8) : session.receive chunk = (session, []) := by
    simp [receive, isClosed]
  have failing (reason : String) : session.receiveFails reason = (session, []) := by
    simp [receiveFails, deaf, again]
  have gone (token : UInt64) : session.toRequests.abandon token = (session.toRequests, []) := by
    simp [Requests.abandon, nobody]
  cases event with
  | dispatch payload => simp [Event.isRequest, Event.payload?] at notRequest
  | register payload => simp [Event.isRequest, Event.payload?] at notRequest
  | enqueue token => exact session.enqueue_eq token
  | withdraw token =>
      rw [step, withdraw, unsentAfter]
      cases held : session.holds token with
      | true =>
          rw [if_pos rfl, update_eq, show (session.release token).toRequests.abandon token = _
            from gone token]
          rfl
      | false =>
          rw [release_of_not_holds held]
          rfl
  | transmit => exact session.transmit_eq
  | transmitFails reason =>
      rw [step, transmitFails_eq, again, ite_self]
      rfl
  | writerEnds => rfl
  | receive chunk => exact deaf chunk
  | receiveFails reason => exact failing reason
  | endOfStream => exact failing earlyEnd
  | expire token =>
      rw [step, update_eq, Requests.expire, Requests.finish, nobody, if_neg List.not_mem_nil,
        ite_self]
      rfl
  | abandon token =>
      rw [step, update_eq, gone, ite_self]
      rfl
  | close =>
      rw [step, close, again]
      rfl
  | drop => exact again .sessionClosed

/-- An event that is no request acts on the requests through its occurrences. -/
theorem step_eq {session : Session} (sound : Sound session.toRequests) (event : Event)
    (notRequest : event.isRequest = false) :
    session.step event =
      let reacted := session.toRequests.reactAll (session.occurrences event)
      ({ session with
          toRequests := reacted.1
          unsent := session.unsentAfter event
          queue := session.queueAfter event
          writerEnded := session.writerEndedAfter event
          incoming := (session.readingAfter event).1
          unread := (session.readingAfter event).2 },
        reacted.2 ++ session.remarks event) := by
  by_cases isClosed : session.closed = true
  · rw [step_of_closed sound isClosed event notRequest, occurrences_of_closed isClosed,
      readingAfter, isClosed]
    rfl
  have isOpen : session.closed = false := by simpa using isClosed
  have single (occurrence : Occurrence) :
      session.toRequests.reactAll [occurrence] = session.toRequests.react occurrence :=
    Prod.ext rfl (List.append_nil _)
  simp only [readingAfter, occurrences, isOpen, Bool.false_or, Bool.false_eq_true, if_false]
  cases event with
  | dispatch payload => simp [Event.isRequest, Event.payload?] at notRequest
  | register payload => simp [Event.isRequest, Event.payload?] at notRequest
  | enqueue token => exact session.enqueue_eq token
  | withdraw token =>
      dsimp only [step, unsentAfter]
      rw [withdraw]
      cases held : session.holds token with
      | true =>
          simp only [if_true, single, remarks, List.append_nil]
          rfl
      | false =>
          rw [release_of_not_holds held]
          rfl
  | transmit => exact session.transmit_eq
  | transmitFails reason =>
      dsimp only [step]
      rw [transmitFails_eq]
      cases session.queue.isEmpty with
      | true => rfl
      | false =>
          simp only [Bool.false_eq_true, if_false, single, remarks, List.append_nil]
          rfl
  | writerEnds => rfl
  | receive chunk => simp [step, receive_eq sound isOpen, Event.reads, Event.received,
      unsentAfter, queueAfter, writerEndedAfter, remarks]
  | receiveFails reason => simp [step, receiveFails_eq sound isOpen, Event.reads, Event.received,
      unsentAfter, queueAfter, writerEndedAfter, remarks]
  | endOfStream => simp [step, receiveFails_eq sound isOpen, Event.reads, Event.received,
      unsentAfter, queueAfter, writerEndedAfter, remarks]
  | expire token =>
      dsimp only [step]
      cases session.holds token with
      | true => rfl
      | false =>
          simp only [Bool.false_eq_true, if_false, single, remarks, List.append_nil]
          rfl
  | abandon token =>
      dsimp only [step]
      cases session.holds token with
      | true => rfl
      | false =>
          simp only [Bool.false_eq_true, if_false, single, remarks, List.append_nil]
          rfl
  | close =>
      rw [single]
      rfl
  | drop =>
      simp only [single, remarks, List.append_nil]
      rfl

theorem Event.request_or_not (event : Event) :
    (∃ payload, event.payload? = some payload) ∨ event.isRequest = false := by
  rw [isRequest]
  cases event.payload? with
  | some payload => exact .inl ⟨payload, rfl⟩
  | none => exact .inr rfl

theorem isRequest_of_payload {event : Event} {payload : ByteArray}
    (request : event.payload? = some payload) : event.isRequest = true := by
  rw [Event.isRequest, request]
  rfl

theorem occurrences_of_request (session : Session) {event : Event} {payload : ByteArray}
    (request : event.payload? = some payload) : session.occurrences event = [] := by
  cases event <;> simp_all [Event.payload?, occurrences]

theorem remarks_of_request (session : Session) {event : Event} {payload : ByteArray}
    (request : event.payload? = some payload) : session.remarks event = [] := by
  cases event <;> simp_all [Event.payload?, remarks]

theorem prepare_of_closed {session : Session} (isClosed : session.closed = true)
    {payload : ByteArray} :
    session.prepare payload = (session, [.refused .sessionClosed], none) := by
  simp [prepare, isClosed]

theorem prepare_of_fits {session : Session} (isOpen : session.closed = false)
    {payload : ByteArray} (fits : payload.size ≤ Frame.maxPayload) :
    ∃ unsent : Unsent, unsent.frame = ⟨session.nextToken, payload⟩ ∧
      session.prepare payload =
        ({ session with toRequests := session.register }, [.registered session.nextToken],
          some unsent) := by
  obtain ⟨bytes, encoded⟩ : ∃ bytes, Frame.encode ⟨session.nextToken, payload⟩ = .ok bytes :=
    ⟨_, by rw [Frame.encode, if_neg (Nat.not_lt.mpr fits)]⟩
  refine ⟨⟨_, bytes, encoded⟩, rfl, ?_⟩
  simp only [prepare, isOpen, Bool.false_eq_true, if_false]
  split
  · rename_i fault failed
    rw [encoded] at failed
    cases failed
  · rename_i other same
    rw [encoded] at same
    cases same
    rfl

theorem prepare_of_large {session : Session} (isOpen : session.closed = false)
    {payload : ByteArray} (large : Frame.maxPayload < payload.size) :
    session.prepare payload =
      ({ session with toRequests := session.register.leave session.nextToken },
        [.registered session.nextToken,
          .ended session.nextToken (.error (.protocol (.invalidMessage
            (.payloadTooLarge payload.size Frame.maxPayload))))], none) := by
  have failed : Frame.encode ⟨session.nextToken, payload⟩ =
      .error (.payloadTooLarge payload.size Frame.maxPayload) := by
    simp [Frame.encode, large]
  have waits : session.nextToken ∈ session.register.waiting := by simp [Requests.register]
  simp only [prepare, isOpen, Bool.false_eq_true, if_false]
  split
  · rename_i fault same
    rw [failed] at same
    cases same
    simp [update_eq, Requests.finish, waits]
  · rename_i bytes encoded
    rw [failed] at encoded
    cases encoded

/-- Whether the frame of the request that an event makes is queued in the event. -/
def queuesAtOnce (session : Session) : Event → Bool
  | .dispatch _ => session.queue.length < queueLimit
  | _ => false

section

variable {session : Session} {event : Event} {payload : ByteArray}

theorem request_of_closed (isClosed : session.closed = true)
    (request : event.payload? = some payload) :
    session.step event = (session, [.refused .sessionClosed]) := by
  cases event with
  | dispatch other =>
      cases request
      simp [step, dispatch, prepare_of_closed isClosed]
  | register other =>
      cases request
      simp [step, hold, prepare_of_closed isClosed]
  | _ => cases request

theorem request_of_fits (isOpen : session.closed = false)
    (fits : payload.size ≤ Frame.maxPayload) (request : event.payload? = some payload) :
    ∃ unsent : Unsent, unsent.frame = ⟨session.nextToken, payload⟩ ∧
      session.step event =
        ({ session with
            toRequests := session.register
            unsent := session.unsent ++ if session.queuesAtOnce event then [] else [unsent]
            queue := session.queue ++ if session.queuesAtOnce event then [unsent.bytes] else [] },
          [.registered session.nextToken]) := by
  obtain ⟨unsent, same, prepared⟩ := prepare_of_fits isOpen fits
  refine ⟨unsent, same, ?_⟩
  cases event with
  | dispatch other =>
      cases request
      by_cases room : session.queue.length < queueLimit <;>
        simp [step, dispatch, prepared, offer, isOpen, queuesAtOnce, room, Requests.register]
  | register other =>
      cases request
      simp [step, hold, prepared, queuesAtOnce]
  | _ => cases request

theorem request_of_large (isOpen : session.closed = false)
    (large : Frame.maxPayload < payload.size) (request : event.payload? = some payload) :
    session.step event =
      ({ session with toRequests := session.register.leave session.nextToken },
        [.registered session.nextToken,
          .ended session.nextToken (.error (.protocol (.invalidMessage
            (.payloadTooLarge payload.size Frame.maxPayload))))]) := by
  have prepared := prepare_of_large isOpen large
  cases event with
  | dispatch other =>
      cases request
      simp [step, dispatch, prepared]
  | register other =>
      cases request
      simp [step, hold, prepared]
  | _ => cases request

end

/-- A request is refused on a closed session, registered with its frame queued or kept, or
registered and ended at once. -/
theorem request_cases (session : Session) {event : Event} {payload : ByteArray}
    (request : event.payload? = some payload) :
    (session.closed = true ∧ session.step event = (session, [.refused .sessionClosed])) ∨
    (session.closed = false ∧ payload.size ≤ Frame.maxPayload ∧
      ∃ unsent : Unsent, unsent.frame = ⟨session.nextToken, payload⟩ ∧
        session.step event =
          ({ session with
              toRequests := session.register
              unsent := session.unsent ++ if session.queuesAtOnce event then [] else [unsent]
              queue :=
                session.queue ++ if session.queuesAtOnce event then [unsent.bytes] else [] },
            [.registered session.nextToken])) ∨
    (session.closed = false ∧ Frame.maxPayload < payload.size ∧
      session.step event =
        ({ session with toRequests := session.register.leave session.nextToken },
          [.registered session.nextToken,
            .ended session.nextToken (.error (.protocol (.invalidMessage
              (.payloadTooLarge payload.size Frame.maxPayload))))])) := by
  cases isOpen : session.closed with
  | true => exact .inl ⟨rfl, request_of_closed isOpen request⟩
  | false =>
      rcases Nat.lt_or_ge Frame.maxPayload payload.size with large | fits
      · exact .inr (.inr ⟨rfl, large, request_of_large isOpen large request⟩)
      · exact .inr (.inl ⟨rfl, fits, request_of_fits isOpen fits request⟩)

theorem remarks_cases {session : Session} {event : Event} {notice : Notice}
    (member : notice ∈ session.remarks event) :
    (event = .transmit ∧ ∃ frame, notice = .written frame) ∨
      (event = .close ∧ notice = .acknowledged) ∨
      ∃ token, event = .enqueue token ∧ session.closed = true ∧ session.writerEnded = true ∧
        session.holds token = true ∧ notice = .unsent token := by
  cases event with
  | enqueue token =>
      rw [remarks] at member
      rcases session.enqueue_cases token with ⟨_, result⟩ | ⟨unsent, held, same, result⟩
      · simp [result] at member
      · rcases (session.release token).offer_cases unsent with
          ⟨isClosed, ended, offered⟩ | ⟨_, _, offered⟩ | ⟨_, _, offered⟩
        · rw [result, offered, List.mem_singleton, same] at member
          exact .inr (.inr ⟨token, rfl, isClosed, ended, holds_iff.mpr ⟨unsent, held, same⟩,
            member⟩)
        · simp [result, offered] at member
        · simp [result, offered] at member
  | transmit =>
      rw [remarks] at member
      split at member
      · cases member
      · rw [Option.mem_toList, Option.map_eq_some_iff] at member
        obtain ⟨frame, _, same⟩ := member
        exact .inl ⟨rfl, frame, same.symm⟩
  | close => exact .inr (.inl ⟨rfl, List.mem_singleton.mp member⟩)
  | _ => simp [remarks] at member

theorem filterMap_remarks {α : Type} (session : Session) (event : Event) (read : Notice → Option α)
    (written : ∀ frame, read (.written frame) = none) (acknowledged : read .acknowledged = none)
    (unsent : ∀ token, read (.unsent token) = none) :
    (session.remarks event).filterMap read = [] := by
  apply List.filterMap_eq_nil_iff.mpr
  intro notice member
  rcases remarks_cases member with ⟨_, frame, rfl⟩ | ⟨_, rfl⟩ | ⟨token, _, _, _, _, rfl⟩
  · exact written frame
  · exact acknowledged
  · exact unsent token

theorem registrations_step {session : Session} (sound : Sound session.toRequests) (event : Event) :
    registrations (session.step event).2 =
      if event.isRequest && !session.closed then [session.nextToken] else [] := by
  rcases event.request_or_not with ⟨payload, request⟩ | notRequest
  · have isRequest : event.isRequest = true := isRequest_of_payload request
    rcases session.request_cases request with
      ⟨isClosed, result⟩ | ⟨isOpen, _, unsent, _, result⟩ | ⟨isOpen, _, result⟩
    · simp [result, isClosed, registrations, Notice.registered?]
    · simp [result, isOpen, isRequest, registrations, Notice.registered?]
    · simp [result, isOpen, isRequest, registrations, Notice.registered?]
  · rw [step_eq sound event notRequest, registrations_append]
    have reacted :
        registrations (session.toRequests.reactAll (session.occurrences event)).2 = [] := by
      refine List.filterMap_eq_nil_iff.mpr fun notice member => ?_
      obtain ⟨_, ends⟩ := sound.reactAll_only_ends (session.occurrences event) notice member
      exact (only_ends ends).1
    have remarked : registrations (session.remarks event) = [] :=
      session.filterMap_remarks event _ (fun _ => rfl) rfl fun _ => rfl
    simp [reacted, remarked, notRequest]

theorem correct_step {issued : Nat} {session : Session}
    (correct : Correct issued session.toRequests) {event : Event} {rest : List Event}
    (room : issued + requestCount (event :: rest) < UInt64.size) :
    Correct (issued + (registrations (session.step event).2).length)
        (session.step event).1.toRequests ∧
      issued + (registrations (session.step event).2).length + requestCount rest <
        UInt64.size := by
  rw [registrations_step correct.toSound]
  simp only [requestCount, List.countP_cons] at room ⊢
  rcases event.request_or_not with ⟨payload, request⟩ | notRequest
  · have isRequest : event.isRequest = true := isRequest_of_payload request
    simp only [isRequest, if_true] at room
    rcases session.request_cases request with
      ⟨isClosed, result⟩ | ⟨isOpen, _, unsent, _, result⟩ | ⟨isOpen, _, result⟩
    · rw [result]
      simp only [isClosed, Bool.not_true, Bool.and_false, Bool.false_eq_true, if_false]
      exact ⟨correct, by simp only [List.length_nil]; omega⟩
    · rw [result]
      simp only [isRequest, isOpen, Bool.not_false, Bool.and_self, if_true]
      exact ⟨correct.register isOpen (by omega), by simp only [List.length_singleton]; omega⟩
    · rw [result]
      simp only [isRequest, isOpen, Bool.not_false, Bool.and_self, if_true]
      exact ⟨(correct.register isOpen (by omega)).leave session.nextToken,
        by simp only [List.length_singleton]; omega⟩
  · rw [step_eq correct.toSound event notRequest]
    simp only [notRequest, Bool.false_and, Bool.false_eq_true, if_false, List.length_nil] at room ⊢
    exact ⟨correct.reactAll _, by omega⟩

theorem endings_step {session : Session} (sound : Sound session.toRequests)
    (event : Event) {token : UInt64} (old : token ∉ registrations (session.step event).2) :
    endings token (session.step event).2 =
      if token ∈ session.waiting then
        ((session.occurrences event).findSome? (Occurrence.ending? token)).toList else [] := by
  rcases event.request_or_not with ⟨payload, request⟩ | notRequest
  · rw [occurrences_of_request session request]
    rcases session.request_cases request with
      ⟨isClosed, result⟩ | ⟨isOpen, _, unsent, _, result⟩ | ⟨isOpen, _, result⟩
    · simp [result, endings, Notice.ending?]
    · simp [result, endings, Notice.ending?]
    · have other : session.nextToken ≠ token := by
        rw [result] at old
        simpa [registrations, Notice.registered?, eq_comm] using old
      simp [result, endings, Notice.ending?, other]
  · have remarked : endings token (session.remarks event) = [] :=
      session.filterMap_remarks event _ (fun _ => rfl) rfl fun _ => rfl
    rw [step_eq sound event notRequest, endings_append, remarked, List.append_nil]
    exact sound.endings_reactAll (session.occurrences event) token

theorem mem_waiting_step_old {session : Session} (sound : Sound session.toRequests)
    (event : Event) {token : UInt64}
    (old : token ∉ registrations (session.step event).2) :
    token ∈ (session.step event).1.waiting ↔
      token ∈ session.waiting ∧
        (session.occurrences event).findSome? (Occurrence.ending? token) = none := by
  rcases event.request_or_not with ⟨payload, request⟩ | notRequest
  · rw [occurrences_of_request session request]
    rcases session.request_cases request with
      ⟨isClosed, result⟩ | ⟨isOpen, _, unsent, _, result⟩ | ⟨isOpen, _, result⟩
    · simp [result]
    · have other : token ≠ session.nextToken := by
        rw [result] at old
        simpa [registrations, Notice.registered?] using old
      simp [result, Requests.register, other]
    · have other : token ≠ session.nextToken := by
        rw [result] at old
        simpa [registrations, Notice.registered?] using old
      simp [result, Requests.mem_waiting_leave, Requests.register, other]
  · rw [step_eq sound event notRequest]
    exact sound.mem_waiting_reactAll (session.occurrences event) token

theorem mem_waiting_step {session : Session} (sound : Sound session.toRequests) (event : Event)
    (token : UInt64) :
    token ∈ (session.step event).1.waiting ↔
      (token ∈ session.waiting ∨ token ∈ registrations (session.step event).2) ∧
        endings token (session.step event).2 = [] := by
  by_cases old : token ∉ registrations (session.step event).2
  · rw [mem_waiting_step_old sound event old, endings_step sound event old]
    by_cases waits : token ∈ session.waiting <;> simp [waits, old]
  · have new : token ∈ registrations (session.step event).2 := by simpa using old
    simp only [new, or_true, true_and]
    rw [registrations_step sound] at new
    rcases event.request_or_not with ⟨payload, request⟩ | notRequest
    · rw [isRequest_of_payload request] at new
      rcases session.request_cases request with
        ⟨isClosed, result⟩ | ⟨isOpen, _, unsent, _, result⟩ | ⟨isOpen, _, result⟩
      · simp [isClosed] at new
      · have same : token = session.nextToken := by simpa [isOpen] using new
        simp [result, same, Requests.register, endings, Notice.ending?]
      · have same : token = session.nextToken := by simpa [isOpen] using new
        simp [result, same, Requests.mem_waiting_leave, endings, Notice.ending?]
    · simp [notRequest] at new

theorem answers_step {session : Session} (sound : Sound session.toRequests)
    (event : Event) :
    (answers (session.step event).2).Sublist
      ((session.occurrences event).filterMap Occurrence.frame?) := by
  rcases event.request_or_not with ⟨payload, request⟩ | notRequest
  · have nothing : answers (session.step event).2 = [] := by
      rcases session.request_cases request with
        ⟨_, result⟩ | ⟨_, _, unsent, _, result⟩ | ⟨_, _, result⟩ <;>
        simp [result, answers, Notice.answer?]
    rw [nothing]
    exact List.nil_sublist _
  · have remarked : answers (session.remarks event) = [] :=
      session.filterMap_remarks event _ (fun _ => rfl) rfl fun _ => rfl
    rw [step_eq sound event notRequest, answers_append, remarked, List.append_nil]
    exact sound.answers_reactAll (session.occurrences event)

theorem sound_step {session : Session} (sound : Sound session.toRequests) (event : Event) :
    Sound (session.step event).1.toRequests := by
  rcases event.request_or_not with ⟨payload, request⟩ | notRequest
  · rcases session.request_cases request with
      ⟨_, result⟩ | ⟨isOpen, _, unsent, _, result⟩ | ⟨isOpen, _, result⟩
    · rw [result]
      exact sound
    · rw [result]
      exact sound.register isOpen
    · rw [result]
      exact (sound.register isOpen).leave session.nextToken
  · rw [step_eq sound event notRequest]
    exact sound.reactAll _

theorem writes_step {session : Session} (sound : Sound session.toRequests) (event : Event) :
    writes (session.step event).2 = writes (session.remarks event) := by
  rcases event.request_or_not with ⟨payload, request⟩ | notRequest
  · rw [remarks_of_request session request]
    rcases session.request_cases request with
      ⟨_, result⟩ | ⟨_, _, unsent, _, result⟩ | ⟨_, _, result⟩ <;> rw [result] <;> rfl
  · have reacted : writes (session.toRequests.reactAll (session.occurrences event)).2 = [] :=
      List.filterMap_eq_nil_iff.mpr fun notice member =>
        have ⟨_, ends⟩ := sound.reactAll_only_ends (session.occurrences event) notice member
        (only_ends ends).2.1
    rw [step_eq sound event notRequest, writes_append, reacted, List.nil_append]

theorem unsents_step {session : Session} (sound : Sound session.toRequests) (event : Event) :
    unsents (session.step event).2 = unsents (session.remarks event) := by
  rcases event.request_or_not with ⟨payload, request⟩ | notRequest
  · rw [remarks_of_request session request]
    rcases session.request_cases request with
      ⟨_, result⟩ | ⟨_, _, unsent, _, result⟩ | ⟨_, _, result⟩ <;> rw [result] <;> rfl
  · have reacted : unsents (session.toRequests.reactAll (session.occurrences event)).2 = [] :=
      List.filterMap_eq_nil_iff.mpr fun notice member =>
        have ⟨_, ends⟩ := sound.reactAll_only_ends (session.occurrences event) notice member
        (only_ends ends).2.2.1
    rw [step_eq sound event notRequest, unsents_append, reacted, List.nil_append]

/-- Whoever finds the queue gone has kept a frame until a closed session lost its writer. -/
theorem gone_of_mem_unsents {session : Session} (sound : Sound session.toRequests) {event : Event}
    {token : UInt64} (told : token ∈ unsents (session.step event).2) :
    session.closed = true ∧ session.writerEnded = true ∧ session.holds token = true := by
  rw [unsents_step sound] at told
  obtain ⟨notice, member, same⟩ := List.mem_filterMap.mp told
  rcases remarks_cases member with ⟨_, _, rfl⟩ | ⟨_, rfl⟩ | ⟨_, _, isClosed, ended, held, rfl⟩
  · cases same
  · cases same
  · cases same
    exact ⟨isClosed, ended, held⟩

theorem closed_of_step {session : Session} (sound : Sound session.toRequests) {event : Event}
    (stillOpen : (session.step event).1.closed = false) : session.closed = false := by
  by_cases isClosed : session.closed = true
  · rcases event.request_or_not with ⟨payload, request⟩ | notRequest
    · rcases session.request_cases request with
        ⟨_, result⟩ | ⟨isOpen, _⟩ | ⟨isOpen, _⟩
      · rwa [result] at stillOpen
      · exact isOpen
      · exact isOpen
    · rw [step_eq sound event notRequest, occurrences_of_closed isClosed] at stillOpen
      exact stillOpen
  · simpa using isClosed

theorem closed_step {session : Session} (sound : Sound session.toRequests)
    (isClosed : session.closed = true) (event : Event) :
    (session.step event).1.closed = true := by
  refine Bool.of_not_eq_false fun stillOpen => ?_
  rw [closed_of_step sound stillOpen] at isClosed
  cases isClosed

theorem limit_step {session : Session} (sound : Sound session.toRequests) (event : Event) :
    (session.step event).1.maxMessageSize = session.maxMessageSize := by
  rcases event.request_or_not with ⟨payload, request⟩ | notRequest
  · rcases session.request_cases request with
      ⟨_, result⟩ | ⟨_, _, unsent, _, result⟩ | ⟨_, _, result⟩ <;> rw [result]
  · rw [step_eq sound event notRequest]

theorem reading_step {session : Session} (sound : Sound session.toRequests) (event : Event) :
    (session.step event).1.incoming = (session.readingAfter event).1 ∧
      (session.step event).1.unread = (session.readingAfter event).2 := by
  rcases event.request_or_not with ⟨payload, request⟩ | notRequest
  · have silent : event.reads = false := by cases event <;> first | rfl | cases request
    rw [readingAfter, silent, Bool.not_false, Bool.or_true, if_pos rfl]
    rcases session.request_cases request with
      ⟨_, result⟩ | ⟨_, _, unsent, _, result⟩ | ⟨_, _, result⟩ <;> rw [result] <;>
      exact ⟨rfl, rfl⟩
  · rw [step_eq sound event notRequest]
    exact ⟨rfl, rfl⟩

theorem reading_receive {session : Session} (sound : Sound session.toRequests)
    (isOpen : session.closed = false) (chunk : List UInt8) :
    (session.step (.receive chunk)).1.incoming =
        (session.incoming.feed session.maxMessageSize (session.unread ++ chunk)).1 ∧
      (session.step (.receive chunk)).1.unread = [] := by
  rw [(reading_step sound _).1, (reading_step sound _).2]
  simp [readingAfter, isOpen, Event.reads, Event.received]

theorem reading_stays {session : Session} (sound : Sound session.toRequests) {event : Event}
    (stillOpen : (session.step event).1.closed = false)
    (nothing : ∀ chunk, event ≠ .receive chunk) :
    (session.step event).1.incoming = session.incoming ∧
      (session.step event).1.unread = session.unread := by
  have silent : event.reads = false := by
    cases event with
    | receive chunk => exact absurd rfl (nothing chunk)
    | receiveFails reason =>
        simp [step, receiveFails, closeWith_eq, Requests.closeWith_closed] at stillOpen
    | endOfStream => simp [step, receiveFails, closeWith_eq, Requests.closeWith_closed] at stillOpen
    | _ => rfl
  rw [(reading_step sound event).1, (reading_step sound event).2]
  simp [readingAfter, silent]

end QueryDriver.Session
