import QueryDriver.Proofs.Session.Queueing

/-!
Closing. Which events close a session, and with which cause. All requests that are open when it
closes end with that cause, and a closed session stays as it is: it registers nobody, writes nothing
and ends nothing.
-/

namespace QueryDriver.Session

open Requests (Sound)

/-- How an event closes an open session: after the frames that are complete by then, with a cause. -/
inductive Closes (session : Session) : Event → List Frame → ClientError → Prop
  | close : Closes session .close [] .sessionClosed
  | drop : Closes session .drop [] .sessionClosed
  | writing (reason : String) : session.queue ≠ [] →
      Closes session (.transmitFails reason) [] (.transport reason)
  | malformed {event : Event} {frames : List Frame} {fault : MessageFault} : event.reads = true →
      session.incoming.feed session.maxMessageSize (session.unread ++ event.received) =
        (.failed fault, frames) →
      Closes session event frames (readError (.protocol (.invalidMessage fault)))
  | reading (reason : String) {incoming : Frame.Progress} {frames : List Frame} :
      session.incoming.feed session.maxMessageSize session.unread = (incoming, frames) →
      (∀ fault, incoming ≠ .failed fault) →
      Closes session (.receiveFails reason) frames (readError (.io reason))
  | ending {incoming : Frame.Progress} {frames : List Frame} :
      session.incoming.feed session.maxMessageSize session.unread = (incoming, frames) →
      (∀ fault, incoming ≠ .failed fault) →
      Closes session .endOfStream frames (readError (.io earlyEnd))

section

variable {session : Session} {event : Event} {cause : ClientError} {frames : List Frame}

theorem arrivals_of_failed {chunk : List UInt8} {fault : MessageFault}
    (read : session.incoming.feed session.maxMessageSize (session.unread ++ chunk) =
      (.failed fault, frames)) :
    session.arrivals chunk =
      frames.map Occurrence.arrived ++
        [.closing (readError (.protocol (.invalidMessage fault)))] := by
  rw [arrivals, read]

theorem arrivals_of_unfailed {chunk : List UInt8} {incoming : Frame.Progress}
    (read : session.incoming.feed session.maxMessageSize (session.unread ++ chunk) =
      (incoming, frames))
    (unfailed : ∀ fault, incoming ≠ .failed fault) :
    session.arrivals chunk = frames.map Occurrence.arrived := by
  rw [arrivals, read]
  cases incoming with
  | failed fault => exact absurd rfl (unfailed fault)
  | header found => exact List.append_nil _
  | payload token missing found => exact List.append_nil _

/-- Reading gives frames, and after them it may fail. -/
theorem feed_cases (session : Session) (chunk : List UInt8) :
    ∃ incoming frames,
      session.incoming.feed session.maxMessageSize (session.unread ++ chunk) =
          (incoming, frames) ∧
        ((∃ fault, incoming = .failed fault) ∨ ∀ fault, incoming ≠ .failed fault) := by
  refine ⟨_, _, rfl, ?_⟩
  by_cases failed : ∃ fault,
      (session.incoming.feed session.maxMessageSize (session.unread ++ chunk)).1 = .failed fault
  · exact .inl failed
  · exact .inr fun fault same => failed ⟨fault, same⟩

theorem notRequest_of_closing (isOpen : session.closed = false)
    (closes : (session.step event).1.closed = true) : event.isRequest = false := by
  rcases event.request_or_not with ⟨payload, request⟩ | notRequest
  · rcases session.request_cases request with
      ⟨isClosed, _⟩ | ⟨_, _, unsent, _, result⟩ | ⟨_, _, result⟩
    · simp [isOpen] at isClosed
    · simp [result, Requests.register, isOpen] at closes
    · simp [result, Requests.leave, Requests.forget, Requests.register, isOpen] at closes
  · exact notRequest

theorem closed_of_closing (sound : Sound session.toRequests)
    (closing : .closing cause ∈ session.occurrences event) :
    (session.step event).1.closed = true := by
  rcases event.request_or_not with ⟨payload, request⟩ | notRequest
  · rw [session.occurrences_of_request request] at closing
    cases closing
  · have found : ((session.occurrences event).findSome? Occurrence.cause?).isSome := by
      rw [List.findSome?_isSome_iff]
      exact ⟨_, closing, rfl⟩
    rw [step_eq sound event notRequest, sound.closed_reactAll, found, Bool.or_true]

/-- An event that closes a session brings replies, and then the cause. -/
theorem Closes.occurrences (closes : session.Closes event frames cause)
    (isOpen : session.closed = false) :
    ∃ rest, session.occurrences event =
      frames.map Occurrence.arrived ++ .closing cause :: rest := by
  simp only [Session.occurrences, isOpen, Bool.false_eq_true, if_false]
  cases closes with
  | close => exact ⟨[], rfl⟩
  | drop => exact ⟨[], rfl⟩
  | writing reason queued =>
      refine ⟨[], ?_⟩
      simp [queued]
  | malformed reads read =>
      cases event with
      | receive chunk => exact ⟨[], arrivals_of_failed read⟩
      | receiveFails reason =>
          have arrived : session.arrivals [] = _ := arrivals_of_failed read
          exact ⟨[.closing (readError (.io reason))], by simp [arrived]⟩
      | endOfStream =>
          have arrived : session.arrivals [] = _ := arrivals_of_failed read
          exact ⟨[.closing (readError (.io earlyEnd))], by simp [arrived]⟩
      | _ => cases reads
  | reading reason read unfailed =>
      rw [← session.unread.append_nil] at read
      exact ⟨[], congrArg (· ++ _) (arrivals_of_unfailed read unfailed)⟩
  | ending read unfailed =>
      rw [← session.unread.append_nil] at read
      exact ⟨[], congrArg (· ++ _) (arrivals_of_unfailed read unfailed)⟩

theorem exists_closes (sound : Sound session.toRequests) (isOpen : session.closed = false)
    (closes : (session.step event).1.closed = true) :
    ∃ frames cause, session.Closes event frames cause := by
  have notRequest := notRequest_of_closing isOpen closes
  have found : ((session.occurrences event).findSome? Occurrence.cause?).isSome := by
    rwa [step_eq sound event notRequest, sound.closed_reactAll, isOpen, Bool.false_or] at closes
  simp only [Session.occurrences, isOpen, Bool.false_eq_true, if_false] at found
  cases event with
  | close => exact ⟨_, _, .close⟩
  | drop => exact ⟨_, _, .drop⟩
  | transmitFails reason =>
      refine ⟨_, _, .writing reason fun empty => ?_⟩
      simp [empty] at found
  | receive chunk =>
      obtain ⟨_, frames, read, ⟨fault, rfl⟩ | unfailed⟩ := session.feed_cases chunk
      · exact ⟨_, _, .malformed rfl read⟩
      · simp [arrivals_of_unfailed read unfailed, List.findSome?_map, Function.comp_def,
          Occurrence.cause?] at found
  | receiveFails reason =>
      obtain ⟨_, frames, read, ⟨fault, rfl⟩ | unfailed⟩ := session.feed_cases []
      · exact ⟨_, _, .malformed rfl read⟩
      · rw [List.append_nil] at read
        exact ⟨_, _, .reading reason read unfailed⟩
  | endOfStream =>
      obtain ⟨_, frames, read, ⟨fault, rfl⟩ | unfailed⟩ := session.feed_cases []
      · exact ⟨_, _, .malformed rfl read⟩
      · rw [List.append_nil] at read
        exact ⟨_, _, .ending read unfailed⟩
  | withdraw token => cases held : session.holds token <;> simp [held, Occurrence.cause?] at found
  | expire token => cases held : session.holds token <;> simp [held, Occurrence.cause?] at found
  | abandon token => cases held : session.holds token <;> simp [held, Occurrence.cause?] at found
  | _ => cases found

theorem closed_receiveFails (session : Session) (reason : String) :
    (session.receiveFails reason).1.closed = true :=
  Requests.closeWith_closed _ _

/-- An event closes an open session exactly if it is one of those that do. -/
theorem closed_step_iff (sound : Sound session.toRequests) (isOpen : session.closed = false) :
    (session.step event).1.closed = true ↔ ∃ frames cause, session.Closes event frames cause := by
  refine ⟨exists_closes sound isOpen, ?_⟩
  rintro ⟨frames, cause, closes⟩
  obtain ⟨rest, happened⟩ := closes.occurrences isOpen
  apply closed_of_closing sound
  rw [happened]
  exact List.mem_append_right _ List.mem_cons_self

/-- A request that waits when frames arrive and the session closes is answered by the first frame
for it, or else is given the cause. -/
theorem findSome_ending_of_closing (frames : List Frame) (cause : ClientError)
    (rest : List Occurrence) (token : UInt64) :
    (frames.map Occurrence.arrived ++ .closing cause :: rest).findSome?
        (Occurrence.ending? token) =
      some (.outcome (match frames.find? fun frame => frame.token = token with
        | some frame => .ok frame.payload
        | none => .error cause)) := by
  induction frames with
  | nil => rfl
  | cons frame others ih =>
      by_cases same : frame.token = token
      · simp [Occurrence.ending?, same]
      · simpa [Occurrence.ending?, same] using ih

theorem Closes.endings (closes : session.Closes event frames cause)
    (sound : Sound session.toRequests) (isOpen : session.closed = false) {token : UInt64}
    (waits : token ∈ session.waiting) :
    QueryDriver.endings token (session.step event).2 =
      [.outcome (match frames.find? fun frame => frame.token = token with
        | some frame => .ok frame.payload
        | none => .error cause)] := by
  have closed := (closed_step_iff sound isOpen).mpr ⟨_, _, closes⟩
  have old : token ∉ registrations (session.step event).2 := by
    simp [registrations_step sound, notRequest_of_closing isOpen closed]
  obtain ⟨rest, happened⟩ := closes.occurrences isOpen
  rw [endings_step sound event old, if_pos waits, happened, findSome_ending_of_closing]
  rfl

end

/-- What an event tells on a closed session, but for callers who find no queue any more. -/
def Event.whenClosed : Event → List Notice
  | .dispatch _ | .register _ => [.refused .sessionClosed]
  | .close => [.acknowledged]
  | _ => []

/-- On a closed session only frames change hands. -/
theorem step_whenClosed {session : Session} (sound : Sound session.toRequests)
    (isClosed : session.closed = true) (event : Event) :
    let stepped := session.step event
    stepped.1 =
        { session with
          unsent := stepped.1.unsent
          queue := stepped.1.queue
          writerEnded := stepped.1.writerEnded } ∧
      stepped.2.filter (fun notice => notice.unsent?.isNone) = event.whenClosed ∧
      ∀ token ∈ unsents stepped.2, session.holds token = true := by
  intro stepped
  have held (token : UInt64) (told : token ∈ unsents stepped.2) : session.holds token = true :=
    (gone_of_mem_unsents sound told).2.2
  rcases event.request_or_not with ⟨payload, request⟩ | notRequest
  · have refused : event.whenClosed = [.refused .sessionClosed] := by
      cases event <;> first | rfl | cases request
    have same : stepped = _ := request_of_closed isClosed request
    refine ⟨?_, ?_, held⟩
    · rw [same]
    · rw [same, refused]
      rfl
  · have same : stepped = _ := step_of_closed sound isClosed event notRequest
    refine ⟨by rw [same], ?_, held⟩
    rw [same]
    cases event with
    | enqueue token =>
        refine List.filter_eq_nil_iff.mpr fun notice member => ?_
        have remarked : notice ∈ session.remarks (.enqueue token) := member
        rcases remarks_cases remarked with ⟨other, _⟩ | ⟨other, _⟩ | ⟨_, _, _, _, _, rfl⟩
        · cases other
        · cases other
        · exact Bool.false_ne_true
    | transmit =>
        dsimp only
        rw [remarks, if_pos isClosed]
        rfl
    | dispatch payload => cases notRequest
    | register payload => cases notRequest
    | _ => rfl

theorem run_whenClosed {session : Session} (sound : Sound session.toRequests)
    (isClosed : session.closed = true) (events : List Event) :
    let ran := session.run events
    ran.1 =
        { session with
          unsent := ran.1.unsent
          queue := ran.1.queue
          writerEnded := ran.1.writerEnded } ∧
      ran.2.filter (fun notice => notice.unsent?.isNone) = events.flatMap Event.whenClosed ∧
      ∀ token ∈ unsents ran.2, session.holds token = true := by
  induction events generalizing session with
  | nil => exact ⟨rfl, rfl, List.forall_mem_nil _⟩
  | cons event rest ih =>
      obtain ⟨unchanged, told, held⟩ := step_whenClosed sound isClosed event
      have stepped := sound_step sound event
      have still := closed_step sound isClosed event
      obtain ⟨later, others, holding⟩ := ih stepped still
      rw [run_cons]
      refine ⟨?_, ?_, ?_⟩
      · dsimp only
        rw [later, unchanged]
      · rw [List.filter_append, told, others, List.flatMap_cons]
      · intro token member
        rw [unsents_append, List.mem_append] at member
        rcases member with now | behind
        · exact held token now
        · refine (holds_step sound (holding token behind)).resolve_right ?_
          simp [registrations_step sound, isClosed]

/-- A session is closed by its caller, by a failure of the connection or by a frame that is refused,
and by nothing else. All whose requests are open then are given the one cause, unless a frame for
them comes just before; and from then on the session stays closed. -/
theorem closing_is_final (maxMessageSize : Nat) (serverVersion : Option String)
    (unread : List UInt8) (before : List Event)
    (isOpen : ((start maxMessageSize serverVersion unread).run before).1.closed = false) :
    let session := ((start maxMessageSize serverVersion unread).run before).1
    ((session.step .close).1.closed = true ∧ (session.step .drop).1.closed = true ∧
      (∀ reason, session.queue ≠ [] → (session.step (.transmitFails reason)).1.closed = true) ∧
      (∀ reason, (session.step (.receiveFails reason)).1.closed = true) ∧
      (session.step .endOfStream).1.closed = true) ∧
    (∀ event, (session.step event).1.closed = true ↔
      ∃ frames cause, session.Closes event frames cause) ∧
    ∀ event frames cause, session.Closes event frames cause →
      let closed := (session.step event).1
      (∀ token ∈ session.waiting, endings token (session.step event).2 =
        [.outcome (match frames.find? fun frame => frame.token = token with
          | some frame => .ok frame.payload
          | none => .error cause)]) ∧
      closed.pending = [] ∧ closed.waiting = [] ∧
      ∀ after,
        let later := closed.run after
        later.1 =
            { closed with
              unsent := later.1.unsent
              queue := later.1.queue
              writerEnded := later.1.writerEnded } ∧
          later.2.filter (fun notice => notice.unsent?.isNone) = after.flatMap Event.whenClosed ∧
          ∀ token ∈ unsents later.2, closed.holds token = true := by
  intro session
  have sound : Sound session.toRequests := sound_run (start_correct _ _ _).toSound before
  have closing (event : Event) : (session.step event).1.closed = true ↔
      ∃ frames cause, session.Closes event frames cause := closed_step_iff sound isOpen
  refine ⟨⟨?_, ?_, ?_, ?_, ?_⟩, closing, ?_⟩
  · exact (closing _).mpr ⟨_, _, .close⟩
  · exact (closing _).mpr ⟨_, _, .drop⟩
  · exact fun reason queued => (closing _).mpr ⟨_, _, .writing reason queued⟩
  · exact session.closed_receiveFails
  · exact session.closed_receiveFails earlyEnd
  · intro event frames cause closes closed
    have isClosed : closed.closed = true := (closing event).mpr ⟨_, _, closes⟩
    have closedSound : Sound closed.toRequests := sound_step sound event
    refine ⟨fun token waits => closes.endings sound isOpen waits, ?_,
      closedSound.closed isClosed, run_whenClosed closedSound isClosed⟩
    rw [closedSound.expected, closedSound.closed isClosed]

/-- A frame for the first of two requests, and the header of one that is too long. -/
def tooLong : List UInt8 :=
  Frame.header 1 1 ++ [120] ++ Frame.header 2 9

theorem closing_is_final_tooLong :
    let session := ((start 8 none []).run [.dispatch ⟨#[97]⟩, .dispatch ⟨#[98]⟩]).1
    let closed := (session.step (.receive tooLong)).1
    session.closed = false ∧ closed.closed = true ∧
      endings 1 (session.step (.receive tooLong)).2 = [.outcome (.ok ⟨#[120]⟩)] ∧
      endings 2 (session.step (.receive tooLong)).2 =
        [.outcome (.error (readError (.protocol (.invalidMessage (.frameTooLong 9 8)))))] ∧
      (closed.run [.dispatch ⟨#[99]⟩, .receive (Frame.header 2 0), .close]).2.filter
          (fun notice => notice.unsent?.isNone) =
        [.refused .sessionClosed, .acknowledged] := by
  intro session closed
  obtain ⟨_, closing, final⟩ :=
    closing_is_final 8 none [] [.dispatch ⟨#[97]⟩, .dispatch ⟨#[98]⟩] rfl
  have closes : session.Closes (.receive tooLong) [⟨1, ⟨#[120]⟩⟩]
      (readError (.protocol (.invalidMessage (.frameTooLong 9 8)))) := .malformed rfl rfl
  obtain ⟨given, _, _, forGood⟩ := final _ _ _ closes
  exact ⟨rfl, (closing _).mpr ⟨_, _, closes⟩, given 1 (by decide), given 2 (by decide),
    (forGood _).2.1⟩

/-- Of two open requests the one whose frame is not queued is told that the session is closed, where
the other is told why. -/
theorem returns_other_than_cause :
    let session := ((start 8 none []).run [.dispatch ⟨#[97]⟩, .register ⟨#[98]⟩]).1
    let ran := session.run [.endOfStream, .writerEnds, .enqueue 2]
    session.closed = false ∧ 1 ∈ session.waiting ∧ 2 ∈ session.waiting ∧
      session.Closes .endOfStream [] (.transport "io error: early eof") ∧
      returns 1 ran.2 = [.outcome (.error (.transport "io error: early eof"))] ∧
      returns 2 ran.2 = [.outcome (.error .sessionClosed)] := by
  intro session ran
  refine ⟨rfl, by decide, by decide, ?_, rfl, rfl⟩
  have nothing : session.incoming.feed 8 session.unread = (.start, []) := rfl
  exact .ending nothing fun _ failed => by cases failed

end QueryDriver.Session
