import QueryDriver.Proofs.Frame.Wire
import QueryDriver.Proofs.Session.Closing
import QueryDriver.Proofs.Session.Isolation

/-!
What a session reads. The frames that it finds and the end of its reading are those of the stream
of all bytes, whatever the chunks in which they come and whatever happens between them.
-/

namespace QueryDriver.Session

open Requests (Sound)

/-- Whether an event can close a session only by what is read in it. -/
def Event.leavesOpen : Event → Bool
  | .dispatch _ | .register _ | .enqueue _ | .withdraw _ | .transmit | .writerEnds | .receive _
  | .expire _ | .abandon _ => true
  | _ => false

/-- Why reading stops at an event, if it does, when what was read ends so. -/
def Event.stop? (event : Event) : Frame.StreamEnd → Option ClientError
  | .refused fault => some (readError (.protocol (.invalidMessage fault)))
  | _ =>
      match event with
      | .receiveFails reason => some (readError (.io reason))
      | .endOfStream => some (readError (.io earlyEnd))
      | _ => none

/-- What arrives with a chunk: the frames found up to its end, and a closing if one is refused. -/
theorem arrivals_eq_found (session : Session) (chunk : List UInt8) :
    let read := session.incoming.feed session.maxMessageSize (session.unread ++ chunk)
    session.arrivals chunk = read.2.map Occurrence.arrived ++
      (((Event.receive chunk).stop? read.1.ending).map Occurrence.closing).toList := by
  rw [arrivals]
  cases session.incoming.feed session.maxMessageSize (session.unread ++ chunk) with
  | mk incoming frames =>
      cases incoming with
      | failed fault => rfl
      | header found => cases found <;> rfl
      | payload token missing found => rfl

theorem frames_arrivals (session : Session) (chunk : List UInt8) :
    (session.arrivals chunk).filterMap Occurrence.frame? =
      (session.incoming.feed session.maxMessageSize (session.unread ++ chunk)).2 := by
  have found (frames : List Frame) :
      (frames.map Occurrence.arrived).filterMap Occurrence.frame? = frames := by
    rw [List.filterMap_map]
    exact List.filterMap_some
  rw [arrivals_eq_found, List.filterMap_append, found]
  cases (Event.receive chunk).stop? _ <;> exact List.append_nil _

theorem cause_arrivals (session : Session) (chunk : List UInt8) :
    (session.arrivals chunk).findSome? Occurrence.cause? =
      (Event.receive chunk).stop?
        (session.incoming.feed session.maxMessageSize (session.unread ++ chunk)).1.ending := by
  have none (frames : List Frame) :
      (frames.map Occurrence.arrived).findSome? Occurrence.cause? = none := by
    simp [List.findSome?_map, Function.comp_def, Occurrence.cause?]
  rw [arrivals_eq_found, List.findSome?_append, none, Option.none_or]
  cases (Event.receive chunk).stop? _ <;> rfl

theorem trace_of_closed {session : Session} (sound : Sound session.toRequests)
    (isClosed : session.closed = true) (events : List Event) : session.trace events = [] := by
  induction events generalizing session with
  | nil => rfl
  | cons event rest ih =>
      have stays : (session.step event).1.closed = true := by
        cases after : (session.step event).1.closed with
        | true => rfl
        | false => simp [closed_of_step sound after] at isClosed
      rw [trace, occurrences_of_closed isClosed, ih (sound_step sound event) stays]
      rfl

/-- An event that reads tells the frames of all bytes so far, and stops as they end. -/
theorem trace_of_reading {session : Session} (isOpen : session.closed = false) {event : Event}
    (reads : event.reads = true) :
    let read := session.incoming.feed session.maxMessageSize (session.unread ++ event.received)
    (session.trace [event]).filterMap Occurrence.frame? = read.2 ∧
      (session.trace [event]).findSome? Occurrence.cause? = event.stop? read.1.ending := by
  simp only [trace, List.append_nil, occurrences, isOpen, Bool.false_eq_true, if_false]
  have failing (cause : ClientError) (event : Event)
      (stops : ∀ ending, event.stop? ending = ((Event.receive []).stop? ending).or (some cause)) :
      let told := session.arrivals [] ++ [Occurrence.closing cause]
      let read := session.incoming.feed session.maxMessageSize (session.unread ++ [])
      told.filterMap Occurrence.frame? = read.2 ∧
        told.findSome? Occurrence.cause? = event.stop? read.1.ending := by
    constructor
    · rw [List.filterMap_append, frames_arrivals]
      exact List.append_nil _
    · rw [List.findSome?_append, cause_arrivals, stops]
      rfl
  cases event with
  | receive chunk => exact ⟨frames_arrivals session chunk, cause_arrivals session chunk⟩
  | receiveFails reason =>
      exact failing _ (.receiveFails reason) fun ending => by cases ending <;> rfl
  | endOfStream => exact failing _ .endOfStream fun ending => by cases ending <;> rfl
  | _ => simp [Event.reads] at reads

/-- Events between two readings leave the reader where it is. -/
theorem step_between {session : Session} (sound : Sound session.toRequests)
    (isOpen : session.closed = false) {event : Event} (leaves : event.leavesOpen = true)
    (silent : event.reads = false) :
    (session.step event).1.closed = false ∧
      (session.step event).1.incoming = session.incoming ∧
      (session.step event).1.unread = session.unread ∧
      event.received = [] ∧
      (session.occurrences event).filterMap Occurrence.frame? = [] ∧
      (session.occurrences event).findSome? Occurrence.cause? = none := by
  have stillOpen : (session.step event).1.closed = false := by
    cases after : (session.step event).1.closed with
    | false => rfl
    | true =>
        obtain ⟨_, _, closes⟩ := exists_closes sound isOpen after
        cases closes <;> simp_all [Event.leavesOpen, Event.reads]
  have nothing (chunk : List UInt8) : event ≠ .receive chunk := by
    rintro rfl
    simp [Event.reads] at silent
  obtain ⟨incoming, unread⟩ := reading_stays sound stillOpen nothing
  refine ⟨stillOpen, incoming, unread, ?_, ?_, ?_⟩ <;>
    cases event <;>
      simp_all [Event.leavesOpen, Event.reads, Event.received, occurrences, Occurrence.frame?,
        Occurrence.cause?]

theorem closed_receive {session : Session} (sound : Sound session.toRequests)
    (isOpen : session.closed = false) (chunk : List UInt8) :
    (session.step (.receive chunk)).1.closed =
      ((Event.receive chunk).stop? (session.incoming.feed session.maxMessageSize
        (session.unread ++ chunk)).1.ending).isSome := by
  rw [step_eq sound _ rfl, sound.closed_reactAll, isOpen, ← cause_arrivals, occurrences, isOpen]
  rfl

theorem stop_receive_isSome (chunk : List UInt8) (ending : Frame.StreamEnd) :
    ((Event.receive chunk).stop? ending).isSome = true ↔ ∃ fault, ending = .refused fault := by
  cases ending <;> simp [Event.stop?]

theorem failed_of_stop {progress : Frame.Progress} {chunk : List UInt8} {cause : ClientError}
    (stops : (Event.receive chunk).stop? progress.ending = some cause) :
    ∃ fault, progress = .failed fault := by
  cases progress with
  | failed fault => exact ⟨fault, rfl⟩
  | header found => cases found <;> simp [Frame.Progress.ending, Event.stop?] at stops
  | payload token missing found => simp [Frame.Progress.ending, Event.stop?] at stops

/-- As long as nothing else closes the session, it reads the stream of all bytes. -/
theorem trace_reads {session : Session} (sound : Sound session.toRequests)
    (isOpen : session.closed = false) {events : List Event} {event : Event}
    (leave : ∀ earlier ∈ events, earlier.leavesOpen = true) (reads : event.reads = true) :
    let read := session.incoming.feed session.maxMessageSize
      (session.unread ++ received (events ++ [event]))
    (session.trace (events ++ [event])).filterMap Occurrence.frame? = read.2 ∧
      (session.trace (events ++ [event])).findSome? Occurrence.cause? =
        event.stop? read.1.ending := by
  induction events generalizing session with
  | nil =>
      have read := trace_of_reading isOpen reads
      rwa [← List.append_nil event.received] at read
  | cons first rest ih =>
      have leaves := leave first List.mem_cons_self
      have stepped := sound_step sound first
      have limit := limit_step sound first
      have later (stillOpen : (session.step first).1.closed = false) :=
        ih stepped stillOpen fun earlier member => leave earlier (.tail first member)
      rw [List.cons_append, trace, List.filterMap_append, List.findSome?_append, received_cons]
      cases silent : first.reads with
      | false =>
          obtain ⟨stillOpen, incoming, unread, nothing, frames, cause⟩ :=
            step_between sound isOpen leaves silent
          have read := later stillOpen
          rw [incoming, unread, limit] at read
          rw [frames, cause, nothing]
          exact read
      | true =>
          obtain ⟨chunk, rfl⟩ : ∃ chunk, first = .receive chunk := by
            cases first <;> simp_all [Event.leavesOpen, Event.reads]
          have closed := closed_receive sound isOpen chunk
          have told : session.occurrences (.receive chunk) = session.arrivals chunk := by
            rw [occurrences, isOpen]
            rfl
          rw [told, frames_arrivals, cause_arrivals, Event.received, ← List.append_assoc,
            Frame.Progress.feed_append]
          cases stops : (Event.receive chunk).stop? (session.incoming.feed
              session.maxMessageSize (session.unread ++ chunk)).1.ending with
          | none =>
              rw [stops] at closed
              have read := later closed
              obtain ⟨incoming, unread⟩ := reading_receive sound isOpen chunk
              rw [incoming, unread, limit] at read
              exact ⟨congrArg (_ ++ ·) read.1, read.2⟩
          | some cause =>
              rw [stops] at closed
              obtain ⟨fault, failed⟩ := failed_of_stop stops
              rw [failed] at stops
              rw [trace_of_closed stepped closed, failed, Frame.Progress.feed_failed]
              exact ⟨rfl, stops.symm⟩

theorem receive_append {session : Session} (sound : Sound session.toRequests)
    (first second : List UInt8) :
    session.receive (first ++ second) =
      (((session.receive first).1.receive second).1,
        (session.receive first).2 ++ ((session.receive first).1.receive second).2) := by
  cases closed : session.closed with
  | true => simp [receive, closed]
  | false =>
      have stepped : Sound (session.receive first).1.toRequests :=
        sound_step sound (.receive first)
      have after := closed_receive sound closed first
      have fed := Frame.Progress.feed_append session.maxMessageSize session.incoming
        (session.unread ++ first) second
      rw [List.append_assoc] at fed
      cases stops : (Event.receive first).stop? (session.incoming.feed
          session.maxMessageSize (session.unread ++ first)).1.ending with
      | some cause =>
          -- nothing is read behind a header that is refused
          obtain ⟨fault, failed⟩ := failed_of_stop stops
          rw [failed, Frame.Progress.feed_failed, ← failed, List.append_nil] at fed
          rw [stops] at after
          have deaf : (session.receive first).1.receive second =
              ((session.receive first).1, []) := if_pos after
          have same : session.arrivals (first ++ second) = session.arrivals first := by
            rw [arrivals, arrivals, fed]
          rw [deaf, List.append_nil, receive_eq sound closed, receive_eq sound closed, same, fed]
      | none =>
          rw [stops, step, receive_eq sound closed] at after
          have one : session.receive first =
              ({ session with
                  toRequests := (session.toRequests.reactAll (session.arrivals first)).1
                  incoming := (session.incoming.feed session.maxMessageSize
                    (session.unread ++ first)).1
                  unread := [] },
                (session.toRequests.reactAll (session.arrivals first)).2) := by
            rw [receive_eq sound closed]
          have split : session.arrivals (first ++ second) =
              session.arrivals first ++ (session.receive first).1.arrivals second := by
            rw [one, arrivals_eq_found, arrivals_eq_found, arrivals_eq_found, stops, fed,
              List.map_append]
            simp [Event.stop?]
          rw [receive_eq stepped (by rw [one]; exact after), receive_eq sound closed, split, fed,
            Requests.reactAll_append, one]
          rfl

/-- Chunks that come one after the other are read as one. -/
theorem run_receives {session : Session} (sound : Sound session.toRequests)
    {chunks : List (List UInt8)} (some : chunks ≠ []) :
    session.run (chunks.map .receive) = session.step (.receive chunks.flatten) := by
  induction chunks generalizing session with
  | nil => exact absurd rfl some
  | cons first rest ih =>
      rw [List.map_cons, run_cons, List.flatten_cons]
      by_cases last : rest = []
      · subst last
        simp [run]
      · rw [ih (sound_step sound _) last]
        exact (receive_append sound first rest.flatten).symm

/-- The frames that a session reads and the end of its reading are told by the layout of the stream
alone, however it is cut and whatever happens meanwhile. -/
theorem reading_follows_layout (maxMessageSize : Nat) (serverVersion : Option String)
    (unread : List UInt8) :
    (∀ stream frames ending, Frame.Layout maxMessageSize stream frames ending ↔
      Frame.parse maxMessageSize stream = (frames, ending)) ∧
    let session := start maxMessageSize serverVersion unread
    (∀ events event, (∀ earlier ∈ events, earlier.leavesOpen = true) → event.reads = true →
      let told := session.trace (events ++ [event])
      ∃ ending, Frame.Layout maxMessageSize (unread ++ received (events ++ [event]))
          (told.filterMap Occurrence.frame?) ending ∧
        told.findSome? Occurrence.cause? = event.stop? ending) ∧
    (∀ before chunks, (session.run before).1.closed = false → chunks ≠ [] →
      let reached := (session.run before).1
      let handed := reached.toRequests.reactAll (reached.arrivals chunks.flatten)
      reached.run (chunks.map Event.receive) = reached.step (.receive chunks.flatten) ∧
        (reached.step (.receive chunks.flatten)).1.toRequests = handed.1 ∧
        (reached.step (.receive chunks.flatten)).2 = handed.2) ∧
    (∀ before event, (session.run before).1.closed = false → event.reads = true →
      let reached := (session.run before).1
      let handed := reached.toRequests.reactAll (reached.occurrences event)
      (reached.step event).1.toRequests = handed.1 ∧ (reached.step event).2 = handed.2) ∧
    (∀ before reason,
      let reached := (session.run before).1
      (reached.step (.receiveFails reason)).1.closed = true ∧
        (reached.step .endOfStream).1.closed = true) ∧
    (∀ stream frames ending count, Frame.Layout maxMessageSize stream frames ending →
      (((start maxMessageSize serverVersion []).step (.receive (stream.take count))).1.closed =
          true ↔
        (∃ fault, ending = .refused fault) ∧
          (frames.flatMap Frame.bytes).length + Frame.headerSize ≤ count)) ∧
    (∀ frames : List Frame,
      (∀ frame ∈ frames, frame.payload.size ≤ min Frame.maxPayload maxMessageSize) →
      ∃ encoded : List ByteArray, frames.map Frame.encode = encoded.map Except.ok ∧
        Frame.Layout maxMessageSize (encoded.flatMap fun bytes => bytes.data.toList) frames
          .boundary) := by
  refine ⟨fun _ _ _ => Frame.layout_iff_parse, ?_⟩
  intro session
  have sound : Sound session.toRequests := (start_correct _ _ _).toSound
  refine ⟨?_, ?_, ?_, ?_, ?_, ?_⟩
  · intro events event leave reads told
    obtain ⟨frames, cause⟩ := trace_reads sound rfl leave reads
    have parsed := Frame.Progress.feed_start_eq_parse maxMessageSize
      (unread ++ received (events ++ [event]))
    refine ⟨_, ?_, cause⟩
    rw [Frame.layout_iff_parse, ← parsed]
    exact congrArg (·, _) frames.symm
  · intro before chunks isOpen some reached handed
    have reachedSound : Sound reached.toRequests := sound_run sound before
    refine ⟨run_receives reachedSound some, ?_⟩
    rw [step, receive_eq reachedSound isOpen]
    exact ⟨rfl, rfl⟩
  · intro before event isOpen reads reached handed
    have reachedSound : Sound reached.toRequests := sound_run sound before
    have notRequest : event.isRequest = false := by cases event <;> first | rfl | cases reads
    have silent : reached.remarks event = [] := by cases event <;> first | rfl | cases reads
    rw [step_eq reachedSound event notRequest, silent]
    exact ⟨rfl, List.append_nil _⟩
  · intro before reason reached
    exact ⟨reached.closed_receiveFails reason, reached.closed_receiveFails earlyEnd⟩
  · intro stream frames ending count layout
    have closed := closed_receive (start_correct maxMessageSize serverVersion []).toSound rfl
      (stream.take count)
    have ends : ((start maxMessageSize serverVersion []).incoming.feed maxMessageSize
        (stream.take count)).1.ending = (Frame.parse maxMessageSize (stream.take count)).2 :=
      congrArg Prod.snd (Frame.Progress.feed_start_eq_parse maxMessageSize (stream.take count))
    rw [closed]
    change ((Event.receive _).stop? ((start maxMessageSize serverVersion []).incoming.feed
      maxMessageSize (stream.take count)).1.ending).isSome = true ↔ _
    rw [ends, stop_receive_isSome]
    constructor
    · rintro ⟨fault, refused⟩
      have found := (Frame.parse_take_refused layout count fault).mp refused
      exact ⟨⟨fault, found.1⟩, found.2⟩
    · rintro ⟨⟨fault, refused⟩, enough⟩
      exact ⟨fault, (Frame.parse_take_refused layout count fault).mpr ⟨refused, enough⟩⟩
  · intro frames allowed
    have fit (frame : Frame) (member : frame ∈ frames) :
        frame.payload.size ≤ Frame.maxPayload ∧ frame.payload.size ≤ maxMessageSize := by
      have both := allowed frame member
      omega
    refine ⟨frames.map Frame.wire, ?_, Frame.layout_of_wires fit⟩
    rw [List.map_map]
    exact List.map_congr_left fun frame member => Frame.encode_eq_wire (fit frame member).1

/-- Two frames and the header of one that is too long, cut inside a header and behind one. -/
def cutUp : List (List UInt8) :=
  [(Frame.header 2 1).take 5, (Frame.header 2 1).drop 5,
    [121] ++ Frame.header 1 0 ++ Frame.header 3 9 ++ [122]]

theorem reading_follows_layout_cutUp :
    (∃ fault, Frame.Layout 8 cutUp.flatten [⟨2, ⟨#[121]⟩⟩, ⟨1, ⟨#[]⟩⟩] (.refused fault)) ∧
      ((start 8 none []).run (cutUp.map Event.receive)).1.closed = true ∧
      ((start 8 none []).step (.receive (cutUp.flatten.take 36))).1.closed = false := by
  obtain ⟨_, told, handed, _, _, refusedAt, _⟩ := reading_follows_layout 8 none []
  obtain ⟨ending, layout, _⟩ := told (cutUp.dropLast.map Event.receive)
    (.receive ([121] ++ Frame.header 1 0 ++ Frame.header 3 9 ++ [122]))
    (by decide) rfl
  have found : Frame.Layout 8 cutUp.flatten [⟨2, ⟨#[121]⟩⟩, ⟨1, ⟨#[]⟩⟩] ending := layout
  have whole : ((start 8 none []).step (.receive cutUp.flatten)).1.closed = true := rfl
  obtain ⟨⟨fault, rfl⟩, _⟩ := (refusedAt _ _ _ 38 found).mp whole
  refine ⟨⟨fault, found⟩, ?_, ?_⟩
  · exact (congrArg (·.1.closed) (handed [] cutUp rfl (List.cons_ne_nil _ _)).1).trans whole
  · apply Bool.eq_false_iff.mpr
    intro early
    exact absurd ((refusedAt _ _ _ 36 found).mp early).2 (by decide)

end QueryDriver.Session
