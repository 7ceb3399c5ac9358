import QueryDriver.Proofs.Frame.Selection
import QueryDriver.Proofs.Session.Runs

/-!
Isolation. A run without the replies to all other requests, their deadlines and their abandonment
ends a request as the whole run does, closes when the whole run closes and writes the same.
-/

namespace QueryDriver

/-- Whether an occurrence would end the request with a token. -/
def Occurrence.concerns (token : UInt64) (occurrence : Occurrence) : Bool :=
  (occurrence.ending? token).isSome

theorem findSome_filter_concerns {α : Type} (token : UInt64) (read : Occurrence → Option α)
    (concerning : ∀ occurrence, (read occurrence).isSome → occurrence.concerns token = true)
    (occurrences : List Occurrence) :
    (occurrences.filter (Occurrence.concerns token)).findSome? read =
      occurrences.findSome? read := by
  induction occurrences with
  | nil => rfl
  | cons occurrence rest ih =>
      cases found : read occurrence with
      | none => cases kept : occurrence.concerns token <;> simp [kept, found, ih]
      | some result =>
          have kept := concerning occurrence (by simp [found])
          simp [kept, found]

namespace Requests

/-- Requests in which the one with a token fares alike. -/
structure Alike (token : UInt64) (whole part : Requests) : Prop where
  wholeSound : Sound whole
  partSound : Sound part
  nextToken : part.nextToken = whole.nextToken
  closed : part.closed = whole.closed
  waits : token ∈ part.waiting ↔ token ∈ whole.waiting

/-- Occurrences that do not concern a request make no difference to it. -/
theorem Alike.reactAll {token : UInt64} {whole part : Requests} (alike : Alike token whole part)
    {all some : List Occurrence}
    (same : some.filter (Occurrence.concerns token) = all.filter (Occurrence.concerns token)) :
    Alike token (whole.reactAll all).1 (part.reactAll some).1 ∧
      endings token (part.reactAll some).2 = endings token (whole.reactAll all).2 := by
  have wholeSound := alike.wholeSound
  have partSound := alike.partSound
  have alone {α : Type} (read : Occurrence → Option α)
      (concerning : ∀ occurrence, (read occurrence).isSome → occurrence.concerns token = true) :
      some.findSome? read = all.findSome? read := by
    rw [← findSome_filter_concerns token read concerning some, same,
      findSome_filter_concerns token read concerning all]
  have ends := alone (Occurrence.ending? token) fun _ found => found
  have closes := alone Occurrence.cause? fun occurrence found => by
    cases occurrence <;> simp_all [Occurrence.cause?, Occurrence.concerns, Occurrence.ending?]
  refine ⟨⟨wholeSound.reactAll _, partSound.reactAll _, ?_, ?_, ?_⟩, ?_⟩
  · rw [(partSound.reactAll_shrinks _).1, (wholeSound.reactAll_shrinks _).1, alike.nextToken]
  · rw [partSound.closed_reactAll, wholeSound.closed_reactAll, closes, alike.closed]
  · rw [partSound.mem_waiting_reactAll, wholeSound.mem_waiting_reactAll, ends, alike.waits]
  · rw [partSound.endings_reactAll, wholeSound.endings_reactAll, ends]
    simp [alike.waits]

theorem Alike.register {token : UInt64} {whole part : Requests} (alike : Alike token whole part)
    (isOpen : whole.closed = false) : Alike token whole.register part.register := by
  refine ⟨alike.wholeSound.register isOpen, alike.partSound.register (alike.closed.trans isOpen),
    ?_, alike.closed, ?_⟩
  · simp [Requests.register, alike.nextToken]
  · simp [Requests.register, alike.nextToken, alike.waits]

theorem Alike.leave {token : UInt64} {whole part : Requests} (alike : Alike token whole part)
    (other : UInt64) : Alike token (whole.leave other) (part.leave other) := by
  refine ⟨alike.wholeSound.leave other, alike.partSound.leave other, alike.nextToken,
    alike.closed, ?_⟩
  rw [mem_waiting_leave, mem_waiting_leave, alike.waits]

end Requests

namespace Session

open Requests (Sound Alike)

def received (events : List Event) : List UInt8 :=
  events.flatMap Event.received

theorem received_cons (event : Event) (rest : List Event) :
    received (event :: rest) = event.received ++ received rest := rfl

/-- Whether an event is the deadline or the abandonment of another request, whose frame is queued. A
caller who withdraws before that takes the frame along, which the peer may notice. -/
def Event.foreign (token : UInt64) : Event → Bool
  | .expire other | .abandon other => other != token
  | _ => false

theorem Event.received_of_foreign {token : UInt64} {event : Event}
    (foreign : event.foreign token = true) : event.received = [] := by
  cases event <;> simp_all [Event.foreign, Event.received]

/-- An event of which only some bytes are left. -/
def Event.select (marks : List Bool) : Event → Event
  | .receive chunk => .receive (Frame.select marks chunk)
  | event => event

theorem Event.receives_or_not (event : Event) :
    (∃ chunk, event = .receive chunk) ∨
      (∀ chunk, event ≠ .receive chunk) ∧ event.received = [] ∧
        ∀ marks, event.select marks = event := by
  cases event with
  | receive chunk => exact .inl ⟨chunk, rfl⟩
  | _ => exact .inr ⟨by simp, rfl, fun _ => rfl⟩

/-- A run without the deadlines and the abandonment of all other requests. The marks say which bytes
from the server are left. -/
def isolate (token : UInt64) (marks : List Bool) : List Event → List Event
  | [] => []
  | event :: rest =>
      let later := isolate token (marks.drop event.received.length) rest
      if event.foreign token then later else event.select marks :: later

theorem isolate_append (token : UInt64) (marks : List Bool) (before after : List Event) :
    isolate token marks (before ++ after) =
      isolate token marks before ++
        isolate token (marks.drop (received before).length) after := by
  induction before generalizing marks with
  | nil => rfl
  | cons event rest ih =>
      simp only [List.cons_append, isolate, ih, received_cons, List.length_append, List.drop_drop]
      split <;> rfl

theorem received_isolate (token : UInt64) {marks : List Bool} {events : List Event}
    (enough : (received events).length ≤ marks.length) :
    received (isolate token marks events) = Frame.select marks (received events) := by
  induction events generalizing marks with
  | nil => exact (Frame.select_nil marks).symm
  | cons event rest ih =>
      rw [received_cons, List.length_append] at enough
      have later : received (isolate token (marks.drop event.received.length) rest) = _ :=
        ih (by
          rw [List.length_drop]
          omega)
      rw [received_cons, Frame.select_append _ _ _ (by omega), ← later, isolate]
      split
      · rename_i foreign
        rw [Event.received_of_foreign foreign, Frame.select_nil]
        rfl
      · rw [received_cons]
        congr 1
        rcases event.receives_or_not with ⟨chunk, rfl⟩ | ⟨_, empty, untouched⟩
        · rfl
        · rw [untouched, empty, Frame.select_nil]

/-- Where two sessions read, if the whole frames of other tokens never come to the second. Such a
frame may be incomplete in the first. -/
structure ReadsAlike (token : UInt64) (coming : List UInt8) (whole part : Session) : Prop where
  incoming : part.incoming =
    whole.incoming.skip token whole.maxMessageSize (whole.unread ++ coming)
  unread : part.unread =
    Frame.select (whole.incoming.kept token whole.maxMessageSize (whole.unread ++ coming))
      whole.unread

/-- Two sessions with the same frames to be queued and written. -/
structure FramesAlike (whole part : Session) : Prop where
  closed : part.closed = whole.closed
  unsent : part.unsent = whole.unsent
  queue : part.queue = whole.queue
  writerEnded : part.writerEnded = whole.writerEnded

/-- Two sessions between which the request with a token cannot tell. -/
structure Isolated (token : UInt64) (coming : List UInt8) (whole part : Session) : Prop where
  alike : Alike token whole.toRequests part.toRequests
  limit : part.maxMessageSize = whole.maxMessageSize
  frames : FramesAlike whole part
  reading : whole.closed = false → ReadsAlike token coming whole part

/-- Notices that tell the same of a request and of the connection. -/
structure TellAlike (token : UInt64) (whole part : List Notice) : Prop where
  endings : endings token part = endings token whole
  registrations : registrations part = registrations whole
  writes : writes part = writes whole
  unsents : unsents part = unsents whole

/-- Which of the bytes still to come are left. -/
def marks (token : UInt64) (session : Session) (coming : List UInt8) : List Bool :=
  (session.incoming.kept token session.maxMessageSize (session.unread ++ coming)).drop
    session.unread.length

section

variable {token : UInt64} {whole part : Session}

theorem Isolated.feed {chunk rest : List UInt8}
    (isolated : Isolated token (chunk ++ rest) whole part) (isOpen : whole.closed = false) :
    part.incoming.feed part.maxMessageSize
        (part.unread ++ Frame.select (whole.marks token (chunk ++ rest)) chunk) =
      let read := whole.incoming.feed whole.maxMessageSize (whole.unread ++ chunk)
      (read.1.skip token whole.maxMessageSize rest,
        read.2.filter fun frame => frame.token = token) := by
  rw [(isolated.reading isOpen).incoming, (isolated.reading isOpen).unread, isolated.limit, marks,
    ← Frame.select_append _ _ _ (by simp [Frame.Progress.length_kept]), ← List.append_assoc]
  exact Frame.Progress.feed_select token whole.maxMessageSize whole.incoming
    (whole.unread ++ chunk) rest

/-- Of a chunk that is left in part only the occurrences that concern the request are left. -/
theorem Isolated.arrivals {chunk rest : List UInt8}
    (isolated : Isolated token (chunk ++ rest) whole part) (isOpen : whole.closed = false) :
    part.arrivals (Frame.select (whole.marks token (chunk ++ rest)) chunk) =
      (whole.arrivals chunk).filter (Occurrence.concerns token) := by
  have concerning (frames : List Frame) :
      (frames.filter fun frame => frame.token = token).map Occurrence.arrived =
        (frames.map Occurrence.arrived).filter (Occurrence.concerns token) := by
    rw [List.filter_map]
    congr 2
    funext frame
    by_cases same : frame.token = token <;>
      simp [Occurrence.concerns, Occurrence.ending?, same]
  rw [Session.arrivals, isolated.feed isOpen, Session.arrivals, List.filter_append]
  cases whole.incoming.feed whole.maxMessageSize (whole.unread ++ chunk) with
  | mk incoming frames =>
      simp only [concerning]
      congr 1
      cases incoming with
      | failed fault =>
          rw [Frame.Progress.skip_failed]
          rfl
      | header found =>
          rw [Frame.Progress.skip]
          cases (Frame.Progress.header found).foreign token whole.maxMessageSize rest <;> rfl
      | payload other missing found =>
          rw [Frame.Progress.skip]
          cases (Frame.Progress.payload other missing found).foreign token whole.maxMessageSize
            rest <;> rfl

theorem FramesAlike.holds (frames : FramesAlike whole part) (other : UInt64) :
    part.holds other = whole.holds other := by
  rw [Session.holds, frames.unsent]
  rfl

theorem FramesAlike.enqueue (frames : FramesAlike whole part) (other : UInt64) :
    (part.enqueue other).1.unsent = (whole.enqueue other).1.unsent ∧
      (part.enqueue other).1.queue = (whole.enqueue other).1.queue ∧
      (part.enqueue other).2 = (whole.enqueue other).2 := by
  rw [Session.enqueue, Session.enqueue, frames.unsent]
  cases whole.unsent.find? fun unsent => unsent.frame.token = other with
  | none => exact ⟨frames.unsent, frames.queue, rfl⟩
  | some unsent =>
      cases gone : whole.closed && whole.writerEnded <;>
        by_cases hasRoom : whole.queue.length < queueLimit <;>
          simp [offer, release, frames.closed, frames.unsent, frames.queue, frames.writerEnded,
            gone, hasRoom]

/-- What an event that is no request does with frames depends on the frames alone. -/
theorem FramesAlike.after (frames : FramesAlike whole part) (event : Event) :
    part.unsentAfter event = whole.unsentAfter event ∧
      part.queueAfter event = whole.queueAfter event ∧
      part.writerEndedAfter event = whole.writerEndedAfter event ∧
      part.remarks event = whole.remarks event := by
  cases event with
  | enqueue other =>
      obtain ⟨unsent, queue, told⟩ := frames.enqueue other
      exact ⟨unsent, queue, frames.writerEnded, told⟩
  | withdraw other =>
      refine ⟨?_, frames.queue, frames.writerEnded, rfl⟩
      simp only [unsentAfter, release, frames.unsent]
  | transmit =>
      simp only [unsentAfter, queueAfter, writerEndedAfter, remarks, frames.closed, frames.unsent,
        frames.queue, frames.writerEnded, and_self]
  | writerEnds =>
      refine ⟨frames.unsent, frames.queue, ?_, rfl⟩
      simp only [writerEndedAfter, frames.closed, frames.writerEnded]
  | _ => exact ⟨frames.unsent, frames.queue, frames.writerEnded, rfl⟩

theorem Isolated.occurrences {event : Event} {coming : List UInt8} {marks : List Bool}
    (isolated : Isolated token (event.received ++ coming) whole part)
    (suited : whole.closed = false → marks = whole.marks token (event.received ++ coming)) :
    (part.occurrences (event.select marks)).filter (Occurrence.concerns token) =
      (whole.occurrences event).filter (Occurrence.concerns token) := by
  by_cases isClosed : whole.closed = true
  · rw [occurrences_of_closed isClosed,
      occurrences_of_closed (isolated.alike.closed.trans isClosed)]
  have isOpen : whole.closed = false := by simpa using isClosed
  have partOpen : part.closed = false := isolated.alike.closed.trans isOpen
  have twice (chunk : List UInt8) :
      ((whole.arrivals chunk).filter (Occurrence.concerns token)).filter
          (Occurrence.concerns token) =
        (whole.arrivals chunk).filter (Occurrence.concerns token) := by
    simp only [List.filter_filter, Bool.and_self]
  rw [suited isOpen]
  simp only [Session.occurrences, isOpen, partOpen, Bool.false_eq_true, if_false]
  cases event with
  | transmitFails reason => simp only [Event.select, isolated.frames.queue]
  | receive chunk =>
      have read := isolated.arrivals isOpen
      simp only [Event.select, Event.received] at read ⊢
      rw [read, twice]
  | receiveFails reason =>
      have read := isolated.arrivals isOpen
      simp only [Event.received, Frame.select_nil] at read
      simp only [Event.select, List.filter_append, read, twice]
  | endOfStream =>
      have read := isolated.arrivals isOpen
      simp only [Event.received, Frame.select_nil] at read
      simp only [Event.select, List.filter_append, read, twice]
  | withdraw other => simp only [Event.select, isolated.frames.holds]
  | expire other => simp only [Event.select, isolated.frames.holds]
  | abandon other => simp only [Event.select, isolated.frames.holds]
  | _ => rfl

theorem occurrences_foreign {event : Event} (foreign : event.foreign token = true) :
    (whole.occurrences event).filter (Occurrence.concerns token) = [] := by
  by_cases isClosed : whole.closed = true
  · rw [occurrences_of_closed isClosed]
    rfl
  simp only [Session.occurrences, isClosed]
  cases event <;> simp_all [Event.foreign, Occurrence.concerns, Occurrence.ending?]

theorem Isolated.request {coming : List UInt8} (isolated : Isolated token coming whole part)
    {event : Event} {payload : ByteArray} (request : event.payload? = some payload) :
    Alike token (whole.step event).1.toRequests (part.step event).1.toRequests ∧
      FramesAlike (whole.step event).1 (part.step event).1 ∧
      (part.step event).2 = (whole.step event).2 := by
  have alike := isolated.alike
  have frames := isolated.frames
  rcases whole.request_cases request with
    ⟨isClosed, result⟩ | ⟨isOpen, fits, unsent, same, result⟩ | ⟨isOpen, large, result⟩
  · rw [result, request_of_closed (alike.closed.trans isClosed) request]
    exact ⟨alike, frames, rfl⟩
  · obtain ⟨other, again, others⟩ := request_of_fits (alike.closed.trans isOpen) fits request
    have one : other = unsent := unsent_eq (by rw [again, same, alike.nextToken])
    have atOnce : part.queuesAtOnce event = whole.queuesAtOnce event := by
      cases event <;> simp [queuesAtOnce, frames.queue]
    rw [result, others, one, atOnce, frames.unsent, frames.queue, alike.nextToken]
    exact ⟨alike.register isOpen, ⟨alike.closed, rfl, rfl, frames.writerEnded⟩, rfl⟩
  · rw [result, request_of_large (alike.closed.trans isOpen) large request, alike.nextToken]
    exact ⟨(alike.register isOpen).leave whole.nextToken,
      ⟨alike.closed, frames.unsent, frames.queue, frames.writerEnded⟩, rfl⟩

theorem Isolated.reading_stays {event : Event} {coming : List UInt8}
    (isolated : Isolated token coming whole part)
    (stillOpen : (whole.step event).1.closed = false)
    (nothing : ∀ chunk, event ≠ .receive chunk) :
    ReadsAlike token coming (whole.step event).1 part := by
  have sound := isolated.alike.wholeSound
  have reads := isolated.reading (closed_of_step sound stillOpen)
  obtain ⟨incoming, unread⟩ := Session.reading_stays sound stillOpen nothing
  constructor
  · rw [incoming, unread, limit_step sound, reads.incoming]
  · rw [incoming, unread, limit_step sound, reads.unread]

theorem Isolated.reading_step {event : Event} {coming : List UInt8}
    (isolated : Isolated token (event.received ++ coming) whole part)
    (isOpen : whole.closed = false) (stillOpen : (whole.step event).1.closed = false)
    (partOpen : (part.step
      (event.select (whole.marks token (event.received ++ coming)))).1.closed = false) :
    ReadsAlike token coming (whole.step event).1
      (part.step (event.select (whole.marks token (event.received ++ coming)))).1 := by
  have sound := isolated.alike.wholeSound
  have partSound := isolated.alike.partSound
  rcases event.receives_or_not with ⟨chunk, rfl⟩ | ⟨nothing, empty, untouched⟩
  · obtain ⟨wholeIncoming, wholeUnread⟩ := reading_receive sound isOpen chunk
    obtain ⟨partIncoming, partUnread⟩ :=
      reading_receive partSound (isolated.alike.closed.trans isOpen)
        (Frame.select (whole.marks token (chunk ++ coming)) chunk)
    have read := isolated.feed isOpen
    simp only [Event.select, Event.received] at read ⊢
    constructor
    · rw [limit_step sound, partIncoming, wholeIncoming, wholeUnread, read, List.nil_append]
    · rw [partUnread, wholeUnread, Frame.select_nil]
  · rw [untouched] at partOpen ⊢
    rw [empty, List.nil_append] at isolated
    obtain ⟨incoming, unread⟩ := Session.reading_stays partSound partOpen nothing
    have reads := isolated.reading_stays stillOpen nothing
    exact ⟨incoming.trans reads.incoming, unread.trans reads.unread⟩

theorem Isolated.step_own {event : Event} {coming : List UInt8} {marks : List Bool}
    (isolated : Isolated token (event.received ++ coming) whole part)
    (suited : whole.closed = false → marks = whole.marks token (event.received ++ coming)) :
    Isolated token coming (whole.step event).1 (part.step (event.select marks)).1 ∧
      TellAlike token (whole.step event).2 (part.step (event.select marks)).2 := by
  have sound := isolated.alike.wholeSound
  have partSound := isolated.alike.partSound
  have request : (event.select marks).isRequest = event.isRequest := by cases event <;> rfl
  have fares : Alike token (whole.step event).1.toRequests
        (part.step (event.select marks)).1.toRequests ∧
      FramesAlike (whole.step event).1 (part.step (event.select marks)).1 ∧
      endings token (part.step (event.select marks)).2 = endings token (whole.step event).2 ∧
      writes (part.step (event.select marks)).2 = writes (whole.step event).2 ∧
      unsents (part.step (event.select marks)).2 = unsents (whole.step event).2 := by
    rcases event.request_or_not with ⟨payload, made⟩ | notRequest
    · have own : event.select marks = event := by cases event <;> first | rfl | cases made
      obtain ⟨alike, frames, told⟩ := isolated.request made
      rw [own, told]
      exact ⟨alike, frames, rfl, rfl, rfl⟩
    · obtain ⟨alike, endings⟩ := isolated.alike.reactAll (isolated.occurrences suited)
      have untouched : part.unsentAfter (event.select marks) = part.unsentAfter event ∧
          part.queueAfter (event.select marks) = part.queueAfter event ∧
          part.writerEndedAfter (event.select marks) = part.writerEndedAfter event ∧
          part.remarks (event.select marks) = part.remarks event := by
        cases event <;> exact ⟨rfl, rfl, rfl, rfl⟩
      obtain ⟨unsent, queue, ended, remarked⟩ := isolated.frames.after event
      rw [writes_step sound, writes_step partSound, unsents_step sound, unsents_step partSound,
        step_eq sound event notRequest,
        step_eq partSound (event.select marks) (request.trans notRequest), untouched.1,
        untouched.2.1, untouched.2.2.1, untouched.2.2.2, unsent, queue, ended, remarked]
      refine ⟨alike, ⟨alike.closed, rfl, rfl, rfl⟩, ?_, rfl, rfl⟩
      rw [endings_append, endings_append, endings]
  obtain ⟨alike, frames, endings, writes, unsents⟩ := fares
  refine ⟨⟨alike, ?_, frames, ?_⟩, endings, ?_, writes, unsents⟩
  · rw [limit_step sound, limit_step partSound, isolated.limit]
  · intro stillOpen
    have isOpen := closed_of_step sound stillOpen
    have partOpen := alike.closed.trans stillOpen
    rw [suited isOpen] at partOpen ⊢
    exact isolated.reading_step isOpen stillOpen partOpen
  · rw [registrations_step sound, registrations_step partSound, request,
      isolated.alike.closed, isolated.alike.nextToken]

theorem Isolated.step_foreign {event : Event} {coming : List UInt8}
    (isolated : Isolated token (event.received ++ coming) whole part)
    (foreign : event.foreign token = true) :
    Isolated token coming (whole.step event).1 part ∧ TellAlike token (whole.step event).2 [] := by
  have sound := isolated.alike.wholeSound
  have notRequest : event.isRequest = false := by
    cases event <;> first | rfl | cases foreign
  have silent : whole.remarks event = [] := by cases event <;> first | rfl | cases foreign
  have untouched : whole.unsentAfter event = whole.unsent ∧
      whole.queueAfter event = whole.queue ∧
      whole.writerEndedAfter event = whole.writerEnded := by
    cases event <;> first | exact ⟨rfl, rfl, rfl⟩ | cases foreign
  have nothing : ∀ chunk, event ≠ .receive chunk := by
    cases event <;> simp_all [Event.foreign]
  have nobody : ([] : List Occurrence).filter (Occurrence.concerns token) =
      (whole.occurrences event).filter (Occurrence.concerns token) :=
    (occurrences_foreign foreign).symm
  obtain ⟨alike, endings⟩ := isolated.alike.reactAll nobody
  have limit := isolated.limit
  have frames := isolated.frames
  rw [Event.received_of_foreign foreign, List.nil_append] at isolated
  refine ⟨⟨?_, ?_, ?_, ?_⟩, ?_, ?_, ?_, ?_⟩
  · rw [step_eq sound event notRequest]
    exact alike
  · rw [limit_step sound, limit]
  · rw [step_eq sound event notRequest, untouched.1, untouched.2.1, untouched.2.2]
    exact ⟨alike.closed, frames.unsent, frames.queue, frames.writerEnded⟩
  · exact fun stillOpen => isolated.reading_stays stillOpen nothing
  · rw [step_eq sound event notRequest, silent]
    simp only [List.append_nil]
    exact endings
  · simp [registrations_step sound, notRequest]
  · simp [writes_step sound, silent]
  · simp [unsents_step sound, silent]

theorem marks_step {event : Event} {coming : List UInt8} (sound : Sound whole.toRequests)
    (stillOpen : (whole.step event).1.closed = false) :
    (whole.step event).1.marks token coming =
      (whole.marks token (event.received ++ coming)).drop event.received.length := by
  rcases event.receives_or_not with ⟨chunk, rfl⟩ | ⟨nothing, empty, _⟩
  · obtain ⟨incoming, unread⟩ := reading_receive sound (closed_of_step sound stillOpen) chunk
    have dropped := Frame.Progress.drop_kept token whole.maxMessageSize whole.incoming
      (whole.unread ++ chunk) coming
    rw [List.append_assoc, List.length_append, ← List.drop_drop] at dropped
    rw [marks, limit_step sound, incoming, unread, Event.received, marks, dropped]
    rfl
  · obtain ⟨incoming, unread⟩ := Session.reading_stays sound stillOpen nothing
    rw [marks, incoming, unread, limit_step sound, empty]
    rfl

theorem TellAlike.append {wholeFirst partFirst wholeLater partLater : List Notice}
    (first : TellAlike token wholeFirst partFirst) (later : TellAlike token wholeLater partLater) :
    TellAlike token (wholeFirst ++ wholeLater) (partFirst ++ partLater) := by
  constructor
  · rw [endings_append, endings_append, first.endings, later.endings]
  · rw [registrations_append, registrations_append, first.registrations, later.registrations]
  · rw [writes_append, writes_append, first.writes, later.writes]
  · rw [unsents_append, unsents_append, first.unsents, later.unsents]

theorem Isolated.run {events : List Event} {coming : List UInt8} {marks : List Bool}
    (isolated : Isolated token (received events ++ coming) whole part)
    (suited : whole.closed = false → marks = whole.marks token (received events ++ coming)) :
    Isolated token coming (whole.run events).1 (part.run (isolate token marks events)).1 ∧
      TellAlike token (whole.run events).2 (part.run (isolate token marks events)).2 := by
  induction events generalizing whole part marks with
  | nil => exact ⟨isolated, rfl, rfl, rfl, rfl⟩
  | cons event rest ih =>
      rw [received_cons, List.append_assoc] at isolated suited
      have left : (whole.step event).1.closed = false →
          marks.drop event.received.length =
            (whole.step event).1.marks token (received rest ++ coming) := by
        intro stillOpen
        have sound := isolated.alike.wholeSound
        rw [suited (closed_of_step sound stillOpen), marks_step sound stillOpen]
      rw [run_cons, isolate]
      cases foreign : event.foreign token with
      | true =>
          have stepped := isolated.step_foreign foreign
          have later := ih stepped.1 left
          exact ⟨later.1, stepped.2.append later.2⟩
      | false =>
          have stepped := isolated.step_own suited
          have later := ih stepped.1 left
          exact ⟨later.1, stepped.2.append later.2⟩

end

end Session

end QueryDriver
