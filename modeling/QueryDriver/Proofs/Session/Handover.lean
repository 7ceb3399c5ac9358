import QueryDriver.Proofs.Handshake.Success
import QueryDriver.Proofs.Session.Reading
import QueryDriver.Session.Establish

/-!
Where a handshake hands over to the session. Bytes that arrive together with the end of the
handshake are the first that the session reads, so it is as if they came on a new connection with
the first reading.
-/

namespace QueryDriver

open Handshake (AuthReply IsFrame Negotiation VersionReply encode)

namespace Handshake.Negotiation

variable {functions : Hash.Functions} {username password nonce : String}

theorem receive_of_over {negotiation : Negotiation} {outcome : Except ClientError Unit}
    (isOver : negotiation.result = some outcome) (chunk : List UInt8) :
    negotiation.receive functions chunk = negotiation.arrive chunk := by
  have still : (negotiation.arrive chunk).result = some outcome := isOver
  exact repeat_fixed (move_of_over still) moveCount

theorem frames_of_succeeded {handshake : List UInt8}
    (succeeded : ((start (.new username password nonce)).receive functions handshake).result =
      some (.ok ()))
    (whole : ((start (.new username password nonce)).receive functions handshake).unread = []) :
    ∃ versionFrame firstFrame finalFrame,
      handshake = versionFrame ++ firstFrame ++ finalFrame ∧
        IsFrame versionFrame ∧ IsFrame firstFrame ∧ IsFrame finalFrame := by
  have fares : Fares functions username password nonce handshake
      ((start (.new username password nonce)).receive functions handshake) :=
    (Fares.start.arrive handshake).settle
  cases fares with
  | going result _ _ =>
      rw [succeeded] at result
      cases result
  | failed result _ _ =>
      rw [succeeded] at result
      cases result
  | succeeded _ stage progress =>
      rw [whole] at progress
      obtain ⟨_, _, _, finalFrame, _, before, last, _⟩ := progress.serverFinal stage
      obtain ⟨firstFrame, ⟨versionFrame, same, agreed⟩, given, _⟩ := before
      refine ⟨versionFrame, firstFrame, finalFrame, ?_, agreed.1, given.1, last.1⟩
      rw [same, List.append_nil, List.append_assoc]

theorem going_before_whole {attempt : Attempt} {handshake heard more : List UInt8}
    (whole : ((start attempt).receive functions handshake).unread = [])
    (split : handshake = heard ++ more) (missing : more ≠ []) :
    ((start attempt).receive functions heard).result = none := by
  cases result : ((start attempt).receive functions heard).result with
  | none => rfl
  | some outcome =>
      -- a handshake that was over would leave the missing bytes unread
      rw [split, ← receive_receive, receive_of_over result] at whole
      exact absurd (List.append_eq_nil_iff.mp whole).2 missing

end Handshake.Negotiation

namespace Session

open Requests (Sound)

/-- A session with bytes that had arrived before it began. -/
def holding (session : Session) (begun : List UInt8) : Session :=
  { session with unread := begun }

/-- What an event that reads is when bytes arrive just before it. -/
def Event.behind (begun : List UInt8) : Event → List Event
  | .receive chunk => [.receive (begun ++ chunk)]
  | event => [.receive begun, event]

/-- The same events where bytes arrive with the first reading. -/
def delivering (begun : List UInt8) : List Event → List Event
  | [] => []
  | event :: rest =>
      if event.reads then event.behind begun ++ rest else event :: delivering begun rest

theorem request_holding (session : Session) (begun : List UInt8) {event : Event}
    {payload : ByteArray} (request : event.payload? = some payload) :
    (session.holding begun).step event =
      ((session.step event).1.holding begun, (session.step event).2) := by
  have atOnce : (session.holding begun).queuesAtOnce event = session.queuesAtOnce event := by
    cases event <;> rfl
  have closed : (session.holding begun).closed = session.closed := rfl
  rcases session.request_cases request with
    ⟨isClosed, result⟩ | ⟨isOpen, fits, unsent, same, result⟩ | ⟨isOpen, large, result⟩
  · rw [request_of_closed (closed.trans isClosed) request, result]
  · obtain ⟨other, again, holding⟩ := request_of_fits (closed.trans isOpen) fits request
    have one : other = unsent := unsent_eq (again.trans same.symm)
    rw [holding, result, one, atOnce]
    rfl
  · rw [request_of_large (closed.trans isOpen) large request, result]
    rfl

theorem enqueue_holding (session : Session) (begun : List UInt8) (token : UInt64) :
    (session.holding begun).enqueue token =
      ((session.enqueue token).1.holding begun, (session.enqueue token).2) := by
  have frames : FramesAlike session (session.holding begun) := ⟨rfl, rfl, rfl, rfl⟩
  obtain ⟨unsent, queue, _, told⟩ := frames.after (.enqueue token)
  rw [enqueue_eq, enqueue_eq, unsent, queue, told]
  rfl

theorem step_holding (session : Session) (begun : List UInt8) {event : Event}
    (silent : event.reads = false) :
    (session.holding begun).step event =
      ((session.step event).1.holding begun, (session.step event).2) := by
  have held (token : UInt64) : (session.holding begun).holds token = session.holds token := rfl
  cases event with
  | dispatch payload => exact request_holding session begun rfl
  | register payload => exact request_holding session begun rfl
  | enqueue token => exact enqueue_holding session begun token
  | withdraw token =>
      simp only [step, withdraw, held]
      cases session.holds token <;> rfl
  | transmit =>
      simp only [step, transmit_eq]
      rfl
  | transmitFails reason =>
      simp only [step, transmitFails_eq, closeWith_eq, holding]
      cases session.queue.isEmpty <;> rfl
  | receive chunk => cases silent
  | receiveFails reason => cases silent
  | endOfStream => cases silent
  | expire token =>
      simp only [step, held]
      cases session.holds token <;> rfl
  | abandon token =>
      simp only [step, held]
      cases session.holds token <;> rfl
  | _ => rfl

theorem unread_step (session : Session) {event : Event} (silent : event.reads = false) :
    (session.step event).1.unread = session.unread := by
  have same := step_holding session session.unread silent
  exact congrArg (·.1.unread) same

theorem receive_holding {session : Session} (sound : Sound session.toRequests)
    (isOpen : session.closed = false) (nothing : session.unread = []) (begun chunk : List UInt8) :
    (session.holding begun).receive chunk = session.receive (begun ++ chunk) := by
  have bytes : session.unread ++ (begun ++ chunk) = begun ++ chunk := by
    rw [nothing, List.nil_append]
  have told : (session.holding begun).arrivals chunk = session.arrivals (begun ++ chunk) := by
    rw [arrivals, arrivals, bytes]
    rfl
  have soundHolding : Sound (session.holding begun).toRequests := sound
  have openHolding : (session.holding begun).closed = false := isOpen
  rw [receive_eq soundHolding openHolding, receive_eq sound isOpen, told, bytes]
  rfl

theorem receive_nothing {session : Session} (sound : Sound session.toRequests)
    (chunk : List UInt8) :
    (session.receive chunk).1.receive [] = ((session.receive chunk).1, []) := by
  have twice := receive_append sound chunk []
  rw [List.append_nil] at twice
  have state := congrArg Prod.fst twice
  have notices := congrArg Prod.snd twice
  exact Prod.ext state.symm (List.append_cancel_left (notices.symm.trans (List.append_nil _).symm))

theorem step_reading {session : Session} (sound : Sound session.toRequests)
    (isOpen : session.closed = false) (nothing : session.unread = []) (begun : List UInt8)
    {event : Event} (reads : event.reads = true) :
    (session.holding begun).step event = session.run (event.behind begun) := by
  have failing (reason : String) : (session.holding begun).receiveFails reason =
      session.run [.receive begun, .receiveFails reason] := by
    have first := receive_holding sound isOpen nothing begun []
    rw [List.append_nil] at first
    simp only [run, step, receiveFails, first, receive_nothing sound begun, List.nil_append,
      List.append_nil]
  cases event with
  | receive chunk =>
      rw [Event.behind, run_cons, run, List.append_nil]
      exact receive_holding sound isOpen nothing begun chunk
  | receiveFails reason => exact failing reason
  | endOfStream => exact failing earlyEnd
  | _ => cases reads

theorem step_reading_of_closed {session : Session} (isClosed : session.closed = true)
    {event : Event} (reads : event.reads = true) : session.step event = (session, []) := by
  have deaf (chunk : List UInt8) : session.receive chunk = (session, []) := if_pos isClosed
  have again (error : ClientError) : session.closeWith error = (session, []) := by
    simp [closeWith_eq, Requests.closeWith, isClosed]
  cases event with
  | receive chunk => exact deaf chunk
  | receiveFails reason => simp only [step, receiveFails, deaf, again, List.append_nil]
  | endOfStream => simp only [step, receiveFails, deaf, again, List.append_nil]
  | _ => cases reads

theorem run_behind_of_closed {session : Session} (isClosed : session.closed = true)
    (begun : List UInt8) {event : Event} (reads : event.reads = true) :
    session.run (event.behind begun) = (session, []) := by
  have deaf (other : Event) (reading : other.reads = true) : session.step other = (session, []) :=
    step_reading_of_closed isClosed reading
  cases event with
  | receive chunk => simp only [Event.behind, run, deaf (.receive (begun ++ chunk)) rfl]; rfl
  | receiveFails reason =>
      simp only [Event.behind, run, deaf (.receive begun) rfl, deaf (.receiveFails reason) rfl]
      rfl
  | endOfStream =>
      simp only [Event.behind, run, deaf (.receive begun) rfl, deaf .endOfStream rfl]
      rfl
  | _ => cases reads

theorem run_holding_of_closed {session : Session} (sound : Sound session.toRequests)
    (isClosed : session.closed = true) (begun : List UInt8) (events : List Event) :
    (session.holding begun).run events =
      ((session.run events).1.holding begun, (session.run events).2) := by
  induction events generalizing session with
  | nil => rfl
  | cons event rest ih =>
      rw [run_cons, run_cons]
      cases reads : event.reads with
      | true =>
          have closedHolding : (session.holding begun).closed = true := isClosed
          rw [step_reading_of_closed closedHolding reads, step_reading_of_closed isClosed reads,
            ih sound isClosed]
      | false =>
          have stays := closed_step sound isClosed event
          rw [step_holding session begun reads, ih (sound_step sound event) stays]

/-- Bytes that had arrived before a session began make no difference to bytes that come with the
first reading. -/
theorem run_holding {session : Session} (sound : Sound session.toRequests)
    (nothing : session.unread = []) (begun : List UInt8) (events : List Event) :
    ((session.holding begun).run events).2 = (session.run (delivering begun events)).2 ∧
      ((session.holding begun).run events).1.toRequests =
        (session.run (delivering begun events)).1.toRequests := by
  induction events generalizing session with
  | nil => exact ⟨rfl, rfl⟩
  | cons event rest ih =>
      cases reads : event.reads with
      | false =>
          have later := ih (sound_step sound event) ((unread_step session reads).trans nothing)
          simp only [delivering, reads, Bool.false_eq_true, if_false]
          rw [run_cons, run_cons, step_holding session begun reads]
          exact ⟨congrArg (_ ++ ·) later.1, later.2⟩
      | true =>
          simp only [delivering, reads, if_true]
          rw [run_append]
          cases isClosed : session.closed with
          | false =>
              rw [run_cons, step_reading sound isClosed nothing begun reads]
              exact ⟨rfl, rfl⟩
          | true =>
              have deaf := step_reading_of_closed isClosed reads
              rw [run_behind_of_closed isClosed begun reads,
                run_holding_of_closed sound isClosed, run_cons, deaf]
              exact ⟨rfl, rfl⟩

theorem start_eq_holding (maxMessageSize : Nat) (serverVersion : Option String)
    (begun : List UInt8) :
    start maxMessageSize serverVersion begun =
      (start maxMessageSize serverVersion []).holding begun :=
  rfl

theorem start_reads (maxMessageSize : Nat) (serverVersion : Option String) (begun : List UInt8)
    {events : List Event} {event : Event}
    (leave : ∀ earlier ∈ events, earlier.leavesOpen = true) (reads : event.reads = true) :
    let told := (start maxMessageSize serverVersion begun).trace (events ++ [event])
    let stream := Frame.parse maxMessageSize (begun ++ received (events ++ [event]))
    told.filterMap Occurrence.frame? = stream.1 ∧
      told.findSome? Occurrence.cause? = event.stop? stream.2 := by
  intro told stream
  have parsed := Frame.Progress.feed_start_eq_parse maxMessageSize
    (begun ++ received (events ++ [event]))
  obtain ⟨frames, cause⟩ :=
    trace_reads (start_correct maxMessageSize serverVersion begun).toSound rfl leave reads
  exact ⟨frames.trans (congrArg Prod.fst parsed), cause.trans (congrArg (event.stop? ·.2) parsed)⟩

/-- In whatever chunks the handshake and what follows it come, the session begins when the last
byte of the handshake has come, and reads exactly what follows: with the bytes that came together
with that byte it fares as on a new connection on which they come with the first reading. -/
theorem hands_over_after_handshake (functions : Hash.Functions) (config : Config) (nonce : String)
    {handshake : List UInt8}
    (succeeded : ((Negotiation.start (attempt config nonce)).receive functions handshake).result =
      some (.ok ()))
    (whole : ((Negotiation.start (attempt config nonce)).receive functions handshake).unread =
      []) :
    (∃ versionFrame firstFrame finalFrame,
      handshake = versionFrame ++ firstFrame ++ finalFrame ∧
        IsFrame versionFrame ∧ IsFrame firstFrame ∧ IsFrame finalFrame) ∧
    ∀ behind (chunks early late : List (List UInt8)),
      chunks.flatten = handshake ++ behind → chunks = early ++ late →
      let heard := early.foldl (Negotiation.receive functions)
        (Negotiation.start (attempt config nonce))
      (early.flatten.length < handshake.length → heard.result = none) ∧
      (handshake.length ≤ early.flatten.length →
        ∃ begun version,
          early.flatten = handshake ++ begun ∧ begun ++ late.flatten = behind ∧
          let session := start config.maxMessageSize version begun
          let fresh := start config.maxMessageSize version []
          establish config heard = .ok session ∧
          (∀ events,
            (session.run events).2 = (fresh.run (delivering begun events)).2 ∧
              (session.run events).1.toRequests =
                (fresh.run (delivering begun events)).1.toRequests) ∧
          ∀ events event, (∀ earlier ∈ events, earlier.leavesOpen = true) → event.reads = true →
            received (events ++ [event]) = late.flatten →
            let told := session.trace (events ++ [event])
            let stream := Frame.parse config.maxMessageSize behind
            told.filterMap Occurrence.frame? = stream.1 ∧
              told.findSome? Occurrence.cause? = event.stop? stream.2) := by
  refine ⟨Negotiation.frames_of_succeeded succeeded whole, ?_⟩
  intro behind chunks early late all split heard
  have bytes : early.flatten ++ late.flatten = handshake ++ behind := by
    rw [← List.flatten_append, ← split, all]
  have same : heard = (Negotiation.start (attempt config nonce)).receive functions early.flatten :=
    Negotiation.foldl_receive_start functions (attempt config nonce) early
  constructor
  · intro short
    obtain ⟨more, missing⟩ : early.flatten <+: handshake :=
      List.prefix_of_prefix_length_le (List.prefix_append _ _)
        (bytes ▸ List.prefix_append handshake behind) (Nat.le_of_lt short)
    rw [same]
    refine Negotiation.going_before_whole whole missing.symm ?_
    rintro rfl
    rw [List.append_nil] at missing
    rw [missing] at short
    exact Nat.lt_irrefl _ short
  · intro long
    obtain ⟨begun, rest⟩ : handshake <+: early.flatten :=
      List.prefix_of_prefix_length_le (List.prefix_append _ _)
        (bytes ▸ List.prefix_append early.flatten late.flatten) long
    have tail : begun ++ late.flatten = behind := by
      rw [← rest, List.append_assoc] at bytes
      exact List.append_cancel_left bytes
    have settled : heard =
        ((Negotiation.start (attempt config nonce)).receive functions handshake).arrive begun := by
      rw [same, ← rest, ← Negotiation.receive_receive, Negotiation.receive_of_over succeeded]
    have unread : heard.unread = begun := by
      rw [settled, Negotiation.arrive, whole, List.nil_append]
    have result : heard.result = some (.ok ()) := by
      rw [settled]
      exact succeeded
    refine ⟨begun, heard.attempt.serverVersion, rest.symm, tail, ?_, ?_, ?_⟩
    · simp only [establish, result, unread]
    · intro events
      rw [start_eq_holding]
      exact run_holding (start_correct _ _ _).toSound rfl begun events
    · intro events event leave reads delivered
      have read := start_reads config.maxMessageSize heard.attempt.serverVersion begun leave reads
      rw [delivered, tail] at read
      exact read

def greeted : Config :=
  (Config.new "localhost").withCredentials "a,b" "pencil"

/-- The three frames of a handshake. -/
def greeting : List UInt8 :=
  (encode (VersionReply.accept 0 1 "2.4")).data.toList ++
    (encode (AuthReply.accept "r=abcd,s=AA==,i=7")).data.toList ++
    (encode (AuthReply.accept "v=Ai0=")).data.toList

/-- The second chunk spans the end of the handshake, and ends inside the header of a reply. -/
theorem hands_over_after_handshake_spanning :
    let reply := Frame.header 1 1 ++ [120]
    let early := [greeting.take 90, greeting.drop 90 ++ reply.take 5]
    ∃ session, establish greeted (early.foldl (Negotiation.receive Negotiation.measuring)
        (Negotiation.start (attempt greeted "abc"))) = .ok session ∧
      endings 1 (session.run [.dispatch ⟨#[7]⟩, .receive (reply.drop 5)]).2 =
        [.outcome (.ok ⟨#[120]⟩)] := by
  intro reply early
  have ended :
      let reached :=
        (Negotiation.start (attempt greeted "abc")).receive Negotiation.measuring greeting
      reached.result.bind Except.toOption = some () ∧ reached.unread = [] := by decide +kernel
  obtain ⟨outcome, found, fine⟩ := Option.bind_eq_some_iff.mp ended.1
  rw [ok_of_toOption fine] at found
  have split : early.flatten = greeting ++ reply.take 5 := by simp [early, ← List.append_assoc]
  have all : (early ++ [reply.drop 5]).flatten = greeting ++ reply := by
    simp [split]
  obtain ⟨_, hands⟩ := hands_over_after_handshake _ greeted "abc" found ended.2
  obtain ⟨begun, version, same, _, established, alike, _⟩ :=
    (hands reply (early ++ [reply.drop 5]) early [reply.drop 5] all rfl).2 (by simp [split])
  obtain rfl : begun = reply.take 5 := List.append_cancel_left (same.symm.trans split)
  refine ⟨_, established, ?_⟩
  rw [(alike _).1]
  rfl

end Session

end QueryDriver
