import Mathlib.Data.List.Perm.Subperm
import QueryDriver.Proofs.Frame.Wire
import QueryDriver.Proofs.Session.Runs

/-!
What becomes of the frames of requests. A frame is queued when its request is made, or its caller
keeps it and queues it later or never; and what is queued is written in turn.
-/

namespace QueryDriver.Session

open Requests (Sound Correct)

/-- The request that an event brings, if it is given a token. -/
def admits (session : Session) (event : Event) : List Frame :=
  if session.closed then []
  else (event.payload?.map fun payload => ⟨session.nextToken, payload⟩).toList

/-- The requests of a run, in turn, with their tokens. -/
def admitted (session : Session) : List Event → List Frame
  | [] => []
  | event :: rest => session.admits event ++ (session.step event).1.admitted rest

/-- The requests that are not too large to be written. -/
def writable (frames : List Frame) : List Frame :=
  frames.filter fun frame => frame.payload.size ≤ Frame.maxPayload

/-- The frames that callers have yet to bring into the queue. -/
def kept (session : Session) : List Frame :=
  session.unsent.map Unsent.frame

/-- The frame that is kept under a token. -/
def keptUnder (session : Session) (token : UInt64) : List Frame :=
  (session.kept.find? fun frame => frame.token = token).toList

/-- Whether the queue takes no frames any more. -/
def queueGone (session : Session) : Bool :=
  session.closed && session.writerEnded

/-- The frames that an event puts into the queue. -/
def offers (session : Session) : Event → List Frame
  | .enqueue token =>
      if session.queueGone || queueLimit ≤ session.queue.length then []
      else session.keptUnder token
  | event => if session.queuesAtOnce event then writable (session.admits event) else []

/-- The frames that a run puts into the queue, in turn. -/
def offered (session : Session) : List Event → List Frame
  | [] => []
  | event :: rest => session.offers event ++ (session.step event).1.offered rest

/-- The frames that find no queue any more when their calls go on in an event. -/
def turnsAway (session : Session) : Event → List Frame
  | .enqueue token => if session.queueGone then session.keptUnder token else []
  | _ => []

/-- The frame that is kept on when its call goes on. -/
def staysKept (session : Session) (token : UInt64) : List Frame :=
  if session.queueGone || session.queue.length < queueLimit then [] else session.keptUnder token

def turnedAway (session : Session) : List Event → List Frame
  | [] => []
  | event :: rest => session.turnsAway event ++ (session.step event).1.turnedAway rest

theorem writable_append (first second : List Frame) :
    writable (first ++ second) = writable first ++ writable second :=
  List.filter_append ..

theorem fits_of_writable {frames : List Frame} {frame : Frame} (member : frame ∈ writable frames) :
    frame.payload.size ≤ Frame.maxPayload := by
  simpa using (List.mem_filter.mp member).2

theorem fits_of_unsent (unsent : Unsent) : unsent.frame.payload.size ≤ Frame.maxPayload := by
  refine Nat.le_of_not_lt fun large => ?_
  have encoded := unsent.encoded
  rw [Frame.encode, if_pos large] at encoded
  cases encoded

theorem bytes_of_unsent (unsent : Unsent) : unsent.bytes = unsent.frame.wire := by
  have encoded := unsent.encoded
  rw [Frame.encode_eq_wire (fits_of_unsent unsent)] at encoded
  exact (Except.ok.inj encoded).symm

theorem admits_of_request {session : Session} {event : Event} {payload : ByteArray}
    (isOpen : session.closed = false) (request : event.payload? = some payload) :
    session.admits event = [⟨session.nextToken, payload⟩] := by
  simp [admits, isOpen, request]

theorem admits_eq_nil {session : Session} {event : Event} (notRequest : event.isRequest = false) :
    session.admits event = [] := by
  have none : event.payload? = none := by simpa [Event.isRequest] using notRequest
  simp [admits, none]

theorem registrations_step_eq_admits {session : Session} (sound : Sound session.toRequests)
    (event : Event) :
    registrations (session.step event).2 = (session.admits event).map Frame.token := by
  rw [registrations_step sound, admits, Event.isRequest]
  cases session.closed <;> cases event.payload? <;> rfl

theorem registrations_eq_admitted {session : Session} (sound : Sound session.toRequests)
    (events : List Event) :
    registrations (session.run events).2 = (session.admitted events).map Frame.token := by
  induction events generalizing session with
  | nil => rfl
  | cons event rest ih =>
      rw [run_cons, registrations_append, ih (sound_step sound event), admitted, List.map_append,
        registrations_step_eq_admits sound]

theorem offers_of_request {session : Session} {event : Event} {payload : ByteArray}
    (request : event.payload? = some payload) :
    session.offers event =
      if session.queuesAtOnce event then writable (session.admits event) else [] := by
  cases event <;> first | rfl | cases request

theorem offers_eq_nil {session : Session} {event : Event} (notRequest : event.isRequest = false)
    (other : ∀ token, event ≠ .enqueue token) : session.offers event = [] := by
  cases event with
  | enqueue token => exact absurd rfl (other token)
  | _ => simp [offers, admits_eq_nil notRequest, writable]

theorem turnsAway_eq_nil {session : Session} {event : Event}
    (other : ∀ token, event ≠ .enqueue token) : session.turnsAway event = [] := by
  cases event with
  | enqueue token => exact absurd rfl (other token)
  | _ => rfl

theorem holds_iff_mem_kept {session : Session} {token : UInt64} :
    session.holds token = true ↔ token ∈ session.kept.map Frame.token := by
  simp [holds_iff, kept]

theorem kept_release (session : Session) (token : UInt64) :
    (session.release token).kept = session.kept.filter fun frame => frame.token ≠ token := by
  rw [kept, kept, release, List.filter_map]
  rfl

/-- When a call goes on its frame is turned away, queued or kept again. -/
theorem enqueue_frames (session : Session) (token : UInt64) :
    (session.enqueue token).1.queue =
        session.queue ++ (session.offers (.enqueue token)).map Frame.wire ∧
      (session.enqueue token).1.kept =
        (session.kept.filter fun frame => frame.token ≠ token) ++ session.staysKept token ∧
      (session.enqueue token).2 =
        (session.turnsAway (.enqueue token)).map fun frame => .unsent frame.token := by
  rw [offers, turnsAway, staysKept, ← kept_release]
  cases found : session.unsent.find? fun unsent => unsent.frame.token = token with
  | none =>
      have nobody : session.keptUnder token = [] := by
        rw [keptUnder, kept, List.find?_map]
        exact congrArg (fun found => (found.map Unsent.frame).toList) found
      have free : session.holds token = false := by
        rw [holds, List.any_eq_false]
        exact List.find?_eq_none.mp found
      have unchanged : session.enqueue token = (session, []) := by rw [enqueue, found]
      rw [unchanged, nobody, release_of_not_holds free]
      simp
  | some unsent =>
      have same : unsent.frame.token = token := (mem_unsent_of_find found).2
      have under : session.keptUnder token = [unsent.frame] := by
        rw [keptUnder, kept, List.find?_map]
        exact congrArg (fun found => (found.map Unsent.frame).toList) found
      have result : session.enqueue token = (session.release token).offer unsent := by
        rw [enqueue, found]
      rw [result, under, queueGone]
      rcases (session.release token).offer_cases unsent with
        ⟨isClosed, ended, offered⟩ | ⟨stays, room, offered⟩ | ⟨stays, full, offered⟩
      · have gone : (session.closed && session.writerEnded) = true :=
          Bool.and_eq_true_iff.mpr ⟨isClosed, ended⟩
        rw [offered, gone]
        exact ⟨(List.append_nil _).symm, (List.append_nil _).symm, rfl⟩
      · have notFull : ¬queueLimit ≤ session.queue.length := Nat.not_le.mpr room
        have roomy : session.queue.length < queueLimit := room
        have stays : (session.closed && session.writerEnded) = false := stays
        rw [offered, stays]
        simp [notFull, roomy, release, kept, bytes_of_unsent]
      · have full : queueLimit ≤ session.queue.length := full
        have noRoom : ¬session.queue.length < queueLimit := Nat.not_lt.mpr full
        have stays : (session.closed && session.writerEnded) = false := stays
        rw [offered, stays]
        simp [full, noRoom, release, kept]

theorem countP_keptUnder (session : Session) (token : UInt64) (which : Frame → Bool) :
    (session.turnsAway (.enqueue token)).countP which +
        (session.offers (.enqueue token)).countP which + (session.staysKept token).countP which =
      (session.keptUnder token).countP which := by
  rw [turnsAway, offers, staysKept]
  cases session.queueGone with
  | true => simp
  | false =>
      by_cases hasRoom : session.queue.length < queueLimit
      · simp [hasRoom, Nat.not_le.mpr hasRoom]
      · simp [hasRoom, Nat.not_lt.mp hasRoom]

theorem countP_keptUnder_le (session : Session) (token : UInt64) (which : Frame → Bool) :
    (session.keptUnder token).countP which +
        (session.kept.filter fun frame => frame.token ≠ token).countP which ≤
      session.kept.countP which := by
  have least : (session.keptUnder token).countP which ≤
      (session.kept.filter fun frame => !decide (frame.token ≠ token)).countP which := by
    cases found : session.kept.find? fun frame => frame.token = token with
    | none => simp [keptUnder, found]
    | some frame =>
        have member : frame ∈ session.kept.filter fun frame => !decide (frame.token ≠ token) := by
          refine List.mem_filter.mpr ⟨List.mem_of_find?_eq_some found, ?_⟩
          simpa using List.find?_some found
        rw [keptUnder, found]
        exact (List.singleton_sublist.mpr member).countP_le
  rw [session.kept.countP_eq_countP_filter_add which fun frame => frame.token ≠ token]
  omega

theorem writes_step_eq {session : Session} (sound : Sound session.toRequests) (event : Event) :
    writes (session.step event).2 =
      match event with
      | .transmit => if session.closed then [] else session.queue.head?.toList
      | _ => [] := by
  rw [writes_step sound event]
  have silent (other : event ≠ .transmit) : writes (session.remarks event) = [] := by
    apply List.filterMap_eq_nil_iff.mpr
    intro notice member
    rcases remarks_cases member with ⟨same, _⟩ | ⟨_, rfl⟩ | ⟨_, _, _, _, _, rfl⟩
    · exact absurd same other
    · rfl
    · rfl
  cases event with
  | transmit =>
      rw [remarks]
      cases session.closed <;> cases session.queue <;> rfl
  | _ => exact silent (by simp)

/-- What is queued before an event or by it is written in it or still queued. -/
theorem queue_balance {session : Session} (sound : Sound session.toRequests) (event : Event) :
    session.queue ++ (session.offers event).map Frame.wire =
      writes (session.step event).2 ++ (session.step event).1.queue := by
  rcases event.request_or_not with ⟨payload, request⟩ | notRequest
  · rw [offers_of_request request]
    rcases session.request_cases request with
      ⟨isClosed, result⟩ | ⟨isOpen, fits, unsent, same, result⟩ | ⟨isOpen, large, result⟩
    · simp [result, admits, isClosed, writable, writes, Notice.written?]
    · have bytes := bytes_of_unsent unsent
      rw [same] at bytes
      rw [result, admits_of_request isOpen request]
      cases session.queuesAtOnce event <;> simp [writable, fits, bytes, writes, Notice.written?]
    · have unfit : ¬payload.size ≤ Frame.maxPayload := by omega
      rw [result, admits_of_request isOpen request]
      simp [writable, unfit, writes, Notice.written?]
  · rw [writes_step_eq sound, step_eq sound event notRequest]
    cases event with
    | enqueue token => exact (session.enqueue_frames token).1.symm
    | transmit =>
        rw [offers_eq_nil notRequest (by simp), queueAfter]
        cases session.closed <;> cases session.queue <;> simp
    | _ =>
        rw [offers_eq_nil notRequest (by simp)]
        exact List.append_nil _

theorem queue_balance_run {session : Session} (sound : Sound session.toRequests)
    (events : List Event) :
    session.queue ++ (session.offered events).map Frame.wire =
      writes (session.run events).2 ++ (session.run events).1.queue := by
  induction events generalizing session with
  | nil => simp [run, offered]
  | cons event rest ih =>
      have later := ih (sound_step sound event)
      rw [offered, List.map_append, ← List.append_assoc, queue_balance sound event,
        List.append_assoc, later, run_cons, writes_append, List.append_assoc]

/-- Each frame that is turned away or queued in an event, or kept after it, was kept before or is of
the request that the event makes. -/
theorem kept_balance {session : Session} (sound : Sound session.toRequests) (event : Event)
    (which : Frame → Bool) :
    (session.turnsAway event).countP which + (session.offers event).countP which +
        (session.step event).1.kept.countP which ≤
      session.kept.countP which + (writable (session.admits event)).countP which := by
  rcases event.request_or_not with ⟨payload, request⟩ | notRequest
  · have nobody : session.turnsAway event = [] :=
      turnsAway_eq_nil fun token same => by
        rw [same] at request
        cases request
    rw [nobody, offers_of_request request]
    rcases session.request_cases request with
      ⟨isClosed, result⟩ | ⟨isOpen, fits, unsent, same, result⟩ | ⟨isOpen, large, result⟩
    · simp [result, admits, isClosed, writable]
    · rw [result, admits_of_request isOpen request]
      cases session.queuesAtOnce event <;> simp [writable, fits, kept, same, Nat.add_comm]
    · have unfit : ¬payload.size ≤ Frame.maxPayload := by omega
      rw [result, admits_of_request isOpen request]
      simp [writable, unfit, kept]
  · rw [admits_eq_nil notRequest, step_eq sound event notRequest]
    cases event with
    | enqueue token =>
        have parts := session.countP_keptUnder token which
        have least := session.countP_keptUnder_le token which
        have left : (session.enqueue token).1.kept.countP which = _ :=
          congrArg (List.countP which) (session.enqueue_frames token).2.1
        rw [List.countP_append] at left
        change _ + _ + (session.enqueue token).1.kept.countP which ≤ session.kept.countP which
        omega
    | withdraw token =>
        have left : (session.release token).kept.countP which ≤ session.kept.countP which := by
          rw [kept_release]
          exact List.filter_sublist.countP_le
        rw [turnsAway_eq_nil (by simp), offers_eq_nil notRequest (by simp), List.countP_nil,
          Nat.zero_add]
        exact left
    | _ =>
        rw [turnsAway_eq_nil (by simp), offers_eq_nil notRequest (by simp), List.countP_nil,
          Nat.zero_add]
        exact Nat.le_refl _

/-- Over a run each request is turned away, queued or still kept once at most. -/
theorem kept_balance_run {session : Session} (sound : Sound session.toRequests)
    (events : List Event) (which : Frame → Bool) :
    (session.turnedAway events).countP which + (session.offered events).countP which +
        (session.run events).1.kept.countP which ≤
      session.kept.countP which + (writable (session.admitted events)).countP which := by
  induction events generalizing session with
  | nil => simp [run, turnedAway, offered]
  | cons event rest ih =>
      have now := kept_balance sound event which
      have later := ih (sound_step sound event)
      rw [run_cons, turnedAway, offered, admitted, writable_append, List.countP_append,
        List.countP_append, List.countP_append]
      dsimp only
      omega

theorem unsents_step_eq {session : Session} (sound : Sound session.toRequests) (event : Event) :
    unsents (session.step event).2 = (session.turnsAway event).map Frame.token := by
  rw [unsents_step sound]
  cases event with
  | enqueue token =>
      rw [remarks, (session.enqueue_frames token).2.2, unsents, List.filterMap_map]
      exact congrFun List.filterMap_eq_map _
  | transmit =>
      rw [remarks]
      cases session.closed <;> cases session.queue <;> rfl
  | _ => rfl

theorem unsents_run_eq {session : Session} (sound : Sound session.toRequests)
    (events : List Event) :
    unsents (session.run events).2 = (session.turnedAway events).map Frame.token := by
  induction events generalizing session with
  | nil => rfl
  | cons event rest ih =>
      rw [run_cons, unsents_append, unsents_step_eq sound, ih (sound_step sound event),
        turnedAway, List.map_append]

/-- Of each request at most one thing comes: its caller learns that the queue is gone, or its frame
is queued, or it is still kept. -/
theorem count_told_le {session : Session} (sound : Sound session.toRequests)
    (nobody : session.unsent = []) (events : List Event) (token : UInt64) :
    (unsents (session.run events).2).count token +
        ((session.offered events).map Frame.token).count token +
        ((session.run events).1.kept.map Frame.token).count token ≤
      (registrations (session.run events).2).count token := by
  have balance := kept_balance_run sound events fun frame => frame.token == token
  have some : (writable (session.admitted events)).countP (fun frame => frame.token == token) ≤
      (session.admitted events).countP fun frame => frame.token == token :=
    List.filter_sublist.countP_le
  simp only [unsents_run_eq sound, registrations_eq_admitted sound, List.count_eq_countP,
    List.countP_map]
  have none : session.kept = [] := by rw [kept, nobody]; rfl
  rw [none, List.countP_nil, Nat.zero_add] at balance
  exact Nat.le_trans balance some

/-- What is queued in a run are requests of the run, each once at most. -/
theorem offered_subperm {session : Session} (sound : Sound session.toRequests)
    (nobody : session.unsent = []) (events : List Event) :
    (session.offered events).Subperm (writable (session.admitted events)) := by
  classical
  have none : session.kept = [] := by rw [kept, nobody]; rfl
  refine List.subperm_ext_iff.mpr fun frame _ => ?_
  have balance := kept_balance_run sound events fun other => other == frame
  rw [none, List.countP_nil, Nat.zero_add] at balance
  rw [List.count_eq_countP, List.count_eq_countP]
  omega

/-- A token is kept after an event only if it was before, or if it is given out in the event. -/
theorem holds_step {session : Session} (sound : Sound session.toRequests) {event : Event}
    {token : UInt64} (holds : (session.step event).1.holds token = true) :
    session.holds token = true ∨ token ∈ registrations (session.step event).2 := by
  rw [holds_iff_mem_kept, List.mem_map] at holds
  obtain ⟨frame, kept, rfl⟩ := holds
  have balance := kept_balance sound event fun other => other.token == frame.token
  have positive : 0 < (session.step event).1.kept.countP fun other => other.token == frame.token :=
    List.countP_pos_iff.mpr ⟨frame, kept, beq_self_eq_true _⟩
  rw [registrations_step_eq_admits sound, holds_iff_mem_kept]
  by_cases before : 0 < session.kept.countP fun other => other.token == frame.token
  · obtain ⟨other, member, same⟩ := List.countP_pos_iff.mp before
    exact .inl (List.mem_map.mpr ⟨other, member, by simpa using same⟩)
  · have new : 0 < (writable (session.admits event)).countP fun other =>
        other.token == frame.token := by omega
    obtain ⟨other, member, same⟩ := List.countP_pos_iff.mp new
    exact .inr (List.mem_map.mpr ⟨other, List.mem_of_mem_filter member, by simpa using same⟩)

end QueryDriver.Session
