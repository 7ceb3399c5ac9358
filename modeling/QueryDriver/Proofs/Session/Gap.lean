import Mathlib.Data.List.Forall2
import QueryDriver.Proofs.Session.Readdressing
import QueryDriver.Proofs.Session.Reading
import QueryDriver.Proofs.Session.Writing

/-!
A gap in the tokens. Two runs of a session, of which one has used up a token more, do the same for
every request where the later tokens of the first are one higher, on the connection and in replies.
-/

namespace QueryDriver

/-- The last of all tokens. It is left over where one request fewer is made. -/
def lastToken : UInt64 :=
  UInt64.ofNat (UInt64.size - 1)

/-- The token that a request has where the request with the token `gap` is not made. -/
def closeGap (gap token : UInt64) : UInt64 :=
  if token < gap then token else if token = gap then lastToken else token - 1

theorem closeGap_below {gap token : UInt64} (below : token < gap) : closeGap gap token = token :=
  if_pos below

theorem closeGap_above {gap token : UInt64} (above : gap < token) :
    closeGap gap token = token - 1 := by
  rw [closeGap, if_neg (UInt64.lt_asymm above), if_neg (UInt64.ne_of_lt above).symm]

theorem toNat_closeGap (gap token : UInt64) :
    (closeGap gap token).toNat =
      if token.toNat < gap.toNat then token.toNat
      else if token.toNat = gap.toNat then UInt64.size - 1 else token.toNat - 1 := by
  by_cases below : token < gap
  · rw [closeGap_below below, if_pos (UInt64.lt_iff_toNat_lt.mp below)]
  rw [if_neg (mt UInt64.lt_iff_toNat_lt.mpr below)]
  by_cases same : token = gap
  · rw [if_pos (congrArg UInt64.toNat same), closeGap, if_neg below, if_pos same]
    rfl
  · have above : gap < token := UInt64.lt_of_le_of_ne (UInt64.not_lt.mp below) (Ne.symm same)
    have positive : 1 ≤ token := by
      rw [UInt64.lt_iff_toNat_lt] at above
      rw [UInt64.le_iff_toNat_le, UInt64.toNat_one]
      omega
    rw [if_neg (mt UInt64.toNat_inj.mp same), closeGap_above above,
      UInt64.toNat_sub_of_le _ _ positive, UInt64.toNat_one]

theorem closeGap_injective (gap : UInt64) : Function.Injective (closeGap gap) := by
  intro first second same
  have numbers := congrArg UInt64.toNat same
  have firstBound := first.toNat_lt
  have secondBound := second.toNat_lt
  have gapBound := gap.toNat_lt
  have size : UInt64.size = 2 ^ 64 := rfl
  rw [toNat_closeGap, toNat_closeGap] at numbers
  apply UInt64.toNat_inj.mp
  split_ifs at numbers <;> omega

namespace Session

open Requests (Sound Correct)

open Frame.Progress (Readdressed)

/-- The event under another token, with other bytes if it receives any. -/
def Event.readdress (change : UInt64 → UInt64) (bytes : List UInt8) : Event → Event
  | .receive _ => .receive bytes
  | .enqueue token => .enqueue (change token)
  | .withdraw token => .withdraw (change token)
  | .expire token => .expire (change token)
  | .abandon token => .abandon (change token)
  | event => event

/-- Events under other tokens, in which other bytes are received, cut into chunks as before. -/
def readdressAll (change : UInt64 → UInt64) (bytes : List UInt8) : List Event → List Event
  | [] => []
  | event :: rest =>
      event.readdress change (bytes.take event.received.length) ::
        readdressAll change (bytes.drop event.received.length) rest

/-- A session and one in which the request with the token `gap` was not made. -/
structure ClosesUp (gap : UInt64) (coming changed : List UInt8) (whole part : Session) : Prop where
  requests : part.toRequests = whole.toRequests.readdress (closeGap gap) (whole.nextToken - 1)
  limit : part.maxMessageSize = whole.maxMessageSize
  kept : part.kept = whole.kept.map (Frame.readdress (closeGap gap))
  writerEnded : part.writerEnded = whole.writerEnded
  queue : List.Forall₂ (Frame.Rewired (closeGap gap)) whole.queue part.queue
  unread : part.unread.length = whole.unread.length
  reading : whole.closed = false →
    Readdressed (closeGap gap) whole.maxMessageSize whole.incoming part.incoming
      (whole.unread ++ coming) (part.unread ++ changed)

/-- Notices that tell the same of all requests but that with the token `gap`. -/
structure TellsClosedUp (gap : UInt64) (whole part : List Notice) : Prop where
  endings (token : UInt64) : endings (closeGap gap token) part = endings token whole
  registrations : registrations part = (registrations whole).map (closeGap gap)
  writes : List.Forall₂ (Frame.Rewired (closeGap gap)) (writes whole) (writes part)
  unsents : unsents part = (unsents whole).map (closeGap gap)

theorem TellsClosedUp.append {gap : UInt64} {first second later others : List Notice}
    (front : TellsClosedUp gap first later) (behind : TellsClosedUp gap second others) :
    TellsClosedUp gap (first ++ second) (later ++ others) := by
  refine ⟨?_, ?_, ?_, ?_⟩
  · intro token
    rw [endings_append, endings_append, front.endings, behind.endings]
  · rw [registrations_append, registrations_append, List.map_append, front.registrations,
      behind.registrations]
  · rw [writes_append, writes_append]
    exact List.rel_append front.writes behind.writes
  · rw [unsents_append, unsents_append, List.map_append, front.unsents, behind.unsents]

/-- Notices under the tokens of the other run tell the same, unless something is written. -/
theorem tellsClosedUp_readdress (gap : UInt64) {notices : List Notice}
    (silent : writes notices = []) :
    TellsClosedUp gap notices (notices.map (Notice.readdress (closeGap gap))) := by
  refine ⟨?_, ?_, ?_, ?_⟩
  · intro token
    exact endings_readdress (closeGap_injective gap) token notices
  · exact registrations_readdress notices
  · rw [writes_readdress, silent]
    exact .nil
  · exact unsents_readdress notices

section

variable {gap : UInt64} {whole part : Session} {event : Event}
  {coming changed chunk bytes : List UInt8}

theorem ClosesUp.closed (up : ClosesUp gap coming changed whole part) :
    part.closed = whole.closed := by
  rw [up.requests]
  rfl

theorem ClosesUp.waits (up : ClosesUp gap coming changed whole part) (token : UInt64) :
    closeGap gap token ∈ part.waiting ↔ token ∈ whole.waiting := by
  rw [up.requests]
  exact List.mem_map_of_injective (closeGap_injective gap)

theorem ClosesUp.sound (up : ClosesUp gap coming changed whole part)
    (sound : Sound whole.toRequests) : Sound part.toRequests := by
  rw [up.requests]
  exact sound.readdress _

theorem ClosesUp.holds (up : ClosesUp gap coming changed whole part) (token : UInt64) :
    part.holds (closeGap gap token) = whole.holds token := by
  have tokens : part.kept.map Frame.token = (whole.kept.map Frame.token).map (closeGap gap) := by
    rw [up.kept, List.map_map, List.map_map]
    rfl
  rw [Bool.eq_iff_iff, holds_iff_mem_kept, holds_iff_mem_kept, tokens]
  exact List.mem_map_of_injective (closeGap_injective gap)

theorem ClosesUp.keptUnder (up : ClosesUp gap coming changed whole part) (token : UInt64) :
    part.keptUnder (closeGap gap token) =
      (whole.keptUnder token).map (Frame.readdress (closeGap gap)) := by
  have same : (fun frame => decide (Frame.token frame = closeGap gap token)) ∘
      Frame.readdress (closeGap gap) = fun frame => decide (frame.token = token) := by
    funext frame
    simp [Frame.readdress, (closeGap_injective gap).eq_iff]
  rw [Session.keptUnder, Session.keptUnder, up.kept, List.find?_map, same]
  cases whole.kept.find? fun frame => frame.token = token <;> rfl

theorem ClosesUp.kept_others (up : ClosesUp gap coming changed whole part) (token : UInt64) :
    (part.kept.filter fun frame => frame.token ≠ closeGap gap token) =
      (whole.kept.filter fun frame => frame.token ≠ token).map
        (Frame.readdress (closeGap gap)) := by
  have same : (fun frame => decide (Frame.token frame ≠ closeGap gap token)) ∘
      Frame.readdress (closeGap gap) = fun frame => decide (frame.token ≠ token) := by
    funext frame
    simp [Frame.readdress, (closeGap_injective gap).eq_iff]
  rw [up.kept, List.filter_map, same]

theorem ClosesUp.arrivals (up : ClosesUp gap (chunk ++ coming) (bytes ++ changed) whole part)
    (same : bytes.length = chunk.length) (isOpen : whole.closed = false) :
    part.arrivals bytes =
      (whole.arrivals chunk).map (Occurrence.readdress (closeGap gap)) := by
  have reading := up.reading isOpen
  rw [← List.append_assoc, ← List.append_assoc] at reading
  obtain ⟨found, ending⟩ := reading.front (by simp [up.unread, same])
  rw [arrivals_eq_found, arrivals_eq_found, up.limit, found, ending, List.map_append, List.map_map,
    List.map_map]
  congr 1
  cases (whole.incoming.feed whole.maxMessageSize (whole.unread ++ chunk)).1.ending <;> rfl

theorem ClosesUp.occurrences
    (up : ClosesUp gap (event.received ++ coming) (bytes ++ changed) whole part)
    (same : bytes.length = event.received.length) :
    part.occurrences (event.readdress (closeGap gap) bytes) =
      (whole.occurrences event).map (Occurrence.readdress (closeGap gap)) := by
  by_cases isClosed : whole.closed = true
  · rw [occurrences_of_closed isClosed, occurrences_of_closed (up.closed.trans isClosed)]
    rfl
  have isOpen : whole.closed = false := by simpa using isClosed
  have partOpen : part.closed = false := up.closed.trans isOpen
  have read := up.arrivals same isOpen
  simp only [Session.occurrences, isOpen, partOpen, Bool.false_eq_true, if_false]
  cases event with
  | transmitFails reason =>
      have lengths := up.queue.length_eq
      have empty : part.queue.isEmpty = whole.queue.isEmpty := by
        rw [Bool.eq_iff_iff, List.isEmpty_iff_length_eq_zero, List.isEmpty_iff_length_eq_zero,
          lengths]
      simp only [Event.readdress, empty]
      split <;> rfl
  | receive chunk => exact read
  | receiveFails reason =>
      obtain rfl : bytes = [] := List.length_eq_zero_iff.mp same
      have read : part.arrivals [] = (whole.arrivals []).map _ := read
      simp only [Event.readdress, read, List.map_append]
      rfl
  | endOfStream =>
      obtain rfl : bytes = [] := List.length_eq_zero_iff.mp same
      have read : part.arrivals [] = (whole.arrivals []).map _ := read
      simp only [Event.readdress, read, List.map_append]
      rfl
  | withdraw token =>
      simp only [Event.readdress, up.holds]
      split <;> rfl
  | expire token =>
      simp only [Event.readdress, up.holds]
      split <;> rfl
  | abandon token =>
      simp only [Event.readdress, up.holds]
      split <;> rfl
  | _ => rfl

theorem tellsClosedUp_written {first second : List ByteArray}
    (same : List.Forall₂ (Frame.Rewired (closeGap gap)) first second) :
    TellsClosedUp gap (first.head?.map Notice.written).toList
      (second.head?.map Notice.written).toList := by
  cases same with
  | nil => exact tellsClosedUp_readdress gap rfl
  | cons head _ => exact ⟨fun _ => rfl, rfl, .cons head .nil, rfl⟩

theorem rewired_wires (gap : UInt64) (frames : List Frame) :
    List.Forall₂ (Frame.Rewired (closeGap gap)) (frames.map Frame.wire)
      ((frames.map (Frame.readdress (closeGap gap))).map Frame.wire) := by
  rw [List.forall₂_map_left_iff, List.forall₂_map_right_iff, List.forall₂_map_right_iff]
  exact List.forall₂_same.mpr fun frame _ => ⟨frame, rfl, rfl⟩

/-- A call goes on in both sessions alike. -/
theorem ClosesUp.enqueue (up : ClosesUp gap coming changed whole part) (token : UInt64) :
    (part.enqueue (closeGap gap token)).1.kept =
        (whole.enqueue token).1.kept.map (Frame.readdress (closeGap gap)) ∧
      List.Forall₂ (Frame.Rewired (closeGap gap)) (whole.enqueue token).1.queue
        (part.enqueue (closeGap gap token)).1.queue ∧
      TellsClosedUp gap (whole.enqueue token).2 (part.enqueue (closeGap gap token)).2 := by
  have gone : part.queueGone = whole.queueGone := by
    rw [queueGone, queueGone, up.closed, up.writerEnded]
  have stays : part.staysKept (closeGap gap token) =
      (whole.staysKept token).map (Frame.readdress (closeGap gap)) := by
    rw [staysKept, staysKept, gone, ← up.queue.length_eq, up.keptUnder]
    split <;> rfl
  have offered : part.offers (.enqueue (closeGap gap token)) =
      (whole.offers (.enqueue token)).map (Frame.readdress (closeGap gap)) := by
    rw [offers, offers, gone, ← up.queue.length_eq, up.keptUnder]
    split <;> rfl
  have away : part.turnsAway (.enqueue (closeGap gap token)) =
      (whole.turnsAway (.enqueue token)).map (Frame.readdress (closeGap gap)) := by
    rw [turnsAway, turnsAway, gone, up.keptUnder]
    split <;> rfl
  obtain ⟨wholeQueue, wholeKept, wholeTold⟩ := whole.enqueue_frames token
  obtain ⟨partQueue, partKept, partTold⟩ := part.enqueue_frames (closeGap gap token)
  refine ⟨?_, ?_, ?_⟩
  · rw [partKept, wholeKept, up.kept_others, stays, List.map_append]
  · rw [partQueue, wholeQueue, offered]
    exact List.rel_append up.queue (rewired_wires gap _)
  · have same : (part.enqueue (closeGap gap token)).2 =
        (whole.enqueue token).2.map (Notice.readdress (closeGap gap)) := by
      rw [partTold, wholeTold, away, List.map_map, List.map_map]
      rfl
    have silent : writes (whole.enqueue token).2 = [] := by
      rw [wholeTold, writes, List.filterMap_map]
      exact List.filterMap_eq_nil_iff.mpr fun _ _ => rfl
    rw [same]
    exact tellsClosedUp_readdress gap silent

theorem ClosesUp.register (up : ClosesUp gap coming changed whole part)
    (past : gap < whole.nextToken) :
    part.nextToken = closeGap gap whole.nextToken ∧
      part.toRequests.register =
        whole.toRequests.register.readdress (closeGap gap)
          (whole.toRequests.register.nextToken - 1) := by
  have lower := closeGap_above past
  constructor
  · rw [lower, up.requests]
    rfl
  · rw [up.requests, Requests.register_readdress _ lower, UInt64.sub_add_cancel]
    congr 1
    exact (UInt64.add_sub_cancel whole.nextToken 1).symm

theorem readdress_of_request {payload : ByteArray} (request : event.payload? = some payload)
    (change : UInt64 → UInt64) (bytes : List UInt8) : event.readdress change bytes = event := by
  cases event <;> first | rfl | cases request

theorem ClosesUp.queuesAtOnce (up : ClosesUp gap coming changed whole part) (event : Event) :
    part.queuesAtOnce event = whole.queuesAtOnce event := by
  cases event with
  | dispatch payload => rw [Session.queuesAtOnce, Session.queuesAtOnce, up.queue.length_eq]
  | _ => rfl

/-- A request is made in both sessions alike. -/
theorem ClosesUp.request {payload : ByteArray} (up : ClosesUp gap coming changed whole part)
    (past : gap < whole.nextToken) (request : event.payload? = some payload) :
    (part.step event).1.toRequests =
        (whole.step event).1.toRequests.readdress (closeGap gap)
          ((whole.step event).1.nextToken - 1) ∧
      (part.step event).1.kept =
        (whole.step event).1.kept.map (Frame.readdress (closeGap gap)) ∧
      (part.step event).1.writerEnded = (whole.step event).1.writerEnded ∧
      List.Forall₂ (Frame.Rewired (closeGap gap)) (whole.step event).1.queue
        (part.step event).1.queue ∧
      TellsClosedUp gap (whole.step event).2 (part.step event).2 := by
  obtain ⟨numbered, registered⟩ := up.register past
  rcases whole.request_cases request with
    ⟨isClosed, result⟩ | ⟨isOpen, fits, unsent, same, result⟩ | ⟨isOpen, large, result⟩
  · rw [result, request_of_closed (up.closed.trans isClosed) request]
    exact ⟨up.requests, up.kept, up.writerEnded, up.queue, tellsClosedUp_readdress gap rfl⟩
  · obtain ⟨other, again, others⟩ := request_of_fits (up.closed.trans isOpen) fits request
    have frames : other.frame = unsent.frame.readdress (closeGap gap) := by
      rw [same, again, numbered]
      rfl
    rw [result, others, up.queuesAtOnce, bytes_of_unsent, bytes_of_unsent, frames, numbered]
    refine ⟨registered, ?_, up.writerEnded, ?_, tellsClosedUp_readdress gap rfl⟩
    · have before := up.kept
      rw [Session.kept, Session.kept] at before ⊢
      simp only [List.map_append, before]
      cases whole.queuesAtOnce event <;> simp [frames]
    · refine List.rel_append up.queue ?_
      cases whole.queuesAtOnce event with
      | true => exact rewired_wires gap [unsent.frame]
      | false => exact .nil
  · have left := Requests.leave_readdress (closeGap_injective gap)
      (whole.toRequests.register.nextToken - 1) whole.toRequests.register whole.nextToken
    rw [result, request_of_large (up.closed.trans isOpen) large request, numbered, registered]
    exact ⟨left, up.kept, up.writerEnded, up.queue, tellsClosedUp_readdress gap rfl⟩

/-- What an event that is no request does for the requests, it does in both sessions. -/
theorem ClosesUp.react (sound : Sound whole.toRequests)
    (up : ClosesUp gap (event.received ++ coming) (bytes ++ changed) whole part)
    (same : bytes.length = event.received.length) (notRequest : event.isRequest = false) :
    let stepped := part.step (event.readdress (closeGap gap) bytes)
    stepped.1.toRequests =
        (whole.step event).1.toRequests.readdress (closeGap gap)
          ((whole.step event).1.nextToken - 1) ∧
      TellsClosedUp gap (whole.step event).2 stepped.2 := by
  have request : (event.readdress (closeGap gap) bytes).isRequest = false := by
    rw [← notRequest]
    cases event <;> rfl
  have reacted := Requests.reactAll_readdress (closeGap_injective gap) (whole.nextToken - 1)
    whole.toRequests (whole.occurrences event)
  have silent : writes (whole.toRequests.reactAll (whole.occurrences event)).2 = [] :=
    List.filterMap_eq_nil_iff.mpr fun notice member =>
      have ⟨_, ends⟩ := sound.reactAll_only_ends (whole.occurrences event) notice member
      (only_ends ends).2.1
  rw [step_eq sound event notRequest, step_eq (up.sound sound) _ request, up.occurrences same,
    up.requests, reacted]
  refine ⟨?_, (tellsClosedUp_readdress gap silent).append ?_⟩
  · simp only [(sound.reactAll_shrinks (whole.occurrences event)).1]
  · cases event with
    | enqueue token => exact (up.enqueue token).2.2
    | transmit =>
        simp only [Event.readdress, remarks, up.closed]
        split
        · exact tellsClosedUp_readdress gap rfl
        · exact tellsClosedUp_written up.queue
    | _ => exact tellsClosedUp_readdress gap rfl

theorem tail_rewired {first second : List ByteArray}
    (same : List.Forall₂ (Frame.Rewired (closeGap gap)) first second) :
    List.Forall₂ (Frame.Rewired (closeGap gap)) first.tail second.tail := by
  cases same with
  | nil => exact .nil
  | cons _ tail => exact tail

/-- What an event that is no request does for the frames, it does in both sessions. -/
theorem ClosesUp.frames_step (sound : Sound whole.toRequests)
    (up : ClosesUp gap coming changed whole part) (notRequest : event.isRequest = false) :
    let stepped := part.step (event.readdress (closeGap gap) bytes)
    stepped.1.kept = (whole.step event).1.kept.map (Frame.readdress (closeGap gap)) ∧
      stepped.1.writerEnded = (whole.step event).1.writerEnded ∧
      List.Forall₂ (Frame.Rewired (closeGap gap)) (whole.step event).1.queue stepped.1.queue := by
  have request : (event.readdress (closeGap gap) bytes).isRequest = false := by
    rw [← notRequest]
    cases event <;> rfl
  rw [step_eq sound event notRequest, step_eq (up.sound sound) _ request]
  cases event with
  | enqueue token => exact ⟨(up.enqueue token).1, up.writerEnded, (up.enqueue token).2.1⟩
  | withdraw token =>
      refine ⟨?_, up.writerEnded, up.queue⟩
      change (part.release _).kept = (whole.release token).kept.map _
      rw [kept_release, kept_release, up.kept_others]
  | transmit =>
      refine ⟨up.kept, up.writerEnded, ?_⟩
      simp only [Event.readdress, queueAfter, up.closed]
      split
      · exact up.queue
      · exact tail_rewired up.queue
  | writerEnds =>
      refine ⟨up.kept, ?_, up.queue⟩
      simp only [Event.readdress, writerEndedAfter, up.closed, up.writerEnded]
  | _ => exact ⟨up.kept, up.writerEnded, up.queue⟩

theorem ClosesUp.reading_step (sound : Sound whole.toRequests)
    (up : ClosesUp gap (event.received ++ coming) (bytes ++ changed) whole part)
    (same : bytes.length = event.received.length)
    (closed : (part.step (event.readdress (closeGap gap) bytes)).1.closed =
      (whole.step event).1.closed)
    (stillOpen : (whole.step event).1.closed = false) :
    Readdressed (closeGap gap) whole.maxMessageSize (whole.step event).1.incoming
      (part.step (event.readdress (closeGap gap) bytes)).1.incoming
      ((whole.step event).1.unread ++ coming)
      ((part.step (event.readdress (closeGap gap) bytes)).1.unread ++ changed) := by
  have isOpen := closed_of_step sound stillOpen
  have reading := up.reading isOpen
  rcases event.receives_or_not with ⟨chunk, rfl⟩ | ⟨nothing, empty, _⟩
  · obtain ⟨wholeIncoming, wholeUnread⟩ := reading_receive sound isOpen chunk
    obtain ⟨partIncoming, partUnread⟩ :=
      reading_receive (up.sound sound) (up.closed.trans isOpen) bytes
    simp only [Event.received] at reading same
    rw [← List.append_assoc, ← List.append_assoc] at reading
    simp only [Event.readdress]
    rw [wholeIncoming, wholeUnread, partIncoming, partUnread, up.limit]
    exact reading.behind (by simp [up.unread, same])
  · rw [empty] at same reading
    obtain rfl : bytes = [] := List.length_eq_zero_iff.mp same
    have silent (chunk : List UInt8) : event.readdress (closeGap gap) [] ≠ .receive chunk := by
      cases event with
      | receive chunk => exact absurd rfl (nothing chunk)
      | _ => simp [Event.readdress]
    obtain ⟨wholeIncoming, wholeUnread⟩ := reading_stays sound stillOpen nothing
    obtain ⟨partIncoming, partUnread⟩ :=
      reading_stays (up.sound sound) (closed.trans stillOpen) silent
    rw [wholeIncoming, wholeUnread, partIncoming, partUnread]
    exact reading

theorem ClosesUp.step (sound : Sound whole.toRequests)
    (up : ClosesUp gap (event.received ++ coming) (bytes ++ changed) whole part)
    (same : bytes.length = event.received.length)
    (past : event.isRequest = true → gap < whole.nextToken) :
    let stepped := part.step (event.readdress (closeGap gap) bytes)
    ClosesUp gap coming changed (whole.step event).1 stepped.1 ∧
      TellsClosedUp gap (whole.step event).2 stepped.2 := by
  intro stepped
  have fares : stepped.1.toRequests =
        (whole.step event).1.toRequests.readdress (closeGap gap)
          ((whole.step event).1.nextToken - 1) ∧
      stepped.1.kept = (whole.step event).1.kept.map (Frame.readdress (closeGap gap)) ∧
      stepped.1.writerEnded = (whole.step event).1.writerEnded ∧
      List.Forall₂ (Frame.Rewired (closeGap gap)) (whole.step event).1.queue stepped.1.queue ∧
      TellsClosedUp gap (whole.step event).2 stepped.2 := by
    rcases event.request_or_not with ⟨payload, request⟩ | notRequest
    · rw [show stepped = part.step event from
        congrArg part.step (readdress_of_request request (closeGap gap) bytes)]
      exact up.request (past (isRequest_of_payload request)) request
    · obtain ⟨requests, told⟩ := up.react sound same notRequest
      obtain ⟨kept, writerEnded, queue⟩ := up.frames_step sound notRequest
      exact ⟨requests, kept, writerEnded, queue, told⟩
  obtain ⟨requests, kept, writerEnded, queue, told⟩ := fares
  have closed : stepped.1.closed = (whole.step event).1.closed := by
    rw [requests]
    rfl
  refine ⟨⟨requests, ?_, kept, writerEnded, queue, ?_, ?_⟩, told⟩
  · rw [limit_step sound, limit_step (up.sound sound), up.limit]
  · rw [(Session.reading_step sound event).2, (Session.reading_step (up.sound sound) _).2]
    have reads : (event.readdress (closeGap gap) bytes).reads = event.reads := by
      cases event <;> rfl
    rw [readingAfter, readingAfter, reads, up.closed]
    split
    · exact up.unread
    · rfl
  · intro stillOpen
    rw [limit_step sound]
    exact up.reading_step sound same closed stillOpen

theorem ClosesUp.run {issued : Nat} {events : List Event}
    (correct : Correct issued whole.toRequests)
    (room : issued + requestCount events < UInt64.size) (past : gap.toNat ≤ issued)
    (up : ClosesUp gap (received events ++ coming) (bytes ++ changed) whole part)
    (same : bytes.length = (received events).length) :
    let ran := part.run (readdressAll (closeGap gap) bytes events)
    ClosesUp gap coming changed (whole.run events).1 ran.1 ∧
      TellsClosedUp gap (whole.run events).2 ran.2 := by
  induction events generalizing issued whole part bytes with
  | nil =>
      obtain rfl : bytes = [] := List.length_eq_zero_iff.mp same
      exact ⟨up, tellsClosedUp_readdress gap rfl⟩
  | cons event rest ih =>
      obtain ⟨stepped, left⟩ := correct_step correct room
      rw [received_cons, List.length_append] at same
      rw [received_cons, List.append_assoc, ← List.take_append_drop event.received.length bytes,
        List.append_assoc] at up
      have taken : (bytes.take event.received.length).length = event.received.length := by
        rw [List.length_take]
        omega
      have above : event.isRequest = true → gap < whole.nextToken := by
        intro request
        simp only [requestCount, List.countP_cons, request, if_true] at room
        rw [UInt64.lt_iff_toNat_lt, correct.nextToken_toNat (by omega)]
        omega
      obtain ⟨first, told⟩ := up.step correct.toSound taken above
      obtain ⟨later, others⟩ := ih stepped left (by omega) first (by
        rw [List.length_drop]
        omega)
      rw [run_cons, readdressAll, run_cons]
      exact ⟨later, told.append others⟩

end

end Session

end QueryDriver
