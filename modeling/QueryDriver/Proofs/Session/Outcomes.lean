import QueryDriver.Proofs.Session.Clock

/-!
How requests end. Tokens are given out as 1, 2, 3 and so on. The first thing that happens to a
request after its registration decides how it ends, nothing later changes that, and no frame of the
server answers two requests. A caller is told how the request has ended once its frame is queued;
who comes to the queue only after the writer has ended is told that the session is closed.
-/

namespace QueryDriver.Session

open Requests (Sound Correct)

/-- A call that is not interrupted is one that is registered and goes on at once. -/
theorem dispatch_eq_run (session : Session) (free : session.holds session.nextToken = false)
    (payload : ByteArray) :
    session.step (.dispatch payload) =
      session.run [.register payload, .enqueue session.nextToken] := by
  have ran : session.run [.register payload, .enqueue session.nextToken] =
      (((session.hold payload).1.enqueue session.nextToken).1,
        (session.hold payload).2 ++ ((session.hold payload).1.enqueue session.nextToken).2) := by
    rw [run_cons, run_cons, run, List.append_nil]
    rfl
  rw [ran, step, dispatch, hold]
  cases isOpen : session.closed with
  | true =>
      simp only [prepare_of_closed isOpen, Option.toList_none, List.append_nil, enqueue_of_not_holds free]
  | false =>
      rcases Nat.lt_or_ge Frame.maxPayload payload.size with large | fits
      · have still : Session.holds
            { session with toRequests := session.register.leave session.nextToken }
            session.nextToken = false := free
        simp only [prepare_of_large isOpen large, Option.toList_none, List.append_nil,
          enqueue_of_not_holds still]
      · obtain ⟨unsent, same, prepared⟩ := prepare_of_fits isOpen fits
        have number : unsent.frame.token = session.nextToken := by rw [same]
        have still : Session.holds { session with toRequests := session.register }
            unsent.frame.token = false := by
          rw [number]
          exact free
        have goesOn := enqueue_last still
        rw [number] at goesOn
        simp only [prepared, Option.toList_some, goesOn]

section

variable {issued : Nat} {session : Session} {event : Event} {payload : ByteArray}

theorem registrations_request (correct : Correct issued session.toRequests)
    (isOpen : session.closed = false) (request : event.payload? = some payload) :
    registrations (session.step event).2 = [session.nextToken] := by
  simp [registrations_step correct.toSound, isRequest_of_payload request, isOpen]

theorem endings_of_request (correct : Correct issued session.toRequests)
    (isOpen : session.closed = false) (request : event.payload? = some payload)
    {after : List Event} (room : issued + requestCount (event :: after) < UInt64.size) :
    endings session.nextToken (session.run (event :: after)).2 =
      if payload.size ≤ Frame.maxPayload then
        (((session.step event).1.trace after).findSome?
          (Occurrence.ending? session.nextToken)).toList
      else
        [.outcome (.error (.protocol (.invalidMessage
          (.payloadTooLarge payload.size Frame.maxPayload))))] := by
  obtain ⟨stepped, left⟩ := correct_step correct room
  have waits := mem_waiting_step correct.toSound event session.nextToken
  have registered := registrations_request correct isOpen request
  rw [registered] at stepped left waits
  rw [run_cons, endings_append]
  rcases session.request_cases request with
    ⟨isClosed, _⟩ | ⟨_, fits, unsent, _, result⟩ | ⟨_, large, result⟩
  · simp [isOpen] at isClosed
  · have unended : endings session.nextToken (session.step event).2 = [] := by
      simp [result, endings, Notice.ending?]
    have waiting := waits.mpr ⟨.inr (List.mem_singleton_self _), unended⟩
    rw [unended, if_pos fits, endings_run_of_waiting stepped left waiting, List.nil_append]
  · have ended : endings session.nextToken (session.step event).2 =
        [.outcome (.error (.protocol (.invalidMessage
          (.payloadTooLarge payload.size Frame.maxPayload))))] := by
      simp [result, endings, List.filterMap_cons, Notice.ending?]
    have gone : session.nextToken ∉ (session.step event).1.waiting := by
      rw [waits, ended]
      simp
    have once : session.nextToken ∉
        registrations ((session.step event).1.run after).2 := by
      intro again
      have distinct := registrations_run_nodup correct room
      rw [run_cons, registrations_append, registered] at distinct
      exact (List.nodup_cons.mp distinct).1 again
    rw [ended, if_neg (by omega), endings_run_eq_nil stepped left gone once, List.append_nil]

theorem endings_before_request (correct : Correct issued session.toRequests)
    {before after : List Event} (request : event.payload? = some payload)
    (room : issued + requestCount (before ++ event :: after) < UInt64.size)
    (isOpen : (session.run before).1.closed = false)
    (absent : (session.run before).1.nextToken ∉ session.waiting) :
    endings (session.run before).1.nextToken (session.run before).2 = [] := by
  obtain ⟨reached, left⟩ := correct_run correct room
  have early : issued + requestCount before < UInt64.size := by
    simp only [requestCount, List.countP_append] at room ⊢
    omega
  apply endings_run_eq_nil correct early absent
  intro earlier
  have distinct := registrations_run_nodup correct room
  rw [run_append, run_cons, registrations_append, registrations_append,
    registrations_request reached isOpen request, List.nodup_append] at distinct
  exact distinct.2.2 _ earlier _ (List.mem_append_left _ (List.mem_singleton_self _)) rfl

/-- No frame is kept under a token that is still to be given out. -/
theorem not_holds_nextToken (correct : Correct issued session.toRequests)
    (nobody : session.unsent = []) {before after : List Event}
    (request : event.payload? = some payload)
    (room : issued + requestCount (before ++ event :: after) < UInt64.size) :
    (session.run before).1.holds (session.run before).1.nextToken = false := by
  obtain ⟨reached, left⟩ := correct_run correct room
  have early : issued + requestCount before < UInt64.size := by
    simp only [requestCount, List.countP_append] at room ⊢
    omega
  simp only [requestCount, List.countP_cons, isRequest_of_payload request, if_true] at left
  have number := reached.nextToken_toNat (by omega)
  refine Bool.eq_false_iff.mpr fun held => ?_
  have balance := count_told_le correct.toSound nobody before (session.run before).1.nextToken
  have kept := List.count_pos_iff.mpr (holds_iff_mem_kept.mp held)
  have registered : (session.run before).1.nextToken ∈
      registrations (session.run before).2 := List.count_pos_iff.mp (by omega)
  have bounds := registrations_run_bounds correct early registered
  omega

theorem offered_append (session : Session) (first second : List Event) :
    session.offered (first ++ second) =
      session.offered first ++ (session.run first).1.offered second := by
  induction first generalizing session with
  | nil => rfl
  | cons event rest ih =>
      rw [List.cons_append, offered, ih, offered, run_cons, List.append_assoc]

/-- Who is told that the queue is gone has come there on a closed session, after the request had
ended, with a frame that is never queued. -/
theorem of_mem_unsents (correct : Correct issued session.toRequests) (nobody : session.unsent = [])
    {events : List Event} (room : issued + requestCount events < UInt64.size) {token : UInt64}
    (told : token ∈ unsents (session.run events).2) :
    (unsents (session.run events).2).count token = 1 ∧
      token ∈ registrations (session.run events).2 ∧
      token ∉ (session.offered events).map Frame.token := by
  have balance := count_told_le correct.toSound nobody events token
  have once := List.nodup_iff_count.mp (registrations_run_nodup correct room) token
  have some : 0 < (unsents (session.run events).2).count token := List.count_pos_iff.mpr told
  refine ⟨by omega, List.count_pos_iff.mp (by omega), ?_⟩
  rw [← List.count_eq_zero]
  omega

theorem closed_of_mem_unsents (sound : Sound session.toRequests) {events : List Event}
    {token : UInt64} (told : token ∈ unsents (session.run events).2) :
    (session.run events).1.closed = true := by
  induction events generalizing session with
  | nil => cases told
  | cons event rest ih =>
      have stepped := sound_step sound event
      rw [run_cons, unsents_append, List.mem_append] at told
      rcases told with now | later
      · have isClosed := (gone_of_mem_unsents sound now).1
        exact closed_run stepped (closed_step sound isClosed event) rest
      · exact ih stepped later

theorem returns_of_offered (correct : Correct issued session.toRequests)
    (nobody : session.unsent = []) {events : List Event}
    (room : issued + requestCount events < UInt64.size) {token : UInt64}
    (queued : token ∈ (session.offered events).map Frame.token) :
    returns token (session.run events).2 = endings token (session.run events).2 :=
  if_neg fun told => (of_mem_unsents correct nobody room told).2.2 queued

end

/-- Each request is ended at most once, by the first occurrence for it after its registration. Its
caller is told that end, if the frame was queued at once, and is told no other end than that the
session is closed if it was not. A call that is not interrupted goes on as soon as its request is
registered. A clock brings about nothing but that deadlines pass. -/
theorem outcome_of_first_occurrence (maxMessageSize : Nat) (serverVersion : Option String)
    (unread : List UInt8) (events : List Event) (few : requestCount events < UInt64.size) :
    let session := start maxMessageSize serverVersion unread
    let notices := (session.run events).2
    ((registrations notices).map UInt64.toNat =
        List.range' firstToken.toNat (registrations notices).length ∧
      (registrations notices).Nodup) ∧
    (∀ before event payload after, events = before ++ event :: after →
      event.payload? = some payload →
      let reached := (session.run before).1
      reached.closed = false →
        let registered := reached.step event
        (event = .dispatch payload →
          registered = reached.run [.register payload, .enqueue reached.nextToken]) ∧
        registrations registered.2 = [reached.nextToken] ∧
        endings reached.nextToken notices =
          (if payload.size ≤ Frame.maxPayload then
            ((registered.1.trace after).findSome? (Occurrence.ending? reached.nextToken)).toList
          else
            [.outcome (.error (.protocol (.invalidMessage
              (.payloadTooLarge payload.size Frame.maxPayload))))]) ∧
        (payload.size ≤ Frame.maxPayload → reached.queuesAtOnce event = true →
          returns reached.nextToken notices = endings reached.nextToken notices)) ∧
    (∀ token, token ∉ registrations notices → endings token notices = []) ∧
    (∀ token ∈ unsents notices, (session.run events).1.closed = true ∧
      (unsents notices).count token = 1 ∧ token ∈ registrations notices ∧
      endings token notices ≠ [] ∧ token ∉ (session.offered events).map Frame.token) ∧
    (answers notices).Sublist ((session.trace events).filterMap Occurrence.frame?) ∧
    ∀ config actions,
      let begun := Timed.start config session
      let timed := begun.performAll actions
      timed.1.session = (session.run (begun.allEvents actions)).1 ∧
        timed.2 = (session.run (begun.allEvents actions)).2 ∧
        (actions.countP Timed.Action.isRequest < UInt64.size →
          timed.1.KeepsTime config.requestTimeout) := by
  intro session notices
  have correct := start_correct maxMessageSize serverVersion unread
  have room : 0 + requestCount events < UInt64.size := by omega
  refine ⟨⟨registrations_run correct room, registrations_run_nodup correct room⟩, ?_, ?_, ?_,
    answers_run correct.toSound events, ?_⟩
  · intro before event payload after split request reached isOpen registered
    subst split
    obtain ⟨reachedCorrect, left⟩ := correct_run correct room
    refine ⟨?_, registrations_request reachedCorrect isOpen request, ?_, ?_⟩
    · rintro rfl
      exact reached.dispatch_eq_run (not_holds_nextToken correct rfl request room) payload
    · have earlier := endings_before_request correct request room isOpen (by simp [start])
      have later := endings_of_request reachedCorrect isOpen request left
      calc endings reached.nextToken notices
          = endings reached.nextToken (session.run before).2 ++
              endings reached.nextToken (reached.run (event :: after)).2 := by
            rw [← endings_append]
            exact congrArg (fun result => endings reached.nextToken result.2)
              (run_append session before (event :: after))
        _ = endings reached.nextToken (reached.run (event :: after)).2 :=
            congrArg (· ++ _) earlier
        _ = _ := later
    · intro fits queued
      have offers : ⟨reached.nextToken, payload⟩ ∈ reached.offers event := by
        rw [offers_of_request request, if_pos queued, admits_of_request isOpen request]
        simp [writable, fits]
      apply returns_of_offered correct rfl room
      rw [offered_append]
      exact List.mem_map_of_mem (List.mem_append_right _ (List.mem_append_left _ offers))
  · intro token unregistered
    exact endings_run_eq_nil correct room (by simp [start]) unregistered
  · intro token told
    obtain ⟨once, registered, unqueued⟩ := of_mem_unsents correct rfl room told
    have isClosed := closed_of_mem_unsents correct.toSound told
    refine ⟨isClosed, once, registered, fun unended => ?_, unqueued⟩
    have waits := (mem_waiting_run correct room token).mpr ⟨.inr registered, unended⟩
    rw [(sound_run correct.toSound events).closed isClosed] at waits
    cases waits
  · intro config actions
    obtain ⟨ran, told⟩ := (Timed.start config session).performAll_eq_run actions
    exact ⟨ran, told, Timed.keepsTime_performAll config maxMessageSize serverVersion unread⟩

/-- Two requests whose replies cross, with one reply sent again, a deadline that comes too late and
a closing after that. -/
def crossedReplies : List Event :=
  [.dispatch ⟨#[97]⟩, .dispatch ⟨#[98]⟩,
    .receive (Frame.header 2 1 ++ [121] ++ Frame.header 1 1 ++ [120] ++ Frame.header 2 1 ++ [122]),
    .expire 1, .close]

theorem outcome_of_first_occurrence_crossed :
    requestCount crossedReplies < UInt64.size ∧
      returns 1 ((start 8 none []).run crossedReplies).2 = [.outcome (.ok ⟨#[120]⟩)] ∧
      returns 2 ((start 8 none []).run crossedReplies).2 = [.outcome (.ok ⟨#[121]⟩)] := by
  have few : requestCount crossedReplies < UInt64.size := by decide
  obtain ⟨_, outcomes, _⟩ := outcome_of_first_occurrence 8 none [] crossedReplies few
  obtain ⟨_, _, first, firstTold⟩ := outcomes [] _ _ _ rfl rfl rfl
  obtain ⟨_, _, second, secondTold⟩ := outcomes [_] _ _ _ rfl rfl rfl
  refine ⟨few, ?_, ?_⟩
  · exact (firstTold (by decide) rfl).trans first
  · exact (secondTold (by decide) rfl).trans second

/-- A caller is told that the session is closed although its request ended before, by a failure of
the connection or by its reply, if it comes to the queue only when the writer has ended. -/
theorem returns_other_than_outcome :
    let session := start 8 none []
    let registered := (session.step (.register ⟨#[97]⟩)).1
    let lost : List Event := [.endOfStream, .writerEnds, .enqueue 1]
    let answered : List Event :=
      [.receive (Frame.header 1 1 ++ [120]), .close, .writerEnds, .enqueue 1]
    (registered.trace lost).findSome? (Occurrence.ending? 1) =
        some (.outcome (.error (.transport "io error: early eof"))) ∧
      returns 1 (session.run (.register ⟨#[97]⟩ :: lost)).2 =
        [.outcome (.error .sessionClosed)] ∧
      (registered.trace answered).findSome? (Occurrence.ending? 1) =
        some (.outcome (.ok ⟨#[120]⟩)) ∧
      returns 1 (session.run (.register ⟨#[97]⟩ :: answered)).2 =
        [.outcome (.error .sessionClosed)] :=
  ⟨rfl, rfl, rfl, rfl⟩

end QueryDriver.Session
