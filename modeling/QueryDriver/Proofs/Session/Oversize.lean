import QueryDriver.Proofs.Session.Clock
import QueryDriver.Proofs.Session.Gap

/-!
Requests that are too large. Such a request fails at once and leaves nothing behind but its token,
which is used up: a run goes on as it would without the request, with every later token one higher.
-/

namespace QueryDriver

/-- A request that is too large leaves the requests as they were, but for the next token. -/
theorem Requests.Correct.leave_register {issued : Nat} {requests : Requests}
    (correct : Correct issued requests) (room : issued + 1 < UInt64.size) :
    requests.register.leave requests.nextToken =
      { requests with nextToken := requests.nextToken + 1 } := by
  have others : ∀ token ∈ requests.waiting, decide (token ≠ requests.nextToken) = true := by
    intro token waits
    have bound := (correct.bounded token waits).2
    have number := correct.nextToken_toNat room
    rw [decide_eq_true_iff]
    rintro rfl
    omega
  simp only [Requests.leave, Requests.forget, Requests.register, correct.expected,
    List.filter_append, List.filter_eq_self.mpr others]
  simp

theorem Requests.Correct.skip {issued : Nat} {requests : Requests}
    (correct : Correct issued requests) :
    Correct (issued + 1) { requests with nextToken := requests.nextToken + 1 } := by
  refine ⟨⟨correct.expected, correct.closed⟩, ?_, correct.distinct, ?_⟩
  · simp only [correct.nextToken]
    exact (UInt64.ofNat_add (issued + 1) 1).symm
  · intro token waits
    have bounds := correct.bounded token waits
    omega

namespace Session

open Requests (Sound Correct)

open Frame.Progress (Readdressed)

/-- The session once a token is used up for nothing. -/
def skip (session : Session) : Session :=
  { session with nextToken := session.nextToken + 1 }

/-- The frames of which some bytes have arrived, as far as the bytes to come complete them. -/
def begun (session : Session) (coming : List UInt8) : List Frame :=
  let read := session.incoming.feed session.maxMessageSize session.unread
  read.2 ++ (read.1.underway? session.maxMessageSize coming).toList

theorem exists_readdressed (session : Session) (coming : List UInt8) {change : UInt64 → UInt64}
    (fixed : ∀ frame ∈ session.begun coming, change frame.token = frame.token) :
    ∃ changed, Readdressed change session.maxMessageSize session.incoming session.incoming
      (session.unread ++ coming) (session.unread ++ changed) := by
  obtain ⟨arrived, underway⟩ := List.forall_mem_append.mp fixed
  obtain ⟨changed, same⟩ := Frame.Progress.exists_readdressed
    fun frame member => underway frame (Option.mem_toList.mpr member)
  exact ⟨changed, (Readdressed.unchanged arrived).append same⟩

/-- All frames that wait to be written are those of earlier requests. -/
theorem queue_earlier {issued : Nat} {session : Session}
    (correct : Correct issued session.toRequests) (unqueued : session.queue = [])
    (nobody : session.unsent = []) {events : List Event}
    (room : issued + requestCount events < UInt64.size) :
    ∀ bytes ∈ (session.run events).1.queue, ∃ frame : Frame, bytes = frame.wire ∧
      frame.token.toNat ≤ issued + (registrations (session.run events).2).length := by
  intro bytes queued
  have balance := queue_balance_run correct.toSound events
  have offered : bytes ∈ (session.offered events).map Frame.wire := by
    rw [unqueued, List.nil_append] at balance
    rw [balance]
    exact List.mem_append_right _ queued
  obtain ⟨frame, member, rfl⟩ := List.mem_map.mp offered
  have registered : frame.token ∈ registrations (session.run events).2 := by
    rw [registrations_eq_admitted correct.toSound]
    have writes := (offered_subperm correct.toSound nobody events).subset member
    exact List.mem_map_of_mem (List.mem_of_mem_filter writes)
  exact ⟨frame, rfl, (registrations_run_bounds correct room registered).2⟩

namespace Timed

def Action.received : Action → List UInt8
  | .other event => event.received
  | _ => []

def received (actions : List Action) : List UInt8 :=
  actions.flatMap Action.received

/-- The action under another token, with other bytes if it receives any. -/
def Action.readdress (change : UInt64 → UInt64) (bytes : List UInt8) : Action → Action
  | .other event => .other (event.readdress change bytes)
  | action => action

/-- Actions under other tokens, in which other bytes are received, cut into chunks as before. -/
def readdressAll (change : UInt64 → UInt64) (bytes : List UInt8) : List Action → List Action
  | [] => []
  | action :: rest =>
      action.readdress change (bytes.take action.received.length) ::
        readdressAll change (bytes.drop action.received.length) rest

def Deadline.readdress (change : UInt64 → UInt64) (deadline : Deadline) : Deadline :=
  { deadline with token := change deadline.token }

def Allowance.readdress (change : UInt64 → UInt64) (allowance : Allowance) : Allowance :=
  { allowance with token := change allowance.token }

/-- A session with a clock and one in which the request with the token `gap` was not made. -/
structure ClosesUp (gap : UInt64) (coming changed : List UInt8) (whole part : Timed) : Prop where
  session : Session.ClosesUp gap coming changed whole.session part.session
  now : part.now = whole.now
  deadlines : part.deadlines = whole.deadlines.map (Deadline.readdress (closeGap gap))
  allowances : part.allowances = whole.allowances.map (Allowance.readdress (closeGap gap))
  requestTimeout : part.requestTimeout = whole.requestTimeout

theorem received_expire (timed : Timed) (span : Duration) :
    Session.received (timed.events (.advance span)) = [] := by
  rw [events, Session.received, List.flatMap_map]
  exact List.flatMap_eq_nil_iff.mpr fun _ _ => rfl

section

variable {gap : UInt64} {whole part : Timed} {coming changed bytes : List UInt8}
  {payload : ByteArray} {timeout : Option Duration}

theorem readdressAll_expire (change : UInt64 → UInt64) (bytes : List UInt8)
    (deadlines : List Deadline) :
    Session.readdressAll change bytes (deadlines.map fun deadline => .expire deadline.token) =
      deadlines.map fun deadline => .expire (change deadline.token) := by
  induction deadlines with
  | nil => rfl
  | cons deadline rest ih => exact congrArg (_ :: ·) ih

theorem ClosesUp.expired (up : ClosesUp gap coming changed whole part) (span : Duration) :
    part.events (.advance span) =
      Session.readdressAll (closeGap gap) [] (whole.events (.advance span)) := by
  rw [Timed.events, Timed.events, readdressAll_expire, up.deadlines, up.now, List.filter_map,
    List.map_map]
  rfl

theorem ClosesUp.setDeadlines (up : ClosesUp gap coming changed whole part) :
    ClosesUp gap coming changed whole.setDeadlines part.setDeadlines := by
  have held : (fun allowance => part.session.holds (Allowance.token allowance)) ∘
      Allowance.readdress (closeGap gap) = fun allowance =>
        whole.session.holds allowance.token :=
    funext fun allowance => up.session.holds allowance.token
  have queued : (not ∘ fun allowance => part.session.holds (Allowance.token allowance)) ∘
      Allowance.readdress (closeGap gap) = not ∘ fun allowance =>
        whole.session.holds allowance.token := by
    rw [Function.comp_assoc, held]
  have waiting : (fun allowance =>
        decide (Allowance.token allowance ∈ part.session.waiting)) ∘
      Allowance.readdress (closeGap gap) = fun allowance =>
        decide (allowance.token ∈ whole.session.waiting) :=
    funext fun allowance => decide_eq_decide.mpr (up.session.waits allowance.token)
  rw [setDeadlines_eq, setDeadlines_eq]
  refine ⟨up.session, up.now, ?_, ?_, up.requestTimeout⟩
  · simp only [up.deadlines, up.allowances, up.now, List.filter_map, queued, waiting,
      List.map_append, List.map_map]
    rfl
  · simp only [up.allowances, List.filter_map, held]

/-- A request is given its allowance in both sessions or in neither. -/
theorem ClosesUp.allowanceOf {event : Event} (up : ClosesUp gap coming changed whole part)
    (past : gap < whole.session.nextToken)
    (stepped : Session.ClosesUp gap coming changed (whole.session.step event).1
      (part.session.step event).1) :
    part.allowanceOf event timeout =
      (whole.allowanceOf event timeout).map (Allowance.readdress (closeGap gap)) := by
  have numbered := (up.session.register past).1
  have waits := stepped.waits whole.session.nextToken
  rw [Timed.allowanceOf, Timed.allowanceOf, up.requestTimeout, numbered]
  cases timeout <|> whole.requestTimeout with
  | none => rfl
  | some span =>
      by_cases waiting : whole.session.nextToken ∈ (whole.session.step event).1.waiting
      · simp only [if_pos waiting, if_pos (waits.mpr waiting)]
        rfl
      · simp only [if_neg waiting, if_neg (mt waits.mp waiting)]
        rfl

theorem ClosesUp.request {event : Event} (request : event.payload? = some payload)
    (sound : Sound whole.session.toRequests) (past : gap < whole.session.nextToken)
    (up : ClosesUp gap coming changed whole part) :
    ClosesUp gap coming changed (whole.request event timeout).1 (part.request event timeout).1 ∧
      TellsClosedUp gap (whole.request event timeout).2 (part.request event timeout).2 := by
  have silent : event.received = [] := by
    cases event <;> first | rfl | cases request
  have before : Session.ClosesUp gap (event.received ++ coming) ([] ++ changed) whole.session
      part.session := by
    rw [silent]
    exact up.session
  have after := before.step sound (by rw [silent]) fun _ => past
  rw [readdress_of_request request] at after
  obtain ⟨session, told⟩ := after
  rw [request_eq, request_eq]
  refine ⟨ClosesUp.setDeadlines ⟨session, up.now, up.deadlines, ?_, up.requestTimeout⟩, told⟩
  simp only [up.allowances, up.allowanceOf past session, List.map_append]

theorem ClosesUp.perform {issued : Nat} {action : Action}
    (correct : Correct issued whole.session.toRequests)
    (room : issued + requestCount (whole.events action) < UInt64.size) (past : gap.toNat ≤ issued)
    (up : ClosesUp gap (action.received ++ coming) (bytes ++ changed) whole part)
    (same : bytes.length = action.received.length) :
    let performed := part.perform (action.readdress (closeGap gap) bytes)
    ClosesUp gap coming changed (whole.perform action).1 performed.1 ∧
      TellsClosedUp gap (whole.perform action).2 performed.2 := by
  have above (request : action.isRequest = true) : gap < whole.session.nextToken := by
    rw [requestCount_events, if_pos request] at room
    rw [UInt64.lt_iff_toNat_lt, correct.nextToken_toNat room]
    omega
  cases action with
  | dispatch payload timeout =>
      obtain rfl : bytes = [] := List.length_eq_zero_iff.mp same
      exact ClosesUp.request rfl correct.toSound (above rfl) up
  | register payload timeout =>
      obtain rfl : bytes = [] := List.length_eq_zero_iff.mp same
      exact ClosesUp.request rfl correct.toSound (above rfl) up
  | advance span =>
      obtain rfl : bytes = [] := List.length_eq_zero_iff.mp same
      have silent := whole.received_expire span
      have before : Session.ClosesUp gap (Session.received (whole.events (.advance span)) ++ coming)
          ([] ++ changed) whole.session part.session := by
        rw [silent]
        exact up.session
      obtain ⟨session, told⟩ := before.run correct room past (by rw [silent])
      rw [← up.expired span] at session told
      change ClosesUp gap coming changed (whole.advance span).1 (part.advance span).1 ∧
        TellsClosedUp gap (whole.advance span).2 (part.advance span).2
      rw [whole.advance_eq, part.advance_eq]
      refine ⟨⟨session, ?_, ?_, up.allowances, up.requestTimeout⟩, told⟩
      · simp only [up.now]
      · simp only [up.deadlines, up.now, List.filter_map]
        rfl
  | other event =>
      obtain ⟨session, told⟩ := up.session.step correct.toSound same above
      exact ⟨ClosesUp.setDeadlines ⟨session, up.now, up.deadlines, up.allowances,
        up.requestTimeout⟩, told⟩

theorem ClosesUp.performAll {issued : Nat} {actions : List Action}
    (correct : Correct issued whole.session.toRequests)
    (room : issued + requestCount (whole.allEvents actions) < UInt64.size)
    (past : gap.toNat ≤ issued)
    (up : ClosesUp gap (received actions ++ coming) (bytes ++ changed) whole part)
    (same : bytes.length = (received actions).length) :
    let performed := part.performAll (readdressAll (closeGap gap) bytes actions)
    ClosesUp gap coming changed (whole.performAll actions).1 performed.1 ∧
      TellsClosedUp gap (whole.performAll actions).2 performed.2 := by
  induction actions generalizing issued whole part bytes with
  | nil =>
      obtain rfl : bytes = [] := List.length_eq_zero_iff.mp same
      exact ⟨up, tellsClosedUp_readdress gap rfl⟩
  | cons action rest ih =>
      rw [Timed.allEvents] at room
      obtain ⟨performed, left⟩ := correct_run correct room
      rw [← (whole.perform_eq_run action).1] at performed
      rw [received, List.flatMap_cons, List.length_append] at same
      rw [received, List.flatMap_cons, List.append_assoc,
        ← List.take_append_drop action.received.length bytes, List.append_assoc] at up
      have taken : (bytes.take action.received.length).length = action.received.length := by
        rw [List.length_take]
        omega
      have few : issued + requestCount (whole.events action) < UInt64.size := by
        rw [requestCount, List.countP_append] at room
        rw [requestCount]
        omega
      obtain ⟨first, told⟩ := up.perform correct few past taken
      obtain ⟨later, others⟩ := ih performed left (by omega) first (by
        rw [List.length_drop, received]
        omega)
      rw [performAll_cons, readdressAll, performAll_cons]
      exact ⟨later, told.append others⟩

end

/-- Where only kept requests have allowances, there is no deadline to set. -/
theorem setDeadlines_eq_self {timed : Timed}
    (held : ∀ allowance ∈ timed.allowances, timed.session.holds allowance.token = true) :
    timed.setDeadlines = timed := by
  have kept : timed.allowances.filter (fun allowance => timed.session.holds allowance.token) =
      timed.allowances := List.filter_eq_self.mpr held
  have queued : timed.allowances.filter (not ∘ fun allowance =>
      timed.session.holds allowance.token) = [] :=
    List.filter_eq_nil_iff.mpr fun allowance member => by simp [held allowance member]
  rw [setDeadlines_eq, kept, queued, List.filter_nil, List.map_nil, List.append_nil]

/-- A request that is too large fails at once, and nothing comes of it but a token that is used
up. -/
theorem perform_oversized {issued : Nat} {timed : Timed} (punctual : Punctual issued timed)
    (room : issued + 1 < UInt64.size) (isOpen : timed.session.closed = false)
    {payload : ByteArray} (large : Frame.maxPayload < payload.size) (timeout : Option Duration) :
    timed.perform (.dispatch payload timeout) =
      ({ timed with session := timed.session.skip },
        [.registered timed.session.nextToken,
          .ended timed.session.nextToken (.error (.protocol (.invalidMessage
            (.payloadTooLarge payload.size Frame.maxPayload))))]) := by
  have correct := punctual.correct
  have request : Event.payload? (.dispatch payload) = some payload := rfl
  have dispatched : timed.session.step (.dispatch payload) =
      (timed.session.skip, [.registered timed.session.nextToken,
        .ended timed.session.nextToken (.error (.protocol (.invalidMessage
          (.payloadTooLarge payload.size Frame.maxPayload))))]) := by
    have result := request_of_large isOpen large request
    rw [correct.leave_register room] at result
    exact result
  have allowed : timed.allowanceOf (.dispatch payload) timeout = [] := by
    have gone : timed.session.nextToken ∉ timed.session.skip.waiting := by
      intro waits
      have bound := (correct.bounded _ waits).2
      rw [correct.nextToken_toNat room] at bound
      omega
    rw [allowanceOf, dispatched]
    simp only [if_neg gone]
    split <;> rfl
  rw [perform, Timed.dispatch, request_eq, dispatched, allowed, List.append_nil]
  exact Prod.ext (setDeadlines_eq_self punctual.allowances) rfl

/-- All that a session keeps is of requests that have been given a token so far. -/
structure Settled (issued : Nat) (timed : Timed) : Prop extends Punctual issued timed where
  queue : ∀ bytes ∈ timed.session.queue, ∃ frame : Frame, bytes = frame.wire ∧
    frame.token.toNat ≤ issued

theorem settled_performAll (config : Config) (maxMessageSize : Nat) (serverVersion : Option String)
    (unread : List UInt8) {actions : List Action} {count : Nat}
    (few : actions.countP Action.isRequest + count < UInt64.size) :
    ∃ issued, issued + count < UInt64.size ∧ Settled issued ((Timed.start config
      (Session.start maxMessageSize serverVersion unread)).performAll actions).1 := by
  let opened := Timed.start config (Session.start maxMessageSize serverVersion unread)
  have fresh : Correct 0 opened.session.toRequests := start_correct _ _ _
  obtain ⟨ran, notices⟩ := opened.performAll_eq_run actions
  have counted := opened.requestCount_allEvents actions
  have early : 0 + requestCount (opened.allEvents actions) < UInt64.size := by
    omega
  have issued : (registrations (opened.performAll actions).2).length ≤
      actions.countP Action.isRequest := by
    rw [notices, ← counted]
    exact length_registrations_run fresh.toSound _
  have punctual := (punctual_start config maxMessageSize serverVersion unread).performAll early
  rw [Nat.zero_add] at punctual
  refine ⟨(registrations (opened.performAll actions).2).length, by omega, punctual, ?_⟩
  have queued := queue_earlier fresh rfl rfl early
  rw [← ran, ← notices, Nat.zero_add] at queued
  exact queued

/-- A session that has used up a token for nothing goes on like the one that has not. -/
theorem Settled.closesUp_skip {issued : Nat} {timed : Timed} (settled : Settled issued timed)
    (room : issued + 1 < UInt64.size) {coming changed : List UInt8}
    (reading : Readdressed (closeGap timed.session.nextToken) timed.session.maxMessageSize
      timed.session.incoming timed.session.incoming (timed.session.unread ++ coming)
      (timed.session.unread ++ changed)) :
    ClosesUp timed.session.nextToken coming changed { timed with session := timed.session.skip }
      timed := by
  have number := settled.correct.nextToken_toNat room
  have kept {token : UInt64} (early : token.toNat ≤ issued) :
      closeGap timed.session.nextToken token = token := by
    apply closeGap_below
    rw [UInt64.lt_iff_toNat_lt]
    omega
  have waiting : timed.session.waiting.map (closeGap timed.session.nextToken) =
      timed.session.waiting :=
    (List.map_congr_left fun token waits =>
      kept (settled.correct.bounded token waits).2).trans (List.map_id _)
  have holding {token : UInt64} (held : timed.session.holds token = true) :
      closeGap timed.session.nextToken token = token :=
    kept (settled.kept token held)
  refine ⟨⟨?_, rfl, ?_, rfl, ?_, rfl, fun _ => reading⟩, rfl, ?_, ?_, rfl⟩
  · have pending := waiting
    rw [← settled.correct.expected] at pending
    simp only [Requests.readdress, skip, waiting, pending, UInt64.add_sub_cancel]
  · refine ((List.map_congr_left fun frame member => ?_).trans (List.map_id _)).symm
    rw [Frame.readdress, holding (holds_iff_mem_kept.mpr (List.mem_map_of_mem member))]
    rfl
  · refine List.forall₂_same.mpr fun bytes member => ?_
    obtain ⟨frame, rfl, early⟩ := settled.queue bytes member
    refine ⟨frame, rfl, ?_⟩
    rw [Frame.readdress, kept early]
  · refine ((List.map_congr_left fun deadline member => ?_).trans (List.map_id _)).symm
    rw [Deadline.readdress, kept (settled.deadlines deadline member).1]
    rfl
  · refine ((List.map_congr_left fun allowance member => ?_).trans (List.map_id _)).symm
    rw [Allowance.readdress, holding (settled.allowances allowance member)]
    rfl

end Timed

/-- In a session that is open a request that is too large fails at once, and only a token is used up.
Whatever happens then, the session does what it would have done without the request, with later
tokens one higher on the connection and in the replies. Replies have their other tokens in `bytes`,
which there are unless a reply has begun before the request that it is for. -/
theorem oversized_leaves_no_trace (config : Config) (maxMessageSize : Nat)
    (serverVersion : Option String) (unread : List UInt8) (before after : List Timed.Action)
    {payload : ByteArray} (large : Frame.maxPayload < payload.size) (timeout : Option Duration)
    (few : (before ++ .dispatch payload timeout :: after).countP Timed.Action.isRequest <
      UInt64.size) :
    let reached :=
      ((Timed.start config (start maxMessageSize serverVersion unread)).performAll before).1
    let session := reached.session
    let gap := session.nextToken
    let failed := reached.perform (.dispatch payload timeout)
    session.closed = false →
    failed =
      ({ reached with session := session.skip },
        [.registered gap,
          .ended gap (.error (.protocol (.invalidMessage
            (.payloadTooLarge payload.size Frame.maxPayload))))]) ∧
    ((∀ frame ∈ session.begun (Timed.received after), frame.token < gap) →
      ∃ bytes, Readdressed (closeGap gap) session.maxMessageSize session.incoming session.incoming
        (session.unread ++ Timed.received after) (session.unread ++ bytes)) ∧
    ∀ bytes, Readdressed (closeGap gap) session.maxMessageSize session.incoming session.incoming
        (session.unread ++ Timed.received after) (session.unread ++ bytes) →
      let whole := failed.1.performAll after
      let part := reached.performAll (Timed.readdressAll (closeGap gap) bytes after)
      TellsClosedUp gap whole.2 part.2 ∧ Timed.ClosesUp gap [] [] whole.1 part.1 := by
  intro reached session gap failed isOpen
  rw [List.countP_append, List.countP_cons_of_pos rfl, Nat.add_comm _ 1] at few
  obtain ⟨issued, room, settled⟩ :=
    Timed.settled_performAll config maxMessageSize serverVersion unread few
  have result := Timed.perform_oversized settled.toPunctual (by omega) isOpen large timeout
  refine ⟨result, ?_, ?_⟩
  · intro earlier
    apply session.exists_readdressed
    intro frame member
    exact closeGap_below (earlier frame member)
  · intro bytes reading
    have left : failed.1 = { reached with session := session.skip } := congrArg Prod.fst result
    have number : gap.toNat = issued + 1 := settled.correct.nextToken_toNat (by omega)
    have up : Timed.ClosesUp gap (Timed.received after ++ []) (bytes ++ []) failed.1 reached := by
      rw [List.append_nil, List.append_nil, left]
      exact settled.closesUp_skip (by omega) reading
    have length : bytes.length = (Timed.received after).length := by
      have total := reading.length
      simp only [List.length_append] at total
      omega
    have skipped : Correct (issued + 1) failed.1.session.toRequests := by
      rw [left]
      exact settled.correct.skip
    have rest : issued + 1 + requestCount (failed.1.allEvents after) < UInt64.size := by
      rw [Timed.requestCount_allEvents]
      omega
    exact (up.performAll skipped rest (by omega) length).symm

/-- One more request after one that was too large, and its reply. -/
def oneMore : List Timed.Action :=
  [.dispatch ⟨#[98]⟩ none, .other .transmit, .other .transmit,
    .other (.receive (Frame.bytes ⟨3, ⟨#[111]⟩⟩))]

theorem oversized_leaves_no_trace_between :
    let opened := Timed.start (Config.new "localhost") (start 8 none [])
    let reached := (opened.performAll [.dispatch ⟨#[97]⟩ none]).1
    let failed := reached.perform (.dispatch ⟨Array.replicate (Frame.maxPayload + 1) 0⟩ none)
    let whole := failed.1.performAll oneMore
    failed.1.session = { reached.session with nextToken := 3 } ∧
      writes whole.2 = [Frame.wire ⟨1, ⟨#[97]⟩⟩, Frame.wire ⟨3, ⟨#[98]⟩⟩] ∧
      endings 3 whole.2 = [.outcome (.ok ⟨#[111]⟩)] := by
  have large : Frame.maxPayload <
      (ByteArray.mk (Array.replicate (Frame.maxPayload + 1) 0)).size := by
    rw [ByteArray.size, Array.size_replicate]
    exact Nat.lt_succ_self _
  have reply : Readdressed (closeGap 2) 8 .start .start (Frame.bytes ⟨3, ⟨#[111]⟩⟩)
      (Frame.bytes ⟨2, ⟨#[111]⟩⟩) :=
    Readdressed.frame (by decide) (by decide)
  obtain ⟨result, _, alike⟩ := oversized_leaves_no_trace (Config.new "localhost") 8 none []
    [.dispatch ⟨#[97]⟩ none] oneMore large none (by decide) rfl
  obtain ⟨told, _⟩ := alike _ reply
  refine ⟨?_, ?_, ?_⟩
  · rw [result]
    rfl
  · rw [result]
    rfl
  · exact (told.endings 3).symm.trans rfl

end Session

end QueryDriver
