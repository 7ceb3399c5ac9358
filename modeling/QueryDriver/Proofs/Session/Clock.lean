import QueryDriver.Proofs.Session.Queueing
import QueryDriver.Session.Timed

/-!
The clock. A session with a clock does nothing that a session does not do: a timeout changes nothing
about a request until the clock reaches its deadline, and then the deadline passes.
-/

namespace QueryDriver.Session

namespace Timed

open Requests (Sound Correct)

/-- What happens to a session with a clock. -/
inductive Action
  /-- A request, with a timeout of its own or without. -/
  | dispatch (payload : ByteArray) (timeout : Option Duration)
  /-- The same, interrupted as soon as the request is registered. -/
  | register (payload : ByteArray) (timeout : Option Duration)
  | advance (span : Duration)
  | other (event : Event)

def Action.isRequest : Action → Bool
  | .dispatch _ _ | .register _ _ => true
  | .advance _ => false
  | .other event => event.isRequest

def perform (timed : Timed) : Action → Timed × List Notice
  | .dispatch payload timeout => timed.dispatch payload timeout
  | .register payload timeout => timed.request (.register payload) timeout
  | .advance span => timed.advance span
  | .other event => timed.step event

def performAll (timed : Timed) : List Action → Timed × List Notice
  | [] => (timed, [])
  | action :: rest =>
      let (timed, notices) := timed.perform action
      let (timed, others) := timed.performAll rest
      (timed, notices ++ others)

/-- What an action is for the session without the clock. -/
def events (timed : Timed) : Action → List Event
  | .dispatch payload _ => [.dispatch payload]
  | .register payload _ => [.register payload]
  | .advance span =>
      (timed.deadlines.filter fun deadline => deadline.due ≤ timed.now + span.milliseconds).map
        fun deadline => .expire deadline.token
  | .other event => [event]

def allEvents (timed : Timed) : List Action → List Event
  | [] => []
  | action :: rest => timed.events action ++ (timed.perform action).1.allEvents rest

theorem requestCount_events (timed : Timed) (action : Action) :
    requestCount (timed.events action) = if action.isRequest then 1 else 0 := by
  cases action with
  | dispatch payload timeout => rfl
  | register payload timeout => rfl
  | advance span =>
      simp [events, requestCount, Action.isRequest, Event.isRequest, Event.payload?]
  | other event => exact List.countP_singleton

theorem requestCount_allEvents (timed : Timed) (actions : List Action) :
    requestCount (timed.allEvents actions) = actions.countP Action.isRequest := by
  induction actions generalizing timed with
  | nil => rfl
  | cons action rest ih =>
      have first := timed.requestCount_events action
      have others := ih (timed.perform action).1
      rw [requestCount] at first others
      rw [allEvents, requestCount, List.countP_append, first, others, List.countP_cons,
        Nat.add_comm]

theorem setDeadlines_eq (timed : Timed) :
    timed.setDeadlines =
      { timed with
        allowances := timed.allowances.filter fun allowance => timed.session.holds allowance.token
        deadlines := timed.deadlines ++
          ((timed.allowances.filter (not ∘ fun allowance =>
            timed.session.holds allowance.token)).filter fun allowance =>
              allowance.token ∈ timed.session.waiting).map fun allowance =>
                ⟨allowance.token, timed.now + allowance.span.milliseconds⟩ } := by
  rw [setDeadlines, List.partition_eq_filter_filter]

/-- The allowance that a request is given when it is made. -/
def allowanceOf (timed : Timed) (event : Event) (timeout : Option Duration) : List Allowance :=
  match timeout <|> timed.requestTimeout with
  | some span =>
      if timed.session.nextToken ∈ (timed.session.step event).1.waiting then
        [⟨timed.session.nextToken, span⟩]
      else []
  | none => []

theorem step_eq_session (timed : Timed) (event : Event) :
    timed.step event =
      ({ timed with session := (timed.session.step event).1 }.setDeadlines,
        (timed.session.step event).2) := rfl

theorem request_eq (timed : Timed) (event : Event) (timeout : Option Duration) :
    timed.request event timeout =
      ({ timed with
          session := (timed.session.step event).1
          allowances := timed.allowances ++ timed.allowanceOf event timeout }.setDeadlines,
        (timed.session.step event).2) := by
  simp only [request, allowanceOf]
  cases timeout <|> timed.requestTimeout with
  | none => simp only [List.append_nil]
  | some span =>
      by_cases waits : timed.session.nextToken ∈ (timed.session.step event).1.waiting
      · simp only [if_pos waits]
      · simp only [if_neg waits, List.append_nil]

theorem expire_eq_run (timed : Timed) (deadlines : List Deadline) :
    let expired := timed.session.run (deadlines.map fun deadline => .expire deadline.token)
    (timed.expire deadlines).1 = { timed with session := expired.1 } ∧
      (timed.expire deadlines).2 = expired.2 := by
  induction deadlines generalizing timed with
  | nil => exact ⟨rfl, rfl⟩
  | cons deadline rest ih =>
      have later := ih { timed with session := (timed.session.step (.expire deadline.token)).1 }
      exact ⟨later.1, congrArg (_ ++ ·) later.2⟩

theorem advance_eq (timed : Timed) (span : Duration) :
    let expired := timed.session.run (timed.events (.advance span))
    timed.advance span =
      ({ timed with
          session := expired.1
          now := timed.now + span.milliseconds
          deadlines := timed.deadlines.filter fun deadline =>
            !decide (deadline.due ≤ timed.now + span.milliseconds) },
        expired.2) := by
  simp only [advance, expireDue, List.partition_eq_filter_filter, events]
  exact Prod.ext (expire_eq_run _ _).1 (expire_eq_run _ _).2

theorem perform_eq_run (timed : Timed) (action : Action) :
    (timed.perform action).1.session = (timed.session.run (timed.events action)).1 ∧
      (timed.perform action).2 = (timed.session.run (timed.events action)).2 := by
  cases action with
  | dispatch payload timeout =>
      rw [perform, Timed.dispatch, request_eq, setDeadlines_eq]
      exact ⟨rfl, (List.append_nil _).symm⟩
  | register payload timeout =>
      rw [perform, request_eq, setDeadlines_eq]
      exact ⟨rfl, (List.append_nil _).symm⟩
  | advance span =>
      rw [perform, advance_eq]
      exact ⟨rfl, rfl⟩
  | other event =>
      rw [perform, step_eq_session, setDeadlines_eq]
      exact ⟨rfl, (List.append_nil _).symm⟩

theorem performAll_cons (timed : Timed) (action : Action) (rest : List Action) :
    timed.performAll (action :: rest) =
      (((timed.perform action).1.performAll rest).1,
        (timed.perform action).2 ++ ((timed.perform action).1.performAll rest).2) := rfl

/-- A run with a clock is a run of the session, in which the deadlines that are reached pass. -/
theorem performAll_eq_run (timed : Timed) (actions : List Action) :
    (timed.performAll actions).1.session = (timed.session.run (timed.allEvents actions)).1 ∧
      (timed.performAll actions).2 = (timed.session.run (timed.allEvents actions)).2 := by
  induction actions generalizing timed with
  | nil => exact ⟨rfl, rfl⟩
  | cons action rest ih =>
      obtain ⟨session, notices⟩ := timed.perform_eq_run action
      obtain ⟨later, others⟩ := ih (timed.perform action).1
      rw [session] at later others
      rw [allEvents, run_append, performAll_cons, notices]
      exact ⟨later, congrArg (_ ++ ·) others⟩

theorem unsent_expire (session : Session) (deadlines : List Deadline) :
    (session.run (deadlines.map fun deadline => .expire deadline.token)).1.unsent =
      session.unsent := by
  induction deadlines generalizing session with
  | nil => rfl
  | cons deadline rest ih =>
      have unchanged : (session.step (.expire deadline.token)).1.unsent = session.unsent := by
        rw [Session.step]
        split <;> rfl
      rw [List.map_cons, run_cons, ih, unchanged]

/-- Deadlines are those of requests whose frames are queued, and allowances those of requests whose
frames are still kept. -/
structure Punctual (issued : Nat) (timed : Timed) : Prop where
  correct : Correct issued timed.session.toRequests
  kept : ∀ token, timed.session.holds token = true → token.toNat ≤ issued
  deadlines : ∀ deadline ∈ timed.deadlines,
    deadline.token.toNat ≤ issued ∧ timed.session.holds deadline.token = false
  allowances : ∀ allowance ∈ timed.allowances, timed.session.holds allowance.token = true

theorem punctual_setDeadlines {issued : Nat} {timed : Timed}
    (correct : Correct issued timed.session.toRequests)
    (kept : ∀ token, timed.session.holds token = true → token.toNat ≤ issued)
    (deadlines : ∀ deadline ∈ timed.deadlines,
      deadline.token.toNat ≤ issued ∧ timed.session.holds deadline.token = false) :
    Punctual issued timed.setDeadlines := by
  rw [setDeadlines_eq]
  refine ⟨correct, kept, ?_, ?_⟩
  · intro deadline member
    rcases List.mem_append.mp member with old | new
    · exact deadlines deadline old
    · obtain ⟨allowance, given, rfl⟩ := List.mem_map.mp new
      obtain ⟨queued, waits⟩ := List.mem_filter.mp given
      have free := (List.mem_filter.mp queued).2
      exact ⟨(correct.bounded _ (by simpa using waits)).2, by simpa using free⟩
  · intro allowance member
    exact (List.mem_filter.mp member).2

/-- What an event leaves of what is known of deadlines. -/
theorem Punctual.step {issued : Nat} {timed : Timed} (punctual : Punctual issued timed)
    {event : Event} (room : issued + requestCount [event] < UInt64.size) :
    Correct (issued + (registrations (timed.session.step event).2).length)
        (timed.session.step event).1.toRequests ∧
      (∀ token, (timed.session.step event).1.holds token = true →
        token.toNat ≤ issued + (registrations (timed.session.step event).2).length) ∧
      ∀ deadline ∈ timed.deadlines,
        deadline.token.toNat ≤ issued + (registrations (timed.session.step event).2).length ∧
          (timed.session.step event).1.holds deadline.token = false := by
  have sound := punctual.correct.toSound
  refine ⟨(correct_step punctual.correct room).1, ?_, ?_⟩
  · intro token holds
    rcases holds_step sound holds with before | new
    · exact Nat.le_add_right_of_le (punctual.kept token before)
    · have number := toNat_of_registered punctual.correct room new
      have some := List.length_pos_of_mem new
      omega
  · intro deadline member
    obtain ⟨early, free⟩ := punctual.deadlines deadline member
    refine ⟨Nat.le_add_right_of_le early, Bool.eq_false_iff.mpr fun holds => ?_⟩
    rcases holds_step sound holds with before | new
    · rw [free] at before
      cases before
    · have number := toNat_of_registered punctual.correct room new
      omega

theorem Punctual.perform {issued : Nat} {timed : Timed} (punctual : Punctual issued timed)
    {action : Action} (room : issued + requestCount (timed.events action) < UInt64.size) :
    Punctual (issued + (registrations (timed.perform action).2).length)
      (timed.perform action).1 := by
  cases action with
  | dispatch payload timeout =>
      obtain ⟨correct, kept, deadlines⟩ := punctual.step room
      rw [Timed.perform, Timed.dispatch, request_eq]
      exact punctual_setDeadlines correct kept deadlines
  | register payload timeout =>
      obtain ⟨correct, kept, deadlines⟩ := punctual.step room
      rw [Timed.perform, request_eq]
      exact punctual_setDeadlines correct kept deadlines
  | other event =>
      obtain ⟨correct, kept, deadlines⟩ := punctual.step room
      exact punctual_setDeadlines correct kept deadlines
  | advance span =>
      have left : issued + requestCount (timed.events (.advance span) ++ []) < UInt64.size := by
        rwa [List.append_nil]
      have correct := (correct_run punctual.correct left).1
      have same := unsent_expire timed.session
        (timed.deadlines.filter fun deadline => deadline.due ≤ timed.now + span.milliseconds)
      have holds (token : UInt64) :
          (timed.session.run (timed.events (.advance span))).1.holds token =
            timed.session.holds token := congrArg (List.any · _) same
      rw [Timed.perform, advance_eq]
      refine ⟨correct, ?_, ?_, ?_⟩
      · intro token held
        rw [holds] at held
        exact Nat.le_add_right_of_le (punctual.kept token held)
      · intro deadline member
        obtain ⟨early, free⟩ := punctual.deadlines deadline (List.mem_of_mem_filter member)
        exact ⟨Nat.le_add_right_of_le early, (holds _).trans free⟩
      · intro allowance member
        exact (holds _).trans (punctual.allowances allowance member)

theorem Punctual.performAll {issued : Nat} {timed : Timed} (punctual : Punctual issued timed)
    {actions : List Action}
    (room : issued + requestCount (timed.allEvents actions) < UInt64.size) :
    Punctual (issued + (registrations (timed.performAll actions).2).length)
      (timed.performAll actions).1 := by
  induction actions generalizing issued timed with
  | nil => exact punctual
  | cons action rest ih =>
      rw [allEvents] at room
      have left := (correct_run punctual.correct room).2
      rw [← (timed.perform_eq_run action).2] at left
      have few : issued + requestCount (timed.events action) < UInt64.size := by
        rw [requestCount, List.countP_append] at room
        rw [requestCount]
        omega
      have later := ih (punctual.perform few) left
      rw [performAll_cons, registrations_append, List.length_append, ← Nat.add_assoc]
      exact later

theorem requests_of_deadlines {session : Session} {deadlines : List Deadline}
    (free : ∀ deadline ∈ deadlines, session.holds deadline.token = false) :
    (session.run (deadlines.map fun deadline => .expire deadline.token)).1.toRequests =
      (session.toRequests.reactAll
        (deadlines.map fun deadline => .expired deadline.token)).1 := by
  induction deadlines generalizing session with
  | nil => rfl
  | cons deadline rest ih =>
      obtain ⟨now, later⟩ := List.forall_mem_cons.mp free
      have passes : (session.step (.expire deadline.token)).1 =
          { session with toRequests := (session.toRequests.expire deadline.token).1 } := by
        rw [Session.step, now]
        rfl
      have others := @ih { session with
        toRequests := (session.toRequests.expire deadline.token).1 } later
      rw [List.map_cons, run_cons, passes]
      exact others

/-- No request waits beyond its deadline. -/
theorem Punctual.not_waiting_of_due {issued : Nat} {timed : Timed}
    (punctual : Punctual issued timed) (span : Duration) {deadline : Deadline}
    (member : deadline ∈ timed.deadlines) (due : deadline.due ≤ timed.now + span.milliseconds) :
    deadline.token ∉ (timed.advance span).1.session.waiting := by
  have free (other : Deadline)
      (found : other ∈ timed.deadlines.filter fun deadline =>
        deadline.due ≤ timed.now + span.milliseconds) :
      timed.session.holds other.token = false :=
    (punctual.deadlines other (List.mem_of_mem_filter found)).2
  rw [advance_eq, events]
  dsimp only
  rw [requests_of_deadlines free, punctual.correct.mem_waiting_reactAll]
  rintro ⟨_, unended⟩
  rw [List.findSome?_eq_none_iff] at unended
  have passed := unended (.expired deadline.token)
    (List.mem_map.mpr ⟨deadline, List.mem_filter.mpr ⟨member, by simpa using due⟩, rfl⟩)
  simp [Occurrence.ending?] at passed

/-- A request whose frame is queued when it is made has its deadline from then on, and any other has
its allowance. -/
theorem Punctual.request {issued : Nat} {timed : Timed} (punctual : Punctual issued timed)
    (room : issued + 1 < UInt64.size) (isOpen : timed.session.closed = false) {event : Event}
    {payload : ByteArray} (request : event.payload? = some payload)
    (fits : payload.size ≤ Frame.maxPayload) {timeout : Option Duration} {span : Duration}
    (given : (timeout <|> timed.requestTimeout) = some span) :
    if timed.session.queuesAtOnce event then
      ⟨timed.session.nextToken, timed.now + span.milliseconds⟩ ∈
        (timed.request event timeout).1.deadlines
    else ⟨timed.session.nextToken, span⟩ ∈ (timed.request event timeout).1.allowances := by
  obtain ⟨unsent, same, result⟩ := request_of_fits isOpen fits request
  have waits : timed.session.nextToken ∈ (timed.session.step event).1.waiting := by
    simp [result, Requests.register]
  have allowed : timed.allowanceOf event timeout = [⟨timed.session.nextToken, span⟩] := by
    rw [allowanceOf, given]
    exact if_pos waits
  rw [request_eq, setDeadlines_eq, allowed]
  split
  · rename_i queued
    have unheld : (timed.session.step event).1.holds timed.session.nextToken = false := by
      refine Bool.eq_false_iff.mpr fun holds => ?_
      rw [result, if_pos queued, List.append_nil] at holds
      have early := punctual.kept _ holds
      have number := punctual.correct.nextToken_toNat room
      omega
    refine List.mem_append_right _ (List.mem_map.mpr ⟨⟨_, span⟩, ?_, rfl⟩)
    simp [unheld, waits]
  · rename_i unqueued
    have held : (timed.session.step event).1.holds timed.session.nextToken = true := by
      rw [result, if_neg unqueued, holds_iff]
      exact ⟨unsent, List.mem_append_right _ (List.mem_singleton_self _), by rw [same]⟩
    exact List.mem_filter.mpr ⟨List.mem_append_right _ (List.mem_singleton_self _), held⟩

/-- Once its frame is no longer kept, a request that waits has its deadline. -/
theorem mem_deadlines_of_allowance {timed : Timed} {event : Event} {allowance : Allowance}
    (given : allowance ∈ timed.allowances)
    (queued : (timed.session.step event).1.holds allowance.token = false)
    (waits : allowance.token ∈ (timed.session.step event).1.waiting) :
    ⟨allowance.token, timed.now + allowance.span.milliseconds⟩ ∈
      (timed.step event).1.deadlines := by
  rw [step_eq_session, setDeadlines_eq]
  refine List.mem_append_right _ (List.mem_map.mpr ⟨allowance, ?_, rfl⟩)
  simp [given, queued, waits]

theorem requestTimeout_performAll (timed : Timed) (actions : List Action) :
    (timed.performAll actions).1.requestTimeout = timed.requestTimeout := by
  induction actions generalizing timed with
  | nil => rfl
  | cons action rest ih =>
      have unchanged : (timed.perform action).1.requestTimeout = timed.requestTimeout := by
        cases action with
        | dispatch payload timeout =>
            rw [perform, Timed.dispatch, request_eq, setDeadlines_eq]
        | register payload timeout => rw [perform, request_eq, setDeadlines_eq]
        | advance span => rw [perform, advance_eq]
        | other event => rw [perform, step_eq_session, setDeadlines_eq]
      rw [performAll_cons, ih, unchanged]

theorem punctual_start (config : Config) (maxMessageSize : Nat) (serverVersion : Option String)
    (unread : List UInt8) :
    Punctual 0 (Timed.start config (Session.start maxMessageSize serverVersion unread)) :=
  ⟨start_correct _ _ _, fun _ held => (Bool.false_ne_true held).elim, List.forall_mem_nil _,
    List.forall_mem_nil _⟩

/-- Of a session with a clock: who waits has not reached a deadline, and a request with a timeout,
its own or by configuration, has its deadline as soon as its frame is queued. The tokens must not
have come round to zero. -/
structure KeepsTime (timed : Timed) (timeoutByDefault : Option Duration) : Prop where
  due : ∀ span, ∀ deadline ∈ timed.deadlines, deadline.due ≤ timed.now + span.milliseconds →
    deadline.token ∉ (timed.advance span).1.session.waiting
  request : timed.session.nextToken ≠ 0 → timed.session.closed = false →
    ∀ event payload timeout span, event.payload? = some payload →
      payload.size ≤ Frame.maxPayload → (timeout <|> timeoutByDefault) = some span →
        if timed.session.queuesAtOnce event then
          ⟨timed.session.nextToken, timed.now + span.milliseconds⟩ ∈
            (timed.request event timeout).1.deadlines
        else ⟨timed.session.nextToken, span⟩ ∈ (timed.request event timeout).1.allowances
  queued : ∀ event, ∀ allowance ∈ timed.allowances,
    (timed.session.step event).1.holds allowance.token = false →
      allowance.token ∈ (timed.session.step event).1.waiting →
        ⟨allowance.token, timed.now + allowance.span.milliseconds⟩ ∈ (timed.step event).1.deadlines

theorem keepsTime_performAll (config : Config) (maxMessageSize : Nat)
    (serverVersion : Option String) (unread : List UInt8) {actions : List Action}
    (few : actions.countP Action.isRequest < UInt64.size) :
    ((Timed.start config (Session.start maxMessageSize serverVersion unread)).performAll
      actions).1.KeepsTime config.requestTimeout := by
  let begun := Timed.start config (Session.start maxMessageSize serverVersion unread)
  change (begun.performAll actions).1.KeepsTime config.requestTimeout
  have counted := begun.requestCount_allEvents actions
  have room : 0 + requestCount (begun.allEvents actions) < UInt64.size := by omega
  have punctual := (punctual_start config maxMessageSize serverVersion unread).performAll room
  rw [Nat.zero_add] at punctual
  have some : (registrations (begun.performAll actions).2).length ≤
      actions.countP Action.isRequest := by
    rw [(begun.performAll_eq_run actions).2, ← counted]
    exact length_registrations_run (start_correct _ _ _).toSound _
  have timeout : (begun.performAll actions).1.requestTimeout = config.requestTimeout :=
    begun.requestTimeout_performAll actions
  refine ⟨fun span deadline => punctual.not_waiting_of_due span, ?_,
    fun event allowance => mem_deadlines_of_allowance⟩
  intro notRound isOpen event payload own span request fits given
  rw [← timeout] at given
  have issued : (registrations (begun.performAll actions).2).length < UInt64.size := by omega
  have left := punctual.correct.lt_of_nextToken issued notRound
  exact punctual.request left isOpen request fits given

end Timed

end QueryDriver.Session
