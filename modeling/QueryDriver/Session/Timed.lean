import QueryDriver.Config
import QueryDriver.Session.Basic

/-!
Sessions with a clock. A request may have a deadline, which counts from when its frame is queued,
and it is over when the clock has reached it.
-/

namespace QueryDriver.Session

structure Deadline where
  token : UInt64
  /-- In milliseconds on the clock of the session. -/
  due : Nat
  deriving DecidableEq

/-- The time that a request has once its frame is queued. -/
structure Allowance where
  token : UInt64
  span : Duration

structure Timed where
  session : Session
  now : Nat
  deadlines : List Deadline
  /-- Those of the requests whose frames are still to be queued. -/
  allowances : List Allowance
  /-- The time for each request that is given none of its own. -/
  requestTimeout : Option Duration

namespace Timed

def start (config : Config) (session : Session) : Timed :=
  { session
    now := 0
    deadlines := []
    allowances := []
    requestTimeout := config.requestTimeout }

/-- Sets the deadlines of the requests that wait and whose frames are queued by now. -/
def setDeadlines (timed : Timed) : Timed :=
  let (held, queued) := timed.allowances.partition fun allowance =>
    timed.session.holds allowance.token
  let waiting := queued.filter fun allowance => allowance.token ∈ timed.session.waiting
  { timed with
    allowances := held
    deadlines := timed.deadlines ++ waiting.map fun allowance =>
      ⟨allowance.token, timed.now + allowance.span.milliseconds⟩ }

/-- An event that makes no request. -/
def step (timed : Timed) (event : Event) : Timed × List Notice :=
  let (session, notices) := timed.session.step event
  ({ timed with session }.setDeadlines, notices)

/-- An event that makes a request, which has a timeout of its own or by configuration. -/
def request (timed : Timed) (event : Event) (timeout : Option Duration) : Timed × List Notice :=
  let token := timed.session.nextToken
  let (session, notices) := timed.session.step event
  let allowances := match timeout <|> timed.requestTimeout with
    | some span =>
        if token ∈ session.waiting then timed.allowances ++ [⟨token, span⟩] else timed.allowances
    | none => timed.allowances
  ({ timed with session, allowances }.setDeadlines, notices)

def dispatch (timed : Timed) (payload : ByteArray) (timeout : Option Duration) :
    Timed × List Notice :=
  timed.request (.dispatch payload) timeout

def expire (timed : Timed) : List Deadline → Timed × List Notice
  | [] => (timed, [])
  | deadline :: rest =>
      let (session, notices) := timed.session.step (.expire deadline.token)
      let (timed, others) := { timed with session }.expire rest
      (timed, notices ++ others)

/-- Ends the requests whose deadlines the clock has reached. -/
def expireDue (timed : Timed) : Timed × List Notice :=
  let (due, later) := timed.deadlines.partition fun deadline => deadline.due ≤ timed.now
  { timed with deadlines := later }.expire due

def advance (timed : Timed) (span : Duration) : Timed × List Notice :=
  { timed with now := timed.now + span.milliseconds }.expireDue

end Timed

end QueryDriver.Session
