import QueryDriver.Session.Basic

/-!
What a run of a session means for one request: the occurrences that can end it, one after the other,
and what the notices say about how it ended.
-/

namespace QueryDriver

inductive Occurrence
  /-- A frame of the server is complete. -/
  | arrived (frame : Frame)
  | expired (token : UInt64)
  | abandoned (token : UInt64)
  | closing (cause : ClientError)

inductive Ending
  | outcome (result : Except ClientError ByteArray)
  | abandoned

/-- How an occurrence ends a request that waits, if it does. -/
def Occurrence.ending? (token : UInt64) : Occurrence → Option Ending
  | .arrived frame => if frame.token = token then some (.outcome (.ok frame.payload)) else none
  | .expired other => if other = token then some (.outcome (.error .timeout)) else none
  | .abandoned other => if other = token then some .abandoned else none
  | .closing cause => some (.outcome (.error cause))

def Occurrence.frame? : Occurrence → Option Frame
  | .arrived frame => some frame
  | _ => none

def Occurrence.cause? : Occurrence → Option ClientError
  | .closing cause => some cause
  | _ => none

def Notice.registered? : Notice → Option UInt64
  | .registered token => some token
  | _ => none

/-- How a notice says that a request has ended. -/
def Notice.ending? (token : UInt64) : Notice → Option Ending
  | .ended other result => if other = token then some (.outcome result) else none
  | .abandoned other => if other = token then some .abandoned else none
  | _ => none

/-- The request that a notice says is answered, with its reply. -/
def Notice.answer? : Notice → Option Frame
  | .ended token (.ok payload) => some ⟨token, payload⟩
  | _ => none

def Notice.written? : Notice → Option ByteArray
  | .written frame => some frame
  | _ => none

def Notice.unsent? : Notice → Option UInt64
  | .unsent token => some token
  | _ => none

def registrations (notices : List Notice) : List UInt64 :=
  notices.filterMap Notice.registered?

/-- All endings of the request with a token. -/
def endings (token : UInt64) (notices : List Notice) : List Ending :=
  notices.filterMap (Notice.ending? token)

def answers (notices : List Notice) : List Frame :=
  notices.filterMap Notice.answer?

def writes (notices : List Notice) : List ByteArray :=
  notices.filterMap Notice.written?

/-- The requests whose frames have found no queue any more. -/
def unsents (notices : List Notice) : List UInt64 :=
  notices.filterMap Notice.unsent?

/-- What the callers of a request are told in the end. -/
def returns (token : UInt64) (notices : List Notice) : List Ending :=
  if token ∈ unsents notices then [.outcome (.error .sessionClosed)] else endings token notices

@[simp] theorem registrations_nil : registrations [] = [] := rfl

@[simp] theorem registrations_append (first second : List Notice) :
    registrations (first ++ second) = registrations first ++ registrations second :=
  List.filterMap_append

@[simp] theorem endings_nil (token : UInt64) : endings token [] = [] := rfl

@[simp] theorem endings_append (token : UInt64) (first second : List Notice) :
    endings token (first ++ second) = endings token first ++ endings token second :=
  List.filterMap_append

@[simp] theorem answers_nil : answers [] = [] := rfl

@[simp] theorem answers_append (first second : List Notice) :
    answers (first ++ second) = answers first ++ answers second :=
  List.filterMap_append

@[simp] theorem unsents_nil : unsents [] = [] := rfl

@[simp] theorem unsents_append (first second : List Notice) :
    unsents (first ++ second) = unsents first ++ unsents second :=
  List.filterMap_append

@[simp] theorem writes_nil : writes [] = [] := rfl

@[simp] theorem writes_append (first second : List Notice) :
    writes (first ++ second) = writes first ++ writes second :=
  List.filterMap_append

namespace Requests

def react (requests : Requests) : Occurrence → Requests × List Notice
  | .arrived frame => requests.complete frame
  | .expired token => requests.expire token
  | .abandoned token => requests.abandon token
  | .closing cause => requests.closeWith cause

/-- The requests after occurrences in turn, and all notices. -/
def reactAll (requests : Requests) : List Occurrence → Requests × List Notice
  | [] => (requests, [])
  | occurrence :: rest =>
      let (requests, notices) := requests.react occurrence
      let (requests, others) := requests.reactAll rest
      (requests, notices ++ others)

end Requests

namespace Session

/-- The payload of the request that an event makes, if it makes one. -/
def Event.payload? : Event → Option ByteArray
  | .dispatch payload | .register payload => some payload
  | _ => none

def Event.isRequest (event : Event) : Bool :=
  event.payload?.isSome

def requestCount (events : List Event) : Nat :=
  events.countP Event.isRequest

def arrivals (session : Session) (chunk : List UInt8) : List Occurrence :=
  let (incoming, frames) := session.incoming.feed session.maxMessageSize (session.unread ++ chunk)
  frames.map Occurrence.arrived ++ match incoming with
    | .failed fault => [.closing (readError (.protocol (.invalidMessage fault)))]
    | _ => []

/-- The occurrences in an event. On a closed session there are none. -/
def occurrences (session : Session) (event : Event) : List Occurrence :=
  if session.closed then []
  else
    match event with
    | .dispatch _ | .register _ | .enqueue _ | .transmit | .writerEnds => []
    | .withdraw token => if session.holds token then [.abandoned token] else []
    | .transmitFails reason => if session.queue.isEmpty then [] else [.closing (.transport reason)]
    | .receive chunk => session.arrivals chunk
    | .receiveFails reason => session.arrivals [] ++ [.closing (readError (.io reason))]
    | .endOfStream => session.arrivals [] ++ [.closing (readError (.io earlyEnd))]
    | .expire token => if session.holds token then [] else [.expired token]
    | .abandon token => if session.holds token then [] else [.abandoned token]
    | .close | .drop => [.closing .sessionClosed]

def trace (session : Session) : List Event → List Occurrence
  | [] => []
  | event :: rest => session.occurrences event ++ (session.step event).1.trace rest

end Session

end QueryDriver
