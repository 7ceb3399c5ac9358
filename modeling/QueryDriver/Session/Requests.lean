import QueryDriver.ClientError
import QueryDriver.Frame.Basic

/-!
The requests that share a session. A request has a token, under which a reply is expected, and a
caller who waits until it is over. However it ends, its token is forgotten.
-/

namespace QueryDriver

/-- What an event does for a request or on the connection. -/
inductive Notice
  /-- A request has been given its token. -/
  | registered (token : UInt64)
  /-- A request is not taken. -/
  | refused (error : ClientError)
  /-- A request is over. Its caller is told so once its frame is in the queue. -/
  | ended (token : UInt64) (outcome : Except ClientError ByteArray)
  | abandoned (token : UInt64)
  /-- The frame of a request finds no queue any more. Its caller is told that the session is closed,
  whatever the request has ended with. -/
  | unsent (token : UInt64)
  | written (frame : ByteArray)
  /-- Closing is done. -/
  | acknowledged

def Session.firstToken : UInt64 := 1

structure Requests where
  nextToken : UInt64
  /-- The tokens under which a reply is expected, in the order of their registration. -/
  pending : List UInt64
  /-- The tokens of the requests whose callers wait, in the order of their registration. -/
  waiting : List UInt64
  closed : Bool

namespace Requests

/-- Gives the next token to a request: a reply is expected and the caller waits. -/
def register (requests : Requests) : Requests :=
  { requests with
    nextToken := requests.nextToken + 1
    pending := requests.pending ++ [requests.nextToken]
    waiting := requests.waiting ++ [requests.nextToken] }

def forget (requests : Requests) (token : UInt64) : Requests :=
  { requests with pending := requests.pending.filter fun other => other ≠ token }

/-- The caller of a request no longer waits. -/
def leave (requests : Requests) (token : UInt64) : Requests :=
  { requests with waiting := requests.waiting.filter fun other => other ≠ token }.forget token

/-- Ends a request with an outcome, if its caller still waits. -/
def finish (requests : Requests) (token : UInt64) (outcome : Except ClientError ByteArray) :
    Requests × List Notice :=
  if token ∈ requests.waiting then (requests.leave token, [.ended token outcome])
  else (requests, [])

def failAll (requests : Requests) (error : ClientError) : List UInt64 → Requests × List Notice
  | [] => (requests, [])
  | token :: rest =>
      let (requests, notices) := requests.finish token (.error error)
      let (requests, others) := requests.failAll error rest
      (requests, notices ++ others)

/-- Closes for good, unless that is done already: no reply is expected any more, and all who
expected one are given the error. -/
def closeWith (requests : Requests) (error : ClientError) : Requests × List Notice :=
  if requests.closed then (requests, [])
  else { requests with pending := [], closed := true }.failAll error requests.pending

/-- Gives a frame of the server to the request with its token. A frame that nobody expects is
dropped. -/
def complete (requests : Requests) (frame : Frame) : Requests × List Notice :=
  if frame.token ∈ requests.pending then
    (requests.forget frame.token).finish frame.token (.ok frame.payload)
  else (requests, [])

def completeAll (requests : Requests) : List Frame → Requests × List Notice
  | [] => (requests, [])
  | frame :: rest =>
      let (requests, notices) := requests.complete frame
      let (requests, others) := requests.completeAll rest
      (requests, notices ++ others)

def expire (requests : Requests) (token : UInt64) : Requests × List Notice :=
  requests.finish token (.error .timeout)

def abandon (requests : Requests) (token : UInt64) : Requests × List Notice :=
  if token ∈ requests.waiting then (requests.leave token, [.abandoned token]) else (requests, [])

end Requests

end QueryDriver
