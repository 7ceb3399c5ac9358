import QueryDriver.Frame.Reader
import QueryDriver.Session.Requests

/-!
An authenticated session, over which any number of requests share one connection. Each request has
a token of its own, and replies find their request by it, in any order. A session is a state and the
events that change it; what an event does for a request or on the connection is told by notices.

A call registers its request first and brings the frame into the queue of the writer next. Other
events may come between the two, and the queue may be full, or gone, by then.
-/

namespace QueryDriver

/-- A request whose frame is encoded and still to be queued. -/
structure Unsent where
  frame : Frame
  bytes : ByteArray
  encoded : frame.encode = .ok bytes

structure Session extends Requests where
  maxMessageSize : Nat
  serverVersion : Option String
  /-- The requests whose callers have yet to bring their frames into the queue, in any order. -/
  unsent : List Unsent
  /-- Encoded frames that are not written yet. -/
  queue : List ByteArray
  /-- Whether the writer has ended. A closed session has no queue from then on. -/
  writerEnded : Bool
  /-- Bytes that had arrived before the session began and are not read yet. -/
  unread : List UInt8
  incoming : Frame.Progress

namespace Session

/-- How many frames may be queued before callers wait. -/
def queueLimit : Nat := 128

def start (maxMessageSize : Nat) (serverVersion : Option String) (unread : List UInt8) : Session :=
  { maxMessageSize
    serverVersion
    nextToken := firstToken
    pending := []
    waiting := []
    unsent := []
    queue := []
    writerEnded := false
    unread
    incoming := .start
    closed := false }

inductive Event
  /-- A call begins and is not interrupted before its frame is offered to the queue. -/
  | dispatch (payload : ByteArray)
  /-- A call begins and is interrupted as soon as its request is registered. -/
  | register (payload : ByteArray)
  /-- A call whose frame is still to be queued goes on. -/
  | enqueue (token : UInt64)
  /-- A caller whose frame is still to be queued gives up. -/
  | withdraw (token : UInt64)
  /-- The next frame of the queue is taken and written. -/
  | transmit
  /-- The next frame of the queue cannot be written. -/
  | transmitFails (reason : String)
  /-- The writer of a closed session has shut down the connection and ends. -/
  | writerEnds
  | receive (chunk : List UInt8)
  /-- Reading from the connection fails. -/
  | receiveFails (reason : String)
  /-- The peer has closed its side. -/
  | endOfStream
  /-- The deadline of a request passes, whose frame has been queued. -/
  | expire (token : UInt64)
  /-- The caller of a request whose frame has been queued no longer waits. -/
  | abandon (token : UInt64)
  | close
  /-- The session goes out of use. -/
  | drop

def update (session : Session) (change : Requests → Requests × List Notice) :
    Session × List Notice :=
  let (requests, notices) := change session.toRequests
  ({ session with toRequests := requests }, notices)

/-- Closes the session, unless it is closed already, with one error for all that wait. -/
def closeWith (session : Session) (error : ClientError) : Session × List Notice :=
  session.update fun requests => requests.closeWith error

/-- Whether the frame of a request is still to be queued. -/
def holds (session : Session) (token : UInt64) : Bool :=
  session.unsent.any fun unsent => unsent.frame.token = token

/-- The session without the frames to be queued for a token. -/
def release (session : Session) (token : UInt64) : Session :=
  { session with unsent := session.unsent.filter fun unsent => unsent.frame.token ≠ token }

/-- Registers a request and encodes its frame. A payload that is too large ends the request at once;
its token is used up. -/
def prepare (session : Session) (payload : ByteArray) : Session × List Notice × Option Unsent :=
  if session.closed then (session, [.refused .sessionClosed], none)
  else
    let token := session.nextToken
    let session := { session with toRequests := session.register }
    match encoded : Frame.encode ⟨token, payload⟩ with
    | .error fault =>
        let (session, notices) := session.update fun requests =>
          requests.finish token (.error (.protocol (.invalidMessage fault)))
        (session, .registered token :: notices, none)
    | .ok bytes => (session, [.registered token], some ⟨⟨token, payload⟩, bytes, encoded⟩)

/-- Offers a frame to the queue. As long as that is full the caller keeps the frame, and waits. Once
it is gone the call ends; the session is closed then, so there is no reply to forget. -/
def offer (session : Session) (unsent : Unsent) : Session × List Notice :=
  if session.closed && session.writerEnded then (session, [.unsent unsent.frame.token])
  else if session.queue.length < queueLimit then
    ({ session with queue := session.queue ++ [unsent.bytes] }, [])
  else ({ session with unsent := session.unsent ++ [unsent] }, [])

def dispatch (session : Session) (payload : ByteArray) : Session × List Notice :=
  match session.prepare payload with
  | (session, notices, none) => (session, notices)
  | (session, notices, some unsent) =>
      let (session, others) := session.offer unsent
      (session, notices ++ others)

/-- Registers a request and keeps its frame for now. -/
def hold (session : Session) (payload : ByteArray) : Session × List Notice :=
  let (session, notices, unsent) := session.prepare payload
  ({ session with unsent := session.unsent ++ unsent.toList }, notices)

def enqueue (session : Session) (token : UInt64) : Session × List Notice :=
  match session.unsent.find? fun unsent => unsent.frame.token = token with
  | some unsent => (session.release token).offer unsent
  | none => (session, [])

def withdraw (session : Session) (token : UInt64) : Session × List Notice :=
  if session.holds token then (session.release token).update fun requests => requests.abandon token
  else (session, [])

/-- The error for all that wait when reading has failed. -/
def readError (error : ClientError) : ClientError :=
  .transport error.message

/-- Reads what has arrived. A frame that is too long closes the session. -/
def receive (session : Session) (chunk : List UInt8) : Session × List Notice :=
  if session.closed then (session, [])
  else
    let (incoming, frames) := session.incoming.feed session.maxMessageSize (session.unread ++ chunk)
    let (session, notices) := { session with unread := [], incoming }.update fun requests =>
      requests.completeAll frames
    match incoming with
    | .failed fault =>
        let (session, others) := session.closeWith (readError (.protocol (.invalidMessage fault)))
        (session, notices ++ others)
    | _ => (session, notices)

/-- Reading has failed; what had arrived before is still read. -/
def receiveFails (session : Session) (reason : String) : Session × List Notice :=
  let (session, notices) := session.receive []
  let (session, others) := session.closeWith (readError (.io reason))
  (session, notices ++ others)

/-- What reading says at the end of the stream. -/
def earlyEnd : String := "early eof"

/-- Takes the next frame of the queue and writes it. On a closed session no frame is begun. -/
def transmit (session : Session) : Session × List Notice :=
  if session.closed then (session, [])
  else
    match session.queue with
    | [] => (session, [])
    | frame :: rest => ({ session with queue := rest }, [.written frame])

def transmitFails (session : Session) (reason : String) : Session × List Notice :=
  match session.queue with
  | [] => (session, [])
  | _ :: _ => session.closeWith (.transport reason)

def endWriter (session : Session) : Session :=
  { session with writerEnded := session.closed || session.writerEnded }

/-- Closes the session. A second closing changes nothing and succeeds too. -/
def close (session : Session) : Session × List Notice :=
  let (session, notices) := session.closeWith .sessionClosed
  (session, notices ++ [.acknowledged])

def step (session : Session) : Event → Session × List Notice
  | .dispatch payload => session.dispatch payload
  | .register payload => session.hold payload
  | .enqueue token => session.enqueue token
  | .withdraw token => session.withdraw token
  | .transmit => session.transmit
  | .transmitFails reason => session.transmitFails reason
  | .writerEnds => (session.endWriter, [])
  | .receive chunk => session.receive chunk
  | .receiveFails reason => session.receiveFails reason
  | .endOfStream => session.receiveFails earlyEnd
  | .expire token =>
      if session.holds token then (session, [])
      else session.update fun requests => requests.expire token
  | .abandon token =>
      if session.holds token then (session, [])
      else session.update fun requests => requests.abandon token
  | .close => session.close
  | .drop => session.closeWith .sessionClosed

/-- The state after events in turn, and all their notices. -/
def run (session : Session) : List Event → Session × List Notice
  | [] => (session, [])
  | event :: rest =>
      let (session, notices) := session.step event
      let (session, others) := session.run rest
      (session, notices ++ others)

def pendingRequests (session : Session) : Nat :=
  session.pending.length

def stateLabel (session : Session) : String :=
  if session.closed then "Closed" else "Ready"

end Session

end QueryDriver
