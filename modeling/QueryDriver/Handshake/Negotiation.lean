import QueryDriver.ClientError
import QueryDriver.Handshake.Attempt
import QueryDriver.Handshake.Frame

/-!
A handshake on a connection. Bytes arrive in chunks, in any cut; each time the handshake goes as far
as it can. What it has not read when it succeeds belongs to the session that follows.
-/

namespace QueryDriver.Handshake

structure Negotiation where
  attempt : Attempt
  /-- Bytes that have arrived and are not read yet. -/
  unread : List UInt8
  /-- What was written, message by message. -/
  sent : List ByteArray
  /-- Why writing fails, once it does. -/
  writeFault : Option String
  /-- Nothing while the handshake waits for bytes. -/
  result : Option (Except ClientError Unit)

namespace Negotiation

def fail (negotiation : Negotiation) (error : ClientError) : Negotiation :=
  { negotiation with
    attempt := { negotiation.attempt with stage := .failed }
    result := some (.error error) }

/-- The bytes in front of the given ones have been read. -/
def leaving (negotiation : Negotiation) (unread : List UInt8) : Negotiation :=
  { negotiation with unread }

/-- Writes a message and goes on with the given attempt. -/
def write (negotiation : Negotiation) (message : ByteArray) (next : Attempt) : Negotiation :=
  match negotiation.writeFault with
  | some reason => negotiation.fail (.io reason)
  | none => { negotiation with attempt := next, sent := negotiation.sent ++ [message] }

/-- Goes on with an attempt that has taken a reply. -/
def proceed (negotiation : Negotiation) (next : Attempt) (unread : List UInt8) : Negotiation :=
  { negotiation with
    attempt := next
    unread
    result := if next.stage = .authenticated then some (.ok ()) else none }

/-- Reads the next frame, if it is there. A frame that is refused has been read all the same, and of
one that is too long as many bytes as a frame may have. -/
def read (functions : Hash.Functions) (negotiation : Negotiation) : Negotiation :=
  match nextFrame negotiation.unread with
  | .incomplete => negotiation
  | .tooLong =>
      (negotiation.leaving (negotiation.unread.drop maxFrame)).fail
        (.protocol (.invalidMessage (.handshakeFrameTooLong maxFrame)))
  | .found body rest =>
      match negotiation.attempt.acceptReply functions body with
      | .ok next => negotiation.proceed next rest
      | .error error => (negotiation.leaving rest).fail (.ofProtocol error)

/-- Sends what the stage has to send, or else reads the next frame. -/
def move (functions : Hash.Functions) (negotiation : Negotiation) : Negotiation :=
  match negotiation.result with
  | some _ => negotiation
  | none =>
      match negotiation.attempt.outgoing functions with
      | .ok (some (message, next)) => negotiation.write message next
      | .ok none => negotiation.read functions
      | .error error => negotiation.fail (.ofProtocol error)

/-- The moves that lead from the first stage to the last. -/
def moveCount : Nat := 5

/-- Moves until more bytes are needed or the handshake is over. -/
def settle (functions : Hash.Functions) (negotiation : Negotiation) : Negotiation :=
  Nat.repeat (move functions) moveCount negotiation

/-- Begins an attempt by the opening bytes. One that was begun before is left as it is. -/
def start (attempt : Attempt) : Negotiation :=
  let idle : Negotiation :=
    { attempt
      unread := []
      sent := []
      writeFault := none
      result := none }
  if attempt.stage = .init then idle.write ⟨magic.toArray⟩ attempt
  else { idle with result := some (.error (.protocol attempt.stageError)) }

/-- Bytes arrive. -/
def receive (functions : Hash.Functions) (negotiation : Negotiation) (chunk : List UInt8) :
    Negotiation :=
  settle functions { negotiation with unread := negotiation.unread ++ chunk }

/-- The peer is gone for whoever writes from now on. -/
def refuseWrites (negotiation : Negotiation) (reason : String) : Negotiation :=
  { negotiation with writeFault := some reason }

/-- No more bytes will arrive. Those that wait for the rest of their frame are read. -/
def endOfStream (negotiation : Negotiation) : Negotiation :=
  match negotiation.result with
  | some _ => negotiation
  | none =>
      (negotiation.leaving []).fail (.transport (
        if negotiation.unread.isEmpty then "connection closed during handshake"
        else "connection closed in the middle of a handshake frame"))

/-- A whole handshake with a peer that sends the given chunks and closes. -/
def run (functions : Hash.Functions) (attempt : Attempt) (chunks : List (List UInt8)) :
    Negotiation :=
  (chunks.foldl (receive functions) (start attempt)).endOfStream

end Negotiation

end QueryDriver.Handshake
