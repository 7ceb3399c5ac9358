import QueryDriver.Config
import QueryDriver.Handshake.Negotiation
import QueryDriver.Session.Basic
import QueryDriver.Text.Quoted

/-!
How sessions come about: an address is dialled, the handshake runs on the connection, and the bytes
that arrived behind the handshake are the first that the session reads.
-/

namespace QueryDriver

inductive DialFault
  | failed (reason : String)
  | timedOut
  deriving DecidableEq

def DialFault.error : DialFault → ClientError
  | .failed reason => .io reason
  | .timedOut => .connectTimeout

namespace Session

/-- The attempt to authenticate as the configured user. -/
def attempt (config : Config) (nonce : String) : Handshake.Attempt :=
  .new config.username config.password nonce

/-- The session after a handshake. A handshake that is not over by now has run out of time. -/
def establish (config : Config) (negotiation : Handshake.Negotiation) :
    Except ClientError Session :=
  match negotiation.result with
  | some (.ok ()) =>
      .ok (start config.maxMessageSize negotiation.attempt.serverVersion negotiation.unread)
  | some (.error error) => .error error
  | none => .error .connectTimeout

/-- The session from dialling the configured address and, once connected, from the handshake. -/
def connect (config : Config) (dial : String → Except DialFault Handshake.Negotiation) :
    Except ClientError Session :=
  match dial config.address with
  | .error fault => .error fault.error
  | .ok negotiation => establish config negotiation

def inspect (session : Session) : String :=
  "Session \x7b state: " ++ session.stateLabel ++ ", server_version: " ++
    (match session.serverVersion with
      | some version => "Some(" ++ Text.quoted version ++ ")"
      | none => "None") ++
    ", pending_requests: " ++ toString session.pendingRequests ++ " \x7d"

end Session

end QueryDriver
