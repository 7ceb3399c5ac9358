import QueryDriver.Handshake.Message
import QueryDriver.Scram.Client

/-!
The client side of a handshake: the stages it passes through, what it makes of each reply and what
it sends next. It is told without the connection.
-/

namespace QueryDriver.Handshake

inductive Stage
  /-- The protocol version is not agreed on. -/
  | init
  | versionChecked
  | clientFirstSent
  | serverFirstReceived
  | clientFinalSent
  | authenticated
  | failed
  deriving DecidableEq

def Stage.label : Stage → String
  | .init => "Init"
  | .versionChecked => "VersionChecked"
  | .clientFirstSent => "ClientFirstSent"
  | .serverFirstReceived => "ServerFirstReceived"
  | .clientFinalSent => "ClientFinalSent"
  | .authenticated => "Authenticated"
  | .failed => "Failed"

/-- One attempt to open a session. It is made once and not repeated. -/
structure Attempt where
  stage : Stage
  exchange : Scram.Client
  /-- What the server calls its version. -/
  serverVersion : Option String
  deriving DecidableEq

namespace Attempt

def new (username password nonce : String) : Attempt :=
  { stage := .init
    exchange := .new username password nonce
    serverVersion := none }

def stageError (attempt : Attempt) : ProtocolError :=
  .invalidMessage (.handshakeState attempt.stage.label)

/-- Takes the reply that the stage waits for. -/
def acceptReply (functions : Hash.Functions) (attempt : Attempt) (frame : List UInt8) :
    Except ProtocolError Attempt :=
  match attempt.stage with
  | .init => do
      let reply : VersionReply ← decode frame
      reply.check protocolVersion
      return { attempt with stage := .versionChecked, serverVersion := reply.serverVersion }
  | .clientFirstSent => do
      let reply : AuthReply ← decode frame
      let exchange ← attempt.exchange.acceptServerFirst (← reply.result)
      return { attempt with stage := .serverFirstReceived, exchange }
  | .clientFinalSent => do
      let reply : AuthReply ← decode frame
      attempt.exchange.verifyServerFinal functions (← reply.result)
      return { attempt with stage := .authenticated }
  | _ => .error attempt.stageError

/-- The frame that the stage sends, if it sends one, and the attempt after that. -/
def outgoing (functions : Hash.Functions) (attempt : Attempt) :
    Except ProtocolError (Option (ByteArray × Attempt)) :=
  match attempt.stage with
  | .versionChecked =>
      return some (encode (ClientFirst.ofText attempt.exchange.firstMessage),
        { attempt with stage := .clientFirstSent })
  | .serverFirstReceived => do
      let (exchange, message) ← attempt.exchange.makeFinal functions
      return some (encode (⟨message⟩ : AuthRequest),
        { attempt with stage := .clientFinalSent, exchange })
  | _ => return none

end Attempt

end QueryDriver.Handshake
