import QueryDriver.Handshake.Negotiation
import QueryDriver.Scram.Server
import QueryDriver.Session.Establish

/-!
Handshakes with a scripted server. The server reads one message of the client before each turn, and
in a turn it sends bytes, lets the client act, or closes. Placeholders in what it sends stand for
the nonce of the client and for the server's own signature, as soon as it can know them.
-/

namespace QueryDriver.Simulation

open Handshake

inductive Act
  | send (bytes : ByteArray)
  | close
  /-- Lets the client act before the server goes on. -/
  | pause

structure HandshakeScript where
  password : String
  turns : List (List Act)

/-- A handshake with a scripted server, as far as it has come. -/
structure HandshakeRun where
  negotiation : Negotiation
  /-- The messages of the client that the server has read. -/
  read : List ByteArray
  spoken : List UInt8
  /-- The end of it that the client has not been given yet. -/
  held : List UInt8
  gone : Bool

namespace HandshakeRun

def begin (attempt : Attempt) : HandshakeRun :=
  { negotiation := .start attempt
    read := []
    spoken := []
    held := []
    gone := false }

def message? {α : Type} [Message α] (run : HandshakeRun) (index : Nat) : Option α :=
  run.read[index]?.bind fun frame => (decode frame.data.toList).toOption

def clientFirst? (run : HandshakeRun) : Option String :=
  (run.message? 1).map fun (message : ClientFirst) => message.authentication

def clientFinal? (run : HandshakeRun) : Option String :=
  (run.message? 2).map fun (message : AuthRequest) => message.authentication

/-- The server-first message: it stands in the second frame that the server sends. -/
def serverFirst? (run : HandshakeRun) : Option String :=
  match nextFrame run.spoken with
  | .found _ rest =>
      match nextFrame rest with
      | .found body _ =>
          (decode body).toOption.bind fun (reply : AuthReply) => reply.authentication
      | _ => none
  | _ => none

def nonce (run : HandshakeRun) : String :=
  run.negotiation.attempt.exchange.nonce

/-- The password of the server, salted as its first message says. -/
def salted? (functions : Hash.Functions) (password : String) (run : HandshakeRun) :
    Option Hash.Bytes := do
  let serverFirst ← (Scram.ServerFirst.read run.nonce (← run.serverFirst?)).toOption
  return functions.derive (Text.bytes password) serverFirst.salt serverFirst.iterations

/-- The signature of the server, once it has read all messages of the client. -/
def signature? (functions : Hash.Functions) (password : String) (run : HandshakeRun) :
    Option String := do
  let (bare, _) ← Scram.Server.splitProof? (← run.clientFinal?)
  return Scram.Server.signature functions (← run.salted? functions password)
    (← run.clientFirst?) (← run.serverFirst?) bare

def fillText (placeholder : String) (value : Option String) (text : String) : String :=
  match value with
  | some value => text.replace placeholder value
  | none => text

def noncePlaceholder : String := "\x7bnonce\x7d"

def signaturePlaceholder : String := "\x7bsig\x7d"

/-- Fills the placeholders in what is text. -/
def fill (functions : Hash.Functions) (password : String) (run : HandshakeRun) (bytes : ByteArray) :
    List UInt8 :=
  if valid : bytes.IsValidUTF8 then
    let text := fillText noncePlaceholder (run.clientFirst?.map fun _ => run.nonce)
      (String.ofByteArray bytes valid)
    Text.bytes (fillText signaturePlaceholder (run.signature? functions password) text)
  else bytes.data.toList

def deliver (functions : Hash.Functions) (run : HandshakeRun) : HandshakeRun :=
  { run with negotiation := run.negotiation.receive functions run.held, held := [] }

/-- What writing to a peer that has gone says. -/
def brokenPipe : String := "broken pipe"

/-- The server closes. The client is still given what was sent, but it cannot write any more. -/
def hangUp (functions : Hash.Functions) (run : HandshakeRun) : HandshakeRun :=
  let run := { run with negotiation := run.negotiation.refuseWrites brokenPipe, gone := true }
  let run := run.deliver functions
  { run with negotiation := run.negotiation.endOfStream }

def abandoned (run : HandshakeRun) : Bool :=
  match run.negotiation.result with
  | some (.error _) => true
  | _ => false

/-- Takes a turn. A server that has something to send to a client that has given up goes away. -/
def takeTurn (functions : Hash.Functions) (password : String) (run : HandshakeRun) :
    List Act → HandshakeRun
  | [] => run.deliver functions
  | .send bytes :: rest =>
      if run.abandoned && !bytes.isEmpty then { run with gone := true }
      else
        let bytes := run.fill functions password bytes
        { run with spoken := run.spoken ++ bytes, held := run.held ++ bytes }.takeTurn
          functions password rest
  | .pause :: rest => (run.deliver functions).takeTurn functions password rest
  | .close :: _ => run.hangUp functions

/-- The messages that a client sends in a handshake. -/
def messageCount : Nat := 3

/-- The server reads the next message, if there is one, and takes its turn; with no turn left it is
silent. -/
def playFrom (functions : Hash.Functions) (password : String) (run : HandshakeRun) :
    Nat → List (List Act) → HandshakeRun
  | 0, _ => run
  | count + 1, turns =>
      match run.gone, run.negotiation.sent[run.read.length]? with
      | false, some message =>
          ({ run with read := run.read ++ [message] }.takeTurn functions password
            (turns.headD [])).playFrom functions password count turns.tail
      | _, _ => run

def play (functions : Hash.Functions) (attempt : Attempt) (script : HandshakeScript) :
    HandshakeRun :=
  (begin attempt).playFrom functions script.password messageCount script.turns

/-- The texts of the frames that the server has read. In place of a proof they say whether it is
right. -/
def frameTexts (functions : Hash.Functions) (password : String) (run : HandshakeRun) :
    List String :=
  let text (frame : ByteArray) : String := Text.lossy (frameBody frame.data.toList)
  let verdict? : Option String := do
    let clientFinal ← run.clientFinal?
    let (bare, _) ← Scram.Server.splitProof? clientFinal
    let right := Scram.Server.verifies functions (← run.salted? functions password)
      (← run.clientFirst?) (← run.serverFirst?) clientFinal
    let proof := if right then "\x7bproof\x7d" else "\x7bwrong proof\x7d"
    return text (encode (⟨bare ++ Scram.Server.proofMark ++ proof⟩ : AuthRequest))
  match run.read.drop 1, verdict? with
  | first :: _ :: rest, some verdict => text first :: verdict :: rest.map text
  | frames, _ => frames.map text

end HandshakeRun

/-- Establishes a session with a scripted server. With no time at all the client gives up as soon as
it waits, and a server that is silent makes it wait until its time is over. -/
def establish (functions : Hash.Functions) (config : Config) (nonce : String)
    (script : HandshakeScript) : Except ClientError Session × HandshakeRun :=
  let turns := if config.connectTimeout.milliseconds = 0 then [] else script.turns
  let run := HandshakeRun.play functions (Session.attempt config nonce) { script with turns }
  (Session.establish config run.negotiation, run)

end QueryDriver.Simulation
