import QueryDriver.Scram.Client

/-!
A client as an object that its owner calls, in any order and again and again. A call changes the
client in steps, and a step that was made stays made when the call fails later.
-/

namespace QueryDriver.Scram

open Hash

/-- A computation that changes a client. What it has changed stays changed when it fails. -/
abbrev Exchange := ExceptT ProtocolError (StateM Client)

namespace Exchange

/-- Puts a text behind the transcript. -/
def say (text : String) : Exchange Unit :=
  modify fun client => { client with transcript := client.transcript ++ "," ++ text }

def handleServerFirst (message : String) : Exchange ServerFirst := do
  let client ← get
  let serverFirst ← MonadExcept.ofExcept (ServerFirst.read client.nonce message)
  say message
  modify fun client => { client with serverFirst := some serverFirst }
  return serverFirst

def makeFinal (functions : Functions) : Exchange String := do
  let client ← get
  match client.serverFirst with
  | none => throw (.invalidMessage .clientFinalTooEarly)
  | some serverFirst =>
      let salted :=
        functions.derive (Text.bytes client.password) serverFirst.salt serverFirst.iterations
      let bare := Client.finalBare serverFirst.nonce
      say bare
      let proof := clientProof functions salted (← get).transcript
      modify fun client => { client with serverKey := some (serverKey functions salted) }
      return bare ++ ",p=" ++ Base64.encode proof

def verifyServerFinal (functions : Functions) (message : String) : Exchange Unit := do
  let client ← get
  MonadExcept.ofExcept (client.verifyServerFinal functions message)

end Exchange

inductive Call
  | serverFirst (message : String)
  | clientFinal
  | serverFinal (message : String)

inductive Answer
  /-- A server-first message is accepted. -/
  | challenge (serverFirst : ServerFirst)
  /-- The client-final message. -/
  | final (message : String)
  /-- The server has proved that it knows the password. -/
  | verified

/-- A call and what it returned. -/
structure Called where
  call : Call
  result : Except ProtocolError Answer

def Call.perform (functions : Functions) : Call → Exchange Answer
  | .serverFirst message => return .challenge (← Exchange.handleServerFirst message)
  | .clientFinal => return .final (← Exchange.makeFinal functions)
  | .serverFinal message => do
      Exchange.verifyServerFinal functions message
      return .verified

/-- What calls in turn return, and the client after them. -/
def Client.performAll (functions : Functions) (client : Client) :
    List Call → List Called × Client
  | [] => ([], client)
  | call :: rest =>
      let (result, client) := call.perform functions client
      let (others, client) := client.performAll functions rest
      (⟨call, result⟩ :: others, client)

end QueryDriver.Scram
