import QueryDriver.Base64
import QueryDriver.Scram.Attributes
import QueryDriver.Scram.Count
import QueryDriver.Scram.Proof
import QueryDriver.Text.Quoted

/-!
The client side of a SCRAM exchange: two messages of the client, two of the server. The transcript
is the client-first message without its header, then each accepted server-first message as it came,
then each client-final message without its proof, with commas between them.
-/

namespace QueryDriver.Scram

open Hash

/-- A name without commas and equals signs, which would end it or look like another attribute. -/
def escapeChars : List Char → List Char
  | [] => []
  | '=' :: rest => '=' :: '3' :: 'D' :: escapeChars rest
  | ',' :: rest => '=' :: '2' :: 'C' :: escapeChars rest
  | letter :: rest => letter :: escapeChars rest

def escapeUsername (username : String) : String :=
  String.ofList (escapeChars username.toList)

/-- The size of a random nonce before it is written in base64. -/
def nonceSize : Nat := 24

/-- The header of a client that does not bind the channel. -/
def header : String := "n,,"

/-- The header in base64, by which a client-final message repeats it. -/
def channelBinding : String := "biws"

/-- What the server asks for in its first message. -/
structure ServerFirst where
  nonce : String
  salt : Bytes
  iterations : Nat
  deriving DecidableEq

def readSalt (text : String) : Except ProtocolError Bytes :=
  match Base64.decode? text with
  | some salt => .ok salt
  | none => .error (.invalidMessage .saltEncoding)

/-- Reads the number of iterations, which must not be zero. -/
def readIterations (text : String) : Except ProtocolError Nat :=
  match readCount text with
  | .error fault => .error (.invalidMessage (.iterationCount fault))
  | .ok 0 => .error (.invalidMessage .zeroIterations)
  | .ok count => .ok count

/-- Reads a server-first message. Its nonce must begin with that of the client, and an attribute
that asks for an extension is refused. -/
def ServerFirst.read (clientNonce message : String) : Except ProtocolError ServerFirst := do
  let attributes ← (Attributes.parse message).mapError ProtocolError.driver
  if attributes.contains 'm' then throw (.invalidMessage .mandatoryExtension)
  let nonce ← attributes.require 'r'
  if !clientNonce.toList.isPrefixOf nonce.toList then throw (.auth .invalidNonce)
  let salt ← readSalt (← attributes.require 's')
  let iterations ← readIterations (← attributes.require 'i')
  return { nonce, salt, iterations }

structure Client where
  username : String
  password : String
  nonce : String
  transcript : String
  /-- The server-first message that was accepted last. -/
  serverFirst : Option ServerFirst
  /-- The key of the server, known once the password was salted. -/
  serverKey : Option Bytes
  deriving DecidableEq

namespace Client

def firstBare (username nonce : String) : String :=
  "n=" ++ escapeUsername username ++ ",r=" ++ nonce

def new (username password nonce : String) : Client :=
  { username
    password
    nonce
    transcript := firstBare username nonce
    serverFirst := none
    serverKey := none }

def firstMessage (client : Client) : String :=
  header ++ client.transcript

def acceptServerFirst (client : Client) (message : String) : Except ProtocolError Client := do
  let serverFirst ← ServerFirst.read client.nonce message
  return { client with
    transcript := client.transcript ++ "," ++ message
    serverFirst := some serverFirst }

def finalBare (nonce : String) : String :=
  "c=" ++ channelBinding ++ ",r=" ++ nonce

/-- Makes the client-final message, which proves the password. -/
def makeFinal (functions : Functions) (client : Client) : Except ProtocolError (Client × String) :=
  match client.serverFirst with
  | none => .error (.invalidMessage .clientFinalTooEarly)
  | some serverFirst =>
      let salted :=
        functions.derive (Text.bytes client.password) serverFirst.salt serverFirst.iterations
      let bare := finalBare serverFirst.nonce
      let transcript := client.transcript ++ "," ++ bare
      let proof := clientProof functions salted transcript
      .ok ({ client with transcript, serverKey := some (Scram.serverKey functions salted) },
        bare ++ ",p=" ++ Base64.encode proof)

/-- Checks the server-final message, which proves that the server knows the password too. -/
def verifyServerFinal (functions : Functions) (client : Client) (message : String) :
    Except ProtocolError Unit := do
  match client.serverKey with
  | none => throw (.invalidMessage .serverFinalTooEarly)
  | some key =>
      let attributes ← (Attributes.parse message).mapError ProtocolError.driver
      let signature := functions.keyed key (Text.bytes client.transcript)
      if (attributes.get? 'v').bind Base64.decode? = some signature then return ()
      else throw (.auth .invalidServerSignature)

end Client

def ServerFirst.inspect (serverFirst : ServerFirst) : String :=
  "ServerFirst \x7b nonce: " ++ Text.quoted serverFirst.nonce ++ ", salt: [" ++
    ", ".intercalate (serverFirst.salt.map fun byte => toString byte.toNat) ++
    "], iterations: " ++ toString serverFirst.iterations ++ " \x7d"

/-- The developer-facing text of an exchange; it does not tell the password. -/
def Client.inspect (client : Client) : String :=
  "ScramClient \x7b username: " ++ Text.quoted client.username ++
    ", client_nonce: " ++ Text.quoted client.nonce ++
    ", transcript: " ++ Text.quoted client.transcript ++
    ", server_first: " ++
    (match client.serverFirst with
      | some serverFirst => "Some(" ++ serverFirst.inspect ++ ")"
      | none => "None") ++ ", .. \x7d"

end QueryDriver.Scram
