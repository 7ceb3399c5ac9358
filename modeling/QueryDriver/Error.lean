import QueryDriver.Json.Writer

/-!
What can go wrong with a message, by cause, and the text of each cause. Where a decoder's own words
belong in a text, three dots stand for them; they are left out, since nothing depends on them.
-/

namespace QueryDriver

inductive ArgumentFault
  | undefinedValue
  | notFinite (number : Double)
  | optionOnLiteral (key : String) (literal : Json)
  | unboundParameter (level index : Nat)
  /-- A fault that a caller's own function states. -/
  | stated (text : String)

def ArgumentFault.message : ArgumentFault → String
  | .undefinedValue => "cannot coerce an undefined value"
  | .notFinite number => "cannot coerce non-finite number " ++ number.inspect
  | .optionOnLiteral key literal =>
      "cannot set option `" ++ key ++ "` on literal " ++ literal.compact
  | .unboundParameter level index =>
      "no parameter " ++ toString index ++ " at level " ++ toString level
  | .stated text => text

/-- Errors caused by input on this side of the connection. -/
inductive DriverError
  | invalidArgument (fault : ArgumentFault)
  | depthExceeded
  /-- An authentication string with a segment that is no attribute. -/
  | malformedAttributes (segment : String)
  /-- A failure of the handshake that does not concern the credentials. -/
  | handshake (code : Int64) (text : String)

def DriverError.message : DriverError → String
  | .invalidArgument fault => "invalid argument: " ++ fault.message
  | .depthExceeded => "nesting depth limit exceeded"
  | .malformedAttributes segment => "authentication string pairs are not valid: " ++ segment
  | .handshake code text => "handshake error (code " ++ toString code.toInt ++ "): " ++ text

inductive AuthError
  | rejected (code : Int64) (text : String)
  /-- The nonce of the server does not begin with that of the client. -/
  | invalidNonce
  | invalidServerSignature

def AuthError.message : AuthError → String
  | .rejected code text => "authentication failed (code " ++ toString code.toInt ++ "): " ++ text
  | .invalidNonce => "invalid nonce from server"
  | .invalidServerSignature => "invalid server signature"

inductive QueryStage
  | client
  | compile
  | runtime
  deriving DecidableEq

def QueryStage.name : QueryStage → String
  | .client => "client"
  | .compile => "compile"
  | .runtime => "runtime"

structure QueryError where
  stage : QueryStage
  text : Option String
  backtrace : Option Json
  errorType : Option Int64

def QueryError.message (error : QueryError) : String :=
  "a " ++ error.stage.name ++ " error occurred" ++
    (match error.backtrace with
      | some backtrace => " at " ++ backtrace.compact
      | none => "") ++
    (match error.text with
      | some text => ": " ++ text
      | none => ".")

/-- Why the text of an iteration count is no count. -/
inductive CountFault
  | empty
  | invalidDigit
  | tooLarge
  deriving DecidableEq

def CountFault.message : CountFault → String
  | .empty => "cannot parse integer from empty string"
  | .invalidDigit => "invalid digit found in string"
  | .tooLarge => "number too large to fit in target type"

inductive MessageFault
  | payloadTooLarge (size limit : Nat)
  | frameTooLong (length limit : Nat)
  | handshakeFrameTooLong (limit : Nat)
  | missingResult
  | missingAuthentication
  | missingAttribute (key : Char)
  | mandatoryExtension
  /-- A salt that is not base64. What the decoder says about it is left out of the text. -/
  | saltEncoding
  | iterationCount (fault : CountFault)
  | zeroIterations
  | clientFinalTooEarly
  | serverFinalTooEarly
  | handshakeState (state : String)
  /-- A result that is not of the type asked for. What the decoder says about it is left out of the
  text. -/
  | resultType
  | stated (text : String)

def MessageFault.message : MessageFault → String
  | .payloadTooLarge size limit =>
      "payload size " ++ toString size ++ " exceeds maximum " ++ toString limit
  | .frameTooLong length limit =>
      "frame length " ++ toString length ++ " exceeds maximum " ++ toString limit
  | .handshakeFrameTooLong limit => "handshake frame exceeds " ++ toString limit ++ " bytes"
  | .missingResult => "success response without result"
  | .missingAuthentication => "authentication reply without authentication string"
  | .missingAttribute key => "authentication string is missing `" ++ String.singleton key ++ "`"
  | .mandatoryExtension => "server-first carries an unsupported mandatory extension"
  | .saltEncoding => "invalid salt encoding: ..."
  | .iterationCount fault => "invalid iteration count: " ++ fault.message
  | .zeroIterations => "iteration count must be positive"
  | .clientFinalTooEarly => "client-final requested before server-first"
  | .serverFinalTooEarly => "server-final received before client-final"
  | .handshakeState state => "cannot handshake in state " ++ state
  | .resultType => "failed to deserialize result: ..."
  | .stated text => text

inductive ProtocolError
  | serialization (text : String)
  /-- Bytes that are not the message expected, with their lossy text. What the decoder says about
  them is left out of the text. -/
  | decode (size : Nat) (raw : String)
  | versionMismatch (client low high : UInt32)
  | handshakeRejected (reason : String)
  /-- A plain text error that the server sent in place of a message. -/
  | server (text : String)
  | invalidMessage (fault : MessageFault)
  | unsupportedResponseType (code : Int64)
  | auth (error : AuthError)
  | driver (error : DriverError)
  | query (error : QueryError)

def ProtocolError.message : ProtocolError → String
  | .serialization text => "serialization error: " ++ text
  | .decode size raw => "failed to decode " ++ toString size ++ "-byte message (...): " ++ raw
  | .versionMismatch client low high =>
      "server does not support protocol version " ++ toString client.toNat ++
        "; supported range is " ++ toString low.toNat ++ "..=" ++ toString high.toNat
  | .handshakeRejected reason => "handshake rejected by server: " ++ reason
  | .server text => "server error: " ++ text
  | .invalidMessage fault => "invalid message: " ++ fault.message
  | .unsupportedResponseType code =>
      "the returned response type is not implemented (" ++ toString code.toInt ++ ")"
  | .auth error => error.message
  | .driver error => error.message
  | .query error => error.message

end QueryDriver
