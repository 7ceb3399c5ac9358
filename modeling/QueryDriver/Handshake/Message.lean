import QueryDriver.Error
import QueryDriver.Json.Record
import QueryDriver.Text.Lossy

/-!
Handshake messages and their frames. A frame is the compact JSON text of a message and one zero
byte; the text has no zero byte of its own, since control characters are escaped.
-/

namespace QueryDriver.Handshake

/-- Values that travel as JSON frames. -/
class Message (α : Type) where
  toJson : α → Json
  read? : List UInt8 → Option α

/-- The version of the protocol that this side speaks. -/
def protocolVersion : UInt32 := 0

/-- The bytes that open a connection. -/
def magic : List UInt8 := [0xC3, 0xBD, 0xC2, 0x34]

def defaultPort : UInt16 := 28015

def authenticationMethod : String := "SCRAM-SHA-256"

def terminator : UInt8 := 0

/-- What a plain text error begins with. -/
def errorMark : String := "ERROR:"

def encode {α : Type} [Message α] (message : α) : ByteArray :=
  (Message.toJson message).bytes.push terminator

/-- The text of a frame, without a terminator at its end. -/
def frameBody (frame : List UInt8) : List UInt8 :=
  if frame.getLast? = some terminator then frame.dropLast else frame

/-- Reads a frame, with or without its terminator. A plain text error is an error of the server. -/
def decode {α : Type} [Message α] (frame : List UInt8) : Except ProtocolError α :=
  let body := frameBody frame
  let text := Text.lossy body
  if errorMark.toList.isPrefixOf text.toList then .error (.server text)
  else
    match Message.read? body with
    | some message => .ok message
    | none => .error (.decode body.length text)

instance : Message Json where
  toJson value := value
  read? := Json.read?

def uint32Json (value : UInt32) : Json :=
  .int value.toNat

def textOrNull : Option String → Json
  | some text => .string text
  | none => .null

def optionalText (name : String) : Option String → Json.Record
  | some text => [(name, .string text)]
  | none => []

/-- The answer to the opening bytes. -/
structure VersionReply where
  success : Bool
  minVersion : UInt32
  maxVersion : UInt32
  serverVersion : Option String
  error : Option String
  deriving DecidableEq

namespace VersionReply

def accept (low high : UInt32) (serverVersion : String) : VersionReply :=
  { success := true
    minVersion := low
    maxVersion := high
    serverVersion := some serverVersion
    error := none }

def fieldNames : List String :=
  ["success", "min_protocol_version", "max_protocol_version", "server_version", "error"]

def ofRecord? (record : Json.Record) : Option VersionReply := do
  return {
    success := ← record.bool? "success"
    minVersion := ← record.withDefault? Json.Record.uint32? 0 "min_protocol_version"
    maxVersion := ← record.withDefault? Json.Record.uint32? 0 "max_protocol_version"
    serverVersion := ← record.optional? Json.Record.text? "server_version"
    error := ← record.optional? Json.Record.text? "error" }

instance : Message VersionReply where
  toJson reply := Json.Record.toJson ([
    ("success", .bool reply.success),
    ("min_protocol_version", uint32Json reply.minVersion),
    ("max_protocol_version", uint32Json reply.maxVersion),
    ("server_version", textOrNull reply.serverVersion)] ++ optionalText "error" reply.error)
  read? input := (Json.Record.read? fieldNames input).bind ofRecord?

end VersionReply

def isVersionCompatible (client low high : UInt32) : Bool :=
  low ≤ client && client ≤ high

/-- What stands for the text of a failure that comes without one. -/
def unknownReason : String := "unknown reason"

/-- Checks that the server accepts the connection and speaks the version of the client. -/
def VersionReply.check (reply : VersionReply) (client : UInt32) : Except ProtocolError Unit :=
  if !reply.success then .error (.handshakeRejected (reply.error.getD unknownReason))
  else if isVersionCompatible client reply.minVersion reply.maxVersion then .ok ()
  else .error (.versionMismatch client reply.minVersion reply.maxVersion)

/-- The first message of the authentication, with the mechanism asked for. -/
structure ClientFirst where
  protocolVersion : UInt32
  authentication : String
  method : String
  deriving DecidableEq

namespace ClientFirst

def ofText (authentication : String) : ClientFirst :=
  { protocolVersion := Handshake.protocolVersion
    authentication
    method := authenticationMethod }

def fieldNames : List String :=
  ["protocol_version", "authentication", "authentication_method"]

def ofRecord? (record : Json.Record) : Option ClientFirst := do
  return {
    protocolVersion := ← (← record.field "protocol_version") |> Json.Record.uint32?
    authentication := ← record.string? "authentication"
    method := ← record.string? "authentication_method" }

instance : Message ClientFirst where
  toJson message := Json.Record.toJson [
    ("protocol_version", uint32Json message.protocolVersion),
    ("authentication", .string message.authentication),
    ("authentication_method", .string message.method)]
  read? input := (Json.Record.read? fieldNames input).bind ofRecord?

end ClientFirst

/-- The last message of the client in the authentication. -/
structure AuthRequest where
  authentication : String
  deriving DecidableEq

namespace AuthRequest

def fieldNames : List String :=
  ["authentication"]

def ofRecord? (record : Json.Record) : Option AuthRequest := do
  return { authentication := ← record.string? "authentication" }

instance : Message AuthRequest where
  toJson message := Json.Record.toJson [("authentication", .string message.authentication)]
  read? input := (Json.Record.read? fieldNames input).bind ofRecord?

end AuthRequest

/-- The answer to a message of the authentication. -/
structure AuthReply where
  success : Bool
  authentication : Option String
  error : Option String
  errorCode : Option Int64
  deriving DecidableEq

namespace AuthReply

def accept (authentication : String) : AuthReply :=
  { success := true
    authentication := some authentication
    error := none
    errorCode := none }

def failure (code : Int64) (text : String) : AuthReply :=
  { success := false
    authentication := none
    error := some text
    errorCode := some code }

def fieldNames : List String :=
  ["success", "authentication", "error", "error_code"]

def ofRecord? (record : Json.Record) : Option AuthReply := do
  return {
    success := ← record.bool? "success"
    authentication := ← record.optional? Json.Record.text? "authentication"
    error := ← record.optional? Json.Record.text? "error"
    errorCode := ← record.optional? Json.Record.int64? "error_code" }

def codeField : Option Int64 → Json.Record
  | some code => [("error_code", .int code.toInt)]
  | none => []

instance : Message AuthReply where
  toJson reply := Json.Record.toJson (
    ("success", .bool reply.success) :: optionalText "authentication" reply.authentication ++
      optionalText "error" reply.error ++ codeField reply.errorCode)
  read? input := (Json.Record.read? fieldNames input).bind ofRecord?

end AuthReply

/-- The error for a code of the server: codes from 10 to 20 concern the credentials. -/
def errorOfCode (code : Int64) (text : String) : ProtocolError :=
  if 10 ≤ code ∧ code ≤ 20 then .auth (.rejected code text)
  else .driver (.handshake code text)

/-- The authentication string of a reply, or the error that the reply stands for. -/
def AuthReply.result (reply : AuthReply) : Except ProtocolError String :=
  if !reply.success then
    .error (errorOfCode (reply.errorCode.getD 0) (reply.error.getD unknownReason))
  else
    match reply.authentication with
    | some authentication => .ok authentication
    | none => .error (.invalidMessage .missingAuthentication)

end QueryDriver.Handshake
