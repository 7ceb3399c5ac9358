import QueryDriver.Error
import QueryDriver.Json.Record
import QueryDriver.Text.Lossy

/-!
Responses to queries: the envelope, and the result values or the error that it stands for.
-/

namespace QueryDriver

inductive ResponseType
  | successAtom
  | successSequence
  | successPartial
  | waitComplete
  | serverInfo
  | clientError
  | compileError
  | runtimeError
  deriving DecidableEq

namespace ResponseType

def all : List ResponseType :=
  [.successAtom, .successSequence, .successPartial, .waitComplete, .serverInfo, .clientError,
    .compileError, .runtimeError]

def code : ResponseType → Int64
  | .successAtom => 1
  | .successSequence => 2
  | .successPartial => 3
  | .waitComplete => 4
  | .serverInfo => 5
  | .clientError => 16
  | .compileError => 17
  | .runtimeError => 18

def ofCode? (code : Int64) : Option ResponseType :=
  all.find? fun type => type.code = code

def label : ResponseType → String
  | .successAtom => "SuccessAtom"
  | .successSequence => "SuccessSequence"
  | .successPartial => "SuccessPartial"
  | .waitComplete => "WaitComplete"
  | .serverInfo => "ServerInfo"
  | .clientError => "ClientError"
  | .compileError => "CompileError"
  | .runtimeError => "RuntimeError"

end ResponseType

/-- What a response says about the changefeed it belongs to. -/
inductive ResponseNote
  | sequenceFeed
  | atomFeed
  | orderByLimitFeed
  | unionedFeed
  | includesStates
  deriving DecidableEq

namespace ResponseNote

def all : List ResponseNote :=
  [.sequenceFeed, .atomFeed, .orderByLimitFeed, .unionedFeed, .includesStates]

def code : ResponseNote → Int64
  | .sequenceFeed => 1
  | .atomFeed => 2
  | .orderByLimitFeed => 3
  | .unionedFeed => 4
  | .includesStates => 5

def ofCode? (code : Int64) : Option ResponseNote :=
  all.find? fun note => note.code = code

def label : ResponseNote → String
  | .sequenceFeed => "SequenceFeed"
  | .atomFeed => "AtomFeed"
  | .orderByLimitFeed => "OrderByLimitFeed"
  | .unionedFeed => "UnionedFeed"
  | .includesStates => "IncludesStates"

end ResponseNote

inductive ErrorType
  | internal
  | resourceLimit
  | queryLogic
  | nonExistence
  | opFailed
  | opIndeterminate
  | user
  | permissionError
  deriving DecidableEq

namespace ErrorType

def all : List ErrorType :=
  [.internal, .resourceLimit, .queryLogic, .nonExistence, .opFailed, .opIndeterminate, .user,
    .permissionError]

def code : ErrorType → Int64
  | .internal => 1000000
  | .resourceLimit => 2000000
  | .queryLogic => 3000000
  | .nonExistence => 3100000
  | .opFailed => 4100000
  | .opIndeterminate => 4200000
  | .user => 5000000
  | .permissionError => 6000000

def ofCode? (code : Int64) : Option ErrorType :=
  all.find? fun type => type.code = code

def label : ErrorType → String
  | .internal => "Internal"
  | .resourceLimit => "ResourceLimit"
  | .queryLogic => "QueryLogic"
  | .nonExistence => "NonExistence"
  | .opFailed => "OpFailed"
  | .opIndeterminate => "OpIndeterminate"
  | .user => "User"
  | .permissionError => "PermissionError"

end ErrorType

structure Response where
  typeCode : Int64
  results : Option (List Json)
  backtrace : Option Json
  noteCodes : List Int64
  errorCode : Option Int64
  profile : Option Json

namespace Response

def ofValues (type : ResponseType) (values : List Json) : Response :=
  { typeCode := type.code
    results := some values
    backtrace := none
    noteCodes := []
    errorCode := none
    profile := none }

/-- A response with one value. -/
def atom (value : Json) : Response :=
  ofValues .successAtom [value]

def sequence (values : List Json) : Response :=
  ofValues .successSequence values

def error (type : ResponseType) (text : String) : Response :=
  ofValues type [.string text]

def type? (response : Response) : Option ResponseType :=
  ResponseType.ofCode? response.typeCode

/-- The notes that are known. -/
def notes (response : Response) : List ResponseNote :=
  response.noteCodes.filterMap ResponseNote.ofCode?

def errorType? (response : Response) : Option ErrorType :=
  response.errorCode.bind ErrorType.ofCode?

def fieldNames : List String :=
  ["t", "r", "b", "n", "e", "p"]

def ofRecord? (record : Json.Record) : Option Response := do
  return {
    typeCode := ← (← record.field "t") |> Json.Record.int64?
    results := ← record.optional? Json.Record.items? "r"
    backtrace := ← record.optional? some "b"
    noteCodes := ← record.withDefault? Json.Record.int64s? [] "n"
    errorCode := ← record.optional? Json.Record.int64? "e"
    profile := ← record.optional? some "p" }

def int64Json (value : Int64) : Json :=
  .int value.toInt

/-- The notes of a response, none if the list is empty. -/
def notesJson (response : Response) : Option Json :=
  if response.noteCodes.isEmpty then none
  else some (.array (response.noteCodes.map int64Json))

/-- The fields of a response. Those that are absent are left out. -/
def fields (response : Response) : Json.Record :=
  ("t", int64Json response.typeCode) ::
    Json.Record.optionalField "r" (response.results.map .array) ++
    Json.Record.optionalField "b" response.backtrace ++
    Json.Record.optionalField "n" response.notesJson ++
    Json.Record.optionalField "e" (response.errorCode.map int64Json) ++
    Json.Record.optionalField "p" response.profile

def toJson (response : Response) : Json :=
  response.fields.toJson

def parse (payload : ByteArray) : Except ProtocolError Response :=
  let bytes := payload.data.toList
  match (Json.Record.read? fieldNames bytes).bind ofRecord? with
  | some response => .ok response
  | none => .error (.decode payload.size (Text.lossy bytes))

/-- The text of an error response: its first value, as it is if it is a string. -/
def errorText (response : Response) : Option String :=
  match response.results with
  | some (.string text :: _) => some text
  | some (value :: _) => some value.compact
  | _ => none

def queryError (response : Response) (stage : QueryStage) : ProtocolError :=
  .query {
    stage
    text := response.errorText
    backtrace := response.backtrace
    errorType := response.errorCode }

/-- The values that a response stands for, or its error. -/
def values (response : Response) : Except ProtocolError (List Json) :=
  match response.type? with
  | some .successAtom | some .successSequence =>
      match response.results with
      | some values => .ok values
      | none => .error (.invalidMessage .missingResult)
  | some .clientError => .error (response.queryError .client)
  | some .compileError => .error (response.queryError .compile)
  | some .runtimeError => .error (response.queryError .runtime)
  | _ => .error (.unsupportedResponseType response.typeCode)

def decode (payload : ByteArray) : Except ProtocolError (List Json) := do
  (← parse payload).values

end Response

end QueryDriver
