import QueryDriver.Frame.Basic
import QueryDriver.Handshake.Message
import QueryDriver.Text.Quoted

/-!
What a client is configured with.
-/

namespace QueryDriver

structure Duration where
  milliseconds : Nat
  deriving DecidableEq

namespace Duration

def ofSeconds (seconds : Nat) : Duration :=
  ⟨seconds * 1000⟩

/-- The decimal places of a number of thousandths that say anything. -/
def places (thousandths : Nat) : List Char :=
  let tenth := Nat.digitChar (thousandths / 100)
  let hundredth := Nat.digitChar (thousandths / 10 % 10)
  let last := Nat.digitChar (thousandths % 10)
  if thousandths = 0 then []
  else if thousandths % 100 = 0 then ['.', tenth]
  else if thousandths % 10 = 0 then ['.', tenth, hundredth]
  else ['.', tenth, hundredth, last]

/-- The developer-facing text, in the largest unit that is not above the span. -/
def inspect (duration : Duration) : String :=
  if duration.milliseconds = 0 then "0ns"
  else if duration.milliseconds < 1000 then toString duration.milliseconds ++ "ms"
  else toString (duration.milliseconds / 1000) ++
    String.ofList (places (duration.milliseconds % 1000)) ++ "s"

end Duration

structure Config where
  host : String
  port : UInt16
  username : String
  password : String
  /-- The time for dialling, and again for the handshake. -/
  connectTimeout : Duration
  requestTimeout : Option Duration
  maxMessageSize : Nat
  deriving DecidableEq

namespace Config

def new (host : String) : Config :=
  { host
    port := Handshake.defaultPort
    username := "admin"
    password := ""
    connectTimeout := .ofSeconds 20
    requestTimeout := none
    maxMessageSize := Frame.maxPayload }

def localhost : Config :=
  new "localhost"

def withPort (config : Config) (port : UInt16) : Config :=
  { config with port }

def withCredentials (config : Config) (username password : String) : Config :=
  { config with username, password }

def withConnectTimeout (config : Config) (timeout : Duration) : Config :=
  { config with connectTimeout := timeout }

def withRequestTimeout (config : Config) (timeout : Duration) : Config :=
  { config with requestTimeout := some timeout }

def withMaxMessageSize (config : Config) (size : Nat) : Config :=
  { config with maxMessageSize := size }

def address (config : Config) : String :=
  config.host ++ ":" ++ toString config.port.toNat

/-- The developer-facing text, which hides the password. -/
def inspect (config : Config) : String :=
  "ClientConfig \x7b host: " ++ Text.quoted config.host ++
    ", port: " ++ toString config.port.toNat ++
    ", username: " ++ Text.quoted config.username ++
    ", password: \"<redacted>\", connect_timeout: " ++ config.connectTimeout.inspect ++
    ", request_timeout: " ++
    (match config.requestTimeout with
      | some timeout => "Some(" ++ timeout.inspect ++ ")"
      | none => "None") ++
    ", max_message_size: " ++ toString config.maxMessageSize ++ " \x7d"

end Config

end QueryDriver
