import QueryDriver.Error

/-!
Errors as a caller of the client sees them. An error of the credentials, of this side's input or of
a query stands for itself and is not wrapped as one of the protocol.
-/

namespace QueryDriver

inductive ClientError
  | protocol (error : ProtocolError)
  | auth (error : AuthError)
  | driver (error : DriverError)
  | query (error : QueryError)
  /-- Reading from or writing to the connection failed. -/
  | io (reason : String)
  /-- The connection failed while something was outstanding on it. -/
  | transport (reason : String)
  | sessionClosed
  | timeout
  | connectTimeout

namespace ClientError

def ofProtocol : ProtocolError → ClientError
  | .auth error => .auth error
  | .driver error => .driver error
  | .query error => .query error
  | error => .protocol error

def message : ClientError → String
  | .protocol error => "protocol error: " ++ error.message
  | .auth error => "authentication error: " ++ error.message
  | .driver error => "driver error: " ++ error.message
  | .query error => "query error: " ++ error.message
  | .io reason => "io error: " ++ reason
  | .transport reason => "transport error: " ++ reason
  | .sessionClosed => "session is closed"
  | .timeout => "request timed out"
  | .connectTimeout => "connect timed out"

def isFatal : ClientError → Bool
  | .io _ | .transport _ | .sessionClosed => true
  | _ => false

end ClientError

/-- An outcome of the protocol as a caller of the client sees it. -/
def lift {α : Type} (result : Except ProtocolError α) : Except ClientError α :=
  result.mapError ClientError.ofProtocol

end QueryDriver
