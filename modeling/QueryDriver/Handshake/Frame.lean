import QueryDriver.Handshake.Message

/-!
Finding handshake frames among the bytes that have arrived. A frame ends at its first zero byte and
must not be longer than a limit, which is noticed as soon as so many bytes have arrived.
-/

namespace QueryDriver.Handshake

/-- The longest frame, with its terminator. -/
def maxFrame : Nat := 64 * 1024

inductive NextFrame
  /-- The text of a whole frame, and the bytes behind its terminator. -/
  | found (body rest : List UInt8)
  /-- As many bytes as a frame may have, and no terminator among them. -/
  | tooLong
  /-- More bytes are needed. -/
  | incomplete
  deriving DecidableEq

def nextFrame (input : List UInt8) : NextFrame :=
  let body := (input.take maxFrame).takeWhile fun byte => byte ≠ terminator
  if body.length = maxFrame then .tooLong
  else
    match input.drop body.length with
    | [] => .incomplete
    | _ :: rest => .found body rest

end QueryDriver.Handshake
