import QueryDriver.Error

/-!
Query frames: a token in eight bytes, the length of the payload in four, both with the lowest byte
first, and the payload. The token says which request a response belongs to.
-/

namespace QueryDriver

structure Frame where
  token : UInt64
  payload : ByteArray

namespace Frame

def maxPayload : Nat := 64 * 1024 * 1024

def tokenSize : Nat := 8

def lengthSize : Nat := 4

def headerSize : Nat := tokenSize + lengthSize

def littleEndian : Nat → Nat → List UInt8
  | 0, _ => []
  | width + 1, number => UInt8.ofNat number :: littleEndian width (number / 256)

def ofLittleEndian : List UInt8 → Nat
  | [] => 0
  | byte :: rest => byte.toNat + 256 * ofLittleEndian rest

def header (token : UInt64) (length : Nat) : List UInt8 :=
  littleEndian tokenSize token.toNat ++ littleEndian lengthSize length

/-- The bytes of a frame; too large a payload has none. -/
def encode (frame : Frame) : Except MessageFault ByteArray :=
  if maxPayload < frame.payload.size then
    .error (.payloadTooLarge frame.payload.size maxPayload)
  else .ok (⟨(header frame.token frame.payload.size).toArray⟩ ++ frame.payload)

/-- The token and the payload length of a header. Any length above the limit is refused. -/
def decodeHeader (limit : Nat) (header : List UInt8) : Except MessageFault (UInt64 × Nat) :=
  let length := ofLittleEndian (header.drop tokenSize)
  if limit < length then .error (.frameTooLong length limit)
  else .ok (UInt64.ofNat (ofLittleEndian (header.take tokenSize)), length)

end Frame

end QueryDriver
