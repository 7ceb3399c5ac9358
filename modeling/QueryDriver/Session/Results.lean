import QueryDriver.ClientError
import QueryDriver.Response

/-!
What the payload of a reply means for the caller: the result values of the query, as they are or all
of one type.
-/

namespace QueryDriver.Session

def values (payload : ByteArray) : Except ClientError (List Json) :=
  lift (Response.decode payload)

/-- The result values of a reply, each of which must convert. -/
def valuesAs {α : Type} (convert : Json → Option α) (payload : ByteArray) :
    Except ClientError (List α) := do
  match (← values payload).mapM convert with
  | some converted => return converted
  | none => throw (.protocol (.invalidMessage .resultType))

def uint64? : Json → Option UInt64
  | .int value =>
      if 0 ≤ value ∧ value < UInt64.size then some (UInt64.ofNat value.toNat) else none
  | _ => none

def text? : Json → Option String
  | .string value => some value
  | _ => none

end QueryDriver.Session
