import QueryDriver.Base64
import QueryDriver.Scram.Client

/-!
The server side of a SCRAM exchange, which sees the messages alone. It puts the transcript together
from their texts, checks the proof of the client and signs.
-/

namespace QueryDriver.Scram.Server

open Hash

/-- What stands between a client-final message and its proof. -/
def proofMark : String := ",p="

/-- The text before the last proof mark, and the text behind it. -/
def splitProofChars : List Char → Option (List Char × List Char)
  | [] => none
  | letter :: rest =>
      match splitProofChars rest with
      | some (before, proof) => some (letter :: before, proof)
      | none =>
          if proofMark.toList.isPrefixOf (letter :: rest) then
            some ([], (letter :: rest).drop proofMark.length)
          else none

/-- A client-final message without its proof, and the proof as it is written. -/
def splitProof? (clientFinal : String) : Option (String × String) :=
  (splitProofChars clientFinal.toList).map fun (before, proof) =>
    (String.ofList before, String.ofList proof)

/-- The transcript: the client-first message without its header, the server-first message and the
client-final message without its proof. -/
def transcript (clientFirst serverFirst finalBare : String) : String :=
  String.ofList (clientFirst.toList.drop header.length) ++ "," ++ serverFirst ++ "," ++ finalBare

/-- Whether a proof gives back the key whose hash the server keeps. -/
def accepts (functions : Functions) (salted : Bytes) (transcript : String) (proof : Bytes) : Bool :=
  functions.hash (xor proof (clientSignature functions salted transcript)) =
    storedKey functions salted

def verifies (functions : Functions) (salted : Bytes)
    (clientFirst serverFirst clientFinal : String) : Bool :=
  match splitProof? clientFinal with
  | some (bare, proof) =>
      match Base64.decode? proof with
      | some proof => accepts functions salted (transcript clientFirst serverFirst bare) proof
      | none => false
  | none => false

def signature (functions : Functions) (salted : Bytes)
    (clientFirst serverFirst finalBare : String) : String :=
  Base64.encode (serverSignature functions salted (transcript clientFirst serverFirst finalBare))

end QueryDriver.Scram.Server
