import QueryDriver.Hash.Keyed
import QueryDriver.Text.Lossy

/-!
The keys and proofs of SCRAM. Both sides derive a salted password; the client proves that it has it
by its key combined with a signature under the hash of that key, and the server by a signature
under a key of its own. The signatures cover all that was said, as one text.
-/

namespace QueryDriver.Scram

open Hash

def clientKey (functions : Functions) (salted : Bytes) : Bytes :=
  functions.keyed salted (Text.bytes "Client Key")

def serverKey (functions : Functions) (salted : Bytes) : Bytes :=
  functions.keyed salted (Text.bytes "Server Key")

def storedKey (functions : Functions) (salted : Bytes) : Bytes :=
  functions.hash (clientKey functions salted)

def clientSignature (functions : Functions) (salted : Bytes) (transcript : String) : Bytes :=
  functions.keyed (storedKey functions salted) (Text.bytes transcript)

def clientProof (functions : Functions) (salted : Bytes) (transcript : String) : Bytes :=
  xor (clientKey functions salted) (clientSignature functions salted transcript)

def serverSignature (functions : Functions) (salted : Bytes) (transcript : String) : Bytes :=
  functions.keyed (serverKey functions salted) (Text.bytes transcript)

end QueryDriver.Scram
