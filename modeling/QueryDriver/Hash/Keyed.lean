import QueryDriver.Hash.Sha256

/-!
The functions that authentication is made of: a hash, a keyed hash and the derivation of a key from
a password. They are given as a record, so that the authentication can be told for any such
functions; `standard` is the real one.
-/

namespace QueryDriver.Hash

abbrev Bytes := List UInt8

/-- The bytes of two sequences combined one by one by exclusive or. -/
def xor (left right : Bytes) : Bytes :=
  List.zipWith (· ^^^ ·) left right

def blockSize : Nat := 64

/-- A key of one block: a longer key is hashed first, and zeros fill up a shorter one. -/
def blockKey (key : Bytes) : Bytes :=
  let key := if blockSize < key.length then Sha256.hash key else key
  key ++ List.replicate (blockSize - key.length) 0

/-- A key made ready for many messages: the states of the hash behind its two disguises, each of
one block. -/
structure Signer where
  inner : Sha256.State
  outer : Sha256.State

def Signer.ofKey (key : Bytes) : Signer :=
  let key := blockKey key
  { inner := Sha256.initial.absorb (key.map (· ^^^ 0x36))
    outer := Sha256.initial.absorb (key.map (· ^^^ 0x5C)) }

/-- Hashes the inner disguise with the message, and the outer one with the result. -/
def Signer.sign (signer : Signer) (message : Bytes) : Bytes :=
  signer.outer.finish blockSize (signer.inner.finish blockSize message)

def hmac (key message : Bytes) : Bytes :=
  (Signer.ofKey key).sign message

/-- The keyed hash of the last result, and the exclusive or of all results, after more turns. -/
def stretch (signer : Signer) : Nat → Bytes → Bytes → Bytes
  | 0, _, combined => combined
  | turns + 1, last, combined =>
      let next := signer.sign last
      stretch signer turns next (xor combined next)

/-- The first block of PBKDF2, which is all of a key of thirty-two bytes. No turns count as one. -/
def derive (password salt : Bytes) (iterations : Nat) : Bytes :=
  let signer := Signer.ofKey password
  let first := signer.sign (salt ++ [0, 0, 0, 1])
  stretch signer (iterations - 1) first first

structure Functions where
  hash : Bytes → Bytes
  keyed : Bytes → Bytes → Bytes
  derive : Bytes → Bytes → Nat → Bytes

def standard : Functions :=
  { hash := Sha256.hash
    keyed := hmac
    derive }

end QueryDriver.Hash
