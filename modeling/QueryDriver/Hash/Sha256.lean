/-!
SHA-256: words of thirty-two bits, blocks of sixteen words, sixty-four rounds for each block.
-/

namespace QueryDriver.Hash.Sha256

def roundConstants : List UInt32 :=
  [0x428a2f98, 0x71374491, 0xb5c0fbcf, 0xe9b5dba5, 0x3956c25b, 0x59f111f1, 0x923f82a4, 0xab1c5ed5,
    0xd807aa98, 0x12835b01, 0x243185be, 0x550c7dc3, 0x72be5d74, 0x80deb1fe, 0x9bdc06a7, 0xc19bf174,
    0xe49b69c1, 0xefbe4786, 0x0fc19dc6, 0x240ca1cc, 0x2de92c6f, 0x4a7484aa, 0x5cb0a9dc, 0x76f988da,
    0x983e5152, 0xa831c66d, 0xb00327c8, 0xbf597fc7, 0xc6e00bf3, 0xd5a79147, 0x06ca6351, 0x14292967,
    0x27b70a85, 0x2e1b2138, 0x4d2c6dfc, 0x53380d13, 0x650a7354, 0x766a0abb, 0x81c2c92e, 0x92722c85,
    0xa2bfe8a1, 0xa81a664b, 0xc24b8b70, 0xc76c51a3, 0xd192e819, 0xd6990624, 0xf40e3585, 0x106aa070,
    0x19a4c116, 0x1e376c08, 0x2748774c, 0x34b0bcb5, 0x391c0cb3, 0x4ed8aa4a, 0x5b9cca4f, 0x682e6ff3,
    0x748f82ee, 0x78a5636f, 0x84c87814, 0x8cc70208, 0x90befffa, 0xa4506ceb, 0xbef9a3f7, 0xc67178f2]

structure State where
  a : UInt32
  b : UInt32
  c : UInt32
  d : UInt32
  e : UInt32
  f : UInt32
  g : UInt32
  h : UInt32

def initial : State :=
  ⟨0x6a09e667, 0xbb67ae85, 0x3c6ef372, 0xa54ff53a, 0x510e527f, 0x9b05688c, 0x1f83d9ab, 0x5be0cd19⟩

def rotateRight (word : UInt32) (count : UInt32) : UInt32 :=
  (word >>> count) ||| (word <<< (32 - count))

/-- Extends a block to sixty-four words, each from four of the sixteen before it. -/
def schedule (block : Array UInt32) : Array UInt32 :=
  (List.range 48).foldl (fun words index =>
    let early := words.getD (index + 1) 0
    let late := words.getD (index + 14) 0
    let first := rotateRight early 7 ^^^ rotateRight early 18 ^^^ (early >>> 3)
    let second := rotateRight late 17 ^^^ rotateRight late 19 ^^^ (late >>> 10)
    words.push (words.getD index 0 + first + words.getD (index + 9) 0 + second)) block

def round (state : State) (constant word : UInt32) : State :=
  let sum := rotateRight state.e 6 ^^^ rotateRight state.e 11 ^^^ rotateRight state.e 25
  let choice := (state.e &&& state.f) ^^^ (~~~state.e &&& state.g)
  let first := state.h + sum + choice + constant + word
  let turned := rotateRight state.a 2 ^^^ rotateRight state.a 13 ^^^ rotateRight state.a 22
  let majority := (state.a &&& state.b) ^^^ (state.a &&& state.c) ^^^ (state.b &&& state.c)
  { a := first + turned + majority
    b := state.a
    c := state.b
    d := state.c
    e := state.d + first
    f := state.e
    g := state.f
    h := state.g }

def rounds : State → List UInt32 → List UInt32 → State
  | state, constant :: constants, word :: words =>
      rounds (round state constant word) constants words
  | state, _, _ => state

def State.add (left right : State) : State :=
  ⟨left.a + right.a, left.b + right.b, left.c + right.c, left.d + right.d,
    left.e + right.e, left.f + right.f, left.g + right.g, left.h + right.h⟩

def compress (state : State) (block : Array UInt32) : State :=
  state.add (rounds state roundConstants (schedule block).toList)

def bigEndian : Nat → Nat → List UInt8
  | 0, _ => []
  | width + 1, number => UInt8.ofNat (number / Nat.pow 256 width) :: bigEndian width number

/-- The words of a sequence of bytes, highest byte first. -/
def words : List UInt8 → List UInt32
  | a :: b :: c :: d :: rest =>
      (a.toUInt32 <<< 24 ||| b.toUInt32 <<< 16 ||| c.toUInt32 <<< 8 ||| d.toUInt32) :: words rest
  | _ => []

/-- What ends a message of a length: a mark, zeros up to the end of a block but for eight bytes, and
the length in bits. -/
def padding (length : Nat) : List UInt8 :=
  0x80 :: List.replicate ((119 - length % 64) % 64) 0 ++ bigEndian 8 (length * 8)

def blocks (state : State) : Nat → List UInt32 → State
  | 0, _ => state
  | count + 1, words => blocks (compress state (words.take 16).toArray) count (words.drop 16)

def wordBytes (word : UInt32) : List UInt8 :=
  [(word >>> 24).toUInt8, (word >>> 16).toUInt8, (word >>> 8).toUInt8, word.toUInt8]

def State.bytes (state : State) : List UInt8 :=
  [state.a, state.b, state.c, state.d, state.e, state.f, state.g, state.h].flatMap wordBytes

/-- Takes in as many bytes as fill whole blocks. -/
def State.absorb (state : State) (bytes : List UInt8) : State :=
  blocks state (bytes.length / 64) (words bytes)

/-- The hash of a message of which whole blocks, with so many bytes, are taken in already. -/
def State.finish (state : State) (taken : Nat) (rest : List UInt8) : List UInt8 :=
  (state.absorb (rest ++ padding (taken + rest.length))).bytes

def hash (message : List UInt8) : List UInt8 :=
  initial.finish 0 message

end QueryDriver.Hash.Sha256
