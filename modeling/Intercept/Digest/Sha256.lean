/-
# The SHA-256 digest

A message is filled up to whole blocks of sixty-four bytes, and each block is folded into a
state of eight words.  The digest is the last state, written as bytes.

A `Hasher` computes the digest of a message that comes piece by piece, and keeps only what does not
fill a block yet.
-/
import Intercept.Bytes

namespace Intercept.Sha256

/-- The eight words that a block is folded into. -/
structure State where
  a : UInt32
  b : UInt32
  c : UInt32
  d : UInt32
  e : UInt32
  f : UInt32
  g : UInt32
  h : UInt32
deriving DecidableEq, Repr, Inhabited

/-- The state before the first block: the fractional parts of the square roots of the first
eight primes. -/
def start : State :=
  ⟨0x6a09e667, 0xbb67ae85, 0x3c6ef372, 0xa54ff53a, 0x510e527f, 0x9b05688c, 0x1f83d9ab, 0x5be0cd19⟩

/-- One constant per round: the fractional parts of the cube roots of the first primes. -/
def roundConstants : List UInt32 := [
  0x428a2f98, 0x71374491, 0xb5c0fbcf, 0xe9b5dba5, 0x3956c25b, 0x59f111f1, 0x923f82a4, 0xab1c5ed5,
  0xd807aa98, 0x12835b01, 0x243185be, 0x550c7dc3, 0x72be5d74, 0x80deb1fe, 0x9bdc06a7, 0xc19bf174,
  0xe49b69c1, 0xefbe4786, 0x0fc19dc6, 0x240ca1cc, 0x2de92c6f, 0x4a7484aa, 0x5cb0a9dc, 0x76f988da,
  0x983e5152, 0xa831c66d, 0xb00327c8, 0xbf597fc7, 0xc6e00bf3, 0xd5a79147, 0x06ca6351, 0x14292967,
  0x27b70a85, 0x2e1b2138, 0x4d2c6dfc, 0x53380d13, 0x650a7354, 0x766a0abb, 0x81c2c92e, 0x92722c85,
  0xa2bfe8a1, 0xa81a664b, 0xc24b8b70, 0xc76c51a3, 0xd192e819, 0xd6990624, 0xf40e3585, 0x106aa070,
  0x19a4c116, 0x1e376c08, 0x2748774c, 0x34b0bcb5, 0x391c0cb3, 0x4ed8aa4a, 0x5b9cca4f, 0x682e6ff3,
  0x748f82ee, 0x78a5636f, 0x84c87814, 0x8cc70208, 0x90befffa, 0xa4506ceb, 0xbef9a3f7, 0xc67178f2]

/-- A word turned right by `n` places, for `n` between 1 and 31. -/
def turn (n : UInt32) (x : UInt32) : UInt32 := (x >>> n) ||| (x <<< (32 - n))

/-- The big-endian words of a block. -/
def words : Bytes → List UInt32
  | a :: b :: c :: d :: rest =>
    ((a.toUInt32 <<< 24) ||| (b.toUInt32 <<< 16) ||| (c.toUInt32 <<< 8) ||| d.toUInt32) :: words rest
  | _ => []

/-- Adds `n` words to the words of a block, where the newest word stands first. -/
def extend : Nat → List UInt32 → List UInt32
  | 0, newest => newest
  | n + 1, newest =>
    let word (i : Nat) : UInt32 := newest.getD i 0
    let low := turn 7 (word 14) ^^^ turn 18 (word 14) ^^^ (word 14 >>> 3)
    let high := turn 17 (word 1) ^^^ turn 19 (word 1) ^^^ (word 1 >>> 10)
    extend n ((high + word 6 + low + word 15) :: newest)

/-- The sixty-four words that the rounds over a block use. -/
def schedule (block : Bytes) : List UInt32 := (extend 48 (words block).reverse).reverse

/-- One round, with its constant and its word. -/
def round (s : State) (constant word : UInt32) : State :=
  let choice := (s.e &&& s.f) ^^^ (~~~s.e &&& s.g)
  let majority := (s.a &&& s.b) ^^^ (s.a &&& s.c) ^^^ (s.b &&& s.c)
  let first := s.h + (turn 6 s.e ^^^ turn 11 s.e ^^^ turn 25 s.e) + choice + constant + word
  let second := (turn 2 s.a ^^^ turn 13 s.a ^^^ turn 22 s.a) + majority
  ⟨first + second, s.a, s.b, s.c, s.d + first, s.e, s.f, s.g⟩

/-- The state after one more block. -/
def absorb (s : State) (block : Bytes) : State :=
  let t := (roundConstants.zip (schedule block)).foldl (fun t (k, w) => round t k w) s
  ⟨s.a + t.a, s.b + t.b, s.c + t.c, s.d + t.d, s.e + t.e, s.f + t.f, s.g + t.g, s.h + t.h⟩

/-- Folds in `n` blocks of sixty-four bytes. -/
def absorbAll : Nat → State → Bytes → State
  | 0, s, _ => s
  | n + 1, s, bytes => absorbAll n (absorb s (bytes.take 64)) (bytes.drop 64)

/-- The bytes of a word, the highest first. -/
def bigEndian (x : UInt32) : Bytes :=
  [(x >>> 24).toUInt8, (x >>> 16).toUInt8, (x >>> 8).toUInt8, x.toUInt8]

/-- What is put behind a message of `n` bytes: a one bit, zeros, and the length in bits. -/
def filling (n : Nat) : Bytes :=
  let bits := UInt64.ofNat (8 * n)
  128 :: List.replicate ((119 - n % 64) % 64) (0 : UInt8)
    ++ bigEndian (bits >>> 32).toUInt32 ++ bigEndian bits.toUInt32

/-- The thirty-two bytes of a message's digest. -/
def digest (message : Bytes) : Bytes :=
  let s := absorbAll ((message.length + 72) / 64) start (message ++ filling message.length)
  [s.a, s.b, s.c, s.d, s.e, s.f, s.g, s.h].flatMap bigEndian

/-- A message's digest as sixty-four hexadecimal digits. -/
def hex (message : Bytes) : String := Bytes.toHex (digest message)

/-- How far a digest has come. -/
structure Hasher where
  /-- The state after the whole blocks so far. -/
  state : State := start
  /-- What has come behind these. -/
  pending : Bytes := []
  /-- How many bytes have come. -/
  size : Nat := 0
deriving DecidableEq, Repr, Inhabited

namespace Hasher

/-- Takes the next piece of the message. -/
def update (hasher : Hasher) (piece : Bytes) : Hasher :=
  let bytes := hasher.pending ++ piece
  let blocks := bytes.length / 64
  ⟨absorbAll blocks hasher.state bytes, bytes.drop (64 * blocks), hasher.size + piece.length⟩

/-- The digest of a message that has come to its end. -/
def finish (hasher : Hasher) : Bytes :=
  let s := absorbAll ((hasher.pending.length + 72) / 64) hasher.state
    (hasher.pending ++ filling hasher.size)
  [s.a, s.b, s.c, s.d, s.e, s.f, s.g, s.h].flatMap bigEndian

/-- The digest as sixty-four hexadecimal digits. -/
def hex (hasher : Hasher) : String := Bytes.toHex hasher.finish

end Hasher

end Intercept.Sha256
