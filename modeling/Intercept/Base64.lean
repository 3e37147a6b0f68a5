/-
# Base64 in the alphabet that is safe in addresses

Three bytes are four digits of six bits; the alphabet ends in `-` and `_`.  A last group of one
or two bytes is written with two or three digits, and the padded spelling fills it up with `=`.
Reading is strict: a spelling is accepted only if the writer makes it, so the bits that a short
last group leaves over are zero, and padding is complete or absent.
-/
import Intercept.Bytes

namespace Intercept.Base64

/-- The character `=`, which fills the last group. -/
def pad : UInt8 := 61

/-- The character of a six-bit digit. -/
def digit (n : Nat) : UInt8 :=
  if n < 26 then UInt8.ofNat (65 + n)
  else if n < 52 then UInt8.ofNat (71 + n)
  else if n < 62 then UInt8.ofNat (n - 4)
  else if n = 62 then 45
  else 95

/-- The six-bit digit of a character. -/
def value? (c : UInt8) : Option Nat :=
  if 65 ≤ c ∧ c ≤ 90 then some (c.toNat - 65)
  else if 97 ≤ c ∧ c ≤ 122 then some (c.toNat - 71)
  else if 48 ≤ c ∧ c ≤ 57 then some (c.toNat + 4)
  else if c = 45 then some 62
  else if c = 95 then some 63
  else none

/-- The bytes as six-bit digits, the last one filled up with zero bits. -/
def toDigits : Bytes → List Nat
  | a :: b :: c :: rest =>
    let (a, b, c) := (a.toNat, b.toNat, c.toNat)
    a / 4 :: (a % 4 * 16 + b / 16) :: (b % 16 * 4 + c / 64) :: c % 64 :: toDigits rest
  | [a, b] => [a.toNat / 4, a.toNat % 4 * 16 + b.toNat / 16, b.toNat % 16 * 4]
  | [a] => [a.toNat / 4, a.toNat % 4 * 16]
  | [] => []

/-- The bytes that six-bit digits spell, if the bits left over are zero. -/
def ofDigits? : List Nat → Option Bytes
  | a :: b :: c :: d :: rest => do
    let bytes ← ofDigits? rest
    pure (UInt8.ofNat (a * 4 + b / 16) :: UInt8.ofNat (b % 16 * 16 + c / 4)
      :: UInt8.ofNat (c % 4 * 64 + d) :: bytes)
  | [a, b, c] =>
    if c % 4 = 0 then
      some [UInt8.ofNat (a * 4 + b / 16), UInt8.ofNat (b % 16 * 16 + c / 4)]
    else none
  | [a, b] => if b % 16 = 0 then some [UInt8.ofNat (a * 4 + b / 16)] else none
  | [_] => none
  | [] => some []

/-- The spelling without padding. -/
def encodePlain (bytes : Bytes) : Bytes := (toDigits bytes).map digit

/-- How many `=` fill up a spelling of `n` digits. -/
def padding (n : Nat) : Nat := (4 - n % 4) % 4

/-- The padded spelling. -/
def encode (bytes : Bytes) : Bytes :=
  let plain := encodePlain bytes
  plain ++ List.replicate (padding plain.length) pad

/-- Reads a spelling without padding. -/
def decodePlain? (text : Bytes) : Option Bytes := do
  let digits ← text.mapM value?
  ofDigits? digits

/-- Reads a padded spelling. -/
def decodePadded? (text : Bytes) : Option Bytes :=
  let plain := Bytes.dropEndWhile (· == pad) text
  if text.length - plain.length = padding plain.length then decodePlain? plain else none

/-- Reads either spelling. -/
def decode? (text : Bytes) : Option Bytes :=
  match decodePadded? text with
  | some bytes => some bytes
  | none => decodePlain? text

end Intercept.Base64
