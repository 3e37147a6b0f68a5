/-
# Bytes

Everything that crosses the proxy is a list of bytes.  This file has the few operations on
such lists that the rest of the library shares: searching for a delimiter, trimming, and
writing bytes as hexadecimal digits.
-/

namespace Intercept

/-- A sequence of bytes. -/
abbrev Bytes := List UInt8

namespace Bytes

/-- The place of the first occurrence of `pattern`, counted from `start`. -/
def indexFrom (pattern : Bytes) (start : Nat) : Bytes → Option Nat
  | [] => if pattern.isEmpty then some start else none
  | b :: rest =>
    if pattern.isPrefixOf (b :: rest) then some start else indexFrom pattern (start + 1) rest

/-- The place of the first occurrence of `pattern` in `text`. -/
def indexOf? (pattern text : Bytes) : Option Nat := indexFrom pattern 0 text

/-- `text` cut before the first occurrence of `pattern`; the second half starts with it. -/
def cutBefore? (pattern text : Bytes) : Option (Bytes × Bytes) :=
  (indexOf? pattern text).map fun i => (text.take i, text.drop i)

/-- `text` cut behind the first occurrence of `pattern`; the first half ends with it. -/
def cutBehind? (pattern text : Bytes) : Option (Bytes × Bytes) :=
  (indexOf? pattern text).map fun i =>
    (text.take (i + pattern.length), text.drop (i + pattern.length))

/-- Whether `pattern` occurs in `text`. -/
def occursIn (pattern text : Bytes) : Bool := (indexOf? pattern text).isSome

/-- `text` without the bytes at its end that satisfy `p`. -/
def dropEndWhile (p : UInt8 → Bool) (text : Bytes) : Bytes :=
  (text.reverse.dropWhile p).reverse

/-- `text` without the bytes at either end that satisfy `p`. -/
def trim (p : UInt8 → Bool) (text : Bytes) : Bytes := dropEndWhile p (text.dropWhile p)

/-- The small Latin letter of a capital one; other bytes stay. -/
def lower (b : UInt8) : UInt8 := if 65 ≤ b ∧ b ≤ 90 then b + 32 else b

/-- The digit of a value below sixteen, with small letters. -/
def hexDigit (n : Nat) : Char := if n < 10 then Char.ofNat (48 + n) else Char.ofNat (87 + n)

/-- The value of a hexadecimal digit, in either case. -/
def hexValue? (b : UInt8) : Option Nat :=
  if 48 ≤ b ∧ b ≤ 57 then some (b.toNat - 48)
  else if 97 ≤ b ∧ b ≤ 102 then some (b.toNat - 87)
  else if 65 ≤ b ∧ b ≤ 70 then some (b.toNat - 55)
  else none

/-- Each byte as two hexadecimal digits. -/
def toHex (bytes : Bytes) : String :=
  String.ofList (bytes.flatMap fun b => [hexDigit (b.toNat / 16), hexDigit (b.toNat % 16)])

/-- The number that a run of decimal digits writes, and nothing for an empty run. -/
def decimal? (digits : Bytes) : Option Nat :=
  if digits.isEmpty then none
  else digits.foldlM (fun n b => if 48 ≤ b ∧ b ≤ 57 then some (10 * n + (b.toNat - 48)) else none) 0

/-- The little-endian number at offset `i`, `width` bytes long; nothing if it is cut off. -/
def littleEndian? (width i : Nat) (bytes : Bytes) : Option Nat :=
  let field := (bytes.drop i).take width
  if field.length = width then some (field.foldr (fun b n => n * 256 + b.toNat) 0) else none

end Bytes

end Intercept
