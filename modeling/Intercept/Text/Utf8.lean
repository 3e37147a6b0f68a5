/-
# Text as bytes

A `String` is written as its UTF-8 bytes.  Reading bytes as text either demands that they are
well formed (`decode?`) or replaces what is not (`decodeLossy`).
-/
import Intercept.Bytes

namespace Intercept.Utf8

/-- The bytes of a text. -/
def encode (text : String) : Bytes := text.toUTF8.data.toList

/-- The text that the bytes are, if they are well-formed UTF-8. -/
def decode? (bytes : Bytes) : Option String := String.fromUTF8? ⟨bytes.toArray⟩

/-- Whether `b` can continue a sequence. -/
def isTail (b : UInt8) : Bool := 128 ≤ b && b ≤ 191

/-- How many bytes the sequence led by `b` has; nothing if no sequence starts with `b`. -/
def width? (b : UInt8) : Option Nat :=
  if b ≤ 127 then some 1
  else if 194 ≤ b ∧ b ≤ 223 then some 2
  else if 224 ≤ b ∧ b ≤ 239 then some 3
  else if 240 ≤ b ∧ b ≤ 244 then some 4
  else none

/-- Whether `second` may stand behind the lead `b`: this excludes overlong forms, surrogates
and what lies above the last code point. -/
def mayFollow (b second : UInt8) : Bool :=
  if b = 224 then 160 ≤ second && second ≤ 191
  else if b = 237 then 128 ≤ second && second ≤ 159
  else if b = 240 then 144 ≤ second && second ≤ 191
  else if b = 244 then 128 ≤ second && second ≤ 143
  else isTail second

/-- The length of the longest beginning of `b :: rest` that begins some sequence. -/
def goodLength (b : UInt8) (rest : Bytes) : Nat :=
  match width? b, rest with
  | none, _ => 1
  | some 1, _ => 1
  | some w, second :: more =>
    if mayFollow b second then 2 + ((more.take (w - 2)).takeWhile isTail).length else 1
  | some _, [] => 1

/-- Reads on, with `fuel` at least the number of bytes; `done` holds what was read, reversed. -/
def lossyLoop : Nat → List Char → Bytes → List Char
  | 0, done, _ => done.reverse
  | _, done, [] => done.reverse
  | fuel + 1, done, b :: rest =>
    let n := goodLength b rest
    let sequence := b :: rest.take (n - 1)
    let chars := match decode? sequence with
      | some text => text.toList
      | none => ['\ufffd']
    lossyLoop fuel (chars.reverse ++ done) (rest.drop (n - 1))

/-- The text of the bytes, where each longest beginning of a sequence that is not completed
is replaced by U+FFFD. -/
def decodeLossy (bytes : Bytes) : String :=
  match decode? bytes with
  | some text => text
  | none => String.ofList (lossyLoop bytes.length [] bytes)

end Intercept.Utf8
