/-
# Headers

A header has a name, kept in small letters, and a value of bytes.  A name may occur several
times, and the order of its values counts.
-/
import Intercept.Text.Utf8

namespace Intercept

/-- A header: its name in small letters, and its value. -/
abbrev Header := Bytes × Bytes

/-- Headers in order. -/
abbrev Headers := List Header

namespace Header

/-- The punctuation that may stand in a name. -/
def namePunctuation : Bytes := [33, 35, 36, 37, 38, 39, 42, 43, 45, 46, 94, 95, 96, 124, 126]

/-- Whether a byte may stand in a name. -/
def isNameByte (b : UInt8) : Bool :=
  (48 ≤ b && b ≤ 57) || (65 ≤ b && b ≤ 90) || (97 ≤ b && b ≤ 122) || namePunctuation.contains b

/-- Whether a byte may stand in a value. -/
def isValueByte (b : UInt8) : Bool := (32 ≤ b && b != 127) || b == 9

/-- Whether a byte of a value can be read as text. -/
def isReadableByte (b : UInt8) : Bool := (32 ≤ b && b ≤ 126) || b == 9

/-- The header with a name and a value, if both are legal. -/
def make? (name value : Bytes) : Option Header :=
  if ¬ name.isEmpty ∧ name.all isNameByte ∧ value.all isValueByte then
    some (name.map Bytes.lower, value)
  else none

/-- The text of a value, if it can be read as text. -/
def readable? (value : Bytes) : Option String :=
  if value.all isReadableByte then some (String.ofList (value.map fun b => Char.ofNat b.toNat))
  else none

end Header

namespace Headers

/-- The values of a name. -/
def values (name : Bytes) (headers : Headers) : List Bytes :=
  (headers.filter fun h => h.1 == name).map Prod.snd

/-- The first value of a name. -/
def first? (name : Bytes) (headers : Headers) : Option Bytes := (values name headers).head?

/-- The text of the first value of a name, if it can be read as text. -/
def text? (name : Bytes) (headers : Headers) : Option String :=
  (first? name headers).bind Header.readable?

/-- The headers without those of a name. -/
def without (name : Bytes) (headers : Headers) : Headers := headers.filter fun h => !(h.1 == name)

/-- The headers with one value for a name, at the place of the first if there was one. -/
def set (name value : Bytes) : Headers → Headers
  | [] => [(name, value)]
  | h :: rest => if h.1 = name then (name, value) :: without name rest else h :: set name value rest

/-- The headers where all values of a name stand at the place of its first; `fuel` is at least
their number. -/
def groupLoop : Nat → Headers → Headers
  | 0, headers => headers
  | _, [] => []
  | fuel + 1, h :: rest =>
    h :: (rest.filter fun other => other.1 == h.1) ++ groupLoop fuel (without h.1 rest)

/-- The headers where all values of a name stand at the place of its first. -/
def grouped (headers : Headers) : Headers := groupLoop headers.length headers

end Headers

/-- The name of the header that says what a body is. -/
def Header.contentType : Bytes := Utf8.encode "content-type"

/-- The name of the header that says how long a body is. -/
def Header.contentLength : Bytes := Utf8.encode "content-length"

/-- The name of the header that says how a body is framed. -/
def Header.transferEncoding : Bytes := Utf8.encode "transfer-encoding"

/-- The name of the header that says what a form part is. -/
def Header.contentDisposition : Bytes := Utf8.encode "content-disposition"

/-- The name of the header that tells requests apart. -/
def Header.requestId : Bytes := Utf8.encode "x-request-id"

/-- The name of the header that holds a directive. -/
def Header.sendData : Bytes := Utf8.encode "x-send-data"

/-- The name of the header that lists the files that were taken out of a form. -/
def Header.multipartFields : Bytes := Utf8.encode "x-multipart-fields"

end Intercept
