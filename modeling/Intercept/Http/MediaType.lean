/-
# Media types

A media type is written `type/subtype` with parameters behind semicolons.  The reader here is
strict about blanks: only spaces before a parameter's name and behind a quoted value are
skipped.  What the proxy needs of a media type is the boundary of a form.
-/
import Intercept.Http.Header

namespace Intercept

/-- A media type. -/
structure MediaType where
  type : Bytes
  subtype : Bytes
  parameters : List (Bytes × Bytes)
deriving DecidableEq, Repr, Inhabited

namespace MediaType

/-- Whether a byte may stand in a type, a parameter's name or an unquoted value. -/
def isWordByte (b : UInt8) : Bool := Header.isNameByte b && b != 42

/-- Whether a byte may stand in a quoted value. -/
def isQuotedByte (b : UInt8) : Bool := 32 ≤ b && b != 127

/-- A quoted value behind its opening quote, and what is behind the closing one, which is the next
quote that is not at once at the start. -/
def quotedValue? (input : Bytes) : Option (Bytes × Bytes) :=
  let first := input.take 1
  let more := (input.drop 1).takeWhile (· != 34)
  let value := first ++ more
  match input.drop value.length with
  | 34 :: rest => if value.all isQuotedByte then some (value, rest) else none
  | _ => none

/-- What is behind a quoted value, up to and with the next semicolon. -/
def afterQuoted? (input : Bytes) : Option Bytes :=
  match input.dropWhile (· == 32) with
  | [] => some []
  | 59 :: rest => some rest
  | _ => none

/-- A parameter's value, and what is behind it and the semicolon that ends it.  An unquoted value
that is empty may only stand at the end. -/
def value? : Bytes → Option (Bytes × Bytes)
  | 34 :: rest => do
    let (value, rest) ← quotedValue? rest
    let rest ← afterQuoted? rest
    pure (value, rest)
  | input =>
    let value := input.takeWhile isWordByte
    match input.drop value.length with
    | [] => some (value, [])
    | 59 :: rest => if value.isEmpty then none else some (value, rest)
    | _ => none

/-- The parameters; there are fewer than `fuel`. -/
def parameters? : Nat → Bytes → Option (List (Bytes × Bytes))
  | 0, _ => none
  | fuel + 1, input =>
    match input.dropWhile (· == 32) with
    | [] => some []
    | input =>
      let name := input.takeWhile isWordByte
      match name, input.drop name.length with
      | _ :: _, 61 :: rest => do
        let (value, rest) ← value? rest
        let more ← parameters? fuel rest
        pure ((name.map Bytes.lower, value) :: more)
      | _, _ => none

/-- A subtype without the suffix behind its last `+`. -/
def withoutSuffix (subtype : Bytes) : Bytes :=
  let behind := (subtype.reverse.takeWhile (· != 43)).length
  if behind + 1 < subtype.length then subtype.take (subtype.length - behind - 1) else subtype

/-- The media type that a text writes, names in small letters and the suffix of the subtype
dropped. -/
def parse? (input : Bytes) : Option MediaType :=
  let type := input.takeWhile isWordByte
  match type, input.drop type.length with
  | _ :: _, 47 :: rest =>
    let subtype := rest.takeWhile isWordByte
    let made (parameters : List (Bytes × Bytes)) : MediaType :=
      ⟨type.map Bytes.lower, withoutSuffix (subtype.map Bytes.lower), parameters⟩
    match subtype, rest.drop subtype.length with
    | _, [] => some (made [])
    | _ :: _, 59 :: rest => (parameters? (rest.length + 1) rest).map made
    | _, _ => none
  | _, _ => none

/-- The boundary of the form that a media type announces, if it is one. -/
def boundary? (type : MediaType) : Option Bytes :=
  if type.type = Utf8.encode "multipart" ∧ type.subtype = Utf8.encode "form-data" then
    type.parameters.lookup (Utf8.encode "boundary")
  else none

end MediaType

/-- The boundary of the form that the headers of a request announce. -/
def Headers.boundary? (headers : Headers) : Option Bytes := do
  let value ← headers.first? Header.contentType
  if value.all Header.isReadableByte then (MediaType.parse? value).bind MediaType.boundary? else none

end Intercept
