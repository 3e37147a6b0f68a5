/-
# What to scale

The directive for a scaled image names the image, its media type, and the width it is wanted in.
-/
import Intercept.SendData

namespace Intercept

/-- An image that is wanted in a width. -/
structure ResizeRequest where
  location : String
  contentType : String
  width : Nat
deriving DecidableEq, Repr, Inhabited

/-- Why a directive for a scaled image is no use. -/
inductive ResizeRequest.Error where
  | unpack (error : SendDataError)
  | emptyLocation
  | emptyContentType
deriving DecidableEq, Repr, Inhabited

namespace ResizeRequest

/-- The text of an error. -/
def Error.message : Error → String
  | .unpack error => error.message
  | .emptyLocation => "Location is empty"
  | .emptyContentType => "ContentType must be set"

/-- The kind of directive that asks for a scaled image. -/
def kind : String := "send-scaled-img:"

/-- The largest width. -/
def maxWidth : Nat := 4294967295

/-- The request that a JSON value describes. -/
def ofJson? (value : Json) : Option ResizeRequest :=
  match Json.fields? ["Location", "ContentType", "Width"] value with
  | some [some location, some contentType, some width] => do
    let location ← location.text?
    let contentType ← contentType.text?
    let width ← width.nat?
    if width ≤ maxWidth then some ⟨location, contentType, width⟩ else none
  | _ => none

/-- The JSON value that describes a request. -/
def toJson (request : ResizeRequest) : Json :=
  .object [
    (Utf8.encode "Location", .text request.location),
    (Utf8.encode "ContentType", .text request.contentType),
    (Utf8.encode "Width", .nat request.width)]

/-- The directive for a request. -/
def pack (request : ResizeRequest) : String := SendData.pack kind request.toJson

/-- The request in a directive. -/
def unpack (data : String) : Except Error ResizeRequest :=
  match SendData.unpack kind ofJson? data with
  | .error error => .error (.unpack error)
  | .ok request =>
    if request.location.isEmpty then .error .emptyLocation
    else if request.contentType.isEmpty then .error .emptyContentType
    else .ok request

end ResizeRequest

end Intercept
