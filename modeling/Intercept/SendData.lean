/-
# Directives in response headers

The application asks the proxy to produce a body on its behalf by a response header: a prefix
that names the kind of directive, and behind it a JSON value in base64.
-/
import Intercept.Base64
import Intercept.Json.Printer
import Intercept.Json.Reader
import Intercept.Json.Record
import Intercept.Text.Quoted

namespace Intercept

/-- Why a directive cannot be unpacked. -/
inductive SendDataError where
  /-- It does not start with the prefix of its kind. -/
  | foreign (kind : String)
  /-- What is behind the prefix is not base64. -/
  | notBase64
  /-- What is in the base64 is not JSON of the expected form. -/
  | notJson
deriving DecidableEq, Repr, Inhabited

/-- The text of an error. -/
def SendDataError.message : SendDataError → String
  | .foreign kind => "send data does not start with " ++ Text.quoted kind
  | .notBase64 => "decode base64: malformed payload"
  | .notJson => "decode json: unexpected value"

namespace SendData

/-- Whether a directive is of a kind. -/
def isOfKind (kind data : String) : Bool := (Utf8.encode kind).isPrefixOf (Utf8.encode data)

/-- The value in a directive of a kind, as `decode` reads it. -/
def unpack {α : Type} (kind : String) (decode : Json → Option α) (data : String) :
    Except SendDataError α :=
  if isOfKind kind data then
    match Base64.decode? ((Utf8.encode data).drop (Utf8.encode kind).length) with
    | none => .error .notBase64
    | some payload =>
      match (Json.parse? payload).bind decode with
      | none => .error .notJson
      | some value => .ok value
  else .error (.foreign kind)

/-- The directive of a kind with a value. -/
def pack (kind : String) (value : Json) : String :=
  kind ++ String.ofList ((Base64.encode value.render).map fun b => Char.ofNat b.toNat)

end SendData

end Intercept
