/-
# JSON values with a fixed list of fields

A record is written as an object, or as an array of its fields in their order.  Members with
other keys are ignored; a key of the record that comes twice is an error.
-/
import Intercept.Json.Value

namespace Intercept.Json

/-- The values of an object under `key`, in order. -/
def valuesOf (key : String) (members : List (Bytes × Json)) : List Json :=
  (members.filter fun (k, _) => k == Utf8.encode key).map Prod.snd

/-- The one value under `key`, or none; two are an error. -/
def soleValue? (members : List (Bytes × Json)) (key : String) : Option (Option Json) :=
  match valuesOf key members with
  | [] => some none
  | [value] => some (some value)
  | _ => none

/-- The fields of a record by the order of `keys`, each present or missing.  Nothing if the value
is no record, if a key is not text, or if a key of the record is repeated. -/
def fields? (keys : List String) : Json → Option (List (Option Json))
  | .object members =>
    if members.all fun (key, _) => (Utf8.decode? key).isSome then keys.mapM (soleValue? members)
    else none
  | .array items =>
    if items.length ≤ keys.length then
      some (items.map some ++ List.replicate (keys.length - items.length) none)
    else none
  | _ => none

end Intercept.Json
