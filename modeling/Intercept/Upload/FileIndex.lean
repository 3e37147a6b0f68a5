/-
# Which file went where

While a form is taken apart, an index keeps for every file part the path of the stored file.  When
the form is complete the index goes into a header of the request, as a JSON object with its keys
in order.
-/
import Intercept.Http.Header
import Intercept.Json.Printer

namespace Intercept

/-- The paths of stored files by the names of their parts, in increasing order of the names. -/
structure FileIndex where
  entries : List (String × String) := []
deriving DecidableEq, Repr, Inhabited

namespace FileIndex

/-- The entries with `path` under `name`, in order. -/
def put (name path : String) : List (String × String) → List (String × String)
  | [] => [(name, path)]
  | (n, p) :: rest =>
    if name < n then (name, path) :: (n, p) :: rest
    else if name = n then (name, path) :: rest
    else (n, p) :: put name path rest

/-- Notes the path of a stored file. -/
def record (index : FileIndex) (name path : String) : FileIndex := ⟨put name path index.entries⟩

/-- How many names have a file. -/
def count (index : FileIndex) : Nat := index.entries.length

/-- The index as a JSON object. -/
def toJson (index : FileIndex) : Json :=
  .object (index.entries.map fun (name, path) => (Utf8.encode name, .text path))

/-- Puts the index into headers, in place of whatever stood under its name; nothing if it holds a
character that no header can. -/
def announce? (index : FileIndex) (headers : Headers) : Option Headers :=
  let value := index.toJson.render
  if value.all Header.isValueByte then some (headers.set Header.multipartFields value) else none

end FileIndex

end Intercept
