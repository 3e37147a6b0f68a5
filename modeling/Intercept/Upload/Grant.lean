/-
# What the application allows

Before an upload is touched the application is asked about it.  If it allows the upload, it says
where files are to be stored, whether an artifact is to be taken out of archives, and how large
a file may be.
-/
import Intercept.Json.Printer
import Intercept.Json.Reader
import Intercept.Json.Record

namespace Intercept

/-- What an upload may do. -/
structure Grant where
  /-- Where to store files, if not in the usual place. -/
  directory : Option String := none
  /-- Whether an artifact is taken out of file parts, which are archives then. -/
  extractsArtifact : Bool := false
  /-- The largest size of a file. -/
  maximumSize : Option Nat := none
deriving DecidableEq, Repr, Inhabited

namespace Grant

/-- Reads a field that may be missing or null. -/
def optional? {α : Type} (read : Json → Option α) : Option Json → Option (Option α)
  | none | some .null => some none
  | some value => (read value).map some

/-- A size, which has sixty-four bits. -/
def size? (value : Json) : Option Nat := value.nat?.filter (· < Nat.pow 2 64)

/-- The grant that a JSON value describes. -/
def ofJson? (value : Json) : Option Grant :=
  match Json.fields? ["TempPath", "ProcessLsif", "MaximumSize"] value with
  | some [directory, extracts, size] => do
    let directory ← optional? Json.text? directory
    let extracts ← match extracts with
      | none => some false
      | some value => value.bool?
    let size ← optional? size? size
    pure ⟨directory, extracts, size⟩
  | _ => none

/-- The grant in the body of an answer. -/
def decode? (body : Bytes) : Option Grant := (Json.parse? body).bind ofJson?

/-- The JSON value that describes a grant. -/
def toJson (grant : Grant) : Json :=
  .object [
    (Utf8.encode "TempPath", grant.directory.elim .null .text),
    (Utf8.encode "ProcessLsif", .bool grant.extractsArtifact),
    (Utf8.encode "MaximumSize", grant.maximumSize.elim .null .nat)]

end Grant

end Intercept
