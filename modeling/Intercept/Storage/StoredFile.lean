/-
# Stored files

What is known of a file that was taken out of a form and stored, and the form fields that describe
it to the application.
-/
import Intercept.Decimal.Shortest

namespace Intercept

/-- A stored file. -/
structure StoredFile where
  /-- The name that the client gave it. -/
  name : String
  path : String
  size : Nat
  /-- The hexadecimal digits of its SHA-256 digest. -/
  digest : String
  /-- How long it took to store it. -/
  duration : Duration
deriving DecidableEq, Repr, Inhabited

namespace StoredFile

/-- The fields that stand for the file in the form, where its part was called `field`. -/
def fields (file : StoredFile) (field : String) : List (String × String) := [
  (field ++ ".name", file.name),
  (field ++ ".path", file.path),
  (field ++ ".size", toString file.size),
  (field ++ ".sha256", file.digest),
  (field ++ ".upload_duration", file.duration.text)]

end StoredFile

end Intercept
