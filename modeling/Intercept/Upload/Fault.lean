/-
# Faults of uploaded data

The data of a file part may end early since it cannot be read, or, once it has passed through
the program that removes metadata, since that program failed.
-/
import Intercept.Journal

namespace Intercept

/-- Why the data of a file part ends early. -/
inductive UploadFault where
  /-- The data cannot be read. -/
  | unreadable (cause : String)
  /-- Metadata could not be removed; the event says why. -/
  | notStripped (event : Event)
deriving DecidableEq, Repr, Inhabited

namespace UploadFault

/-- The text of a fault. -/
def message : UploadFault → String
  | unreadable cause => cause
  | notStripped _ => "error while removing EXIF"

/-- Whether a fault comes from the program that removes metadata. -/
def isRemovalFailure : UploadFault → Bool
  | unreadable _ => false
  | notStripped _ => true

/-- What is logged by whoever meets the fault. -/
def events : UploadFault → List Event
  | unreadable _ => []
  | notStripped event => [event]

end UploadFault

end Intercept
