/-
# Names that the proxy has written

A client part that comes after a stored file must not have the name of a field that the proxy
itself wrote for it, or the name of the file's own part.  These names are kept in a set.
-/

namespace Intercept

/-- A set of field names. -/
structure ReservedNames where
  names : List String := []
deriving DecidableEq, Repr, Inhabited

namespace ReservedNames

/-- Adds a name. -/
def insert (reserved : ReservedNames) (name : String) : ReservedNames :=
  ⟨name :: reserved.names⟩

/-- Whether a name is in the set. -/
def contains (reserved : ReservedNames) (name : String) : Bool := reserved.names.contains name

end ReservedNames

end Intercept
