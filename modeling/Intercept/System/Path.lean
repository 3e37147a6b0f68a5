/-
# Paths

A path is a text of names with slashes between them.  It is absolute if it starts with a slash,
and relative to the working folder otherwise.
-/

namespace Intercept.Path

/-- Characters cut at slashes. -/
def split : List Char → List (List Char)
  | [] => [[]]
  | c :: rest =>
    if c = '/' then [] :: split rest
    else
      match split rest with
      | first :: more => (c :: first) :: more
      | [] => [[c]]

/-- The names of a path; they are empty at slashes that stand at an end or next to each other. -/
def names (path : String) : List String := (split path.toList).map String.ofList

/-- Whether a path starts from the root. -/
def isAbsolute (path : String) : Bool := path.toList.head? == some '/'

/-- The path of `name` in a folder; an absolute name stands for itself. -/
def join (folder name : String) : String :=
  if isAbsolute name then name
  else if folder.isEmpty ∨ folder.toList.getLast? = some '/' then folder ++ name
  else folder ++ "/" ++ name

/-- Whether a name stays where it is. -/
def isHere (name : String) : Bool := name.isEmpty || name == "."

/-- The names that lead to the folder that holds the last name of a path. -/
def parentNames (path : String) : List String :=
  ((names path).filter fun name => !isHere name).dropLast

end Intercept.Path
