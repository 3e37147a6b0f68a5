/-
# Names of uploaded files

What the name that a client gives a file decides: whether the file can be stored at all, and
whether metadata is removed from it first.
-/

namespace Intercept.FileName

/-- Whether a name could lead out of the directory that files are stored in. -/
def isIllegal (name : String) : Bool :=
  name.toList.contains '/' || name.toList.contains '\\' || name == "." || name == ".."

/-- The endings of images that carry metadata. -/
def metadataEndings : List String := [".jpg", ".jpeg", ".tiff"]

/-- Whether a file is an image that carries metadata.  Capital Latin letters count as small. -/
def hasMetadata (name : String) : Bool :=
  let lower := name.toList.map Char.toLower
  metadataEndings.any fun ending => ending.toList.isSuffixOf lower

end Intercept.FileName
