/-
# Writing a form

A form is written part by part between delimiters of a boundary of its own.
-/
import Intercept.Multipart.Disposition

namespace Intercept

/-- A form in the course of being written. -/
structure FormWriter where
  boundary : Bytes
  /-- What was written, the last of it first. -/
  written : List Bytes
  /-- Whether a part was begun. -/
  hasPart : Bool
deriving DecidableEq, Repr, Inhabited

namespace FormWriter

/-- An empty form. -/
def start (boundary : Bytes) : FormWriter := ⟨boundary, [], false⟩

/-- What stands at the start of a delimiter: the end of the data before it, if there is some, and
two dashes and the boundary. -/
def delimiter (writer : FormWriter) : Bytes :=
  (if writer.hasPart then [13, 10] else []) ++ [45, 45] ++ writer.boundary

/-- Adds bytes to the part begun last. -/
def write (bytes : Bytes) (writer : FormWriter) : FormWriter :=
  { writer with written := bytes :: writer.written }

/-- One header as a line. -/
def headerLine (header : Header) : Bytes := header.1 ++ [58, 32] ++ header.2 ++ [13, 10]

/-- Begins a part with headers, where the values of one name are put together. -/
def beginPart (headers : Headers) (writer : FormWriter) : FormWriter :=
  { writer with
    written := (writer.delimiter ++ [13, 10] ++ (headers.grouped.flatMap headerLine) ++ [13, 10])
      :: writer.written
    hasPart := true }

/-- Adds a part that has a name and a value. -/
def writeField (name value : String) (writer : FormWriter) : FormWriter :=
  { writer with
    written := (writer.delimiter ++ [13, 10]
        ++ Utf8.encode "Content-Disposition: " ++ Disposition.written name ++ [13, 10, 13, 10]
        ++ Utf8.encode value)
      :: writer.written
    hasPart := true }

/-- The bytes of the form, closed. -/
def finish (writer : FormWriter) : Bytes :=
  writer.written.reverse.flatten ++ writer.delimiter ++ [45, 45, 13, 10]

/-- The media type of the form. -/
def contentType (writer : FormWriter) : Bytes :=
  Utf8.encode "multipart/form-data; boundary=" ++ writer.boundary

end FormWriter

end Intercept
