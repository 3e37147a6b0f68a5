/-
# The name of a form part

The header Content-Disposition gives the name of a part, and the name of the file that it holds.
A client writes them in quotes, where `\` before a quote keeps it from ending the name, or
without quotes.  Nothing else of the header is understood: a name is searched for.
-/
import Intercept.Http.Header

namespace Intercept.Disposition

/-- Whether a byte counts as a blank. -/
def isBlank (b : UInt8) : Bool := b == 32 || b == 9 || b == 10 || b == 12 || b == 13

/-- The bytes up to the first quote that no backslash stands before, where `previous` is the byte
before them; nothing if there is no such quote. -/
def quoted? (previous : UInt8) : Bytes → Option Bytes
  | [] => none
  | b :: rest => if b = 34 ∧ previous ≠ 92 then some [] else (quoted? b rest).map (b :: ·)

/-- The bytes without the backslashes that stand before quotes. -/
def unescaped : Bytes → Bytes
  | 92 :: 34 :: rest => 34 :: unescaped rest
  | b :: rest => b :: unescaped rest
  | [] => []

/-- The value behind an attribute's name. -/
def value? (input : Bytes) : Option Bytes :=
  match input.dropWhile isBlank with
  | 61 :: rest =>
    match rest.dropWhile isBlank with
    | 34 :: rest => (quoted? 34 rest).map unescaped
    | rest => some (rest.takeWhile fun b => b != 59 && b != 32)
  | _ => none

/-- The value of the attribute called `name`.  It is found where `name` occurs at the start or
behind a blank or a semicolon; an occurrence elsewhere is passed over, and what is behind it
counts as a start.  `previous` is the byte before the input, or nothing at a start, and `fuel` is
at least the number of bytes. -/
def attributeLoop (name : Bytes) : Nat → Option UInt8 → Bytes → Option Bytes
  | 0, _, _ => none
  | fuel + 1, previous, input =>
    if name.isPrefixOf input then
      if previous.all fun b => isBlank b || b == 59 then value? (input.drop name.length)
      else attributeLoop name fuel none (input.drop name.length)
    else
      match input with
      | [] => none
      | b :: rest => attributeLoop name fuel (some b) rest

/-- The text of the attribute called `name`, if it has one that is well formed. -/
def attribute? (name header : Bytes) : Option String :=
  (attributeLoop name (header.length + 1) none header).bind Utf8.decode?

/-- The name of a part with the given headers. -/
def fieldName? (headers : Headers) : Option String :=
  (headers.first? Header.contentDisposition).bind (attribute? (Utf8.encode "name"))

/-- The name of the file that a part with the given headers holds. -/
def fileName? (headers : Headers) : Option String :=
  (headers.first? Header.contentDisposition).bind (attribute? (Utf8.encode "filename"))

/-- A name with backslashes and quotes escaped, as it is written between quotes. -/
def escaped (name : Bytes) : Bytes :=
  name.flatMap fun b => if b = 92 then [92, 92] else if b = 34 then [92, 34] else [b]

/-- The value of the header for a part with a name. -/
def written (name : String) : Bytes :=
  Utf8.encode "form-data; name=\"" ++ escaped (Utf8.encode name) ++ [34]

end Intercept.Disposition
