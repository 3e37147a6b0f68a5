/-
# The headers of a form part

The headers of a part stand in lines between the delimiter and the data.  A line ends in a line
feed, before which a carriage return may stand; an empty line ends the headers, and whatever is
behind it in the block does not count.  Of several headers with one name the last value counts,
at the place of the first.
-/
import Intercept.Http.Header

namespace Intercept.HeaderBlock

/-- The largest number of headers. -/
def maxHeaders : Nat := 32

/-- Whether a byte is a space or a tab. -/
def isBlank (b : UInt8) : Bool := b == 32 || b == 9

/-- What is left behind the end of a line. -/
def lineEnd? : Bytes → Option Bytes
  | 10 :: rest => some rest
  | 13 :: 10 :: rest => some rest
  | _ => none

/-- One header line, and what is behind it: a name, a colon at once behind it, and a value, which
is trimmed of blanks. -/
def line? (input : Bytes) : Option (Header × Bytes) :=
  let name := input.takeWhile Header.isNameByte
  match name, input.drop name.length with
  | _ :: _, 58 :: rest =>
    let value := rest.takeWhile Header.isValueByte
    (lineEnd? (rest.drop value.length)).map fun behind =>
      ((name.map Bytes.lower, Bytes.trim isBlank value), behind)
  | _, _ => none

/-- The headers of a block of at most `room` headers. -/
def lines? : Nat → Bytes → Option Headers
  | room, input =>
    match lineEnd? input with
    | some _ => some []
    | none =>
      match room with
      | 0 => none
      | room + 1 =>
        match line? input with
        | some (header, rest) => (lines? room rest).map (header :: ·)
        | none => none

/-- Headers with one value for each name: the last one, at the place of the first. -/
def merged (headers : Headers) : Headers :=
  headers.foldl (fun done (name, value) => Headers.set name value done) []

/-- The headers that a block holds. -/
def parse? (block : Bytes) : Option Headers := (lines? maxHeaders block).map merged

end Intercept.HeaderBlock
