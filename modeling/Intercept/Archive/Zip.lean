/-
# Zip archives

The directory at the end of an archive lists its entries; the entries themselves lie before it.
An archive may stand behind other bytes, which moves all places that it names, and be followed
by a comment or other bytes.  `Archive.open?` reads the directory and `Archive.content` one
entry.

Of several candidates for the end record the last one that leads to a readable directory
counts, and of several entries with one name the last.
-/
import Intercept.Archive.CodePage
import Intercept.Archive.Inflate
import Intercept.Digest.Crc32
import Intercept.Text.Utf8

namespace Intercept

/-- An entry as the directory describes it. -/
structure Archive.Entry where
  name : String
  encrypted : Bool
  method : Nat
  checksum : Nat
  packedSize : Nat
  /-- The size of the content as it is declared. -/
  size : Nat
  /-- The place of the entry's own header. -/
  header : Nat
deriving DecidableEq, Repr, Inhabited

/-- An archive with its directory. -/
structure Archive where
  bytes : Bytes
  entries : List Archive.Entry
deriving Repr, Inhabited

namespace Archive

/-- What starts the header of an entry. -/
def headerMark : Bytes := [0x50, 0x4b, 3, 4]

/-- What starts a record of the directory. -/
def recordMark : Bytes := [0x50, 0x4b, 1, 2]

/-- What starts the record at the end. -/
def endMark : Bytes := [0x50, 0x4b, 5, 6]

/-- The places of `mark`, the last one first, where `found` are those before `place`. -/
def placesLoop (mark : Bytes) : Nat → List Nat → Bytes → List Nat
  | _, found, [] => found
  | place, found, b :: rest =>
    placesLoop mark (place + 1)
      (if mark.isPrefixOf (b :: rest) then place :: found else found) rest

/-- The places of `mark`, the last one first. -/
def placesOf (mark bytes : Bytes) : List Nat := placesLoop mark 0 [] bytes

/-- The little-endian number of `width` bytes at `i`. -/
abbrev field? (bytes : Bytes) (width i : Nat) : Option Nat := Bytes.littleEndian? width i bytes

/-- `length` bytes from `i` on, if there are as many. -/
def slice? (bytes : Bytes) (i length : Nat) : Option Bytes :=
  let found := (bytes.drop i).take length
  if found.length = length then some found else none

/-- The value of a 32-bit field that is too small for what it describes. -/
def tooSmall : Nat := 0xffffffff

/-- The extra field with the given mark, in a list of extra fields; `fuel` is at least the
number of bytes. -/
def extraField? (mark : Nat) : Nat → Bytes → Option Bytes
  | 0, _ => none
  | fuel + 1, extra => do
    let found ← field? extra 2 0
    let length ← field? extra 2 2
    if found = mark then slice? extra 4 length
    else extraField? mark fuel (extra.drop (4 + length))

/-- Numbers that were too small for their fields are replaced by the wide numbers, in turn. -/
def widened : List Nat → Bytes → List Nat
  | [], _ => []
  | n :: more, wide =>
    if n = tooSmall then
      match field? wide 8 0 with
      | some whole => whole :: widened more (wide.drop 8)
      | none => n :: widened more wide
    else n :: widened more wide

/-- One record of the directory, read at the start of `bytes`, and what lies behind it.  `shift`
is how far the archive is moved. -/
def record? (shift : Nat) (bytes : Bytes) : Option (Entry × Bytes) := do
  if ¬ recordMark.isPrefixOf bytes then none else
  let flags ← field? bytes 2 8
  let method ← field? bytes 2 10
  let checksum ← field? bytes 4 16
  let packedSize ← field? bytes 4 20
  let size ← field? bytes 4 24
  let nameLength ← field? bytes 2 28
  let extraLength ← field? bytes 2 30
  let commentLength ← field? bytes 2 32
  let place ← field? bytes 4 42
  let name ← slice? bytes 46 nameLength
  let extra ← slice? bytes (46 + nameLength) extraLength
  let _ ← slice? bytes (46 + nameLength + extraLength) commentLength
  let wide := (extraField? 1 extra.length extra).getD []
  let (size, packedSize, place) ← match widened [size, packedSize, place] wide with
    | [size, packedSize, place] => some (size, packedSize, place)
    | _ => none
  let entry : Entry := {
    name := if flags / 2048 % 2 = 1 then Utf8.decodeLossy name else CodePage.decode name
    encrypted := flags % 2 = 1
    method, checksum, packedSize, size
    header := shift + place }
  pure (entry, bytes.drop (46 + nameLength + extraLength + commentLength))

/-- The next `n` records of the directory. -/
def records? (shift : Nat) : Nat → Bytes → Option (List Entry)
  | 0, _ => some []
  | n + 1, bytes => do
    let (entry, rest) ← record? shift bytes
    let entries ← records? shift n rest
    pure (entry :: entries)

/-- The directory that the end record at `place` leads to.  The first record of the directory is
searched from where the end record says, since bytes before the archive move it back. -/
def directory? (bytes : Bytes) (place : Nat) : Option (List Entry) := do
  let record := bytes.drop place
  let disk ← field? record 2 4
  let directoryDisk ← field? record 2 6
  let here ← field? record 2 8
  let total ← field? record 2 10
  let start ← field? record 4 16
  let commentLength ← field? record 2 20
  if bytes.length < place + 22 + commentLength then none else
  if disk ≠ directoryDisk then none else
  let shift ←
    if total = 0 then some (place - start)
    else if place ≤ start then none
    else Bytes.indexOf? recordMark ((bytes.take place).drop start)
  records? shift here (bytes.drop (start + shift))

/-- The archive that bytes are. -/
def open? (bytes : Bytes) : Option Archive :=
  ((placesOf endMark bytes).findSome? (directory? bytes)).map fun entries => ⟨bytes, entries⟩

/-- The entry with a name; of several the last. -/
def find? (archive : Archive) (name : String) : Option Entry :=
  archive.entries.reverse.find? fun entry => entry.name == name

/-- How the bytes of an entry are packed. -/
inductive Packing where
  | stored
  | deflated
deriving DecidableEq, Repr, Inhabited

/-- The packed bytes of an entry and how they are packed; nothing if the entry cannot be read. -/
def packed? (archive : Archive) (entry : Entry) : Option (Packing × Bytes) := do
  if entry.encrypted then none else
  let header := archive.bytes.drop entry.header
  if ¬ headerMark.isPrefixOf header then none else
  let nameLength ← field? header 2 26
  let extraLength ← field? header 2 28
  let bytes := (header.drop (30 + nameLength + extraLength)).take entry.packedSize
  if entry.method = 0 then some (.stored, bytes)
  else if entry.method = 8 then some (.deflated, bytes)
  else none

/-- What reading an entry gives, each with the bytes that are read. -/
inductive Content where
  /-- The whole content, whose checksum is right. -/
  | whole (bytes : Bytes)
  /-- The content has at least as many bytes as were asked for; these are the first ones. -/
  | bounded (bytes : Bytes)
  /-- The packed bytes are damaged, which is noticed behind these, or the checksum is wrong. -/
  | damaged (bytes : Bytes)
deriving DecidableEq, Repr, Inhabited

/-- The bytes that are read of some content. -/
def Content.bytes : Content → Bytes
  | .whole bytes | .bounded bytes | .damaged bytes => bytes

/-- Unpacks an entry, but to no more than `bound` bytes.  The checksum is compared when the end
of the content is reached. -/
def unpack (entry : Entry) (bound : Nat) (packing : Packing) (bytes : Bytes) : Content :=
  let checked (content : Bytes) : Content :=
    if (Crc32.checksum content).toNat = entry.checksum then .whole content else .damaged content
  match packing with
  | .stored => if bound ≤ bytes.length then .bounded (bytes.take bound) else checked bytes
  | .deflated =>
    let inflated := Inflate.inflate bound bytes
    let content := inflated.output.toList
    match inflated.ending with
    | .complete => if bound ≤ inflated.output.size then .bounded content else checked content
    | .bounded => .bounded content
    | .broken => if bound ≤ inflated.output.size then .bounded content else .damaged content

end Archive

end Intercept
