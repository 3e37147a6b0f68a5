/-
# Taking an artifact out of an archive

An archive can only be read from its end, so the data of the part is written to a temporary file
first.  One entry of the archive is then unpacked into a second temporary file, which is opened
and removed at once.  Whatever happens, both files are gone at the end.

No more is unpacked than one byte above the largest size, since the size that the archive
declares may be wrong.
-/
import Intercept.Archive.Zip
import Intercept.Site
import Intercept.Upload.Fault

namespace Intercept

/-- Why there is no artifact. -/
inductive ExtractError where
  /-- The temporary file for the archive cannot be written. -/
  | unwritable (path : String) (cause : SystemError)
  /-- The data of the part cannot be read. -/
  | unreadable (fault : UploadFault)
  /-- The archive has no entry of that name. -/
  | missing (artifact : String)
  /-- The archive cannot be read. -/
  | badArchive
  /-- The entry cannot be unpacked into a file. -/
  | notUnpacked
  /-- The artifact is larger than it may be. -/
  | tooLarge (limit : Nat)
deriving DecidableEq, Repr, Inhabited

/-- The text of an error. -/
def ExtractError.message : ExtractError → String
  | unwritable path cause => "spool " ++ Text.quoted path ++ ": " ++ cause.message
  | unreadable fault => "reading upload: " ++ fault.message
  | missing artifact => "archive does not contain " ++ artifact
  | badArchive => "open archive: malformed archive"
  | notUnpacked => "extract artifact: malformed entry"
  | tooLarge limit => "artifact larger than " ++ toString limit ++ " bytes"

namespace Extraction

/-- The largest size of a file. -/
def maxFileSize : Nat := 18446744073709551615

/-- How many bytes are unpacked at most. -/
def bound (limit : Option Nat) : Nat :=
  match limit with
  | some limit => min (limit + 1) maxFileSize
  | none => maxFileSize

/-- The entry of an archive that is to be unpacked, how it is packed, and its packed bytes. -/
def locate (archive : Bytes) (artifact : String) (limit : Option Nat) :
    Except ExtractError (Archive.Entry × Archive.Packing × Bytes) :=
  match Archive.open? archive with
  | none => .error .badArchive
  | some archive =>
    match archive.find? artifact with
    | none => .error (.missing artifact)
    | some entry =>
      match archive.packed? entry with
      | none => .error .badArchive
      | some (packing, bytes) =>
        match limit with
        | some limit =>
          if limit < entry.size then .error (.tooLarge limit) else .ok (entry, packing, bytes)
        | none => .ok (entry, packing, bytes)

/-- The artifact that unpacking gave.  Content that reaches the bound and is not above the limit is
larger than a file can be. -/
def judge (limit : Option Nat) : Archive.Content → Except ExtractError Bytes
  | .whole bytes =>
    match limit with
    | some limit => if limit < bytes.length then .error (.tooLarge limit) else .ok bytes
    | none => .ok bytes
  | .bounded bytes =>
    match limit with
    | some limit => .error (if limit < bytes.length then .tooLarge limit else .notUnpacked)
    | none => .error .notUnpacked
  | .damaged _ => .error .notUnpacked

/-- Unpacks an entry of the archive into a temporary file, and takes the file away. -/
def unpackAt (path artifact : String) (limit : Option Nat) (archive : Bytes) :
    Run (Except ExtractError Bytes) := do
  match locate archive artifact limit with
  | .error error => return .error error
  | .ok (entry, packing, packed) =>
    match ← Site.tryOnDisk fun disk => disk.create path with
    | .error _ => return .error .notUnpacked
    | .ok place =>
      let content := Archive.unpack entry (bound limit) packing packed
      let written ← Site.onDisk fun disk => disk.write place content.bytes
      Site.onDisk fun disk => ((), disk.erase place)
      match written with
      | .error _ => return .error .notUnpacked
      | .ok () => return judge limit content

/-- Writes the rest of the data of a part to an open file, piece by piece. -/
def pour (path : String) (writer : Disk.Writer) :
    Stream UploadFault → Run (Except ExtractError Unit)
  | [] => do
    match ← Site.onDisk fun disk => disk.flush writer with
    | .error cause => return .error (.unwritable path cause)
    | .ok _ => return .ok ()
  | .pause :: rest => pour path writer rest
  | .fault cause :: _ => pure (.error (.unreadable cause))
  | .piece bytes :: rest => do
    match ← Site.onDisk fun disk => disk.handOver writer bytes with
    | .error cause => return .error (.unwritable path cause)
    | .ok writer => pour path writer rest

/-- Writes the data of a part to a temporary file, and gives the archive that the file then holds. -/
def spool (path : String) (input : Stream UploadFault) : Run (Except ExtractError Bytes) := do
  match ← Site.onDisk fun disk => disk.makeParent path with
  | .error cause => return .error (.unwritable path cause)
  | .ok () =>
    match ← Site.tryOnDisk fun disk => disk.create path with
    | .error cause => return .error (.unwritable path cause)
    | .ok place =>
      let handle ← Site.onDisk fun disk => disk.openHandle place
      match ← pour path ⟨handle, []⟩ input with
      | .error error => return .error error
      | .ok () => return .ok input.deliver.bytes

/-- Removes a temporary file; that it is not there is no failure. -/
def discard (requestId path : String) : Run Unit := do
  match ← Site.tryOnDisk fun disk => (disk.remove path).map fun disk => ((), disk) with
  | .ok () | .error .notFound => return ()
  | .error cause =>
    Site.log ⟨.warn, "Failed to remove spooled archive",
      [("request_id", requestId), ("path", Text.quoted path), ("error", cause.message)]⟩

/-- The artifact in the archive that the data of a part is. -/
def extract (chance : Chance) (requestId directory artifact : String) (limit : Option Nat)
    (input : Stream UploadFault) : Run (Except ExtractError Bytes) := do
  let n ← Site.nextScratch
  let path := Path.join directory ("spool-" ++ chance.scratchLabel n ++ ".zip")
  let spooled ← spool path input
  let artifact ← match spooled with
    | .error error => pure (.error error)
    | .ok archive =>
      let m ← Site.nextScratch
      unpackAt (Path.join directory ("artifact-" ++ chance.scratchLabel m)) artifact limit archive
  discard requestId path
  return artifact

end Extraction

end Intercept
