/-
# Storing a file

A stream is written to a new file as it arrives, up to a limit.  Each piece is counted, hashed and
handed over to be written before the next one is read; that it cannot be written may be noticed only
at the next one, or at the end.  The file remains only if the stream is read to its end, is not
larger than the limit, and all of it is written.
-/
import Intercept.Digest.Sha256
import Intercept.Site
import Intercept.Storage.StoredFile

namespace Intercept

/-- Why a file is not stored. -/
inductive StoreError (φ : Type) where
  /-- It is larger than the limit. -/
  | tooLarge
  /-- The stream has a fault. -/
  | unreadable (fault : φ)
  /-- The file cannot be written. -/
  | unwritable (path : String) (cause : SystemError)
deriving DecidableEq, Repr, Inhabited

/-- The text of an error, where `describe` gives the text of a fault. -/
def StoreError.message {φ : Type} (describe : φ → String) : StoreError φ → String
  | tooLarge => "entity is too large"
  | unreadable fault => "reading upload: " ++ describe fault
  | unwritable path cause => "writing " ++ Text.quoted path ++ ": " ++ cause.message

namespace Storage

/-- Where and how a file is stored. -/
structure Request where
  /-- The name that the client gave the file. -/
  name : String
  directory : String
  /-- What the name of the stored file starts with. -/
  stem : String
  /-- The largest size. -/
  limit : Option Nat
deriving DecidableEq, Repr, Inhabited

/-- Whether a size is above the limit, if there is one. -/
def exceeds (limit : Option Nat) (size : Nat) : Bool := limit.any (· < size)

/-- Whether a file is known to be too large beforehand. -/
def isHopeless (hint limit : Option Nat) : Bool :=
  match hint, limit with
  | some size, some limit => limit < size
  | _, _ => false

/-- How far a file has come. -/
structure Progress where
  size : Nat := 0
  hasher : Sha256.Hasher := {}
deriving DecidableEq, Repr, Inhabited

/-- Counts and hashes a piece. -/
def Progress.take (progress : Progress) (piece : Bytes) : Progress :=
  ⟨progress.size + piece.length, progress.hasher.update piece⟩

/-- Writes the rest of a stream to an open file, piece by piece, up to the limit.  What is on its
way when the stream is given up is of no account, since the file is taken away then. -/
def pour {φ : Type} (path : String) (limit : Option Nat) (writer : Disk.Writer)
    (progress : Progress) : Stream φ → Run (Except (StoreError φ) Progress)
  | [] => do
    match ← Site.onDisk fun disk => disk.flush writer with
    | .error cause => return .error (.unwritable path cause)
    | .ok _ => return .ok progress
  | .pause :: rest => pour path limit writer progress rest
  | .fault cause :: _ => pure (.error (.unreadable cause))
  | .piece bytes :: rest => do
    let progress := progress.take bytes
    if exceeds limit progress.size then
      return .error .tooLarge
    else
      match ← Site.onDisk fun disk => disk.handOver writer bytes with
      | .error cause => return .error (.unwritable path cause)
      | .ok writer => pour path limit writer progress rest

/-- Writes a stream to a new file at `path`, which remains only if all of it is written. -/
def writeFile {φ : Type} (directory path : String) (limit : Option Nat) (stream : Stream φ) :
    Run (Except (StoreError φ) Progress) := do
  match ← Site.onDisk fun disk => disk.makeFolders directory with
  | .error cause => return .error (.unwritable path cause)
  | .ok () =>
    match ← Site.tryOnDisk fun disk => disk.create path with
    | .error cause => return .error (.unwritable path cause)
    | .ok place =>
      let handle ← Site.onDisk fun disk => disk.openHandle place
      match ← pour path limit ⟨handle, []⟩ {} stream with
      | .error error =>
        Site.onDisk fun disk => ((), disk.erase place)
        return .error error
      | .ok progress => return .ok progress

/-- Stores a stream.  If `hint` says beforehand that it is too large, nothing is touched. -/
def save {φ : Type} (chance : Chance) (request : Request) (hint : Option Nat) (stream : Stream φ) :
    Run (Except (StoreError φ) StoredFile) := do
  if isHopeless hint request.limit then
    return .error .tooLarge
  else
    let n ← Site.nextSave
    let path := Path.join request.directory (request.stem ++ "-" ++ chance.label n)
    match ← writeFile request.directory path request.limit stream with
    | .error error => return .error error
    | .ok progress =>
      return .ok ⟨request.name, path, progress.size, progress.hasher.hex, chance.duration n⟩

end Storage

end Intercept
