/-
# The disk

Folders and files, each at a place, which is the list of names that leads to it from the root.  A
path is followed name by name; what it leads to is a folder, a file, or a free place in an
existing folder.

The operations on files are those that the proxy uses: make folders, make a file, add to it, read
it, and remove it.  Writing may fail in the middle, when the disk is full or does not answer.  A
file may also be written in the background, and then a failure is met later than where it happens.
-/
import Intercept.Bytes
import Intercept.System.Error
import Intercept.System.Path

namespace Intercept

/-- A place on the disk. -/
abbrev Disk.Place := List String

/-- A disk. -/
structure Disk where
  /-- The working folder. -/
  here : Disk.Place := []
  /-- The folders; the root and the working folder are among them. -/
  folders : List Disk.Place := [[]]
  files : List (Disk.Place × Bytes) := []
  /-- What will become of the next files that are written, in turn: writing fails for a cause if it
  is more than so many bytes.  The files behind these can be written. -/
  troubles : List (Nat × SystemError) := []
  /-- Where files were made, written and removed, the last place first. -/
  touched : List Disk.Place := []
deriving DecidableEq, Repr, Inhabited

namespace Disk

/-- What is at the end of a path.  The flag of the last two says whether a slash follows. -/
inductive Spot where
  | folder (place : Place)
  | file (place : Place) (slash : Bool)
  | free (place : Place) (slash : Bool)
deriving DecidableEq, Repr, Inhabited

/-- The longest name, in bytes. -/
def maxName : Nat := 255

/-- The length in bytes from which on a path is too long. -/
def maxPath : Nat := 4096

/-- The contents of the file at a place. -/
def contents? (disk : Disk) (place : Place) : Option Bytes := disk.files.lookup place

/-- Whether there is a folder at a place. -/
def hasFolder (disk : Disk) (place : Place) : Bool := disk.folders.contains place

/-- Follows names from a folder. -/
def walk (disk : Disk) : Place → List String → Except SystemError Spot
  | place, [] => .ok (.folder place)
  | place, name :: rest =>
    let next := place ++ [name]
    if Path.isHere name then walk disk place rest
    else if name == ".." then walk disk place.dropLast rest
    else if maxName < name.utf8ByteSize then .error .nameTooLong
    else if disk.hasFolder next then walk disk next rest
    else if (disk.contents? next).isSome then
      if rest.all String.isEmpty then .ok (.file next (!rest.isEmpty)) else .error .notAFolder
    else if rest.all String.isEmpty then .ok (.free next (!rest.isEmpty))
    else .error .notFound

/-- Follows names as they stand in a path. -/
def follow (disk : Disk) (absolute : Bool) (names : List String) : Except SystemError Spot :=
  walk disk (if absolute then [] else disk.here) names

/-- What a path leads to. -/
def find (disk : Disk) (path : String) : Except SystemError Spot :=
  if path.toList.contains '\x00' then .error .zeroInName
  else if path.isEmpty then .error .notFound
  else if maxPath ≤ path.utf8ByteSize then .error .nameTooLong
  else disk.follow (Path.isAbsolute path) (Path.names path)

/-! ### Folders -/

/-- Makes the folder at a free place. -/
def makeAt (disk : Disk) : Except SystemError Spot → Except SystemError Disk
  | .ok (.free place _) => .ok { disk with folders := disk.folders ++ [place] }
  | .ok _ => .error .alreadyExists
  | .error error => .error error

/-- Whether names lead to a folder. -/
def leadsToFolder : Except SystemError Spot → Bool
  | .ok (.folder _) => true
  | _ => false

/-- Makes the folder that names lead to and those above it that are missing; the names stand in
reverse. -/
def makeChain (disk : Disk) (absolute : Bool) : List String → Except SystemError Unit × Disk
  | [] => (.ok (), disk)
  | name :: before =>
    let spot (disk : Disk) := disk.follow absolute (name :: before).reverse
    match disk.makeAt (spot disk) with
    | .ok disk => (.ok (), disk)
    | .error .notFound =>
      match makeChain disk absolute before with
      | (.error error, disk) => (.error error, disk)
      | (.ok (), disk) =>
        match disk.makeAt (spot disk) with
        | .ok disk => (.ok (), disk)
        | .error error => (if leadsToFolder (spot disk) then .ok () else .error error, disk)
    | .error error => (if leadsToFolder (spot disk) then .ok () else .error error, disk)

/-- Makes the folder of a path and those above it that are missing.  The empty path is the working
folder, which is always there. -/
def makeFolders (disk : Disk) (path : String) : Except SystemError Unit × Disk :=
  if path.isEmpty then (.ok (), disk)
  else if path.toList.contains '\x00' then (.error .zeroInName, disk)
  else if maxPath ≤ path.utf8ByteSize then (.error .nameTooLong, disk)
  else
    makeChain disk (Path.isAbsolute path)
      ((Path.names path).filter fun name => !Path.isHere name).reverse

/-- Makes the folder that holds what a path leads to. -/
def makeParent (disk : Disk) (path : String) : Except SystemError Unit × Disk :=
  let names := Path.parentNames path
  if names.isEmpty then (.ok (), disk)
  else if path.toList.contains '\x00' then (.error .zeroInName, disk)
  else if maxPath ≤ path.utf8ByteSize then (.error .nameTooLong, disk)
  else makeChain disk (Path.isAbsolute path) names.reverse

/-! ### Files -/

/-- The files with one of them replaced or added. -/
def putFile (place : Place) (bytes : Bytes) : List (Place × Bytes) → List (Place × Bytes)
  | [] => [(place, bytes)]
  | (p, old) :: rest =>
    if p = place then (place, bytes) :: rest else (p, old) :: putFile place bytes rest

/-- Notes a place, unless it is the last one that was noted. -/
def note (place : Place) (touched : List Place) : List Place :=
  if touched.head? = some place then touched else place :: touched

/-- Gives the file at a place new contents. -/
def put (disk : Disk) (place : Place) (bytes : Bytes) : Disk :=
  { disk with files := putFile place bytes disk.files, touched := note place disk.touched }

/-- Takes the file at a place away. -/
def erase (disk : Disk) (place : Place) : Disk :=
  { disk with
    files := disk.files.filter fun (p, _) => p != place
    touched := note place disk.touched }

/-- Adds bytes to the file at a place. -/
def append (disk : Disk) (place : Place) (bytes : Bytes) : Disk :=
  disk.put place ((disk.contents? place).getD [] ++ bytes)

/-- A file that is open for writing. -/
structure Handle where
  place : Place
  /-- What will become of what is written to it: that fails for a cause if it is more than so many
  bytes. -/
  trouble : Option (Nat × SystemError)
deriving DecidableEq, Repr, Inhabited

/-- Opens the file at a place for writing. -/
def openHandle (disk : Disk) (place : Place) : Handle × Disk :=
  match disk.troubles with
  | [] => (⟨place, none⟩, disk)
  | trouble :: troubles => (⟨place, some trouble⟩, { disk with troubles })

/-- What an open file takes of some bytes, with the file as it is open then. -/
def Handle.take (handle : Handle) (bytes : Bytes) : Except SystemError Handle × Bytes :=
  match handle.trouble with
  | none => (.ok handle, bytes)
  | some (room, cause) =>
    if bytes.length ≤ room then
      (.ok { handle with trouble := some (room - bytes.length, cause) }, bytes)
    else (.error cause, bytes.take room)

/-- Writes bytes behind those of an open file.  If that fails, only some of them are written. -/
def writeTo (disk : Disk) (handle : Handle) (bytes : Bytes) : Except SystemError Handle × Disk :=
  let (written, taken) := handle.take bytes
  (written, disk.append handle.place taken)

/-- The largest part in which bytes are handed over to be written in the background. -/
def maxPart : Nat := 2097152

/-- Where the last part of some bytes begins. -/
def lastPart (bytes : Bytes) : Nat := (bytes.length - 1) / maxPart * maxPart

/-- A file that is written in the background.  The part that was handed over last is on its way:
whether it can be written is known when more is handed over, or at the end. -/
structure Writer where
  handle : Handle
  /-- The part that is on its way. -/
  held : Bytes := []
deriving DecidableEq, Repr, Inhabited

/-- Hands bytes over, which has to wait until all parts before the last one are written.  Nothing is
waited for if there are none. -/
def handOver (disk : Disk) (writer : Writer) (bytes : Bytes) : Except SystemError Writer × Disk :=
  if bytes.isEmpty then (.ok writer, disk)
  else
    let (written, disk) :=
      disk.writeTo writer.handle (writer.held ++ bytes.take (lastPart bytes))
    (written.map fun handle => ⟨handle, bytes.drop (lastPart bytes)⟩, disk)

/-- Waits until all that was handed over is written. -/
def flush (disk : Disk) (writer : Writer) : Except SystemError Handle × Disk :=
  disk.writeTo writer.handle writer.held

/-- Writes bytes behind those of the file at a place, at once. -/
def write (disk : Disk) (place : Place) (bytes : Bytes) : Except SystemError Unit × Disk :=
  let (handle, disk) := disk.openHandle place
  let (written, disk) := disk.writeTo handle bytes
  (written.map fun _ => (), disk)

/-- Makes an empty file, in place of one that is there. -/
def create (disk : Disk) (path : String) : Except SystemError (Place × Disk) :=
  match disk.find path with
  | .ok (.file place false) | .ok (.free place false) => .ok (place, disk.put place [])
  | .ok _ => .error .isAFolder
  | .error error => .error error

/-- Removes the file that a path leads to. -/
def remove (disk : Disk) (path : String) : Except SystemError Disk :=
  match disk.find path with
  | .ok (.file place false) => .ok (disk.erase place)
  | .ok (.file _ true) => .error .notAFolder
  | .ok (.folder _) => .error .isAFolder
  | .ok (.free _ _) => .error .notFound
  | .error error => .error error

/-- What can be opened for reading. -/
inductive Opened where
  | file (bytes : Bytes)
  | folder
deriving DecidableEq, Repr, Inhabited

/-- Opens what a path leads to. -/
def openPath (disk : Disk) (path : String) : Except SystemError Opened :=
  match disk.find path with
  | .ok (.folder _) => .ok .folder
  | .ok (.file place false) =>
    match disk.contents? place with
    | some bytes => .ok (.file bytes)
    | none => .error .notFound
  | .ok (.file _ true) => .error .notAFolder
  | .ok (.free _ _) => .error .notFound
  | .error error => .error error

/-- Reads the file that a path leads to. -/
def read (disk : Disk) (path : String) : Except SystemError Bytes :=
  match disk.openPath path with
  | .ok (.file bytes) => .ok bytes
  | .ok .folder => .error .isAFolder
  | .error error => .error error

end Disk

end Intercept
