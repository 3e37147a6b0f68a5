/-
# Taking the files out of a form

The parts of a form are gone through in order.  The data of a file part is stored, and fields that
describe the stored file are written in its place; any other part is copied.  The new form is
complete before anything of it is handed on, so that a form that is turned down leaves nothing
behind: the files stored for it are removed.

From a stored file on, no part of the client may be called like a field that was written for the
file, or like the file's own part.
-/
import Intercept.Multipart.Reader
import Intercept.Multipart.Writer
import Intercept.Storage.Save
import Intercept.Upload.FileIndex
import Intercept.Upload.ReservedNames
import Intercept.Upload.Transform

namespace Intercept

/-- Why a form is turned down. -/
inductive DepositError where
  /-- A part has the name of something that the proxy wrote. -/
  | injected (name : String)
  /-- The name of a file could lead out of the folder. -/
  | illegalName (fileName : String)
  /-- A file is larger than it may be. -/
  | tooLarge
  /-- Metadata could not be removed. -/
  | notStripped
  /-- The form cannot be read. -/
  | form (error : FormError)
  /-- A file cannot be transformed. -/
  | transform (error : TransformError)
  /-- A file cannot be stored. -/
  | store (error : StoreError UploadFault)
deriving DecidableEq, Repr, Inhabited

namespace DepositError

/-- The text of an error. -/
def message : DepositError → String
  | injected name => "injected client parameter: " ++ name
  | illegalName fileName => "illegal filename: " ++ Text.quoted fileName
  | tooLarge => "entity is too large"
  | notStripped => "error while removing EXIF"
  | form error => "parse multipart: " ++ error.message
  | transform error => "transform file part: " ++ error.message
  | store error => "persisting multipart file: " ++ error.message UploadFault.message

/-- The status that a client gets. -/
def status : DepositError → Status
  | injected _ | illegalName _ => 400
  | tooLarge | form (.tooLarge _) => 413
  | notStripped => 422
  | form _ | transform _ | store _ => 500

end DepositError

namespace Deposit

/-- What is needed to take the files out of a form. -/
structure Settings where
  grant : Grant
  transform : Transform.Settings
  /-- The name of the upload's route in metrics. -/
  processor : String
deriving DecidableEq, Repr, Inhabited

/-- A new form in the course of being written. -/
structure Draft where
  writer : FormWriter
  reserved : ReservedNames := {}
  index : FileIndex := {}
  /-- The paths of the files stored so far. -/
  stored : List String := []
deriving DecidableEq, Repr, Inhabited

/-- The data of a part as a stream. -/
def dataOf (part : Part) : Stream UploadFault :=
  part.pieces.map .piece
    ++ (part.fault.map fun error => .fault (.unreadable error.message)).toList

/-- The draft with a part copied into it. -/
def copy (part : Part) (draft : Draft) : Draft × Option DepositError :=
  let writer := part.pieces.foldl (fun writer bytes => writer.write bytes)
    (draft.writer.beginPart part.headers)
  ({ draft with writer }, part.fault.map fun error => .form error)

/-- The draft with the fields of a stored file, whose part was called `name`. -/
def describe (name : String) (file : StoredFile) (draft : Draft) : Draft :=
  let fields := file.fields name
  { writer := fields.foldl (fun writer (key, value) => writer.writeField key value) draft.writer
    reserved := fields.foldl (fun reserved (key, _) => reserved.insert key)
      (draft.reserved.insert name)
    index := draft.index.record name file.path
    stored := draft.stored ++ [file.path] }

/-- What a failure to store a file means for the form, and what is logged about it. -/
def rejected : StoreError UploadFault → DepositError × List Event
  | .tooLarge => (.tooLarge, [])
  | .unreadable fault =>
    if fault.isRemovalFailure then (.notStripped, fault.events)
    else (.store (.unreadable fault), fault.events)
  | error => (.store error, [])

/-- What a failure to transform a file means for the form. -/
def untransformed : TransformError → DepositError
  | .extract (.tooLarge _) => .tooLarge
  | error => .transform error

/-- Stores the data of a part called `name`, which is a file called `fileName`. -/
def storePart (surroundings : Surroundings) (settings : Settings) (name fileName : String)
    (part : Part) (draft : Draft) : Run (Draft × Option DepositError) := do
  if FileName.isIllegal fileName then
    return (draft, some (.illegalName fileName))
  else
    Site.count (.uploadFiles settings.processor) 1
    let transformed ← Transform.run surroundings settings.transform settings.grant fileName
      (dataOf part)
    match transformed with
    | .error error => return (draft, some (untransformed error))
    | .ok stream =>
      let directory := settings.grant.directory.getD settings.transform.directory
      let request : Storage.Request := ⟨fileName, directory, fileName, settings.grant.maximumSize⟩
      match ← Storage.save surroundings.chance request none stream with
      | .error error =>
        let (error, events) := rejected error
        Site.logAll events
        return (draft, some error)
      | .ok file =>
        Site.count (.uploadBytes settings.processor) file.size
        return (describe name file draft, none)

/-- Takes in one part.  A part without a name is dropped. -/
def takePart (surroundings : Surroundings) (settings : Settings) (part : Part) (draft : Draft) :
    Run (Draft × Option DepositError) :=
  match part.name?.filter fun name => !name.isEmpty with
  | none => pure (draft, none)
  | some name =>
    if draft.reserved.contains name then pure (draft, some (.injected name))
    else
      match part.fileName?.filter fun fileName => !fileName.isEmpty with
      | some fileName => storePart surroundings settings name fileName part draft
      | none => pure (copy part draft)

/-- Takes in parts, up to the first that cannot be taken in. -/
def takeParts (surroundings : Surroundings) (settings : Settings) :
    List Part → Draft → Run (Draft × Option DepositError)
  | [], draft => pure (draft, none)
  | part :: rest, draft => do
    match ← takePart surroundings settings part draft with
    | (draft, some error) => return (draft, some error)
    | (draft, none) => takeParts surroundings settings rest draft

/-- Removes stored files. -/
def removeAll (requestId : String) : List String → Run Unit
  | [] => pure ()
  | path :: rest => do
    match ← Site.tryOnDisk fun disk => (disk.remove path).map fun disk => ((), disk) with
    | .ok () => pure ()
    | .error cause =>
      Site.log ⟨.warn, "Failed to remove stored file",
        [("request_id", requestId), ("path", Text.quoted path), ("error", cause.message)]⟩
    removeAll requestId rest

end Deposit

/-- What came of taking the files out of a form. -/
structure Deposit where
  /-- The files stored, also if the form was turned down later. -/
  index : FileIndex
  /-- The new form. -/
  form : Except DepositError FormWriter
deriving Inhabited

namespace Deposit

/-- Takes the files out of a form. -/
def make (surroundings : Surroundings) (settings : Settings) (form : Form) : Run Deposit := do
  let start : Draft := { writer := .start surroundings.chance.boundary }
  let (draft, failure) ← takeParts surroundings settings form.parts start
  match failure.orElse fun _ => form.fault.map DepositError.form with
  | some error =>
    removeAll settings.transform.requestId draft.stored
    return ⟨draft.index, .error error⟩
  | none => return ⟨draft.index, .ok draft.writer⟩

end Deposit

end Intercept
