/-
# What is done to a file before it is stored

Images that carry metadata are freed of it; of other files, if the application says so, an
artifact is taken out; all else is stored as it is.
-/
import Intercept.Upload.Extraction
import Intercept.Upload.FileName
import Intercept.Upload.Grant
import Intercept.Upload.Stripping

namespace Intercept

/-- Why a file cannot be transformed. -/
inductive TransformError where
  /-- The program cannot be started. -/
  | notStarted (program : String) (cause : SystemError)
  | extract (error : ExtractError)
deriving DecidableEq, Repr, Inhabited

/-- The text of an error. -/
def TransformError.message : TransformError → String
  | notStarted program cause => "start " ++ program ++ ": " ++ cause.message
  | extract error => error.message

/-- What is done to a file. -/
inductive Transform where
  | strip
  | extract
  | keep
deriving DecidableEq, Repr, Inhabited

namespace Transform

/-- What is done to a file with a name. -/
def select (grant : Grant) (fileName : String) : Transform :=
  if FileName.hasMetadata fileName then .strip
  else if grant.extractsArtifact then .extract
  else .keep

/-- What transforming needs to know. -/
structure Settings where
  /-- The path of the program that removes metadata. -/
  stripper : String
  /-- The name of the entry that is taken out of archives. -/
  artifact : String
  /-- The folder for temporary files if the application names none. -/
  directory : String
  requestId : String
deriving DecidableEq, Repr, Inhabited

/-- Frees an image of its metadata. -/
def runStrip (surroundings : Surroundings) (settings : Settings) (input : Stream UploadFault) :
    Except TransformError (Stream UploadFault) :=
  match Stripping.strip (surroundings.program settings.stripper) surroundings.environment input with
  | .ok output => .ok output
  | .error cause => .error (.notStarted settings.stripper cause)

/-- Takes the artifact out of an archive. -/
def runExtract (surroundings : Surroundings) (settings : Settings) (grant : Grant)
    (input : Stream UploadFault) : Run (Except TransformError (Stream UploadFault)) := do
  let directory := grant.directory.getD settings.directory
  match ← Extraction.extract surroundings.chance settings.requestId directory settings.artifact
      grant.maximumSize input with
  | .ok bytes => return .ok (Stream.once bytes)
  | .error error => return .error (.extract error)

/-- Does to a file what its name and the grant demand. -/
def run (surroundings : Surroundings) (settings : Settings) (grant : Grant) (fileName : String)
    (input : Stream UploadFault) : Run (Except TransformError (Stream UploadFault)) :=
  match select grant fileName with
  | .strip => pure (runStrip surroundings settings input)
  | .extract => runExtract surroundings settings grant input
  | .keep => pure (.ok input)

end Transform

end Intercept
