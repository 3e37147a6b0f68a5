/-
# Scaler processes

A scaler process holds a slot of the gate from its start to its end.  Whoever has one either
finishes it, aborts it or drops it, and each of these gives the slot back.  If no process is
started, the image is handed back untouched together with the reason.
-/
import Intercept.Config.Settings
import Intercept.Image.Feed
import Intercept.Image.ResizeRequest
import Intercept.Image.Source
import Intercept.Text.Blank

namespace Intercept

/-- A running scaler. -/
structure ScalerProcess where
  feed : Feed
  /-- How the process ends when it is waited for. -/
  ending : Ending
  /-- What it writes about its work. -/
  remarks : Bytes
  requestId : String
deriving DecidableEq, Repr, Inhabited

/-- A started scaler: its output, and the process. -/
structure ScalerRun where
  output : Stream String
  process : ScalerProcess
deriving DecidableEq, Repr, Inhabited

/-- An image that is not scaled, and why. -/
structure Fallback where
  source : Stream String
  reason : ResizeError
deriving DecidableEq, Repr, Inhabited

/-- What came of a scaler process. -/
structure Finished where
  status : Except ResizeError Unit
  feed : Feed
deriving Inhabited

namespace Scaler

/-- What a scaler is told about the request it works for. -/
structure Context where
  requestId : String
  environment : Environment
deriving DecidableEq, Repr, Inhabited

/-- The environment of a scaler: of the proxy's own only where programs are found. -/
def environment (own : Environment) (request : ResizeRequest) (context : Context) : Environment :=
  (own.filter fun (name, _) => name == "PATH")
    ++ [("RESIZE_IMAGE_WIDTH", toString request.width),
      ("RESIZE_IMAGE_CONTENT_TYPE", request.contentType)]
    ++ context.environment

/-- The error for an image that is known to be too large beforehand. -/
def oversize? (limit : Nat) (declared : Option Nat) : Option ResizeError :=
  match declared with
  | some size => if limit < size then some (.tooLarge size limit) else none
  | none => none

/-- Starts a scaler for an image, if the image is not too large and a slot is free. -/
def tryResize (surroundings : Surroundings) (settings : Config.Resizer) (source : SourceImage)
    (request : ResizeRequest) (context : Context) : Run (Except Fallback ScalerRun) := do
  match oversize? settings.maxSize source.declared with
  | some error => return .error ⟨source.stream, error⟩
  | none =>
    if ← Site.acquire then
      let invocation := ⟨[], environment surroundings.environment request context⟩
      match (surroundings.program settings.program).start invocation with
      | .error cause =>
        Site.release
        return .error ⟨source.stream, .notStarted cause⟩
      | .ok (intake, run) =>
        let result := Feed.run settings.maxSize intake source.stream
        let behaviour := run result.input
        return .ok ⟨behaviour.output,
          ⟨result.feed, behaviour.ending, behaviour.errors, context.requestId⟩⟩
    else
      return .error ⟨source.stream, .tooMany⟩

/-- Bytes cut behind line feeds; the line feeds themselves are left out. -/
def linesLoop : Bytes → Bytes → List Bytes
  | done, [] => if done.isEmpty then [] else [done.reverse]
  | done, b :: rest => if b = 10 then done.reverse :: linesLoop [] rest else linesLoop (b :: done) rest

/-- The events for what a scaler writes about its work, one for each line. -/
def remarkEvents (requestId : String) (remarks : Bytes) : List Event :=
  (linesLoop [] remarks).map fun line =>
    ⟨.info, "Scaler output",
      [("request_id", requestId), ("scaler", Text.trimEnd (Utf8.decodeLossy line))]⟩

end Scaler

namespace ScalerProcess

/-- The status with which a process ends. -/
def exitStatus (process : ScalerProcess) : Except SystemError ExitStatus :=
  match process.ending with
  | .exits status => .ok status
  | .unknown cause => .error cause

/-- Whether the image was scaled: the scaler ended well, and it got the whole image. -/
def verdict (status : Except SystemError ExitStatus) (feed : Feed) : Except ResizeError Unit :=
  match status with
  | .error cause => .error (.waiting cause)
  | .ok status =>
    if status.isSuccess then
      match feed.error with
      | some (.tooLarge size limit) => .error (.tooLarge size limit)
      | some (.source cause) => .error (.source cause)
      | _ => .ok ()
    else .error (.exited status)

/-- Waits for the end of a process whose output has ended.  It is asked to end, since nothing that
it started may outlive the request; if it would have gone on, its status is that of the signal. -/
def finish (process : ScalerProcess) : Run Finished := do
  Site.logAll (Scaler.remarkEvents process.requestId process.remarks)
  let status := verdict process.exitStatus process.feed
  if status.isOk then Site.count .resizesCompleted 1
  Site.release
  return ⟨status, process.feed⟩

/-- Kills a process whose output was not read to its end. -/
def abort (process : ScalerProcess) : Run Finished :=
  finish { process with ending := .exits .killed, remarks := [] }

/-- Gives a process up; it is killed, and nobody waits for it. -/
def drop (_process : ScalerProcess) : Run Unit := Site.release

end ScalerProcess

end Intercept
