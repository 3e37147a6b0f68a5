/-
# Removing metadata

The data of an image is sent through a program that writes it again without its metadata.
Whether the program did its work is only known when its output has ended; then the stream ends
with a fault unless the program ended well and its input could be read.
-/
import Intercept.Stream
import Intercept.System.Program
import Intercept.Upload.Fault

namespace Intercept.Stripping

/-- The arguments of the program: everything is removed but what is needed to show the image. -/
def arguments : List String := [
  "-all=", "--IPTC:all", "--XMP-iptcExt:all", "-tagsFromFile", "@", "-ResolutionUnit",
  "-XResolution", "-YResolution", "-YCbCrSubSampling", "-YCbCrPositioning", "-BitsPerSample",
  "-ImageHeight", "-ImageWidth", "-ImageSize", "-Copyright", "-CopyrightNotice", "-Orientation",
  "-"]

/-- What the program was fed, and the fault that ended the feeding early. -/
structure Fed where
  bytes : Bytes
  fault : Option UploadFault
deriving DecidableEq, Repr, Inhabited

/-- Feeds a program, where `done` holds what it took so far, the last piece first, `size` bytes.
If the program closes its input, that is no fault: its status will tell why. -/
def feedLoop (intake : Intake) (done : List Bytes) (size : Nat) : Stream UploadFault → Fed
  | [] => ⟨done.reverse.flatten, none⟩
  | .pause :: rest => feedLoop intake done size rest
  | .fault cause :: _ => ⟨done.reverse.flatten, some cause⟩
  | .piece bytes :: rest =>
    match intake.write size bytes with
    | .whole => feedLoop intake (bytes :: done) (size + bytes.length) rest
    | .closed taken => ⟨(taken :: done).reverse.flatten, none⟩
    | .failed taken cause => ⟨(taken :: done).reverse.flatten, some (.unreadable cause.message)⟩

/-- Feeds a program. -/
def feed (intake : Intake) (input : Stream UploadFault) : Fed := feedLoop intake [] 0 input

/-- The fault for a program that did not end well. -/
def failed (status : ExitStatus) : UploadFault :=
  .notStripped ⟨.warn, "exiftool failed", [("status", status.text)]⟩

/-- The fault at the end of the output of a program that was fed and has ended.  The proxy only
waits for the end and sends no signal. -/
def verdict (fed : Fed) (ending : Ending) : Option UploadFault :=
  match fed.fault with
  | some fault => some fault
  | none =>
    match ending with
    | .exits status => if status.isSuccess then none else some (failed status)
    | .unknown cause =>
      some (.notStripped ⟨.warn, "Waiting for exiftool failed", [("error", cause.message)]⟩)

/-- The output of a program with the fault at its end. -/
def output (fed : Fed) (behaviour : Behaviour) : Stream UploadFault :=
  let (pieces, broken) := behaviour.output.pieces
  let fault : Option UploadFault := match broken with
    | some cause =>
      some (.notStripped ⟨.warn, "Reading exiftool output failed", [("error", cause)]⟩)
    | none => verdict fed behaviour.ending
  pieces.map .piece ++ (fault.map Item.fault).toList

/-- Sends data through the program that removes metadata. -/
def strip (program : Program) (environment : Environment) (input : Stream UploadFault) :
    Except SystemError (Stream UploadFault) :=
  match program.start ⟨arguments, environment⟩ with
  | .error cause => .error cause
  | .ok (intake, run) =>
    let fed := feed intake input
    .ok (output fed (run ⟨fed.bytes, false⟩))

end Intercept.Stripping
