/-
# Feeding a scaler

An image is copied into the scaler piece by piece, and what was copied is kept: if the scaler
fails before it wrote anything, the image can still be delivered unscaled, as what was kept
followed by what was not yet read.

The announced length of an image may be wrong, so that the size is watched here as well.  An
image that turns out to be too large gets the scaler killed, before it takes the beginning of the
image for the whole.
-/
import Intercept.Stream
import Intercept.System.Program

namespace Intercept

/-- Why an image is not scaled. -/
inductive ResizeError where
  | tooLarge (size limit : Nat)
  /-- Too many scalers are running. -/
  | tooMany
  /-- The scaler cannot be started. -/
  | notStarted (cause : SystemError)
  /-- The image cannot be read. -/
  | source (cause : String)
  /-- The scaler cannot be fed. -/
  | feeding (cause : SystemError)
  /-- The output of the scaler cannot be read. -/
  | output (cause : String)
  /-- The end of the scaler cannot be waited for. -/
  | waiting (cause : SystemError)
  /-- The scaler did not end well. -/
  | exited (status : ExitStatus)
deriving DecidableEq, Repr, Inhabited

/-- The text of an error. -/
def ResizeError.message : ResizeError → String
  | tooLarge size limit =>
    toString size ++ "b exceeds maximum file size of " ++ toString limit ++ "b"
  | tooMany => "too many running scaler processes"
  | notStarted cause => "failed forking into scaler process: " ++ cause.message
  | source cause => "reading source image: " ++ cause
  | feeding cause => "feeding scaler: " ++ cause.message
  | output cause => "reading scaler output: " ++ cause
  | waiting cause => "waiting for scaler: " ++ cause.message
  | exited status => "scaler exited with " ++ status.text

/-- How far an image was read, and why no further. -/
structure Feed where
  /-- What was read. -/
  replay : Bytes
  /-- What was not read; nothing if the image was read to its end, or cannot be read on. -/
  rest : Option (Stream String)
  error : Option ResizeError
deriving DecidableEq, Repr, Inhabited

namespace Feed

/-- The whole image, unless it cannot be read. -/
def unscaled? (feed : Feed) : Option (Stream String) :=
  match feed.error with
  | some (.source _) => none
  | _ => some (Stream.once feed.replay ++ feed.rest.getD [])

/-- What came of feeding: how far the image was read, and what the scaler got. -/
structure Result where
  feed : Feed
  input : Input
deriving DecidableEq, Repr, Inhabited

/-- Feeds an image to a scaler, where `done` holds what was read so far, the last piece first,
`size` bytes, which the scaler has taken. -/
def loop (limit : Nat) (intake : Intake) (done : List Bytes) (size : Nat) :
    Stream String → Result
  | [] =>
    let bytes := done.reverse.flatten
    ⟨⟨bytes, none, none⟩, ⟨bytes, false⟩⟩
  | .pause :: rest => loop limit intake done size rest
  | .fault cause :: _ =>
    let bytes := done.reverse.flatten
    ⟨⟨bytes, none, some (.source cause)⟩, ⟨bytes, false⟩⟩
  | .piece bytes :: rest =>
    let read := (bytes :: done).reverse.flatten
    if limit < size + bytes.length then
      ⟨⟨read, some rest, some (.tooLarge (size + bytes.length) limit)⟩,
        ⟨done.reverse.flatten, true⟩⟩
    else
      match intake.write size bytes with
      | .whole => loop limit intake (bytes :: done) (size + bytes.length) rest
      | .closed taken => ⟨⟨read, some rest, none⟩, ⟨(taken :: done).reverse.flatten, false⟩⟩
      | .failed taken cause =>
        ⟨⟨read, some rest, some (.feeding cause)⟩, ⟨(taken :: done).reverse.flatten, false⟩⟩

/-- Feeds an image to a scaler. -/
def run (limit : Nat) (intake : Intake) (source : Stream String) : Result :=
  loop limit intake [] 0 source

end Feed

end Intercept
