/-
# Delivering an image

Nothing is committed before the first byte of the body is there.  A failure before that can still
be answered: if the scaler fails the image is delivered unscaled, and if that cannot be read the
client is told that the request failed.  Once a byte is out, a failure cuts the body off.

A `Delivery` is a body that is committed.  It is read item by item with `next`, or up to its end
with `drain`, and says in the log how it ended.
-/
import Intercept.Image.Scaler

namespace Intercept

/-- What the log says about a resize. -/
structure ResizeLog where
  requestId : String
  width : Nat
  contentType : String
  /-- The length that was announced for the image. -/
  declared : Option Nat
deriving DecidableEq, Repr, Inhabited

namespace ResizeLog

/-- The fields that all events have in common. -/
def fields (log : ResizeLog) : List (String × String) := [
  ("target_width", toString log.width), ("content_type", log.contentType),
  ("original_filesize", Text.shownOption log.declared)]

/-- The event when an image is delivered unscaled. -/
def degraded (log : ResizeLog) (error : ResizeError) : Event :=
  ⟨.warn, "ImageResizer: serving original image",
    ("request_id", log.requestId) :: log.fields ++ [("error", error.message)]⟩

/-- The event when a body was delivered whole. -/
def success (log : ResizeLog) (written : Nat) : Event :=
  ⟨.info, "ImageResizer: Success",
    ("request_id", log.requestId) :: ("bytes_written", toString written) :: log.fields⟩

/-- The event when a body was cut off. -/
def truncated (log : ResizeLog) (written : Nat) (error : String) : Event :=
  ⟨.error, "ImageResizer: response truncated",
    ("request_id", log.requestId) :: ("bytes_written", toString written) :: log.fields
      ++ [("error", error)]⟩

end ResizeLog

/-- A committed body. -/
structure Delivery where
  /-- What is left of it. -/
  stream : Stream String
  /-- The scaler that writes it. -/
  process : Option ScalerProcess
  /-- How many bytes are out. -/
  written : Nat
  log : ResizeLog
  /-- Whether the body has ended. -/
  ended : Bool
deriving DecidableEq, Repr, Inhabited

namespace Delivery

/-- A body with nothing out yet. -/
def commit (stream : Stream String) (process : Option ScalerProcess) (log : ResizeLog) : Delivery :=
  ⟨stream, process, 0, log, false⟩

/-- Ends a body whose stream has ended.  If the scaler did not end well, that is the last item. -/
def close (delivery : Delivery) : Run (Option String) := do
  let failure ← match delivery.process with
    | none => pure none
    | some process =>
      match (← process.finish).status with
      | .ok () => pure none
      | .error error => pure (some error.message)
  match failure with
  | some error => Site.log (delivery.log.truncated delivery.written error)
  | none => Site.log (delivery.log.success delivery.written)
  return failure

/-- Gives up a body, which stops the scaler that writes it. -/
def drop (delivery : Delivery) : Run Unit :=
  match delivery.process with
  | some process => process.drop
  | none => pure ()

/-- A body that has ended. -/
def finished (delivery : Delivery) : Delivery :=
  { delivery with stream := [], process := none, ended := true }

/-- The rest of an open body, read up to the next item; the stream is given apart. -/
def nextFrom (delivery : Delivery) : Stream String → Run (Option (Except String Bytes) × Delivery)
  | .pause :: rest => nextFrom delivery rest
  | .piece bytes :: rest =>
    pure (some (.ok bytes),
      { delivery with stream := rest, written := delivery.written + bytes.length })
  | .fault cause :: rest => do
    Site.log (delivery.log.truncated delivery.written cause)
    return (some (.error cause), { delivery with stream := rest, ended := true })
  | [] => do
    let failure ← delivery.close
    return (failure.map .error, delivery.finished)

/-- The next item of a body: a piece of it, or the error that cuts it off.  Whoever reads a body
beyond its end gives it up. -/
def next (delivery : Delivery) : Run (Option (Except String Bytes) × Delivery) :=
  if delivery.ended then do
    delivery.drop
    return (none, delivery.finished)
  else nextFrom delivery delivery.stream

/-- Reads an open body up to its end, where `done` holds what was read, the last piece first.  A
body that was cut off is dropped. -/
def drainFrom (delivery : Delivery) (done : List Bytes) :
    Stream String → Run (Delivered String)
  | .pause :: rest => drainFrom delivery done rest
  | .piece bytes :: rest =>
    drainFrom { delivery with written := delivery.written + bytes.length } (bytes :: done) rest
  | .fault cause :: _ => do
    Site.log (delivery.log.truncated delivery.written cause)
    delivery.drop
    return ⟨done.reverse.flatten, some cause⟩
  | [] => do
    let failure ← delivery.close
    return ⟨done.reverse.flatten, failure⟩

/-- Reads a body up to its end. -/
def drain (delivery : Delivery) : Run (Delivered String) :=
  if delivery.ended then do
    delivery.drop
    return ⟨[], none⟩
  else drainFrom delivery [] delivery.stream

end Delivery

/-- What a client gets: a response, or the head of one and a body that is being made. -/
inductive Answer where
  | response (response : Response)
  | delivery (head : Head) (delivery : Delivery)
deriving Inhabited

namespace Answer

/-- The status and the headers of an answer. -/
def head : Answer → Head
  | .response made => made.head
  | .delivery head _ => head

/-- Reads the body of an answer up to its end. -/
def collect : Answer → Run (Delivered String)
  | .response made => pure made.body.deliver
  | .delivery _ body => body.drain

end Answer

namespace Image

/-- A stream at its first byte. -/
inductive Start where
  /-- The stream, without empty pieces before its first byte. -/
  | data (stream : Stream String)
  | empty
  | failed (cause : String)
deriving DecidableEq, Repr, Inhabited

/-- Reads a stream up to its first byte. -/
def start : Stream String → Start
  | [] => .empty
  | .pause :: rest => start rest
  | .fault cause :: _ => .failed cause
  | .piece bytes :: rest => if bytes.isEmpty then start rest else .data (.piece bytes :: rest)

/-- The answer when a request fails. -/
def fail (requestId error : String) : Run Answer := do
  Site.log (Response.failedEvent requestId error)
  return .response .failed

/-- Delivers an image unscaled. -/
def deliverUnscaled (head : Head) (stream : Stream String) (log : ResizeLog) : Run Answer :=
  match start stream with
  | .data stream => pure (.delivery head (.commit stream none log))
  | .empty => pure (.delivery head (.commit [] none log))
  | .failed cause => fail log.requestId cause

/-- Delivers an image unscaled after its scaler failed, if the image can still be had. -/
def fallBack (head : Head) (error : ResizeError) (feed : Feed) (log : ResizeLog) : Run Answer := do
  Site.log (log.degraded error)
  match feed.unscaled? with
  | some stream => deliverUnscaled head stream log
  | none => fail log.requestId error.message

/-- Delivers what a scaler writes. -/
def deliverScaled (head : Head) (run : ScalerRun) (log : ResizeLog) : Run Answer := do
  match start run.output with
  | .data stream => return .delivery head (.commit stream (some run.process) log)
  | .empty =>
    let finished ← run.process.finish
    match finished.status with
    | .ok () => return .delivery head (.commit [] none log)
    | .error error => fallBack head error finished.feed log
  | .failed cause =>
    let finished ← run.process.abort
    fallBack head (.output cause) finished.feed log

/-- What is delivered: an image unscaled, or what a scaler writes. -/
inductive Chosen where
  | unscaled (stream : Stream String)
  | scaled (run : ScalerRun)
deriving DecidableEq, Repr, Inhabited

/-- Delivers what was chosen under the head of a response, whose length is not known any more. -/
def deliver (head : Head) (chosen : Chosen) (log : ResizeLog) : Run Answer :=
  let head := { head with headers := head.headers.without Header.contentLength }
  match chosen with
  | .unscaled stream => deliverUnscaled head stream log
  | .scaled run => deliverScaled head run log

end Image

end Intercept
