/-
# Streams of bytes

A body arrives piece by piece.  Between two pieces there may be a pause, where no data is ready
yet, and where a piece should come there may be a fault.  Whoever reads a stream decides whether
to go on behind a fault; all readers here stop at the first one.
-/
import Intercept.Bytes

namespace Intercept

/-- What a stream has at one place. -/
inductive Item (φ : Type) where
  | piece (bytes : Bytes)
  | pause
  | fault (cause : φ)
deriving DecidableEq, Repr, Inhabited

/-- A stream whose faults have causes in `φ`. -/
abbrev Stream (φ : Type) := List (Item φ)

/-- What a stream delivers to a reader that stops at the first fault. -/
structure Delivered (φ : Type) where
  bytes : Bytes
  fault : Option φ
deriving DecidableEq, Repr, Inhabited

namespace Stream

variable {φ ψ : Type}

/-- A stream of one piece; of none if it is empty. -/
def once (bytes : Bytes) : Stream φ := if bytes.isEmpty then [] else [.piece bytes]

/-- The pieces before the first fault, and that fault. -/
def pieces : Stream φ → List Bytes × Option φ
  | [] => ([], none)
  | .piece bytes :: rest => ((bytes :: (pieces rest).1), (pieces rest).2)
  | .pause :: rest => pieces rest
  | .fault cause :: _ => ([], some cause)

/-- The bytes before the first fault, and that fault. -/
def deliver (stream : Stream φ) : Delivered φ :=
  let (found, fault) := pieces stream
  ⟨found.flatten, fault⟩

/-- The stream with the causes of its faults changed. -/
def mapFault (f : φ → ψ) (stream : Stream φ) : Stream ψ :=
  stream.map fun item => match item with
    | .piece bytes => .piece bytes
    | .pause => .pause
    | .fault cause => .fault (f cause)

end Stream

end Intercept
