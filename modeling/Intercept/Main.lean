/-
# The program

Reads the configuration, runs the proxy, and writes what it has to say.  Sockets are not part of
this library, so that no address can be listened on.
-/
import Intercept.CommandLine.Startup

namespace Intercept.CommandLine

/-- Why a file cannot be read. -/
def causeOf : IO.Error → SystemError
  | .noFileOrDirectory .. => .notFound
  | .permissionDenied .. => .denied
  | .inappropriateType .. => .isAFolder
  | _ => .inputOutput

/-- The contents of a file. -/
def contentsOf (path : String) : IO (Except SystemError Bytes) := do
  try
    let bytes ← IO.FS.readBinFile path
    return .ok bytes.data.toList
  catch error => return .error (causeOf error)

/-- The contents of the configuration, if the arguments name one. -/
def configuration (arguments : List String) : IO (Except SystemError Bytes) :=
  match request arguments with
  | .ok (.serve (some path)) => contentsOf path
  | _ => return .ok []

/-- The folder for files that the environment names. -/
def environmentFolder : IO (Option Bytes) :=
  return (← IO.getEnv "TMPDIR").map Utf8.encode

end Intercept.CommandLine

open Intercept.CommandLine in
/-- Runs the program. -/
def main (arguments : List String) : IO UInt32 := do
  let contents ← configuration arguments
  let platform : Platform :=
    { listen := fun _ => .error .unsupported
      filter := ← IO.getEnv "RUST_LOG"
      folder := ← environmentFolder }
  let outcome := run platform (fun _ => contents) arguments
  IO.print outcome.output
  for entry in outcome.log do
    IO.println (entry.line outcome.format)
  IO.eprint outcome.errors
  return outcome.exit.toUInt32
