/-
# External programs

The proxy has images scaled, and metadata removed, by programs that it starts for one piece of
work each.  Such a program gets arguments, an environment and bytes to read, and is known here
by what it does: how much of its input it takes, what it writes, and how it ends.
-/
import Intercept.Http.Trace
import Intercept.Stream
import Intercept.System.Error

namespace Intercept

/-- How a program ended. -/
inductive ExitStatus where
  | code (n : Nat)
  | signal (n : Nat)
deriving DecidableEq, Repr, Inhabited

namespace ExitStatus

/-- Whether a program ended well. -/
def isSuccess (status : ExitStatus) : Bool := status == .code 0

/-- The names of the usual signals. -/
def signalNames : List (Nat × String) := [
  (1, "SIGHUP"), (2, "SIGINT"), (3, "SIGQUIT"), (4, "SIGILL"), (5, "SIGTRAP"), (6, "SIGABRT"),
  (7, "SIGBUS"), (8, "SIGFPE"), (9, "SIGKILL"), (10, "SIGUSR1"), (11, "SIGSEGV"),
  (12, "SIGUSR2"), (13, "SIGPIPE"), (14, "SIGALRM"), (15, "SIGTERM")]

/-- The text of a status. -/
def text : ExitStatus → String
  | .code n => "exit status: " ++ toString n
  | .signal n =>
    match signalNames.lookup n with
    | some name => "signal: " ++ toString n ++ " (" ++ name ++ ")"
    | none => "signal: " ++ toString n

end ExitStatus

/-- The signal that cannot be refused. -/
def ExitStatus.killed : ExitStatus := .signal 9

/-- What a program is started with. -/
structure Invocation where
  arguments : List String
  environment : Environment
deriving DecidableEq, Repr, Inhabited

namespace Invocation

/-- The value of a variable: of several entries for it the last. -/
def valueOf? (invocation : Invocation) (name : String) : Option String :=
  invocation.environment.reverse.lookup name

/-- Whether a text has a zero byte in it. -/
def hasZero (text : String) : Bool := text.toList.contains '\x00'

/-- Whether an argument or a variable has a zero byte in it, so that no program can get it. -/
def isUnfit (invocation : Invocation) : Bool :=
  invocation.arguments.any hasZero
    || invocation.environment.any fun (name, value) => hasZero name || hasZero value

end Invocation

/-- How much a program takes of what it is given. -/
inductive Intake where
  /-- Everything. -/
  | all
  /-- So many bytes; then it closes its input. -/
  | closesAfter (room : Nat)
  /-- So many bytes; writing more fails. -/
  | failsAfter (room : Nat) (cause : SystemError)
deriving DecidableEq, Repr, Inhabited

/-- What became of writing bytes to a program. -/
inductive Written where
  | whole
  /-- The program had closed its input, after some of the bytes. -/
  | closed (taken : Bytes)
  /-- Writing failed, after some of the bytes. -/
  | failed (taken : Bytes) (cause : SystemError)
deriving DecidableEq, Repr, Inhabited

/-- Writes bytes to a program that took `before` bytes so far. -/
def Intake.write (intake : Intake) (before : Nat) (bytes : Bytes) : Written :=
  match intake with
  | .all => .whole
  | .closesAfter room =>
    if before + bytes.length ≤ room then .whole else .closed (bytes.take (room - before))
  | .failsAfter room cause =>
    if before + bytes.length ≤ room then .whole else .failed (bytes.take (room - before)) cause

/-- What a program got to read. -/
structure Input where
  bytes : Bytes
  /-- Whether the program was killed before it saw the end. -/
  killed : Bool := false
deriving DecidableEq, Repr, Inhabited

/-- How a program ends that is waited for when its output has ended.  If the proxy sends it a signal
first, that may be what it ends of.  A program that does not end keeps the proxy waiting until the
request is given up; such a program is not described here. -/
inductive Ending where
  /-- It ends. -/
  | exits (status : ExitStatus)
  /-- Its end cannot be waited for. -/
  | unknown (cause : SystemError)
deriving DecidableEq, Repr, Inhabited

/-- What a program does. -/
structure Behaviour where
  output : Stream String
  errors : Bytes
  ending : Ending
deriving DecidableEq, Repr, Inhabited

/-- A program. -/
inductive Program where
  /-- It cannot be started. -/
  | missing (cause : SystemError)
  | runs (intake : Intake) (run : Invocation → Input → Behaviour)
deriving Inhabited

/-- Starts a program; nothing can be started with a zero byte in an argument or a variable. -/
def Program.start (program : Program) (invocation : Invocation) :
    Except SystemError (Intake × (Input → Behaviour)) :=
  if invocation.isUnfit then .error .zeroInArgument
  else
    match program with
    | .missing cause => .error cause
    | .runs intake run => .ok (intake, run invocation)

end Intercept
