/-
# Errors of the operating system

Why the operating system refuses a request: the causes that files, programs and sockets have in
common, their texts, and the longer form in which a program reports them when it gives up.
-/
import Intercept.Text.Quoted

namespace Intercept

/-- Why the operating system refuses. -/
inductive SystemError where
  | notFound
  | inputOutput
  | denied
  | alreadyExists
  | notAFolder
  | isAFolder
  | nameTooLong
  | unsupported
  | addressUnavailable
  /-- A name of a file has a zero byte in it. -/
  | zeroInName
  /-- An argument or a variable for a program has a zero byte in it. -/
  | zeroInArgument
  /-- A file that should be text is not. -/
  | notText
deriving DecidableEq, Repr, Inhabited

namespace SystemError

/-- The number of an error; those that are found before the operating system is asked have none. -/
def number? : SystemError → Option Nat
  | notFound => some 2
  | inputOutput => some 5
  | denied => some 13
  | alreadyExists => some 17
  | notAFolder => some 20
  | isAFolder => some 21
  | nameTooLong => some 36
  | unsupported => some 95
  | addressUnavailable => some 99
  | zeroInName | zeroInArgument | notText => none

/-- What an error says. -/
def phrase : SystemError → String
  | notFound => "No such file or directory"
  | inputOutput => "Input/output error"
  | denied => "Permission denied"
  | alreadyExists => "File exists"
  | notAFolder => "Not a directory"
  | isAFolder => "Is a directory"
  | nameTooLong => "File name too long"
  | unsupported => "Operation not supported"
  | addressUnavailable => "Cannot assign requested address"
  | zeroInName => "file name contained an unexpected NUL byte"
  | zeroInArgument => "nul byte found in provided data"
  | notText => "stream did not contain valid UTF-8"

/-- The kind that an error belongs to. -/
def kind : SystemError → String
  | notFound => "NotFound"
  | inputOutput => "Uncategorized"
  | denied => "PermissionDenied"
  | alreadyExists => "AlreadyExists"
  | notAFolder => "NotADirectory"
  | isAFolder => "IsADirectory"
  | nameTooLong => "InvalidFilename"
  | unsupported => "Unsupported"
  | addressUnavailable => "AddrNotAvailable"
  | zeroInName | zeroInArgument => "InvalidInput"
  | notText => "InvalidData"

/-- The text of an error in messages. -/
def message (error : SystemError) : String :=
  match error.number? with
  | some n => error.phrase ++ " (os error " ++ toString n ++ ")"
  | none => error.phrase

/-- An error with all its parts. -/
def detailed (error : SystemError) : String :=
  match error.number? with
  | some n =>
    "Os \x7b code: " ++ toString n ++ ", kind: " ++ error.kind ++ ", message: "
      ++ Text.quoted error.phrase ++ " \x7d"
  | none =>
    "Error \x7b kind: " ++ error.kind ++ ", message: " ++ Text.quoted error.phrase ++ " \x7d"

end SystemError

end Intercept
