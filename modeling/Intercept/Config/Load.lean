/-
# Loading the configuration

A configuration comes from a TOML document, and is accepted if no check finds a problem.  The
environment may name a standard folder for files.
-/
import Intercept.Config.Checks
import Intercept.Config.Decode
import Intercept.System.Error
import Intercept.Toml.Reader

namespace Intercept

/-- Why there is no configuration. -/
inductive Config.Error where
  /-- The file cannot be read. -/
  | unreadable (cause : SystemError)
  /-- The document is no TOML, or its values do not fit the settings. -/
  | malformed
  /-- The checks found problems. -/
  | rejected (problems : List Config.Problem)
deriving DecidableEq, Repr, Inhabited

namespace Config

/-- The text of an error. -/
def Error.message : Error → String
  | .unreadable cause => "IO error: " ++ cause.message
  | .malformed => "Parse error: malformed configuration"
  | .rejected problems =>
    "Validation failed: " ++ String.intercalate ", " (problems.map Problem.message)

/-- A problem with all its parts. -/
def Problem.detailed (problem : Problem) : String :=
  "ValidationError \x7b field: " ++ Text.quoted problem.setting ++ ", message: "
    ++ Text.quoted problem.complaint ++ " \x7d"

/-- An error with all its parts. -/
def Error.detailed : Error → String
  | .unreadable cause => "Io(" ++ cause.detailed ++ ")"
  | .malformed => "Parse(malformed configuration)"
  | .rejected problems =>
    "Validation([" ++ String.intercalate ", " (problems.map Problem.detailed) ++ "])"

/-- The configuration, if no check finds a problem. -/
def checked (config : Config) : Except Error Config :=
  match config.problems with
  | [] => .ok config
  | found => .error (.rejected found)

/-- The configuration that a text describes. -/
def parse (folder : Option Bytes) (text : String) : Except Error Config :=
  match (Toml.parse? text).bind fun members => decode? .toml folder (.table .header members) with
  | none => .error .malformed
  | some config => checked config

/-- The configuration in a file, given what came of reading it. -/
def load (folder : Option Bytes) (contents : Except SystemError Bytes) : Except Error Config :=
  match contents with
  | .error cause => .error (.unreadable cause)
  | .ok bytes =>
    match Utf8.decode? bytes with
    | none => .error (.unreadable .notText)
    | some text => parse folder text

end Config

end Intercept
