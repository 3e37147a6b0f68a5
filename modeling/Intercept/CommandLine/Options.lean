/-
# Options of the command line

The program takes one option, the path of its configuration, and two that ask it about itself.
-/

namespace Intercept.CommandLine

/-- What the program is asked to do. -/
inductive Request where
  /-- To run with the configuration in a file, or with the standard one. -/
  | serve (config : Option String)
  | showHelp
  | showVersion
deriving DecidableEq, Repr, Inhabited

/-- Why the options make no sense. -/
inductive Mistake where
  /-- There is no such option, and nothing but options is expected. -/
  | unexpected (argument : String)
  /-- The path of the configuration is missing or empty. -/
  | missingPath
  /-- The path of the configuration is given twice. -/
  | repeatedPath
  /-- An option that takes no value has one. -/
  | needlessValue (option value : String)
deriving DecidableEq, Repr, Inhabited

/-- The name and number of the program's version. -/
def versionText : String := "intercept-proxy 0.1.0\n"

/-- How the program is called. -/
def usageLine : String := "Usage: intercept-proxy [OPTIONS]\n"

/-- The text that explains the options. -/
def helpText : String :=
  "Intercepting reverse proxy\n\n" ++ usageLine ++ "\nOptions:\n"
    ++ "  -c, --config <CONFIG>  Path to a TOML configuration file. Defaults apply when omitted\n"
    ++ "  -h, --help             Print help\n"
    ++ "  -V, --version          Print version\n"

/-- What is said about a mistake. -/
def Mistake.text (mistake : Mistake) : String :=
  let closing := "\nFor more information, try '--help'.\n"
  match mistake with
  | .unexpected argument =>
    "error: unexpected argument '" ++ argument ++ "' found\n\n" ++ usageLine ++ closing
  | .missingPath =>
    "error: a value is required for '--config <CONFIG>' but none was supplied\n" ++ closing
  | .repeatedPath =>
    "error: the argument '--config <CONFIG>' cannot be used multiple times\n\n" ++ usageLine
      ++ closing
  | .needlessValue option value =>
    "error: unexpected value '" ++ value ++ "' for '" ++ option
      ++ "' found; no more were expected\n\n" ++ usageLine ++ closing

/-- Takes in the path of the configuration, where `config` is the path given before. -/
def withPath (config : Option String) (path : List Char) : Except Mistake (Option String) :=
  if config.isSome then .error .repeatedPath
  else if path.isEmpty then .error .missingPath
  else .ok (some (String.ofList path))

/-- Whether an argument can be a path: what starts with a dash is an option. -/
def canBePath (argument : String) : Bool :=
  argument = "-" || argument.toList.head? != some '-'

/-- What one argument says. -/
inductive Token where
  /-- The path of the configuration; nothing if it is the next argument. -/
  | path (inline : Option (List Char))
  | request (request : Request)
  | mistake (mistake : Mistake)
  /-- No options follow. -/
  | last
deriving Repr, Inhabited

/-- A long option, and the value behind its equals sign. -/
def longToken (argument : String) (input : List Char) : Token :=
  let name := input.takeWhile (· ≠ '=')
  let value := if input.length = name.length then none else some (input.drop (name.length + 1))
  let flag (request : Request) : Token :=
    match value with
    | none => .request request
    | some value => .mistake (.needlessValue ("--" ++ String.ofList name) (String.ofList value))
  match String.ofList name with
  | "config" => .path value
  | "help" => flag .showHelp
  | "version" => flag .showVersion
  | _ => .mistake (.unexpected (if value.isSome then "--" ++ String.ofList name else argument))

/-- What one argument says. -/
def token (argument : String) : Token :=
  match argument.toList with
  | ['-', '-'] => .last
  | '-' :: '-' :: input => longToken argument input
  | '-' :: 'c' :: [] => .path none
  | '-' :: 'c' :: '=' :: value => .path (some value)
  | '-' :: 'c' :: value => .path (some value)
  | '-' :: 'h' :: _ => .request .showHelp
  | '-' :: 'V' :: _ => .request .showVersion
  | '-' :: c :: _ => .mistake (.unexpected (String.ofList ['-', c]))
  | _ => .mistake (.unexpected argument)

/-- What the arguments ask for, where `config` is the path given before. -/
def requestFrom (config : Option String) : List String → Except Mistake Request
  | [] => .ok (.serve config)
  | argument :: rest =>
    match token argument with
    | .request request => .ok request
    | .mistake mistake => .error mistake
    | .last =>
      match rest with
      | [] => .ok (.serve config)
      | argument :: _ => .error (.unexpected argument)
    | .path (some path) =>
      match withPath config path with
      | .ok config => requestFrom config rest
      | .error mistake => .error mistake
    | .path none =>
      match rest with
      | [] => .error .missingPath
      | path :: rest =>
        if canBePath path then
          match withPath config path.toList with
          | .ok config => requestFrom config rest
          | .error mistake => .error mistake
        else .error .missingPath

/-- What the arguments ask for. -/
def request (arguments : List String) : Except Mistake Request := requestFrom none arguments

end Intercept.CommandLine
