/-
# From the start to the end of the program

The program loads its configuration, publishes its metrics, listens, sets up the proxy, and
serves until a signal stops it.  Each step is logged, and a step that fails ends the program with
an error, except that it does without metrics if they cannot be published.
-/
import Intercept.CommandLine.Options
import Intercept.Config.Load
import Intercept.Log.Filter
import Intercept.Server

namespace Intercept.CommandLine

/-- An entry of the log, and the name under which it is logged. -/
structure Entry where
  name : String
  level : Level
  message : String
deriving DecidableEq, Repr, Inhabited

/-- The name of a level in the log. -/
def levelName : Level → String
  | .debug => "DEBUG"
  | .info => "INFO"
  | .warn => "WARN"
  | .error => "ERROR"

/-- An entry as a line of the log. -/
def Entry.line (format : Config.LogFormat) (entry : Entry) : String :=
  match format with
  | .pretty => levelName entry.level ++ " " ++ entry.name ++ ": " ++ entry.message
  | .json =>
    let members := [("level", Json.text (levelName entry.level)),
      ("fields", .object [(Utf8.encode "message", .text entry.message)]),
      ("target", .text entry.name)]
    Utf8.decodeLossy (Json.object (members.map fun (key, value) => (Utf8.encode key, value))).render

/-- How the program ends. -/
structure Outcome where
  exit : Nat
  /-- What it writes to its standard output, besides the log. -/
  output : String := ""
  /-- What it writes to its standard error. -/
  errors : String := ""
  /-- The entries of the log that are shown, and how they are written. -/
  log : List Entry := []
  format : Config.LogFormat := .pretty
deriving DecidableEq, Repr, Inhabited

/-- What the program finds when it is started. -/
structure Platform where
  /-- What comes of listening on an address. -/
  listen : String → Except SystemError Unit
  /-- The filter for the log in the environment. -/
  filter : Option String := none
  /-- The folder for files in the environment. -/
  folder : Option Bytes := none
deriving Inhabited

/-- The filter for the log: the one in the environment if it is well formed, or else one that
shows the proxy's own events up to the configured level. -/
def filterOf (platform : Platform) (config : Config) : LogFilter :=
  let level := config.observability.logLevel
  (platform.filter.bind LogFilter.parse?).getD
    (.parseLossy ("intercept_proxy=" ++ level ++ ",tower_http=" ++ level))

/-- The entry for an event of the program itself. -/
def mainEntry (message : String) : Entry := ⟨"intercept_proxy", .info, message⟩

/-- The entry for an event of the server. -/
def serverEntry (level : Level) (message : String) : Entry :=
  ⟨"intercept_proxy::http::server", level, message⟩

/-- The entry about the publishing of metrics. -/
def metricsEntries (platform : Platform) (config : Config) : List Entry :=
  if config.observability.metricsEnabled then
    match platform.listen config.observability.metricsAddress with
    | .ok () =>
      [⟨"intercept_proxy::observability::metrics", .info, "Metrics endpoint listening"⟩]
    | .error _ =>
      [⟨"intercept_proxy::observability::metrics", .error, "Failed to install metrics exporter"⟩]
  else []

/-- The entries from the start of the server to its end. -/
def serveEntries : List Entry := [
  serverEntry .debug "HTTP server configured",
  serverEntry .info "HTTP server starting",
  ⟨"intercept_proxy::lifecycle::signals", .info, "Signal received"⟩,
  serverEntry .info "Shutdown signal received",
  serverEntry .info "HTTP server stopped",
  mainEntry "Shutdown complete"]

/-- The entries up to the end of the program, and the error that it ends with. -/
def entries (platform : Platform) (config : Config) : List Entry × Option String :=
  let before := [mainEntry "intercept-proxy starting", mainEntry "Configuration loaded"]
    ++ metricsEntries platform config
  match platform.listen config.listener.address with
  | .error cause => (before, some cause.detailed)
  | .ok () =>
    let listening := before ++ [mainEntry "Listening for connections"]
    match Server.make config with
    | .error _ => (listening, some "Upstream(InvalidUri(InvalidAuthority))")
    | .ok _ => (listening ++ serveEntries, none)

/-- What a program writes that ends with an error. -/
def errorText (error : String) : String := "Error: " ++ error ++ "\n"

/-- Runs the program with a configuration. -/
def serve (platform : Platform) (config : Config) : Outcome :=
  let (entries, error) := entries platform config
  let filter := filterOf platform config
  { exit := if error.isSome then 1 else 0
    errors := (error.map errorText).getD ""
    log := entries.filter fun entry => filter.shows entry.name entry.level
    format := config.observability.logFormat }

/-- Runs the program with what came of loading its configuration. -/
def start (platform : Platform) : Except Config.Error Config → Outcome
  | .ok config => serve platform config
  | .error error => { exit := 1, errors := errorText error.detailed }

/-- Runs the program, where `readFile` gives the contents of files. -/
def run (platform : Platform) (readFile : String → Except SystemError Bytes)
    (arguments : List String) : Outcome :=
  match request arguments with
  | .error mistake => { exit := 2, errors := mistake.text }
  | .ok .showHelp => { exit := 0, output := helpText }
  | .ok .showVersion => { exit := 0, output := versionText }
  | .ok (.serve none) => start platform (.ok (Config.standard platform.folder))
  | .ok (.serve (some path)) => start platform (Config.load platform.folder (readFile path))

/-- The lines that the program writes to its standard output. -/
def Outcome.lineCount (outcome : Outcome) : Nat :=
  (outcome.output.toList.filter (· = '\n')).length + outcome.log.length

end Intercept.CommandLine
