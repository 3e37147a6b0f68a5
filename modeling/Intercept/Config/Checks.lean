/-
# Checks of the settings

Settings that can be read may still make no sense.  Every check looks at the whole
configuration and reports its problems; all checks are made, in a fixed order, so that a broken
configuration is reported at once.
-/
import Intercept.Config.Settings
import Intercept.Net.SocketAddress
import Intercept.Text.Blank
import Intercept.Text.Quoted

namespace Intercept.Config

/-- A problem: the setting that it is about, and what is wrong with it. -/
structure Problem where
  setting : String
  complaint : String
deriving DecidableEq, Repr, Inhabited

/-- The text of a problem. -/
def Problem.message (problem : Problem) : String := problem.setting ++ ": " ++ problem.complaint

/-- One problem if the condition holds. -/
def problemIf (condition : Bool) (setting complaint : String) : List Problem :=
  if condition then [⟨setting, complaint⟩] else []

/-- The problem of an address that is not written as one. -/
def addressProblem (setting address : String) : List Problem :=
  problemIf (!SocketAddress.isWritten address) setting
    ("invalid socket address " ++ Text.quoted address)

/-- The problems of an upload route. -/
def routeProblems (route : Route) : List Problem :=
  problemIf (route.suffix.toList.head? != some '/') "uploads.routes.path_suffix"
      (Text.quoted route.suffix ++ " must start with '/'")
    ++ problemIf route.processor.isEmpty "uploads.routes.processor" "must not be empty"

/-- The checks, in order. -/
def checks : List (Config → List Problem) := [
  fun config => addressProblem "listener.bind_address" config.listener.address,
  fun config => addressProblem "upstream.address" config.backend.address,
  fun config => problemIf (config.backend.timeout == 0) "upstream.timeout_secs" "must be > 0",
  fun config => problemIf (config.timeouts.request == 0) "timeouts.request_secs" "must be > 0",
  fun config =>
    problemIf (config.resizer.enabled && Text.isAllBlank config.resizer.program)
      "image_resizer.scaler_path" "must be set when the resizer is enabled",
  fun config =>
    problemIf (config.resizer.maxProcesses == 0) "image_resizer.max_scaler_procs" "must be > 0",
  fun config =>
    problemIf (config.resizer.fetch.connectTimeout == 0 || config.resizer.fetch.headerTimeout == 0)
      "image_resizer.fetch" "timeouts must be > 0",
  fun config =>
    problemIf (Text.isAllBlank config.uploads.stripper) "uploads.exiftool_path" "must be set",
  fun config => problemIf config.uploads.artifact.isEmpty "uploads.artifact_name" "must be set",
  fun config => config.uploads.routes.flatMap routeProblems,
  fun config =>
    if config.observability.metricsEnabled then
      addressProblem "observability.metrics_address" config.observability.metricsAddress
    else []]

/-- The problems of a configuration. -/
def problems (config : Config) : List Problem := checks.flatMap fun check => check config

end Intercept.Config
