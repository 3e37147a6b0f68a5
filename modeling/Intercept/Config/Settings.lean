/-
# Settings

Everything that can be configured, in sections, each setting with its standard value.  The standard
folder for files may be another one, which the environment names as the program starts.
-/
import Intercept.Text.Utf8
import Intercept.Upload.Route

namespace Intercept

/-- Where the proxy listens. -/
structure Config.Listener where
  address : String := "0.0.0.0:8181"
deriving DecidableEq, Repr, Inhabited

/-- The application behind the proxy. -/
structure Config.Backend where
  address : String := "127.0.0.1:3000"
  /-- How many seconds the application has for an answer. -/
  timeout : Nat := 60
deriving DecidableEq, Repr, Inhabited

/-- How long a request may take. -/
structure Config.Timeouts where
  /-- How many seconds a whole request may take. -/
  request : Nat := 600
deriving DecidableEq, Repr, Inhabited

/-- How images are fetched from other servers; the times are in seconds. -/
structure Config.Fetch where
  connectTimeout : Nat := 30
  keepalive : Nat := 10
  /-- How many idle connections are kept to one host. -/
  maxIdle : Nat := 2
  idleTimeout : Nat := 30
  headerTimeout : Nat := 30
deriving DecidableEq, Repr, Inhabited

/-- How images are scaled. -/
structure Config.Resizer where
  /-- Whether images are scaled at all. -/
  enabled : Bool := true
  /-- The program that scales an image. -/
  program : String := "resize-image"
  /-- How many scaler processes may be alive at once. -/
  maxProcesses : Nat := 100
  /-- The size in bytes above which an image is not scaled. -/
  maxSize : Nat := 250000
  fetch : Config.Fetch := {}
deriving DecidableEq, Repr, Inhabited

/-- How uploads are treated. -/
structure Config.Uploads where
  /-- The program that removes metadata from images. -/
  stripper : String := "exiftool"
  /-- Where files are stored if the application names no place; the usual folder, unless the
  environment names one. -/
  directory : String := "/tmp"
  /-- The entry that is taken out of archives. -/
  artifact : String := "dump.lsif"
  /-- The size in bytes above which a form is turned down. -/
  maxFormSize : Nat := 1073741824
  routes : List Route := [⟨"/uploads", "uploads"⟩]
deriving DecidableEq, Repr, Inhabited

/-- How uploads are treated as a standard, where the environment may name a folder for files.  What
is no text in its name is replaced. -/
def Config.Uploads.standard (folder : Option Bytes) : Config.Uploads :=
  { directory := (folder.map Utf8.decodeLossy).getD ({} : Config.Uploads).directory }

/-- How log entries are written. -/
inductive Config.LogFormat where
  | pretty
  | json
deriving DecidableEq, Repr, Inhabited

/-- What is logged and measured. -/
structure Config.Observability where
  /-- The level from which on events are logged. -/
  logLevel : String := "info"
  logFormat : Config.LogFormat := .pretty
  /-- Whether metrics are published. -/
  metricsEnabled : Bool := true
  metricsAddress : String := "0.0.0.0:9229"
deriving DecidableEq, Repr, Inhabited

/-- All settings. -/
structure Config where
  listener : Config.Listener := {}
  backend : Config.Backend := {}
  timeouts : Config.Timeouts := {}
  resizer : Config.Resizer := {}
  uploads : Config.Uploads := {}
  observability : Config.Observability := {}
deriving DecidableEq, Repr, Inhabited

/-- The standard settings, where the environment may name a folder for files. -/
def Config.standard (folder : Option Bytes) : Config := { uploads := .standard folder }

end Intercept
