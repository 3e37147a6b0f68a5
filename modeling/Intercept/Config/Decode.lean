/-
# Settings from documents

Settings come from TOML, or from JSON.  A section is a table, of which unknown keys are ignored,
or a list of its settings in order; what is missing has its standard value, for which it may matter
what folder the environment names.

How a value of either kind of document is looked at is a `Config.View`, and the sections are read
through such a view.
-/
import Intercept.Config.Settings
import Intercept.Json.Record
import Intercept.Toml.Value

namespace Intercept.Config

/-- How the values of a kind of document are looked at. -/
structure View (α : Type) where
  text? : α → Option String
  /-- The number of a value that is a whole number and not negative. -/
  number? : α → Option Nat
  bool? : α → Option Bool
  list? : α → Option (List α)
  /-- The values of a section under the given keys, each present or missing. -/
  fields? : List String → α → Option (List (Option α))
  /-- The name that stands for one of several choices. -/
  choice? : α → Option String

/-- The values of a list, of which there are at least as many as keys or the rest is missing. -/
def padded {α : Type} (keys : List String) (items : List α) : List (Option α) :=
  (items.take keys.length).map some ++ List.replicate (keys.length - items.length) none

/-- The choice that a JSON value names: by itself, or as the one key of an object. -/
def jsonChoice? : Json → Option String
  | .object [(key, .null)] => Utf8.decode? key
  | value => value.text?

/-- The items of a JSON array. -/
def jsonList? : Json → Option (List Json)
  | .array items => some items
  | _ => none

/-- JSON documents. -/
def View.json : View Json where
  text? := Json.text?
  number? := Json.nat?
  bool? := Json.bool?
  list? := jsonList?
  fields? := Json.fields?
  choice? := jsonChoice?

/-- The items of a TOML array. -/
def tomlList? : Toml → Option (List Toml)
  | .array items | .tables items => some items
  | _ => none

/-- The fields of a TOML table, or of an array, of which surplus items are ignored.  A date is a
table with a key of its own. -/
def tomlFields? (keys : List String) : Toml → Option (List (Option Toml))
  | .table _ members => some (keys.map fun key => members.lookup key)
  | .moment => some (keys.map fun _ => none)
  | .array items | .tables items => some (padded keys items)
  | _ => none

/-- The choice that a TOML value names: by itself, or as the one key of a table whose value is
empty. -/
def tomlChoice? : Toml → Option String
  | .text name => some name
  | .table _ [(name, .table _ [])] => some name
  | .table _ [(name, .array [])] => some name
  | _ => none

/-- TOML documents. -/
def View.toml : View Toml where
  text? | .text content => some content | _ => none
  number? | .integer value => if 0 ≤ value then some value.toNat else none | _ => none
  bool? | .boolean value => some value | _ => none
  list? := tomlList?
  fields? := tomlFields?
  choice? := tomlChoice?

section

variable {α β : Type} (view : View α) (folder : Option Bytes)

/-- Reads a setting that may be missing. -/
def orStandard (standard : β) (read : α → Option β) : Option α → Option β
  | none => some standard
  | some value => read value

/-- Reads a number of the given number of bits. -/
def word? (bits : Nat) (value : α) : Option Nat := (view.number? value).filter (· < Nat.pow 2 bits)

/-- Reads the listener. -/
def listener? (value : α) : Option Listener :=
  let standard : Listener := {}
  match view.fields? ["bind_address"] value with
  | some [address] => do
    let address ← orStandard standard.address view.text? address
    pure ⟨address⟩
  | _ => none

/-- Reads the application behind the proxy. -/
def backend? (value : α) : Option Backend :=
  let standard : Backend := {}
  match view.fields? ["address", "timeout_secs"] value with
  | some [address, timeout] => do
    let address ← orStandard standard.address view.text? address
    let timeout ← orStandard standard.timeout (word? view 64) timeout
    pure ⟨address, timeout⟩
  | _ => none

/-- Reads the timeouts. -/
def timeouts? (value : α) : Option Timeouts :=
  let standard : Timeouts := {}
  match view.fields? ["request_secs"] value with
  | some [request] => do
    let request ← orStandard standard.request (word? view 64) request
    pure ⟨request⟩
  | _ => none

/-- Reads how images are fetched. -/
def fetch? (value : α) : Option Fetch :=
  let standard : Fetch := {}
  match view.fields? ["connect_timeout_secs", "tcp_keepalive_secs", "pool_max_idle_per_host",
      "pool_idle_timeout_secs", "response_header_timeout_secs"] value with
  | some [connect, keepalive, maxIdle, idle, header] => do
    let connect ← orStandard standard.connectTimeout (word? view 64) connect
    let keepalive ← orStandard standard.keepalive (word? view 64) keepalive
    let maxIdle ← orStandard standard.maxIdle (word? view 64) maxIdle
    let idle ← orStandard standard.idleTimeout (word? view 64) idle
    let header ← orStandard standard.headerTimeout (word? view 64) header
    pure ⟨connect, keepalive, maxIdle, idle, header⟩
  | _ => none

/-- Reads how images are scaled. -/
def resizer? (value : α) : Option Resizer :=
  let standard : Resizer := {}
  match view.fields? ["enabled", "scaler_path", "max_scaler_procs", "max_filesize", "fetch"]
      value with
  | some [enabled, program, maxProcesses, maxSize, fetch] => do
    let enabled ← orStandard standard.enabled view.bool? enabled
    let program ← orStandard standard.program view.text? program
    let maxProcesses ← orStandard standard.maxProcesses (word? view 32) maxProcesses
    let maxSize ← orStandard standard.maxSize (word? view 64) maxSize
    let fetch ← orStandard standard.fetch (fetch? view) fetch
    pure ⟨enabled, program, maxProcesses, maxSize, fetch⟩
  | _ => none

/-- Reads an upload route, of which nothing may be missing. -/
def route? (value : α) : Option Route :=
  match view.fields? ["path_suffix", "processor"] value with
  | some [some suffix, some processor] => do
    let suffix ← view.text? suffix
    let processor ← view.text? processor
    pure ⟨suffix, processor⟩
  | _ => none

/-- Reads the upload routes. -/
def routes? (value : α) : Option (List Route) := do
  let items ← view.list? value
  items.mapM (route? view)

/-- Reads how uploads are treated. -/
def uploads? (value : α) : Option Uploads :=
  let standard := Uploads.standard folder
  match view.fields? ["exiftool_path", "temp_dir", "artifact_name", "max_form_bytes", "routes"]
      value with
  | some [stripper, directory, artifact, maxFormSize, routes] => do
    let stripper ← orStandard standard.stripper view.text? stripper
    let directory ← orStandard standard.directory view.text? directory
    let artifact ← orStandard standard.artifact view.text? artifact
    let maxFormSize ← orStandard standard.maxFormSize (word? view 64) maxFormSize
    let routes ← orStandard standard.routes (routes? view) routes
    pure ⟨stripper, directory, artifact, maxFormSize, routes⟩
  | _ => none

/-- Reads how log entries are written. -/
def logFormat? (value : α) : Option LogFormat :=
  match view.choice? value with
  | some "pretty" => some .pretty
  | some "json" => some .json
  | _ => none

/-- Reads what is logged and measured. -/
def observability? (value : α) : Option Observability :=
  let standard : Observability := {}
  match view.fields? ["log_level", "log_format", "metrics_enabled", "metrics_address"] value with
  | some [level, format, enabled, address] => do
    let level ← orStandard standard.logLevel view.text? level
    let format ← orStandard standard.logFormat (logFormat? view) format
    let enabled ← orStandard standard.metricsEnabled view.bool? enabled
    let address ← orStandard standard.metricsAddress view.text? address
    pure ⟨level, format, enabled, address⟩
  | _ => none

/-- Reads all settings. -/
def decode? (value : α) : Option Config :=
  let standard := Config.standard folder
  match view.fields? ["listener", "upstream", "timeouts", "image_resizer", "uploads",
      "observability"] value with
  | some [listener, backend, timeouts, resizer, uploads, observability] => do
    let listener ← orStandard standard.listener (listener? view) listener
    let backend ← orStandard standard.backend (backend? view) backend
    let timeouts ← orStandard standard.timeouts (timeouts? view) timeouts
    let resizer ← orStandard standard.resizer (resizer? view) resizer
    let uploads ← orStandard standard.uploads (uploads? view folder) uploads
    let observability ← orStandard standard.observability (observability? view) observability
    pure ⟨listener, backend, timeouts, resizer, uploads, observability⟩
  | _ => none

end

end Intercept.Config
