/-
# Settings and their places

Every setting has a place in a document, the keys that lead to it.  A section may also be written as
a list, so that a key comes with its position in its section.  A configuration that is read from a
document has each setting from its own place alone: what stands there, or the standard value if
nothing does (`setting_of_decode?`).  The settings are all that there is in a configuration
(`eq_of_value`).
-/
import Mathlib.Tactic.Common
import Intercept.Config.Decode

namespace Intercept

/-! ### Places -/

namespace Toml

/-- What stands under a key of a section, or at its position if the section is a list. -/
def entry? (key : String) (position : Nat) : Toml → Option Toml
  | .table _ members => members.lookup key
  | .array items | .tables items => items[position]?
  | _ => none

/-- What stands at a place, which is given by keys with their positions. -/
def find? : List (String × Nat) → Toml → Option Toml
  | [], value => some value
  | (key, position) :: place, value => (value.entry? key position).bind (find? place)

end Toml

namespace Config

/-- What a setting is set to. -/
inductive Value where
  | text (content : String)
  | number (n : Nat)
  | flag (holds : Bool)
  | format (format : LogFormat)
  /-- There is nothing that could be set. -/
  | missing
deriving DecidableEq, Repr

/-- A text that there may be. -/
def Value.ofOption : Option String → Value
  | some content => .text content
  | none => .missing

lemma Value.ofOption_inj {content other : Option String} :
    ofOption content = ofOption other ↔ content = other := by
  cases content <;> cases other <;> simp [ofOption]

/-- What can be set: a setting for each key outside the upload routes, and two for each route. -/
inductive Setting where
  | listenerAddress
  | backendAddress
  | backendTimeout
  | requestTimeout
  | scaling
  | scaler
  | maxProcesses
  | maxSize
  | connectTimeout
  | keepalive
  | maxIdle
  | idleTimeout
  | headerTimeout
  | stripper
  | directory
  | artifact
  | maxFormSize
  | routeSuffix (i : Nat)
  | routeProcessor (i : Nat)
  | logLevel
  | logFormat
  | metricsEnabled
  | metricsAddress
deriving DecidableEq, Repr

namespace Setting

/-- What a configuration has a setting set to. -/
def value (config : Config) : Setting → Value
  | listenerAddress => .text config.listener.address
  | backendAddress => .text config.backend.address
  | backendTimeout => .number config.backend.timeout
  | requestTimeout => .number config.timeouts.request
  | scaling => .flag config.resizer.enabled
  | scaler => .text config.resizer.program
  | maxProcesses => .number config.resizer.maxProcesses
  | maxSize => .number config.resizer.maxSize
  | connectTimeout => .number config.resizer.fetch.connectTimeout
  | keepalive => .number config.resizer.fetch.keepalive
  | maxIdle => .number config.resizer.fetch.maxIdle
  | idleTimeout => .number config.resizer.fetch.idleTimeout
  | headerTimeout => .number config.resizer.fetch.headerTimeout
  | stripper => .text config.uploads.stripper
  | directory => .text config.uploads.directory
  | artifact => .text config.uploads.artifact
  | maxFormSize => .number config.uploads.maxFormSize
  | routeSuffix i => .ofOption (config.uploads.routes[i]?.map Route.suffix)
  | routeProcessor i => .ofOption (config.uploads.routes[i]?.map Route.processor)
  | logLevel => .text config.observability.logLevel
  | logFormat => .format config.observability.logFormat
  | metricsEnabled => .flag config.observability.metricsEnabled
  | metricsAddress => .text config.observability.metricsAddress

/-- Where a setting stands in a document.  The settings of the routes stand in one list. -/
def place : Setting → List (String × Nat)
  | listenerAddress => [("listener", 0), ("bind_address", 0)]
  | backendAddress => [("upstream", 1), ("address", 0)]
  | backendTimeout => [("upstream", 1), ("timeout_secs", 1)]
  | requestTimeout => [("timeouts", 2), ("request_secs", 0)]
  | scaling => [("image_resizer", 3), ("enabled", 0)]
  | scaler => [("image_resizer", 3), ("scaler_path", 1)]
  | maxProcesses => [("image_resizer", 3), ("max_scaler_procs", 2)]
  | maxSize => [("image_resizer", 3), ("max_filesize", 3)]
  | connectTimeout => [("image_resizer", 3), ("fetch", 4), ("connect_timeout_secs", 0)]
  | keepalive => [("image_resizer", 3), ("fetch", 4), ("tcp_keepalive_secs", 1)]
  | maxIdle => [("image_resizer", 3), ("fetch", 4), ("pool_max_idle_per_host", 2)]
  | idleTimeout => [("image_resizer", 3), ("fetch", 4), ("pool_idle_timeout_secs", 3)]
  | headerTimeout => [("image_resizer", 3), ("fetch", 4), ("response_header_timeout_secs", 4)]
  | stripper => [("uploads", 4), ("exiftool_path", 0)]
  | directory => [("uploads", 4), ("temp_dir", 1)]
  | artifact => [("uploads", 4), ("artifact_name", 2)]
  | maxFormSize => [("uploads", 4), ("max_form_bytes", 3)]
  | routeSuffix _ | routeProcessor _ => [("uploads", 4), ("routes", 4)]
  | logLevel => [("observability", 5), ("log_level", 0)]
  | logFormat => [("observability", 5), ("log_format", 1)]
  | metricsEnabled => [("observability", 5), ("metrics_enabled", 2)]
  | metricsAddress => [("observability", 5), ("metrics_address", 3)]

/-- A text. -/
def text? : Toml → Option Value
  | .text content => some (.text content)
  | _ => none

/-- A whole number of so many bits that is not negative. -/
def number? (bits : Nat) : Toml → Option Value
  | .integer (.ofNat n) => if n < Nat.pow 2 bits then some (.number n) else none
  | _ => none

/-- A switch. -/
def flag? : Toml → Option Value
  | .boolean holds => some (.flag holds)
  | _ => none

/-- A setting of the route with an index, if there is such a route. -/
def ofRoute? (i position : Nat) (key : String) (list : Toml) : Option Value :=
  (tomlList? list).bind fun items =>
    match items[i]? with
    | none => some .missing
    | some item => (item.entry? key position).bind text?

/-- What a value at the place of a setting sets it to. -/
def read? : Setting → Toml → Option Value
  | listenerAddress | backendAddress | scaler | stripper | directory | artifact | logLevel
  | metricsAddress => text?
  | backendTimeout | requestTimeout | maxSize | connectTimeout | keepalive | maxIdle | idleTimeout
  | headerTimeout | maxFormSize => number? 64
  | maxProcesses => number? 32
  | scaling | metricsEnabled => flag?
  | logFormat => fun given => (logFormat? .toml given).map .format
  | routeSuffix i => ofRoute? i 0 "path_suffix"
  | routeProcessor i => ofRoute? i 1 "processor"

end Setting

lemma route_ext {route other : Option Route}
    (hsuffix : route.map Route.suffix = other.map Route.suffix)
    (hprocessor : route.map Route.processor = other.map Route.processor) : route = other := by
  cases route with
  | none => exact (Option.map_eq_none_iff.1 hsuffix.symm).symm
  | some route =>
    obtain ⟨other, rfl, hother⟩ := Option.map_eq_some_iff.1 hsuffix.symm
    obtain ⟨suffix, processor⟩ := route
    obtain rfl := hother
    cases hprocessor
    rfl

/-- The settings are all that there is in a configuration. -/
theorem eq_of_value {config other : Config}
    (h : ∀ setting : Setting, setting.value config = setting.value other) : config = other := by
  have hroutes : config.uploads.routes = other.uploads.routes :=
    List.ext_getElem? fun i => route_ext (Value.ofOption_inj.1 (h (.routeSuffix i)))
      (Value.ofOption_inj.1 (h (.routeProcessor i)))
  obtain ⟨⟨_⟩, ⟨_, _⟩, ⟨_⟩, ⟨_, _, _, _, _, _, _, _, _⟩, ⟨_, _, _, _, _⟩, ⟨_, _, _, _⟩⟩ := config
  obtain ⟨⟨_⟩, ⟨_, _⟩, ⟨_⟩, ⟨_, _, _, _, _, _, _, _, _⟩, ⟨_, _, _, _, _⟩, ⟨_, _, _, _⟩⟩ := other
  simp only [mk.injEq, Listener.mk.injEq, Backend.mk.injEq, Timeouts.mk.injEq, Resizer.mk.injEq,
    Fetch.mk.injEq, Uploads.mk.injEq, Observability.mk.injEq]
  exact ⟨Value.text.inj (h .listenerAddress),
    ⟨Value.text.inj (h .backendAddress), Value.number.inj (h .backendTimeout)⟩,
    Value.number.inj (h .requestTimeout),
    ⟨Value.flag.inj (h .scaling), Value.text.inj (h .scaler), Value.number.inj (h .maxProcesses),
      Value.number.inj (h .maxSize), Value.number.inj (h .connectTimeout),
      Value.number.inj (h .keepalive), Value.number.inj (h .maxIdle),
      Value.number.inj (h .idleTimeout), Value.number.inj (h .headerTimeout)⟩,
    ⟨Value.text.inj (h .stripper), Value.text.inj (h .directory), Value.text.inj (h .artifact),
      Value.number.inj (h .maxFormSize), hroutes⟩,
    Value.text.inj (h .logLevel), Value.format.inj (h .logFormat),
    Value.flag.inj (h .metricsEnabled), Value.text.inj (h .metricsAddress)⟩

/-! ### Sections

A section is read field by field, each one at its key or position or else as the standard has it.
-/

/-- A section that is a list has missing items at its end. -/
lemma padded_eq (keys : List String) (items : List Toml) :
    padded keys items = keys.mapIdx fun position _ => items[position]? := by
  induction keys generalizing items with
  | nil => simp [padded]
  | cons key keys ih =>
    rw [List.mapIdx_cons]
    cases items with
    | nil =>
      have hrest := ih []
      simp only [padded, List.take_nil, List.map_nil, List.length_nil, Nat.sub_zero,
        List.nil_append, List.length_cons, List.replicate_succ, List.getElem?_nil] at hrest ⊢
      rw [hrest]
    | cons item items =>
      have hrest := ih items
      simp only [padded, List.take_succ_cons, List.map_cons, List.length_cons,
        Nat.succ_sub_succ_eq_sub, List.cons_append, List.getElem?_cons_zero,
        List.getElem?_cons_succ] at hrest ⊢
      rw [hrest]

/-- What is looked at of a section is what stands at its keys. -/
lemma fields_eq {keys : List String} {value : Toml} {fields : List (Option Toml)}
    (h : View.toml.fields? keys value = some fields) :
    fields = keys.mapIdx fun position key => value.entry? key position := by
  cases value with
  | table | moment =>
    obtain rfl := Option.some.inj h
    apply List.ext_getElem?
    intro i
    rw [List.getElem?_mapIdx, List.getElem?_map]
    rfl
  | array items | tables items => exact (Option.some.inj h).symm.trans (padded_eq keys items)
  | text | integer | float | boolean => cases h

section

variable {given : Toml} {folder : Option Bytes}

lemma listener_eq {listener : Listener} (h : listener? .toml given = some listener) :
    orStandard "0.0.0.0:8181" View.toml.text? (given.entry? "bind_address" 0)
      = some listener.address := by
  rw [listener?] at h
  split at h
  · next hfields =>
    obtain rfl := by simpa using fields_eq hfields
    obtain ⟨address, haddress, ⟨⟩⟩ := Option.bind_eq_some_iff.1 h
    exact haddress
  · cases h

lemma backend_eq {backend : Backend} (h : backend? .toml given = some backend) :
    orStandard "127.0.0.1:3000" View.toml.text? (given.entry? "address" 0) = some backend.address ∧
      orStandard 60 (word? .toml 64) (given.entry? "timeout_secs" 1) = some backend.timeout := by
  rw [backend?] at h
  split at h
  · next hfields =>
    obtain ⟨rfl, rfl⟩ := by simpa using fields_eq hfields
    simp only [Option.bind_eq_bind, Option.bind_eq_some_iff, Option.pure_def] at h
    obtain ⟨address, haddress, timeout, htimeout, ⟨⟩⟩ := h
    exact ⟨haddress, htimeout⟩
  · cases h

lemma timeouts_eq {timeouts : Timeouts} (h : timeouts? .toml given = some timeouts) :
    orStandard 600 (word? .toml 64) (given.entry? "request_secs" 0) = some timeouts.request := by
  rw [timeouts?] at h
  split at h
  · next hfields =>
    obtain rfl := by simpa using fields_eq hfields
    obtain ⟨request, hrequest, ⟨⟩⟩ := Option.bind_eq_some_iff.1 h
    exact hrequest
  · cases h

lemma fetch_eq {fetch : Fetch} (h : fetch? .toml given = some fetch) :
    orStandard 30 (word? .toml 64) (given.entry? "connect_timeout_secs" 0)
        = some fetch.connectTimeout ∧
      orStandard 10 (word? .toml 64) (given.entry? "tcp_keepalive_secs" 1)
        = some fetch.keepalive ∧
      orStandard 2 (word? .toml 64) (given.entry? "pool_max_idle_per_host" 2)
        = some fetch.maxIdle ∧
      orStandard 30 (word? .toml 64) (given.entry? "pool_idle_timeout_secs" 3)
        = some fetch.idleTimeout ∧
      orStandard 30 (word? .toml 64) (given.entry? "response_header_timeout_secs" 4)
        = some fetch.headerTimeout := by
  rw [fetch?] at h
  split at h
  · next hfields =>
    obtain ⟨rfl, rfl, rfl, rfl, rfl⟩ := by simpa using fields_eq hfields
    simp only [Option.bind_eq_bind, Option.bind_eq_some_iff, Option.pure_def] at h
    obtain ⟨connect, hconnect, keepalive, hkeepalive, maxIdle, hmaxIdle, idle, hidle, header,
      hheader, ⟨⟩⟩ := h
    exact ⟨hconnect, hkeepalive, hmaxIdle, hidle, hheader⟩
  · cases h

lemma resizer_eq {resizer : Resizer} (h : resizer? .toml given = some resizer) :
    orStandard true View.toml.bool? (given.entry? "enabled" 0) = some resizer.enabled ∧
      orStandard "resize-image" View.toml.text? (given.entry? "scaler_path" 1)
        = some resizer.program ∧
      orStandard 100 (word? .toml 32) (given.entry? "max_scaler_procs" 2)
        = some resizer.maxProcesses ∧
      orStandard 250000 (word? .toml 64) (given.entry? "max_filesize" 3) = some resizer.maxSize ∧
      orStandard {} (fetch? .toml) (given.entry? "fetch" 4) = some resizer.fetch := by
  rw [resizer?] at h
  split at h
  · next hfields =>
    obtain ⟨rfl, rfl, rfl, rfl, rfl⟩ := by simpa using fields_eq hfields
    simp only [Option.bind_eq_bind, Option.bind_eq_some_iff, Option.pure_def] at h
    obtain ⟨enabled, henabled, program, hprogram, maxProcesses, hmaxProcesses, maxSize, hmaxSize,
      fetch, hfetch, ⟨⟩⟩ := h
    exact ⟨henabled, hprogram, hmaxProcesses, hmaxSize, hfetch⟩
  · cases h

lemma uploads_eq {uploads : Uploads} (h : uploads? .toml folder given = some uploads) :
    orStandard "exiftool" View.toml.text? (given.entry? "exiftool_path" 0)
        = some uploads.stripper ∧
      orStandard (Uploads.standard folder).directory View.toml.text? (given.entry? "temp_dir" 1)
        = some uploads.directory ∧
      orStandard "dump.lsif" View.toml.text? (given.entry? "artifact_name" 2)
        = some uploads.artifact ∧
      orStandard 1073741824 (word? .toml 64) (given.entry? "max_form_bytes" 3)
        = some uploads.maxFormSize ∧
      orStandard [⟨"/uploads", "uploads"⟩] (routes? .toml) (given.entry? "routes" 4)
        = some uploads.routes := by
  rw [uploads?] at h
  split at h
  · next hfields =>
    obtain ⟨rfl, rfl, rfl, rfl, rfl⟩ := by simpa using fields_eq hfields
    simp only [Option.bind_eq_bind, Option.bind_eq_some_iff, Option.pure_def] at h
    obtain ⟨stripper, hstripper, directory, hdirectory, artifact, hartifact, maxFormSize,
      hmaxFormSize, routes, hroutes, ⟨⟩⟩ := h
    exact ⟨hstripper, hdirectory, hartifact, hmaxFormSize, hroutes⟩
  · cases h

lemma observability_eq {observability : Observability}
    (h : observability? .toml given = some observability) :
    orStandard "info" View.toml.text? (given.entry? "log_level" 0)
        = some observability.logLevel ∧
      orStandard .pretty (logFormat? .toml) (given.entry? "log_format" 1)
        = some observability.logFormat ∧
      orStandard true View.toml.bool? (given.entry? "metrics_enabled" 2)
        = some observability.metricsEnabled ∧
      orStandard "0.0.0.0:9229" View.toml.text? (given.entry? "metrics_address" 3)
        = some observability.metricsAddress := by
  rw [observability?] at h
  split at h
  · next hfields =>
    obtain ⟨rfl, rfl, rfl, rfl⟩ := by simpa using fields_eq hfields
    simp only [Option.bind_eq_bind, Option.bind_eq_some_iff, Option.pure_def] at h
    obtain ⟨level, hlevel, format, hformat, enabled, henabled, address, haddress, ⟨⟩⟩ := h
    exact ⟨hlevel, hformat, henabled, haddress⟩
  · cases h

lemma sections_eq {config : Config} (h : decode? .toml folder given = some config) :
    orStandard {} (listener? .toml) (given.entry? "listener" 0) = some config.listener ∧
      orStandard {} (backend? .toml) (given.entry? "upstream" 1) = some config.backend ∧
      orStandard {} (timeouts? .toml) (given.entry? "timeouts" 2) = some config.timeouts ∧
      orStandard {} (resizer? .toml) (given.entry? "image_resizer" 3) = some config.resizer ∧
      orStandard (.standard folder) (uploads? .toml folder) (given.entry? "uploads" 4)
        = some config.uploads ∧
      orStandard {} (observability? .toml) (given.entry? "observability" 5)
        = some config.observability := by
  rw [decode?] at h
  split at h
  · next hfields =>
    obtain ⟨rfl, rfl, rfl, rfl, rfl, rfl⟩ := by simpa using fields_eq hfields
    simp only [Option.bind_eq_bind, Option.bind_eq_some_iff, Option.pure_def] at h
    obtain ⟨listener, hlistener, backend, hbackend, timeouts, htimeouts, resizer, hresizer,
      uploads, huploads, observability, hobservability, ⟨⟩⟩ := h
    exact ⟨hlistener, hbackend, htimeouts, hresizer, huploads, hobservability⟩
  · cases h

lemma route_eq {route : Route} (h : route? .toml given = some route) :
    (given.entry? "path_suffix" 0).bind View.toml.text? = some route.suffix ∧
      (given.entry? "processor" 1).bind View.toml.text? = some route.processor := by
  rw [route?] at h
  split at h
  · next hfields =>
    obtain ⟨hsuffix, hprocessor⟩ := by simpa using fields_eq hfields
    simp only [Option.bind_eq_bind, Option.bind_eq_some_iff, Option.pure_def] at h
    obtain ⟨suffix, hs, processor, hp, ⟨⟩⟩ := h
    rw [← hsuffix, ← hprocessor]
    exact ⟨hs, hp⟩
  · cases h

/-- Just the routes that are listed are read. -/
lemma routes_eq {routes : List Route} (h : routes? .toml given = some routes) :
    ∃ items : List Toml, tomlList? given = some items ∧
      ∀ i : Nat, (items[i]?).map (route? .toml) = (routes[i]?).map some := by
  obtain ⟨items, hitems, hroutes⟩ := Option.bind_eq_some_iff.1 h
  refine ⟨items, hitems, ?_⟩
  clear h hitems
  induction items generalizing routes with
  | nil =>
    obtain rfl : [] = routes := by simpa using hroutes
    intro i
    rfl
  | cons item items ih =>
    rw [List.mapM_cons] at hroutes
    simp only [Option.bind_eq_bind, Option.bind_eq_some_iff, Option.pure_def] at hroutes
    obtain ⟨route, hroute, rest, hrest, ⟨⟩⟩ := hroutes
    intro i
    cases i with
    | zero => simpa using hroute
    | succ i => exact ih hrest i

end

/-! ### Settings -/

section

variable {given document : Toml}

lemma text?_of {content : String} (h : View.toml.text? given = some content) :
    Setting.text? given = some (.text content) := by
  cases given with
  | text => exact congrArg (Option.map Value.text) h
  | _ => cases h

lemma flag?_of {holds : Bool} (h : View.toml.bool? given = some holds) :
    Setting.flag? given = some (.flag holds) := by
  cases given with
  | boolean => exact congrArg (Option.map Value.flag) h
  | _ => cases h

lemma number?_of {bits n : Nat} (h : word? .toml bits given = some n) :
    Setting.number? bits given = some (.number n) := by
  cases given with
  | integer value =>
    obtain ⟨hnumber, hlt⟩ := Option.filter_eq_some_iff.1 h
    cases value with
    | ofNat m =>
      obtain rfl : m = n := Option.some.inj hnumber
      exact if_pos (of_decide_eq_true hlt)
    | negSucc m => cases hnumber
  | _ => cases h

/-- A setting in a section stands where it does in the section, behind the key of the section. -/
lemma within {β : Type} {standard result : β} {section? : Toml → Option β} {key : String}
    {position : Nat} {place : List (String × Nat)} {read : Toml → Option Value} (f : β → Value)
    (h : orStandard standard section? (document.entry? key position) = some result)
    (hwithin : ∀ {given inner}, section? given = some inner →
      orStandard (f standard) read (given.find? place) = some (f inner)) :
    orStandard (f standard) read (document.find? ((key, position) :: place))
      = some (f result) := by
  rw [Toml.find?]
  cases hentry : document.entry? key position with
  | none =>
    rw [hentry] at h
    obtain rfl := Option.some.inj h
    rfl
  | some given =>
    rw [hentry] at h
    exact hwithin h

lemma ofRoute?_of {routes : List Route} {i position : Nat} {key : String} {part : Route → String}
    (hpart : ∀ {given route}, route? .toml given = some route →
      (given.entry? key position).bind View.toml.text? = some (part route))
    (h : routes? .toml given = some routes) :
    Setting.ofRoute? i position key given = some (.ofOption (routes[i]?.map part)) := by
  obtain ⟨items, hitems, hroutes⟩ := routes_eq h
  have hi := hroutes i
  rw [Setting.ofRoute?, hitems, Option.bind_some]
  cases hitem : items[i]? with
  | none =>
    rw [hitem] at hi
    rw [Option.map_eq_none_iff.1 hi.symm]
    rfl
  | some item =>
    rw [hitem] at hi
    obtain ⟨route, hroute, hsome⟩ := Option.map_eq_some_iff.1 hi.symm
    obtain ⟨value, hvalue, htext⟩ := Option.bind_eq_some_iff.1 (hpart hsome.symm)
    rw [hroute]
    exact Option.bind_eq_some_iff.2 ⟨value, hvalue, text?_of htext⟩

section

variable {key : String} {position : Nat}

lemma text_at {standard content : String}
    (h : orStandard standard View.toml.text? (given.entry? key position) = some content) :
    orStandard (.text standard) Setting.text? (given.find? [(key, position)])
      = some (.text content) :=
  within .text h fun h => text?_of h

lemma flag_at {standard holds : Bool}
    (h : orStandard standard View.toml.bool? (given.entry? key position) = some holds) :
    orStandard (.flag standard) Setting.flag? (given.find? [(key, position)])
      = some (.flag holds) :=
  within .flag h fun h => flag?_of h

lemma number_at {bits standard n : Nat}
    (h : orStandard standard (word? .toml bits) (given.entry? key position) = some n) :
    orStandard (.number standard) (Setting.number? bits) (given.find? [(key, position)])
      = some (.number n) :=
  within .number h fun h => number?_of h

lemma format_at {standard format : LogFormat}
    (h : orStandard standard (logFormat? .toml) (given.entry? key position) = some format) :
    orStandard (.format standard) (Setting.read? .logFormat) (given.find? [(key, position)])
      = some (.format format) :=
  within .format h fun h => congrArg (Option.map Value.format) h

lemma route_at {standard routes : List Route} (i : Nat) {inner : String} {place : Nat}
    {part : Route → String}
    (hpart : ∀ {given route}, route? .toml given = some route →
      (given.entry? inner place).bind View.toml.text? = some (part route))
    (h : orStandard standard (routes? .toml) (given.entry? key position) = some routes) :
    orStandard (.ofOption (standard[i]?.map part)) (Setting.ofRoute? i place inner)
        (given.find? [(key, position)])
      = some (.ofOption (routes[i]?.map part)) :=
  within (fun routes : List Route => .ofOption (routes[i]?.map part)) h fun h => ofRoute?_of hpart h

end

/-- **Settings of documents.**  Every setting is what stands at its place, or the standard value if
nothing stands there, whatever else is in the document. -/
theorem setting_of_decode? {folder : Option Bytes} {config : Config}
    (h : decode? .toml folder document = some config) (setting : Setting) :
    orStandard (setting.value (standard folder)) setting.read? (document.find? setting.place)
      = some (setting.value config) := by
  obtain ⟨hlistener, hbackend, htimeouts, hresizer, huploads, hobservability⟩ := sections_eq h
  -- these settings lie in a section of a section
  have hfetch : ∀ {part : Fetch → Nat} {key : String} {position : Nat},
      (∀ {given fetch}, fetch? .toml given = some fetch →
        orStandard (part {}) (word? .toml 64) (given.entry? key position) = some (part fetch)) →
      orStandard (.number (part {})) (Setting.number? 64)
          (document.find? [("image_resizer", 3), ("fetch", 4), (key, position)])
        = some (.number (part config.resizer.fetch)) := by
    intro part key position hpart
    exact within (fun resizer => .number (part resizer.fetch)) hresizer fun h =>
      within (fun fetch => .number (part fetch)) (resizer_eq h).2.2.2.2 fun h =>
        number_at (hpart h)
  cases setting with
  | listenerAddress =>
    exact within (.text ·.address) hlistener fun h => text_at (listener_eq h)
  | backendAddress =>
    exact within (.text ·.address) hbackend fun h => text_at (backend_eq h).1
  | backendTimeout =>
    exact within (.number ·.timeout) hbackend fun h => number_at (backend_eq h).2
  | requestTimeout =>
    exact within (.number ·.request) htimeouts fun h => number_at (timeouts_eq h)
  | scaling =>
    exact within (.flag ·.enabled) hresizer fun h => flag_at (resizer_eq h).1
  | scaler =>
    exact within (.text ·.program) hresizer fun h => text_at (resizer_eq h).2.1
  | maxProcesses =>
    exact within (.number ·.maxProcesses) hresizer fun h => number_at (resizer_eq h).2.2.1
  | maxSize =>
    exact within (.number ·.maxSize) hresizer fun h => number_at (resizer_eq h).2.2.2.1
  | connectTimeout => exact hfetch fun h => (fetch_eq h).1
  | keepalive => exact hfetch fun h => (fetch_eq h).2.1
  | maxIdle => exact hfetch fun h => (fetch_eq h).2.2.1
  | idleTimeout => exact hfetch fun h => (fetch_eq h).2.2.2.1
  | headerTimeout => exact hfetch fun h => (fetch_eq h).2.2.2.2
  | stripper =>
    exact within (.text ·.stripper) huploads fun h => text_at (uploads_eq h).1
  | directory =>
    exact within (.text ·.directory) huploads fun h => text_at (uploads_eq h).2.1
  | artifact =>
    exact within (.text ·.artifact) huploads fun h => text_at (uploads_eq h).2.2.1
  | maxFormSize =>
    exact within (.number ·.maxFormSize) huploads fun h => number_at (uploads_eq h).2.2.2.1
  | routeSuffix i =>
    exact within (fun uploads => .ofOption (uploads.routes[i]?.map Route.suffix)) huploads
      fun h => route_at i (fun h => (route_eq h).1) (uploads_eq h).2.2.2.2
  | routeProcessor i =>
    exact within (fun uploads => .ofOption (uploads.routes[i]?.map Route.processor)) huploads
      fun h => route_at i (fun h => (route_eq h).2) (uploads_eq h).2.2.2.2
  | logLevel =>
    exact within (.text ·.logLevel) hobservability fun h => text_at (observability_eq h).1
  | logFormat =>
    exact within (.format ·.logFormat) hobservability fun h => format_at (observability_eq h).2.1
  | metricsEnabled =>
    exact within (.flag ·.metricsEnabled) hobservability fun h => flag_at (observability_eq h).2.2.1
  | metricsAddress =>
    exact within (.text ·.metricsAddress) hobservability fun h => text_at (observability_eq h).2.2.2

end

end Config

end Intercept
