/-
# Log events and metrics

What a request leaves in the log and in the metrics.  An event has a level, a message and named
fields; a metric is a number under a name, with a label for those that are kept per upload
route.
-/

namespace Intercept

/-- How serious an event is. -/
inductive Level where
  | debug
  | info
  | warn
  | error
deriving DecidableEq, Repr, Inhabited

/-- One entry of the log. -/
structure Event where
  level : Level
  message : String
  fields : List (String × String)
deriving DecidableEq, Repr, Inhabited

/-- What is measured. -/
inductive Metric where
  /-- The scaler processes alive. -/
  | scalersAlive
  /-- How often a scaler was not started since too many were alive. -/
  | scalersRefused
  /-- The scaler runs that were completed. -/
  | resizesCompleted
  /-- The uploads of a route. -/
  | uploadRequests (route : String)
  /-- The file parts in the uploads of a route. -/
  | uploadFiles (route : String)
  /-- The bytes of the file parts stored for a route. -/
  | uploadBytes (route : String)
deriving DecidableEq, Repr, Inhabited

/-- The name under which a metric is published. -/
def Metric.name : Metric → String
  | .scalersAlive => "image_resize_processes"
  | .scalersRefused => "image_resize_concurrency_limit_exceeds_total"
  | .resizesCompleted => "image_resize_completed_total"
  | .uploadRequests _ => "multipart_upload_requests"
  | .uploadFiles _ => "multipart_upload_files"
  | .uploadBytes _ => "multipart_upload_bytes"

/-- The label of a metric, if it has one. -/
def Metric.label? : Metric → Option String
  | .uploadRequests route | .uploadFiles route | .uploadBytes route => some route
  | _ => none

/-- The events so far, and the values of the metrics that were touched. -/
structure Journal where
  events : List Event := []
  values : List (Metric × Nat) := []
deriving Repr, Inhabited

namespace Journal

/-- Adds an event. -/
def log (journal : Journal) (event : Event) : Journal :=
  { journal with events := journal.events ++ [event] }

/-- Adds several events. -/
def logAll (journal : Journal) (events : List Event) : Journal :=
  { journal with events := journal.events ++ events }

/-- The value of a metric; zero if it was not touched. -/
def value (journal : Journal) (metric : Metric) : Nat := (journal.values.lookup metric).getD 0

/-- The values with one of them replaced or added. -/
def put (metric : Metric) (n : Nat) : List (Metric × Nat) → List (Metric × Nat)
  | [] => [(metric, n)]
  | (m, v) :: rest => if m = metric then (m, n) :: rest else (m, v) :: put metric n rest

/-- Gives a metric a value. -/
def set (journal : Journal) (metric : Metric) (n : Nat) : Journal :=
  { journal with values := put metric n journal.values }

/-- Raises a metric. -/
def count (journal : Journal) (metric : Metric) (n : Nat) : Journal :=
  journal.set metric (journal.value metric + n)

end Journal

end Intercept
