/-
# The application behind the proxy

All requests that the proxy does not answer by itself go to one application, at one address.
`Backend.send` hands on a request, and `Backend.forward` answers for the application if that
fails.
-/
import Intercept.Http.Trace
import Intercept.Site

namespace Intercept

/-- How the application is asked. -/
structure Backend where
  /-- The application's address. -/
  authority : String
  /-- How many seconds the application has for an answer. -/
  timeout : Nat
  /-- How many seconds there are for the whole of a client's request. -/
  patience : Nat
deriving DecidableEq, Repr, Inhabited

/-- Why the application did not answer. -/
inductive BackendError where
  | unreachable (cause : String)
  /-- The application's time is over. -/
  | late (timeout : Nat)
  /-- The time of the client's request is over, and the request is given up. -/
  | abandoned
deriving DecidableEq, Repr, Inhabited

/-- A number of seconds as messages show it. -/
def Duration.shownSeconds (seconds : Nat) : String :=
  if seconds = 0 then "0ns" else toString seconds ++ "s"

/-- The text of an error. -/
def BackendError.message : BackendError → String
  | unreachable cause => "upstream request: " ++ cause
  | late timeout => "upstream did not answer within " ++ Duration.shownSeconds timeout
  | abandoned => "request timed out"

/-- What is answered when the time of a request is over. -/
def Response.timedOut : Response := ⟨⟨408, []⟩, []⟩

namespace Backend

/-- The error when the application says nothing in time. -/
def overdue (backend : Backend) : BackendError :=
  if backend.patience ≤ backend.timeout then .abandoned else .late backend.timeout

/-- What a reply means; an answer takes some time, so that it is always late if there is none. -/
def judge (backend : Backend) : Reply → Except BackendError Response
  | .answered response _ =>
    if backend.patience = 0 ∨ backend.timeout = 0 then .error backend.overdue else .ok response
  | .unreachable cause => .error (.unreachable cause)
  | .stalled | .silent => .error backend.overdue

/-- Sends a request, directed to the application. -/
def send (application : Application) (backend : Backend) (request : Request) :
    Run (Except BackendError Response) := do
  let request := { request with uri := request.uri.retarget backend.authority }
  let site ← get
  Site.noteSent request
  return backend.judge (application site.sent request)

/-- Answers for the application. -/
def excuse (requestId : String) : BackendError → Run Response
  | .abandoned => pure .timedOut
  | error => do
    Site.log (Response.badGatewayEvent requestId error.message)
    return .badGateway

/-- Sends a request, and answers for the application if it does not answer. -/
def forward (application : Application) (backend : Backend) (request : Request) : Run Response := do
  match ← backend.send application request with
  | .ok response => return response
  | .error error => excuse request.headers.requestId error

end Backend

end Intercept
