/-
# Asking for permission

The application decides on an upload by the head of the request alone: it gets the same headers
without a body, at the same target with `/authorize` behind the path.  If it answers 200 its
answer says what the upload may do; any other answer is for the client.
-/
import Intercept.Backend
import Intercept.Upload.Grant
import Intercept.Upload.Route

namespace Intercept

/-- Why it is not known what an upload may do. -/
inductive AuthorizationError where
  /-- The target cannot be written. -/
  | badTarget
  | backend (error : BackendError)
  /-- The answer is too large, or breaks off. -/
  | unreadable
  /-- The answer is no grant. -/
  | undecodable
deriving DecidableEq, Repr, Inhabited

/-- The text of an error. -/
def AuthorizationError.message : AuthorizationError → String
  | badTarget => "build authorize request: invalid uri"
  | backend error => error.message
  | unreadable => "read authorize response: length limit exceeded"
  | undecodable => "decode authorize response: unexpected value"

/-- What the application says about an upload. -/
inductive Authorization where
  | granted (grant : Grant)
  | denied (response : Response)
deriving Inhabited

namespace Authorization

/-- What is put behind the path. -/
def suffix : String := "/authorize"

/-- The largest answer that is read. -/
def maxSize : Nat := 32768

/-- The text of the target. -/
def target (uri : Uri) : String :=
  String.ofList (Route.stripped uri.path) ++ suffix
    ++ (match uri.query with | some query => "?" ++ query | none => "")

/-- Whether a header says how or as what a body is sent. -/
def describesBody (header : Header) : Bool :=
  header.1 == Header.contentLength || header.1 == Header.contentType
    || header.1 == Header.transferEncoding

/-- The request that asks about an upload. -/
def request? (uri : Uri) (headers : Headers) : Option Request :=
  (Uri.parse? (target uri)).map fun uri =>
    ⟨"POST", uri, headers.filter fun header => !describesBody header, []⟩

/-- What an answer means. -/
def judge (response : Response) : Except AuthorizationError Authorization :=
  if response.head.status ≠ 200 then .ok (.denied response)
  else
    let delivered := response.body.deliver
    if delivered.fault.isSome ∨ maxSize < delivered.bytes.length then .error .unreadable
    else
      match Grant.decode? delivered.bytes with
      | some grant => .ok (.granted grant)
      | none => .error .undecodable

/-- Asks the application about an upload. -/
def ask (application : Application) (backend : Backend) (uri : Uri) (headers : Headers) :
    Run (Except AuthorizationError Authorization) := do
  match request? uri headers with
  | none => return .error .badTarget
  | some request =>
    match ← backend.send application request with
    | .error error => return .error (.backend error)
    | .ok response => return judge response

end Authorization

end Intercept
