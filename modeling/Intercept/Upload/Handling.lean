/-
# Uploads

A form that comes in on an upload route is handed on without its files: the application is asked
first, the files are taken out and stored, and the new form goes to the application with a header
that says which file went where.  A request that is no form is handed on as it is.
-/
import Intercept.Config.Settings
import Intercept.Http.MediaType
import Intercept.Upload.Authorization
import Intercept.Upload.Deposit

namespace Intercept.Upload

/-- What a client is told when its form is turned down. -/
def reason : Status → String
  | 400 => "Bad Request"
  | 413 => "Request Entity Too Large"
  | _ => "Failed to process image"

/-- The answer when a form is turned down. -/
def refuse (requestId : String) (error : DepositError) : Run Response := do
  let status := error.status
  if status = 500 then
    Site.log (Response.failedEvent requestId error.message)
    return .failed
  else
    Site.log (Response.rejectedEvent requestId status error.message)
    return .plain status (reason status)

/-- The error when the index of the stored files does not fit into a header. -/
def unfitIndex : String := "invalid header value: failed to parse header value"

/-- The headers of a request with those replaced that describe its body. -/
def framed (writer : FormWriter) (headers : Headers) : Headers :=
  let length := Utf8.encode (toString writer.finish.length)
  ((headers.without Header.transferEncoding).set Header.contentLength length).set
    Header.contentType writer.contentType

/-- Hands on a request with its new form. -/
def deliver (surroundings : Surroundings) (backend : Backend) (processor : String)
    (request : Request) (index : FileIndex) (writer : FormWriter) : Run Response := do
  let requestId := request.headers.requestId
  match index.announce? request.headers with
  | none =>
    Site.log (Response.failedEvent requestId unfitIndex)
    return .failed
  | some headers =>
    Site.log ⟨.info, "Forwarding rewritten upload",
      [("request_id", requestId), ("processor", processor), ("files", toString index.count)]⟩
    backend.forward surroundings.application
      { request with headers := framed writer headers, body := Stream.once writer.finish }

/-- Takes the files out of a form that the application allows, and hands it on. -/
def accept (surroundings : Surroundings) (backend : Backend) (uploads : Config.Uploads)
    (route : Route) (request : Request) (boundary : Bytes) (grant : Grant) : Run Response := do
  let requestId := request.headers.requestId
  Site.count (.uploadRequests route.processor) 1
  let settings : Deposit.Settings := {
    grant
    transform := ⟨uploads.stripper, uploads.artifact, uploads.directory, requestId⟩
    processor := route.processor }
  let form := Form.readNamed ⟨boundary, uploads.maxFormSize⟩ request.body
  let deposit ← Deposit.make surroundings settings form
  match deposit.form with
  | .error error => refuse requestId error
  | .ok writer => deliver surroundings backend route.processor request deposit.index writer

/-- Answers a request on an upload route. -/
def handle (surroundings : Surroundings) (backend : Backend) (uploads : Config.Uploads)
    (route : Route) (request : Request) : Run Response := do
  match request.headers.boundary? with
  | none => backend.forward surroundings.application request
  | some boundary =>
    match ← Authorization.ask surroundings.application backend request.uri request.headers with
    | .ok (.granted grant) => accept surroundings backend uploads route request boundary grant
    | .ok (.denied response) => return response
    | .error (.backend error) => Backend.excuse request.headers.requestId error
    | .error error =>
      Site.log (Response.badGatewayEvent request.headers.requestId error.message)
      return .badGateway

end Intercept.Upload
