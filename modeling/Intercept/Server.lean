/-
# The proxy

Every request is stamped with an identifier unless it brings one, and so is its answer.  A request
on an upload route has the files taken out of its form; any other is handed on to the application
as it is.  If the answer to such a request has a directive in its headers, the directive is taken
out, and carried out if it is one for a scaled image.
-/
import Intercept.Image.Resizer
import Intercept.Upload.Handling

namespace Intercept

/-- Why the proxy cannot be set up. -/
inductive ServerError where
  /-- The application's address cannot stand in a target. -/
  | badAuthority
deriving DecidableEq, Repr, Inhabited

/-- The text of an error. -/
def ServerError.message : ServerError → String
  | badAuthority => "invalid upstream address: invalid authority"

/-- A proxy that is set up. -/
structure Server where
  config : Config
  backend : Backend
deriving DecidableEq, Repr, Inhabited

namespace Server

/-- Sets up a proxy. -/
def make (config : Config) : Except ServerError Server :=
  match Uri.authorityAlone? config.backend.address with
  | none => .error .badAuthority
  | some authority =>
    .ok ⟨config, authority, config.backend.timeout, config.timeouts.request⟩

/-- The headers of a request, with an identifier added if there is none. -/
def stamped (chance : Chance) (headers : Headers) : Headers :=
  match headers.first? Header.requestId with
  | some _ => headers
  | none => headers ++ [(Header.requestId, Utf8.encode chance.requestId)]

/-- A head with the identifier of the request, unless it has one. -/
def identified (request : Headers) (head : Head) : Head :=
  match head.headers.first? Header.requestId, request.first? Header.requestId with
  | none, some value => { head with headers := head.headers ++ [(Header.requestId, value)] }
  | _, _ => head

/-- An answer with the identifier of the request, unless it has one. -/
def identify (request : Headers) : Answer → Answer
  | .response response => .response { response with head := identified request response.head }
  | .delivery head delivery => .delivery (identified request head) delivery

/-- The event when a directive cannot be read. -/
def unreadableEvent (requestId : String) : Event :=
  ⟨.warn, "Ignoring unreadable send-data header",
    [("request_id", requestId), ("error", "failed to convert header to a str")]⟩

/-- The event when a directive is of no known kind. -/
def unknownEvent (requestId : String) : Event :=
  ⟨.warn, "Ignoring unknown send-data directive", [("request_id", requestId)]⟩

/-- Carries out the directive in an answer of the application, if there is one. -/
def intercept (surroundings : Surroundings) (settings : Config.Resizer) (request : Headers)
    (response : Response) : Run Answer := do
  match response.head.headers.first? Header.sendData with
  | none => return .response response
  | some value =>
    let head := { response.head with headers := response.head.headers.without Header.sendData }
    match Header.readable? value with
    | none =>
      Site.log (unreadableEvent request.requestId)
      return .response { response with head }
    | some data =>
      if SendData.isOfKind ResizeRequest.kind data then
        Image.inject surroundings settings head data request
      else
        Site.log (unknownEvent request.requestId)
        return .response { response with head }

/-- Answers a request that has an identifier. -/
def route (surroundings : Surroundings) (server : Server) (request : Request) : Run Answer := do
  if request.uri.path.toList.head? = some '/' then
    match Route.select? server.config.uploads.routes request.uri.path with
    | some route =>
      return .response
        (← Upload.handle surroundings server.backend server.config.uploads route request)
    | none =>
      let response ← server.backend.forward surroundings.application request
      intercept surroundings server.config.resizer request.headers response
  else return .response ⟨⟨404, []⟩, []⟩

/-- Answers a request. -/
def answer (surroundings : Surroundings) (server : Server) (request : Request) : Run Answer := do
  let request := { request with headers := stamped surroundings.chance request.headers }
  let answer ← route surroundings server request
  return identify request.headers answer

end Server

end Intercept
