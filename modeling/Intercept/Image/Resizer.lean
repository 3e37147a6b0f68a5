/-
# Scaled images

When the application answers with a directive for a scaled image, the image takes the place of the
body.  A directive that makes no sense and an image that cannot be opened fail the request;
whatever else goes wrong, the image is delivered unscaled.
-/
import Intercept.Image.Delivery

namespace Intercept.Image

/-- What is delivered for an opened image. -/
def choose (surroundings : Surroundings) (settings : Config.Resizer) (source : SourceImage)
    (request : ResizeRequest) (context : Scaler.Context) (log : ResizeLog) : Run Chosen := do
  if settings.enabled then
    match ← Scaler.tryResize surroundings settings source request context with
    | .ok run => return .scaled run
    | .error fallback =>
      Site.log (log.degraded fallback.reason)
      return .unscaled fallback.source
  else return .unscaled source.stream

/-- Delivers an opened image. -/
def deliverSource (surroundings : Surroundings) (settings : Config.Resizer) (head : Head)
    (source : SourceImage) (request : ResizeRequest) (headers : Headers) : Run Answer := do
  let log : ResizeLog := ⟨headers.requestId, request.width, request.contentType, source.declared⟩
  let context : Scaler.Context := ⟨headers.requestId, headers.traceEnvironment⟩
  let chosen ← choose surroundings settings source request context log
  deliver head chosen log

/-- Delivers the image that a directive asks for under the head of a response, for a request with
the given headers. -/
def inject (surroundings : Surroundings) (settings : Config.Resizer) (head : Head) (data : String)
    (headers : Headers) : Run Answer := do
  let requestId := headers.requestId
  match ResizeRequest.unpack data with
  | .error error =>
    fail requestId ("ImageResizer: failed reading image resize params: " ++ error.message)
  | .ok request =>
    match ← SourceImage.openAt surroundings.web settings.fetch request.location with
    | .error error =>
      fail requestId ("ImageResizer: failed opening image data stream: " ++ error.message)
    | .ok source => deliverSource surroundings settings head source request headers

end Intercept.Image
