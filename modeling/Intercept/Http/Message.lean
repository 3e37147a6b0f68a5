/-
# Requests and responses

The messages that pass through the proxy, and the fixed answers that it makes itself.  A body is
a stream whose faults carry the text that describes them.
-/
import Intercept.Http.Header
import Intercept.Journal
import Intercept.Net.Uri
import Intercept.Stream

namespace Intercept

/-- The status of a response. -/
abbrev Status := Nat

/-- The usual phrase for a status. -/
def Status.phrase (status : Status) : String :=
  (List.lookup status [
    (100, "Continue"), (101, "Switching Protocols"), (102, "Processing"), (200, "OK"),
    (201, "Created"), (202, "Accepted"), (203, "Non Authoritative Information"),
    (204, "No Content"), (205, "Reset Content"), (206, "Partial Content"), (207, "Multi-Status"),
    (208, "Already Reported"), (226, "IM Used"), (300, "Multiple Choices"),
    (301, "Moved Permanently"), (302, "Found"), (303, "See Other"), (304, "Not Modified"),
    (305, "Use Proxy"), (307, "Temporary Redirect"), (308, "Permanent Redirect"),
    (400, "Bad Request"), (401, "Unauthorized"), (402, "Payment Required"), (403, "Forbidden"),
    (404, "Not Found"), (405, "Method Not Allowed"), (406, "Not Acceptable"),
    (407, "Proxy Authentication Required"), (408, "Request Timeout"), (409, "Conflict"),
    (410, "Gone"), (411, "Length Required"), (412, "Precondition Failed"),
    (413, "Payload Too Large"), (414, "URI Too Long"), (415, "Unsupported Media Type"),
    (416, "Range Not Satisfiable"), (417, "Expectation Failed"), (418, "I'm a teapot"),
    (421, "Misdirected Request"), (422, "Unprocessable Entity"), (423, "Locked"),
    (424, "Failed Dependency"), (425, "Too Early"), (426, "Upgrade Required"),
    (428, "Precondition Required"), (429, "Too Many Requests"),
    (431, "Request Header Fields Too Large"), (451, "Unavailable For Legal Reasons"),
    (500, "Internal Server Error"), (501, "Not Implemented"), (502, "Bad Gateway"),
    (503, "Service Unavailable"), (504, "Gateway Timeout"), (505, "HTTP Version Not Supported"),
    (506, "Variant Also Negotiates"), (507, "Insufficient Storage"), (508, "Loop Detected"),
    (510, "Not Extended"), (511, "Network Authentication Required")]).getD
    "<unknown status code>"

/-- A status as log fields show it. -/
def Status.text (status : Status) : String := toString status ++ " " ++ Status.phrase status

/-- The status and the headers of a response. -/
structure Head where
  status : Status
  headers : Headers
deriving DecidableEq, Repr, Inhabited

/-- A request. -/
structure Request where
  method : String
  uri : Uri
  headers : Headers
  body : Stream String
deriving DecidableEq, Repr, Inhabited

/-- A response. -/
structure Response where
  head : Head
  body : Stream String
deriving DecidableEq, Repr, Inhabited

namespace Response

/-- A response of plain text. -/
def plain (status : Status) (text : String) : Response :=
  ⟨⟨status, [(Header.contentType, Utf8.encode "text/plain; charset=utf-8")]⟩,
    Stream.once (Utf8.encode text)⟩

/-- What is answered when the proxy itself fails. -/
def failed : Response := plain 500 "Internal server error"

/-- The event that goes with `failed`. -/
def failedEvent (requestId error : String) : Event :=
  ⟨.error, "Request failed", [("request_id", requestId), ("error", error)]⟩

/-- What is answered when the application behind the proxy cannot be asked. -/
def badGateway : Response := plain 502 "Upstream request failed"

/-- The event that goes with `badGateway`. -/
def badGatewayEvent (requestId error : String) : Event :=
  ⟨.error, "Upstream error", [("request_id", requestId), ("error", error)]⟩

/-- The event that goes with a request that is turned down. -/
def rejectedEvent (requestId : String) (status : Status) (error : String) : Event :=
  ⟨.warn, "Request rejected",
    [("request_id", requestId), ("status", status.text), ("error", error)]⟩

end Response

end Intercept
