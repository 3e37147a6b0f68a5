/-
# What identifies a request

A request brings an identifier and, if it is part of a trace, the headers of the trace context.
Both are handed on to the programs that work for the request, in their environment.
-/
import Intercept.Http.Header

namespace Intercept

/-- Variables of an environment, in order. -/
abbrev Environment := List (String × String)

namespace Headers

/-- The identifier of a request. -/
def requestId (headers : Headers) : String := (headers.text? Header.requestId).getD "unknown"

/-- The variables that tell a program which request and trace it works for. -/
def traceEnvironment (headers : Headers) : Environment :=
  [("traceparent", "TRACEPARENT"), ("tracestate", "TRACESTATE"),
    ("x-request-id", "CORRELATION_ID")].filterMap fun (header, name) =>
      (headers.text? (Utf8.encode header)).map fun value => (name, value)

end Headers

end Intercept
