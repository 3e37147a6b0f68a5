/-
# Exchanges with other servers

The proxy asks two kinds of servers: the application behind it, and servers that hold images.
What comes of a request to either is a `Reply`; a network is known here by the replies that it
gives.
-/
import Intercept.Http.Message
import Intercept.Net.WebAddress

namespace Intercept

/-- What comes of a request. -/
inductive Reply where
  /-- The answer, and the length of its body if that is announced. -/
  | answered (response : Response) (length : Option Nat)
  /-- No connection can be made, or it breaks before there is an answer. -/
  | unreachable (cause : String)
  /-- The connection is not made in time. -/
  | stalled
  /-- There is a connection, but no answer. -/
  | silent
deriving Inhabited

/-- The application: its reply may depend on the requests before, the last one first. -/
abbrev Application := List Request → Request → Reply

/-- The servers that hold images. -/
abbrev Web := WebAddress → Reply

/-- A network on which no other server can be reached. -/
def Application.unreachable : Application := fun _ _ => .unreachable "client error (Connect)"

/-- A network on which no server that holds images can be reached. -/
def Web.unreachable : Web := fun _ => .unreachable "client error (Connect)"

end Intercept
