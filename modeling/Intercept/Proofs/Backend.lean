/-
# What sending a request changes

A request that is sent is noted, directed to the application.  Nothing else changes but the log.
-/
import Intercept.Backend
import Intercept.Proofs.Site

namespace Intercept

namespace Backend

/-- A request as it is sent to the application. -/
def directed (backend : Backend) (request : Request) : Request :=
  { request with uri := request.uri.retarget backend.authority }

lemma run_send (application : Application) (backend : Backend) (request : Request) (site : Site) :
    (send application backend request).run site
      = (backend.judge (application site.sent (backend.directed request)),
        { site with sent := backend.directed request :: site.sent }) := rfl

/-- What a client is answered, by what came of asking the application. -/
def relayed : Except BackendError Response → Response
  | .ok response => response
  | .error .abandoned => .timedOut
  | .error _ => .badGateway

/-- Answering for the application changes nothing but the log. -/
lemma excuse_relayed (requestId : String) (error : BackendError) (site : Site) :
    ∃ events, (excuse requestId error).run site
      = (relayed (.error error), { site with journal := { site.journal with events } }) := by
  cases error with
  | abandoned => exact ⟨_, rfl⟩
  | unreachable cause => exact ⟨_, rfl⟩
  | late timeout => exact ⟨_, rfl⟩

/-- A client whose request is handed on gets the answer of the application. -/
lemma forward_relayed (application : Application) (backend : Backend) (request : Request)
    (site : Site) :
    ∃ events, (forward application backend request).run site
      = (relayed (backend.judge (application site.sent (backend.directed request))),
        { site with
          sent := backend.directed request :: site.sent
          journal := { site.journal with events } }) := by
  rw [forward, Run.run_bind, run_send]
  cases backend.judge (application site.sent (backend.directed request)) with
  | ok response => exact ⟨_, rfl⟩
  | error error => exact excuse_relayed request.headers.requestId error _

/-- Handing on a request sends it, and changes nothing else but the log. -/
lemma run_forward (application : Application) (backend : Backend) (request : Request)
    (site : Site) :
    ∃ journal, ((forward application backend request).run site).2
      = { site with sent := backend.directed request :: site.sent, journal } := by
  obtain ⟨events, hrun⟩ := forward_relayed application backend request site
  exact ⟨_, congrArg Prod.snd hrun⟩

end Backend

end Intercept
