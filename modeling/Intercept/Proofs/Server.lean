/-
# What the proxy answers

Two promises about all requests to the proxy.

* A directive is for the proxy.  It is in an answer to a client only if the request is on an upload
  route and the answer is the application's own, handed on as it is (`relayed_of_hasDirective`).
* For a form on an upload route, nothing is done before the application has allowed it
  (`route_of_form`).
-/
import Intercept.Proofs.Upload.Authorization
import Intercept.Server

namespace Intercept

/-! ### Heads with a directive -/

/-- A head holds a directive for the proxy. -/
def Head.HasDirective (head : Head) : Prop := Header.sendData ∈ head.headers.names

namespace Response

lemma not_hasDirective_plain (status : Status) (text : String) :
    ¬ (plain status text).head.HasDirective := by
  intro hmem
  exact absurd (List.mem_singleton.1 hmem) (by decide)

lemma not_hasDirective_timedOut : ¬ timedOut.head.HasDirective := by
  intro hmem
  cases hmem

end Response

/-- If an answer that is handed on has a directive, it is the application's. -/
lemma Backend.eq_ok_of_hasDirective {reply : Except BackendError Response}
    (h : (relayed reply).head.HasDirective) : reply = .ok (relayed reply) := by
  cases reply with
  | ok response => rfl
  | error error =>
    cases error with
    | abandoned => exact absurd h Response.not_hasDirective_timedOut
    | unreachable cause => exact absurd h (Response.not_hasDirective_plain _ _)
    | late timeout => exact absurd h (Response.not_hasDirective_plain _ _)

namespace Image

/-! ### The head of a delivered image -/

/-- An image is delivered under the head of the response, without the length of its body, unless the
request fails. -/
def HeadOf (head : Head) (answer : Answer) : Prop :=
  answer.head = Response.failed.head ∨
    answer.head = { head with headers := head.headers.without Header.contentLength }

lemma deliverUnscaled_head (head : Head) (stream : Stream String) (log : ResizeLog) (site : Site) :
    ((deliverUnscaled head stream log).run site).1.head = Response.failed.head ∨
      ((deliverUnscaled head stream log).run site).1.head = head := by
  rw [deliverUnscaled]
  cases start stream with
  | data begun => exact .inr rfl
  | empty => exact .inr rfl
  | failed cause => exact .inl rfl

lemma fallBack_head (head : Head) (error : ResizeError) (feed : Feed) (log : ResizeLog)
    (site : Site) :
    ((fallBack head error feed log).run site).1.head = Response.failed.head ∨
      ((fallBack head error feed log).run site).1.head = head := by
  rw [fallBack, Run.run_bind]
  cases feed.unscaled? with
  | some stream => exact deliverUnscaled_head head stream log _
  | none => exact .inl rfl

lemma deliverScaled_head (head : Head) (run : ScalerRun) (log : ResizeLog) (site : Site) :
    ((deliverScaled head run log).run site).1.head = Response.failed.head ∨
      ((deliverScaled head run log).run site).1.head = head := by
  rw [deliverScaled]
  cases start run.output with
  | data stream => exact .inr rfl
  | empty =>
    rw [Run.run_bind]
    cases (run.process.finish.run site).1.status with
    | ok done => exact .inr rfl
    | error error => exact fallBack_head head error _ log _
  | failed cause =>
    rw [Run.run_bind]
    exact fallBack_head head _ _ log _

lemma headOf_deliver (head : Head) (chosen : Chosen) (log : ResizeLog) (site : Site) :
    HeadOf head ((deliver head chosen log).run site).1 := by
  cases chosen with
  | unscaled stream => exact deliverUnscaled_head _ stream log site
  | scaled run => exact deliverScaled_head _ run log site

lemma headOf_inject (surroundings : Surroundings) (settings : Config.Resizer) (head : Head)
    (data : String) (headers : Headers) (site : Site) :
    HeadOf head ((inject surroundings settings head data headers).run site).1 := by
  rw [inject]
  cases ResizeRequest.unpack data with
  | error error => exact .inl rfl
  | ok request =>
    simp only [Run.run_bind]
    cases ((SourceImage.openAt surroundings.web settings.fetch request.location).run site).1 with
    | error error => exact .inl rfl
    | ok source => exact headOf_deliver head _ _ _

end Image

namespace Server

variable (surroundings : Surroundings) (server : Server)

/-- A request is on an upload route. -/
def OnUploadRoute (request : Request) : Prop :=
  request.uri.path.toList.head? = some '/' ∧
    (Route.select? server.config.uploads.routes request.uri.path).isSome = true

/-! ### Directives stay in the proxy -/

/-- No directive is left in an answer that was looked at. -/
lemma not_hasDirective_intercept (settings : Config.Resizer) (request : Headers)
    (response : Response) (site : Site) :
    ¬ ((intercept surroundings settings request response).run site).1.head.HasDirective := by
  have hwithout : ¬ Head.HasDirective
      { response.head with headers := response.head.headers.without Header.sendData } :=
    fun hmem => (Headers.mem_names_without hmem).2 rfl
  rw [intercept]
  cases hfirst : response.head.headers.first? Header.sendData with
  | none => exact Headers.first?_eq_none_iff.1 hfirst
  | some value =>
    simp only
    cases Header.readable? value with
    | none => exact hwithout
    | some data =>
      simp only
      split
      · rcases Image.headOf_inject surroundings settings
          { response.head with headers := response.head.headers.without Header.sendData } data
          request site with hhead | hhead
        · rw [hhead]
          exact Response.not_hasDirective_plain _ _
        · rw [hhead]
          exact fun hmem => hwithout (Headers.mem_names_without hmem).1
      · exact hwithout

/-- An identifier is no directive. -/
lemma hasDirective_identify {request : Headers} {answer : Answer}
    (h : (identify request answer).head.HasDirective) : answer.head.HasDirective := by
  have hidentified : ∀ head : Head, (identified request head).HasDirective → head.HasDirective := by
    intro head hmem
    rw [identified] at hmem
    split at hmem
    · rw [Head.HasDirective, Headers.names_append, List.mem_append] at hmem
      have hname : Header.sendData ≠ Header.requestId := by decide
      exact hmem.resolve_right fun hid => hname (List.mem_singleton.1 hid)
    · exact hmem
  cases answer with
  | response response => exact hidentified _ h
  | delivery head delivery => exact hidentified _ h

end Server

namespace Upload

variable {surroundings : Surroundings} {backend : Backend} {uploads : Config.Uploads}
variable {route : Route} {request : Request} {site : Site}

/-- A response is the application's answer to the last request that was sent. -/
def IsRelayed (surroundings : Surroundings) (backend : Backend) (response : Response)
    (site : Site) : Prop :=
  ∃ last before, site.sent = last :: before ∧
    backend.judge (surroundings.application before last) = .ok response

lemma isRelayed_forward {forwarded : Request} {response : Response} {after : Site}
    (hrun : (backend.forward surroundings.application forwarded).run site = (response, after))
    (h : response.head.HasDirective) : IsRelayed surroundings backend response after := by
  obtain ⟨events, hrelayed⟩ :=
    Backend.forward_relayed surroundings.application backend forwarded site
  rw [hrelayed] at hrun
  cases hrun
  exact ⟨_, _, rfl, Backend.eq_ok_of_hasDirective h⟩

lemma not_hasDirective_of_isRefusal {response : Response} (h : IsRefusal response) :
    ¬ response.head.HasDirective := by
  rcases h with rfl | ⟨error, rfl⟩
  · exact Response.not_hasDirective_plain _ _
  · rw [refusal]
    split
    · exact Response.not_hasDirective_plain _ _
    · exact Response.not_hasDirective_plain _ _

/-- If a client whose upload is not allowed gets a directive, the application denied the upload. -/
lemma denied_of_turnedAway {reply : Except BackendError Response}
    (h : (turnedAway reply).head.HasDirective) :
    reply = .ok (turnedAway reply) ∧ (turnedAway reply).head.status ≠ 200 := by
  cases reply with
  | error error => cases Backend.eq_ok_of_hasDirective h
  | ok response =>
    rw [turnedAway] at h ⊢
    split at h
    · exact absurd h (Response.not_hasDirective_plain _ _)
    · rename_i hstatus
      rw [if_neg hstatus]
      exact ⟨rfl, hstatus⟩

/-- On an upload route, a directive comes from the application only, and not in a grant. -/
lemma isRelayed_handle (site : Site) {response : Response} {after : Site}
    (hrun : (handle surroundings backend uploads route request).run site = (response, after))
    (h : response.head.HasDirective) :
    IsRelayed surroundings backend response after ∧
      (request.headers.boundary?.isSome = true → after.sent.tail = site.sent →
        response.head.status ≠ 200) := by
  cases hboundary : request.headers.boundary? with
  | none =>
    have hforward : handle surroundings backend uploads route request
        = backend.forward surroundings.application request := by
      rw [handle, hboundary]
    rw [hforward] at hrun
    exact ⟨isRelayed_forward hrun h, fun hsome => absurd hsome Bool.false_ne_true⟩
  | some boundary =>
    have hhandled : Handled surroundings backend request site (response, after) :=
      hrun ▸ handled_of_boundary hboundary
    cases hhandled with
    | unasked => exact absurd h (Response.not_hasDirective_plain _ _)
    | notAllowed hasked hnot events =>
      obtain ⟨hreply, hstatus⟩ := denied_of_turnedAway h
      exact ⟨⟨_, _, rfl, hreply⟩, fun _ _ => hstatus⟩
    | refused hasked hreply hallows hrefusal hsent =>
      exact absurd h (not_hasDirective_of_isRefusal hrefusal)
    | handedOn hasked hreply hallows hsent hforward =>
      refine ⟨isRelayed_forward hforward h, fun _ htail => ?_⟩
      obtain ⟨events, hrelayed⟩ := Backend.forward_relayed surroundings.application backend _ _
      rw [hrelayed] at hforward
      cases hforward
      -- the request that asks was sent before the last one
      rw [List.tail_cons, hsent] at htail
      exact absurd htail (List.cons_ne_self _ _)

end Upload

namespace Server

variable (surroundings : Surroundings) (server : Server)

/-- A request as the proxy treats it, with an identifier. -/
def received (surroundings : Surroundings) (request : Request) : Request :=
  { request with headers := stamped surroundings.chance request.headers }

/-- A request on an upload route is handled as an upload. -/
lemma run_route {request : Request} (hroute : server.OnUploadRoute request) :
    ∃ route, ∀ site, (Server.route surroundings server request).run site
      = (.response ((Upload.handle surroundings server.backend server.config.uploads route
          request).run site).1,
        ((Upload.handle surroundings server.backend server.config.uploads route
          request).run site).2) := by
  obtain ⟨hslash, hsome⟩ := hroute
  obtain ⟨route, hselect⟩ := Option.isSome_iff_exists.1 hsome
  refine ⟨route, fun site => ?_⟩
  rw [Server.route, if_pos hslash, hselect]
  rfl

/-- Away from upload routes, no answer has a directive. -/
lemma not_hasDirective_route {request : Request} (hroute : ¬ server.OnUploadRoute request)
    (site : Site) :
    ¬ ((Server.route surroundings server request).run site).1.head.HasDirective := by
  rw [Server.route]
  split
  · rename_i hslash
    cases hselect : Route.select? server.config.uploads.routes request.uri.path with
    | some route => exact absurd ⟨hslash, by rw [hselect]; rfl⟩ hroute
    | none => exact not_hasDirective_intercept _ _ _ _ _
  · exact List.not_mem_nil

/-- **Directives stay in the proxy.**  No answer has a directive for the proxy, unless the request
is on an upload route and the answer is what the application itself answered to the last request
that it was sent, other than with a grant.  An application that denies an upload is taken at its
word: its answer is handed on with all its headers. -/
theorem relayed_of_hasDirective (request : Request) (site : Site) :
    let form := received surroundings request
    let outcome := (answer surroundings server request).run site
    (outcome.1.head.HasDirective → server.OnUploadRoute request ∧
      ∃ response, outcome.1 = identify form.headers (.response response) ∧
        Upload.IsRelayed surroundings server.backend response outcome.2 ∧
        (form.headers.boundary?.isSome = true → outcome.2.sent.tail = site.sent →
          response.head.status ≠ 200)) ∧
    ∀ asked response, server.OnUploadRoute request → form.headers.boundary?.isSome = true →
      Authorization.request? form.uri form.headers = some asked →
      Upload.replyTo surroundings server.backend site asked = .ok response →
      response.head.status ≠ 200 →
      outcome.1 = identify form.headers (.response response) := by
  intro form outcome
  have houtcome : outcome = (identify form.headers
      ((Server.route surroundings server form).run site).1,
        ((Server.route surroundings server form).run site).2) := rfl
  constructor
  · intro hdirective
    have hrouted : ((Server.route surroundings server form).run site).1.head.HasDirective :=
      hasDirective_identify hdirective
    have hroute : server.OnUploadRoute form := by
      by_contra hroute
      exact not_hasDirective_route surroundings server hroute site hrouted
    obtain ⟨route, hrun⟩ := run_route surroundings server hroute
    rcases hhandle : (Upload.handle surroundings server.backend server.config.uploads route
      form).run site with ⟨response, after⟩
    rw [hrun, hhandle] at hrouted houtcome
    obtain ⟨hrelayed, hgrant⟩ := Upload.isRelayed_handle site hhandle hrouted
    rw [houtcome]
    exact ⟨hroute, response, rfl, hrelayed, hgrant⟩
  · intro asked response hroute hboundary hasked hreply hstatus
    obtain ⟨boundary, hboundary⟩ := Option.isSome_iff_exists.1 hboundary
    have hform : server.OnUploadRoute form := hroute
    obtain ⟨route, hrun⟩ := run_route surroundings server hform
    rw [houtcome, hrun, Upload.response_of_denied hboundary hasked hreply hstatus]

/-- An application that denies everything, with a directive. -/
def denyingSurroundings : Surroundings := { Deposit.drawnSurroundings with
  application := fun _ _ => .answered
    ⟨⟨403, [(Header.sendData, Utf8.encode "send-scaled-img:")]⟩, Stream.once (Utf8.encode "no")⟩
    none }

/-- A proxy with the usual settings. -/
def plainServer : Server := ⟨{}, Upload.plainBackend⟩

instance (head : Head) : Decidable head.HasDirective :=
  inferInstanceAs (Decidable (_ ∈ _))

/-- The answer that denies an upload is handed on with its directive. -/
theorem hasDirective_of_denied :
    ¬ ∀ (surroundings : Surroundings) (server : Server) (request : Request) (site : Site),
      ¬ ((answer surroundings server request).run site).1.head.HasDirective := by
  intro hnever
  have hdirective : ((answer denyingSurroundings plainServer Upload.oneFileRequest).run
      { gate := ⟨1, 0, 0⟩ }).1.head.HasDirective := by
    decide +kernel
  exact hnever _ _ _ _ hdirective

/-! ### Nothing happens before an upload is allowed -/

/-- **Nothing happens without permission.**  For a form on an upload route, the application is asked
first, by a request of the same query with `/authorize` behind the path; only if that request cannot
be written, nothing is sent at all.  If the answer allows the upload, at most one more request is
sent, which is the one with the new form.  Otherwise no more is sent and nothing else is changed but
the log: the client gets what the application answered, or is told that the application could not be
asked. -/
theorem route_of_form {request : Request} {text : String} {route : Route} {boundary : Bytes}
    (hparse : Uri.parse? text = some request.uri)
    (hslash : request.uri.path.toList.head? = some '/')
    (hroute : Route.select? server.config.uploads.routes request.uri.path = some route)
    (hboundary : request.headers.boundary? = some boundary) (site : Site) :
    let outcome := (Server.route surroundings server request).run site
    (Authorization.request? request.uri request.headers = none ∧
      outcome.1 = .response .badGateway ∧ outcome.2.sent = site.sent ∧
      site.Untouched outcome.2) ∨
    ∃ asked : Request, asked.method = "POST" ∧
      asked.uri.path = String.ofList (Route.stripped request.uri.path) ++ "/authorize" ∧
      asked.uri.query = request.uri.query ∧
      let reply := server.backend.judge (surroundings.application site.sent asked)
      ((∃ response, reply = .ok response ∧ Authorization.Allows response) ∧
        (outcome.2.sent = asked :: site.sent ∨ ∃ index writer, outcome.2.sent
          = server.backend.directed (Upload.rewritten request index writer)
              :: asked :: site.sent)) ∨
      ((∀ response, reply = .ok response → ¬ Authorization.Allows response) ∧
        outcome.1 = .response (Upload.turnedAway reply) ∧
        outcome.2.sent = asked :: site.sent ∧ site.Untouched outcome.2) := by
  intro outcome
  have hlegible := Uri.legible_of_parse? hparse
  have hon : server.OnUploadRoute request := ⟨hslash, by rw [hroute]; rfl⟩
  obtain ⟨chosen, hrun⟩ := run_route surroundings server hon
  have houtcome : outcome = _ := hrun site
  rcases hhandle : (Upload.handle surroundings server.backend server.config.uploads chosen
    request).run site with ⟨response, after⟩
  rw [hhandle] at houtcome
  rw [houtcome]
  have hhandled : Upload.Handled surroundings server.backend request site (response, after) :=
    hhandle ▸ Upload.handled_of_boundary hboundary
  cases hhandled with
  | unasked hnone events => exact .inl ⟨hnone, rfl, rfl, _, _, rfl⟩
  | notAllowed hasked hnot events =>
    obtain ⟨hmethod, hpath, hquery⟩ :=
      Authorization.directed_target server.backend hlegible hslash hasked
    exact .inr ⟨_, hmethod, hpath, hquery, .inr ⟨hnot, rfl, rfl, _, _, rfl⟩⟩
  | refused hasked hreply hallows hrefusal hsent =>
    obtain ⟨hmethod, hpath, hquery⟩ :=
      Authorization.directed_target server.backend hlegible hslash hasked
    exact .inr ⟨_, hmethod, hpath, hquery, .inl ⟨⟨_, hreply, hallows⟩, .inl hsent⟩⟩
  | handedOn hasked hreply hallows hsent hforward =>
    obtain ⟨hmethod, hpath, hquery⟩ :=
      Authorization.directed_target server.backend hlegible hslash hasked
    obtain ⟨events, hrelayed⟩ := Backend.forward_relayed surroundings.application server.backend _ _
    rw [hrelayed] at hforward
    cases hforward
    exact .inr ⟨_, hmethod, hpath, hquery,
      .inl ⟨⟨_, hreply, hallows⟩, .inr ⟨_, _, congrArg _ hsent⟩⟩⟩

theorem route_of_form_denied :
    ((Server.route denyingSurroundings plainServer Upload.oneFileRequest).run
      { gate := ⟨1, 0, 0⟩ }).1.head.status = 403 ∧
    Site.Untouched { gate := ⟨1, 0, 0⟩ }
      ((Server.route denyingSurroundings plainServer Upload.oneFileRequest).run
        { gate := ⟨1, 0, 0⟩ }).2 := by
  have hparse : Uri.parse? "/uploads" = some Upload.oneFileRequest.uri := by decide +kernel
  have hslash : Upload.oneFileRequest.uri.path.toList.head? = some '/' := by decide
  have hroute : Route.select? plainServer.config.uploads.routes Upload.oneFileRequest.uri.path
      = some Upload.plainRoute := by
    decide +kernel
  have hboundary : Upload.oneFileRequest.headers.boundary? = some [88] := by decide +kernel
  have hstatus : ((Server.route denyingSurroundings plainServer Upload.oneFileRequest).run
      { gate := ⟨1, 0, 0⟩ }).1.head.status = 403 := by
    decide +kernel
  rcases route_of_form denyingSurroundings plainServer hparse hslash hroute hboundary
    { gate := ⟨1, 0, 0⟩ } with ⟨-, hanswer, -⟩ | ⟨asked, -, -, -, hallowed | ⟨-, -, -, huntouched⟩⟩
  · rw [hanswer] at hstatus
    cases hstatus
  · obtain ⟨⟨response, hreply, hallows⟩, -⟩ := hallowed
    cases hreply
    cases hallows.1
  · exact ⟨hstatus, huntouched⟩

end Server

end Intercept
