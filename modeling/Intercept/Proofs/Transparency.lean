/-
# What the proxy leaves alone

A request that is on no upload route, or holds no form, is handed on as it is, and so is the answer:
the proxy only adds an identifier where there is none (`answer_of_forwarded`).  An answer with a
directive that the proxy cannot carry out loses it, and nothing else.

This is so for a target that has a path.  Only `*` and an authority alone have none
(`Uri.hasPath_of_parse?`), and a request with such a target is answered without the application
(`answer_of_pathless`).
-/
import Intercept.Config.Checks
import Intercept.Proofs.Server

namespace Intercept

namespace Headers

/-- Headers with one more, if there is none of its name. -/
def supplied (name value : Bytes) (headers : Headers) : Headers :=
  if name ∈ headers.names then headers else headers ++ [(name, value)]

variable {headers : Headers} {name other value : Bytes}

lemma mem_names_of_first? (h : headers.first? name = some value) : name ∈ headers.names := by
  by_contra hnone
  rw [first?_eq_none_iff.2 hnone] at h
  cases h

lemma exists_first?_supplied (name value : Bytes) (headers : Headers) :
    ∃ found, (headers.supplied name value).first? name = some found := by
  cases hfirst : (headers.supplied name value).first? name with
  | some found => exact ⟨found, rfl⟩
  | none =>
    rw [first?_eq_none_iff, supplied] at hfirst
    split at hfirst
    · next hmem => exact absurd hmem hfirst
    · exact absurd (by simp) hfirst

/-- A header that is supplied changes no other. -/
lemma values_supplied_of_ne (hne : other ≠ name) :
    (headers.supplied name value).values other = headers.values other := by
  rw [supplied]
  split
  · rfl
  · simp [values, List.filter_append, Ne.symm hne]

end Headers

namespace Server

/-! ### Identifiers -/

lemma stamped_eq (chance : Chance) (headers : Headers) :
    stamped chance headers
      = headers.supplied Header.requestId (Utf8.encode chance.requestId) := by
  rw [stamped, Headers.supplied]
  cases hfirst : headers.first? Header.requestId with
  | none => rw [if_neg (Headers.first?_eq_none_iff.1 hfirst)]
  | some value => rw [if_pos (Headers.mem_names_of_first? hfirst)]

lemma identified_eq {request : Headers} {identifier : Bytes}
    (hrequest : request.first? Header.requestId = some identifier) (head : Head) :
    identified request head
      = { head with headers := head.headers.supplied Header.requestId identifier } := by
  rw [identified, hrequest, Headers.supplied]
  cases hfirst : head.headers.first? Header.requestId with
  | none => rw [if_neg (Headers.first?_eq_none_iff.1 hfirst)]
  | some value => rw [if_pos (Headers.mem_names_of_first? hfirst)]

/-! ### Time for an answer -/

lemma problemIf_eq_nil {condition : Bool} {setting complaint : String}
    (h : Config.problemIf condition setting complaint = []) : condition = false := by
  cases condition with
  | false => rfl
  | true => cases h

/-- A proxy that is set up with settings that make sense waits for an answer. -/
lemma judge_answered {config : Config} {server : Server} (hmake : make config = .ok server)
    (hvalid : config.problems = []) (response : Response) (length : Option Nat) :
    server.backend.judge (.answered response length) = .ok response := by
  have hchecks := List.flatMap_eq_nil_iff.1 hvalid
  have htimeout : config.backend.timeout ≠ 0 := beq_eq_false_iff_ne.1
    (problemIf_eq_nil (hchecks _ (List.mem_of_getElem? (i := 2) rfl)))
  have hpatience : config.timeouts.request ≠ 0 := beq_eq_false_iff_ne.1
    (problemIf_eq_nil (hchecks _ (List.mem_of_getElem? (i := 3) rfl)))
  rw [make] at hmake
  split at hmake
  · cases hmake
  · obtain rfl := Except.ok.inj hmake
    rw [Backend.judge, if_neg (not_or.2 ⟨hpatience, htimeout⟩)]

/-! ### Requests that are handed on -/

variable {surroundings : Surroundings} {server : Server} {request : Request}

/-- A request as the application gets it that is handed on as it is. -/
def handedOn (surroundings : Surroundings) (server : Server) (request : Request) : Request where
  method := request.method
  uri := ⟨some "http", some server.backend.authority, request.uri.path, request.uri.query⟩
  headers := request.headers.supplied Header.requestId
    (Utf8.encode surroundings.chance.requestId)
  body := request.body

lemma directed_received (hpath : request.uri.HasPath) :
    server.backend.directed (received surroundings request)
      = handedOn surroundings server request := by
  have hwritten : request.uri.path.isEmpty = false := by
    rw [← Bool.not_eq_true, String.isEmpty_iff]
    intro hempty
    rw [Uri.HasPath, hempty] at hpath
    cases hpath
  rw [Backend.directed, received, handedOn, stamped_eq, Uri.retarget, hwritten]
  rfl

/-- An identifier is not taken for a form. -/
lemma boundary?_received (request : Request) :
    (received surroundings request).headers.boundary? = request.headers.boundary? := by
  have hother : Header.contentType ≠ Header.requestId := by decide +kernel
  refine Headers.boundary?_congr ?_
  rw [received, stamped_eq, Headers.values_supplied_of_ne hother]

/-- A directive that cannot be carried out is left out of an answer, and nothing else. -/
lemma run_intercept_of_foreign (surroundings : Surroundings) (settings : Config.Resizer)
    (request : Headers) {response : Response} (hforeign : ∀ value data,
      response.head.headers.first? Header.sendData = some value →
      Header.readable? value = some data → SendData.isOfKind ResizeRequest.kind data = false)
    (site : Site) :
    ∃ events, (intercept surroundings settings request response).run site
      = (.response ⟨⟨response.head.status, response.head.headers.without Header.sendData⟩,
          response.body⟩,
        { site with journal := { site.journal with events } }) := by
  rw [intercept]
  cases hfirst : response.head.headers.first? Header.sendData with
  | none =>
    rw [Headers.without_of_not_mem (Headers.first?_eq_none_iff.1 hfirst)]
    exact ⟨_, rfl⟩
  | some value =>
    simp only
    cases hreadable : Header.readable? value with
    | none => exact ⟨_, rfl⟩
    | some data =>
      simp only [hforeign value data hfirst hreadable]
      exact ⟨_, rfl⟩

/-- A request that is on no upload route or holds no form is sent once, and its answer is handed
back without a directive. -/
lemma run_route_of_forwarded {application : Response} {site : Site}
    (hpath : request.uri.HasPath)
    (hform : Route.select? server.config.uploads.routes request.uri.path = none ∨
      request.headers.boundary? = none)
    (hreply : server.backend.judge (surroundings.application site.sent
      (server.backend.directed request)) = .ok application)
    (hforeign : ∀ value, application.head.headers.first? Header.sendData = some value →
      Route.select? server.config.uploads.routes request.uri.path = none ∧
        ∀ data, Header.readable? value = some data →
          SendData.isOfKind ResizeRequest.kind data = false) :
    ∃ events, (Server.route surroundings server request).run site
      = (.response ⟨⟨application.head.status,
          application.head.headers.without Header.sendData⟩, application.body⟩,
        { site with
          sent := server.backend.directed request :: site.sent
          journal := { site.journal with events } }) := by
  obtain ⟨sending, hforward⟩ :=
    Backend.forward_relayed surroundings.application server.backend request site
  have hslash : request.uri.path.toList.head? = some '/' := hpath
  rw [hreply] at hforward
  rw [Server.route, if_pos hslash]
  cases hselect : Route.select? server.config.uploads.routes request.uri.path with
  | none =>
    obtain ⟨events, hintercept⟩ := run_intercept_of_foreign surroundings
      server.config.resizer request.headers
      (fun value data hfirst => (hforeign value hfirst).2 data)
      { site with
        sent := server.backend.directed request :: site.sent
        journal := { site.journal with events := sending } }
    refine ⟨events, ?_⟩
    simp only [Run.run_bind, hforward]
    exact hintercept
  | some route =>
    have hnone : Header.sendData ∉ application.head.headers.names := by
      rw [← Headers.first?_eq_none_iff]
      cases hfirst : application.head.headers.first? Header.sendData with
      | none => rfl
      | some value => rw [(hforeign value hfirst).1] at hselect; cases hselect
    have hboundary : request.headers.boundary? = none :=
      hform.resolve_left fun hnone => by rw [hnone] at hselect; cases hselect
    refine ⟨sending, ?_⟩
    simp only [Run.run_bind, Upload.handle, hboundary, hforward,
      Headers.without_of_not_mem hnone]
    rfl

/-- **Transparency.**  Take a proxy that was set up with settings that make sense, and a request for
a path that is on no upload route, or whose headers announce no form.  The application answers in
time; if its answer has a directive, the path is on no upload route, and the directive cannot be read
or is of no known kind.

Then the application gets one request, with the same method, path, query, body and headers, behind
which stands an identifier if there was none.  The client gets the same status, headers and body,
but for the directive, and behind the headers stands the identifier of the request if there was
none. -/
theorem answer_of_forwarded {config : Config} {response : Response} {length : Option Nat}
    {site : Site} (hmake : make config = .ok server) (hvalid : config.problems = [])
    (hpath : request.uri.HasPath)
    (hform : Route.select? server.config.uploads.routes request.uri.path = none ∨
      request.headers.boundary? = none)
    (hreply : surroundings.application site.sent (handedOn surroundings server request)
      = .answered response length)
    (hforeign : ∀ value, response.head.headers.first? Header.sendData = some value →
      Route.select? server.config.uploads.routes request.uri.path = none ∧
        ∀ data, Header.readable? value = some data →
          SendData.isOfKind ResizeRequest.kind data = false) :
    let outcome := (answer surroundings server request).run site
    outcome.2.sent = handedOn surroundings server request :: site.sent ∧
    ∃ identifier,
      (handedOn surroundings server request).headers.first? Header.requestId = some identifier ∧
      (Header.sendData ∉ response.head.headers.names → outcome.1 = .response
        ⟨⟨response.head.status, response.head.headers.supplied Header.requestId identifier⟩,
          response.body⟩) ∧
      (Header.sendData ∈ response.head.headers.names → outcome.1 = .response
        ⟨⟨response.head.status, (response.head.headers.without Header.sendData).supplied
          Header.requestId identifier⟩, response.body⟩) := by
  intro outcome
  have hdirected : server.backend.directed (received surroundings request)
      = handedOn surroundings server request := directed_received hpath
  have hjudge : server.backend.judge (surroundings.application site.sent
      (server.backend.directed (received surroundings request))) = .ok response := by
    rw [hdirected, hreply]
    exact judge_answered hmake hvalid response length
  have hheld : Route.select? server.config.uploads.routes request.uri.path = none ∨
      (received surroundings request).headers.boundary? = none := by
    rwa [boundary?_received]
  have hreceived : (received surroundings request).uri.HasPath := hpath
  obtain ⟨events, hroute⟩ := run_route_of_forwarded hreceived hheld hjudge hforeign
  have houtcome : outcome = (identify (received surroundings request).headers
      ((Server.route surroundings server (received surroundings request)).run site).1,
        ((Server.route surroundings server (received surroundings request)).run site).2) := rfl
  obtain ⟨identifier, hidentifier⟩ := Headers.exists_first?_supplied Header.requestId
    (Utf8.encode surroundings.chance.requestId) request.headers
  have hstamped : (received surroundings request).headers.first? Header.requestId
      = some identifier := by
    rw [received, stamped_eq, hidentifier]
  have hanswer : outcome.1 = .response ⟨⟨response.head.status,
      (response.head.headers.without Header.sendData).supplied Header.requestId identifier⟩,
        response.body⟩ := by
    rw [houtcome, hroute, identify, identified_eq hstamped]
  refine ⟨?_, identifier, hidentifier, fun hnone => ?_, fun _ => hanswer⟩
  · rw [houtcome, hroute, hdirected]
  · rw [hanswer, Headers.without_of_not_mem hnone]

/-- The proxy with the standard settings. -/
def usualServer : Server := ⟨{}, ⟨"127.0.0.1:3000", 60, 600⟩⟩

/-- An application that answers everything with a directive of no known kind. -/
def puzzlingSurroundings : Surroundings := { Deposit.drawnSurroundings with
  application := fun _ _ => .answered
    ⟨⟨200, [(Header.sendData, Utf8.encode "send-file:")]⟩, Stream.once (Utf8.encode "yes")⟩ none }

/-- A request for a page. -/
def pageRequest : Request := ⟨"GET", ⟨none, none, "/page", some "a=b"⟩, [], []⟩

theorem answer_of_forwarded_puzzling :
    ((answer puzzlingSurroundings usualServer pageRequest).run { gate := ⟨1, 0, 0⟩ }).2.sent
      = [⟨"GET", ⟨some "http", some "127.0.0.1:3000", "/page", some "a=b"⟩,
          [(Header.requestId, Utf8.encode "id")], []⟩] ∧
    ((answer puzzlingSurroundings usualServer pageRequest).run { gate := ⟨1, 0, 0⟩ }).1
      = .response ⟨⟨200, [(Header.requestId, Utf8.encode "id")]⟩,
          Stream.once (Utf8.encode "yes")⟩ := by
  have hmake : make {} = .ok usualServer := by decide +kernel
  have hvalid : Config.problems {} = [] := by decide +kernel
  have hroute : Route.select? usualServer.config.uploads.routes pageRequest.uri.path = none := by
    decide +kernel
  obtain ⟨hsent, identifier, hidentifier, -, hanswer⟩ :=
    @answer_of_forwarded puzzlingSurroundings usualServer pageRequest _ _ _ { gate := ⟨1, 0, 0⟩ }
      hmake hvalid (by decide) (.inl hroute) rfl
      (by
        intro value hvalue
        obtain rfl := Option.some.inj hvalue
        refine ⟨hroute, fun data hdata => ?_⟩
        obtain rfl := Option.some.inj hdata
        decide +kernel)
  obtain rfl := Option.some.inj hidentifier
  exact ⟨hsent, hanswer (by decide +kernel)⟩

/-! ### Requests without a path -/

/-- A target without a path is not known to the proxy, and nothing is sent. -/
theorem answer_of_pathless (hpath : ¬ request.uri.HasPath) (site : Site) :
    (answer surroundings server request).run site
      = (identify (received surroundings request).headers (.response ⟨⟨404, []⟩, []⟩), site) := by
  have hroute : Server.route surroundings server (received surroundings request)
      = pure (.response ⟨⟨404, []⟩, []⟩) := by
    rw [Server.route]
    exact if_neg hpath
  rw [answer]
  show ((do
    let answer ← Server.route surroundings server (received surroundings request)
    return identify (received surroundings request).headers answer : Run Answer)).run site = _
  rw [hroute]
  rfl

/-- A request for the options of the proxy as a whole. -/
def wholeRequest : Request := ⟨"OPTIONS", ⟨none, none, "*", none⟩, [], []⟩

/-- An application that answers everything. -/
def readySurroundings : Surroundings := { Deposit.drawnSurroundings with
  application := fun _ _ => .answered ⟨⟨200, []⟩, []⟩ none }

/-- Not every request that is on no upload route is handed on, though the application answers
everything. -/
theorem not_sent_of_pathless :
    ¬ ∀ (surroundings : Surroundings) (config : Config) (server : Server) (text : String)
        (request : Request) (site : Site),
      make config = .ok server → config.problems = [] → Uri.parse? text = some request.uri →
      Route.select? server.config.uploads.routes request.uri.path = none →
      (∀ before asked, ∃ response length,
        surroundings.application before asked = .answered response length ∧
          Header.sendData ∉ response.head.headers.names) →
      ∃ asked, ((answer surroundings server request).run site).2.sent = asked :: site.sent := by
  intro hsent
  obtain ⟨asked, hasked⟩ := hsent readySurroundings {} usualServer "*" wholeRequest
    { gate := ⟨1, 0, 0⟩ } (by decide +kernel) (by decide +kernel) (by decide +kernel)
    (by decide +kernel) fun _ _ => ⟨_, _, rfl, List.not_mem_nil⟩
  rw [answer_of_pathless (by decide)] at hasked
  cases hasked

end Server

end Intercept
