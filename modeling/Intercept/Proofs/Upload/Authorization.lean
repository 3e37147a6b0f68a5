/-
# What is done before an upload is allowed

The application is asked about an upload first.  Unless it answers with a grant nothing else is
done: the client is told what the application said, or that it said nothing of use, and neither the
disk nor a metric changes.  If it answers with a grant at most one more request is sent, which is
the one with the new form.
-/
import Intercept.Proofs.Net.Uri
import Intercept.Proofs.Upload.Handover

namespace Intercept

/-- From a state of the site to a later one, nothing changed but the log and the requests sent. -/
def Site.Untouched (site later : Site) : Prop :=
  ∃ sent events, later = { site with sent, journal := { site.journal with events } }

namespace Route

/-- Slashes at the end are what a path has more than its stripped characters. -/
lemma stripped_prefix (path : String) : stripped path <+: path.toList := by
  rw [← List.reverse_suffix, stripped, List.reverse_reverse]
  exact List.dropWhile_suffix _

end Route

namespace Authorization

/-! ### The request that asks -/

/-- The path of the request that asks begins with a slash, as the path that it is made of. -/
lemma head?_asked {path : String} (hslash : path.toList.head? = some '/') :
    (String.ofList (Route.stripped path) ++ suffix).toList.head? = some '/' := by
  rw [String.toList_append, String.toList_ofList]
  cases hstripped : Route.stripped path with
  | nil => rfl
  | cons c rest =>
    obtain ⟨slashes, hpath⟩ := hstripped ▸ Route.stripped_prefix path
    rw [← hslash, ← hpath]
    rfl

/-- The target of the request that asks has only characters that may stand there. -/
lemma legible_asked {path : String} {query : Option String} (hlegible : Uri.Legible path query) :
    Uri.Legible (String.ofList (Route.stripped path) ++ suffix) query := by
  refine ⟨fun c hc => ?_, hlegible.query⟩
  rw [String.toList_append, String.toList_ofList, List.mem_append] at hc
  rcases hc with hc | hc
  · exact hlegible.path c ((Route.stripped_prefix path).subset hc)
  · exact List.all_eq_true.1 (show suffix.toList.all Uri.isPathChar = true by decide) c hc

/-- The target of the request that asks has `/authorize` behind the path, and the same query. -/
lemma request?_target {uri : Uri} {headers : Headers} {asked : Request}
    (hlegible : Uri.Legible uri.path uri.query) (hslash : uri.path.toList.head? = some '/')
    (hasked : request? uri headers = some asked) :
    asked.method = "POST" ∧ asked.uri.path = String.ofList (Route.stripped uri.path) ++ suffix ∧
      asked.uri.query = uri.query := by
  obtain ⟨target, hread, rfl⟩ := Option.map_eq_some_iff.1 hasked
  obtain rfl := Uri.parse?_written (legible_asked hlegible) (head?_asked hslash) hread
  exact ⟨rfl, rfl, rfl⟩

/-- The request that asks is sent to its own target. -/
lemma directed_target (backend : Backend) {uri : Uri} {headers : Headers} {asked : Request}
    (hlegible : Uri.Legible uri.path uri.query) (hslash : uri.path.toList.head? = some '/')
    (hasked : request? uri headers = some asked) :
    (backend.directed asked).method = "POST" ∧
      (backend.directed asked).uri.path = String.ofList (Route.stripped uri.path) ++ "/authorize" ∧
      (backend.directed asked).uri.query = uri.query := by
  obtain ⟨hmethod, hpath, hquery⟩ := request?_target hlegible hslash hasked
  refine ⟨hmethod, ?_, hquery⟩
  have hsome : asked.uri.path.isEmpty = false := by
    rw [hpath, String.isEmpty_eq_false_iff, Ne, ← String.toList_inj, String.toList_append]
    exact List.append_ne_nil_of_right_ne_nil _ (by decide)
  rw [← suffix, ← hpath]
  simp [Backend.directed, Uri.retarget, hsome]

/-! ### What the answer means -/

/-- An answer of the application allows an upload: its status is 200, and its body is a grant that
comes whole and has no more bytes than are read. -/
def Allows (response : Response) : Prop :=
  response.head.status = 200 ∧ response.body.deliver.fault = none ∧
    response.body.deliver.bytes.length ≤ maxSize ∧
    (Grant.decode? response.body.deliver.bytes).isSome = true

lemma judge_of_allows {response : Response} (h : Allows response) :
    ∃ grant, judge response = .ok (.granted grant) := by
  obtain ⟨hstatus, hfault, hsize, hsome⟩ := h
  obtain ⟨grant, hgrant⟩ := Option.isSome_iff_exists.1 hsome
  have hread : ¬ (response.body.deliver.fault.isSome = true ∨
      maxSize < response.body.deliver.bytes.length) := by
    rw [hfault]
    simpa using hsize
  refine ⟨grant, ?_⟩
  rw [judge, if_neg (not_not.2 hstatus)]
  simp only [hread, if_false, hgrant]

/-- An answer of status 200 that does not allow the upload is of no use. -/
lemma judge_of_not_allows {response : Response} (hstatus : response.head.status = 200)
    (hnot : ¬ Allows response) :
    judge response = .error .unreadable ∨ judge response = .error .undecodable := by
  rw [judge, if_neg (not_not.2 hstatus)]
  simp only
  split
  · exact .inl rfl
  · rename_i hread
    obtain ⟨hfault, hsize⟩ := not_or.1 hread
    cases hgrant : Grant.decode? response.body.deliver.bytes with
    | none => exact .inr rfl
    | some grant =>
      have hwhole : response.body.deliver.fault = none := by simpa using hfault
      exact absurd ⟨hstatus, hwhole, Nat.not_lt.1 hsize, by rw [hgrant]; rfl⟩ hnot

lemma judge_of_status {response : Response} (hstatus : response.head.status ≠ 200) :
    judge response = .ok (.denied response) := by
  rw [judge, if_pos hstatus]

variable {application : Application} {backend : Backend} {uri : Uri} {headers : Headers}
variable {site : Site}

lemma run_ask_of_none (hnone : request? uri headers = none) :
    (ask application backend uri headers).run site = (.error .badTarget, site) := by
  rw [ask, hnone]
  rfl

/-- The application is sent one request, and says what it says. -/
lemma run_ask_of_some {asked : Request} (hasked : request? uri headers = some asked) :
    (ask application backend uri headers).run site
      = (match backend.judge (application site.sent (backend.directed asked)) with
          | .ok response => judge response
          | .error error => .error (.backend error),
        { site with sent := backend.directed asked :: site.sent }) := by
  rw [ask, hasked]
  simp only [Run.run_bind, Backend.run_send]
  cases backend.judge (application site.sent (backend.directed asked)) with
  | ok response => rfl
  | error error => rfl

end Authorization

namespace Upload

variable {surroundings : Surroundings} {backend : Backend} {uploads : Config.Uploads}
variable {route : Route} {request : Request} {boundary : Bytes} {grant : Grant}
variable {site later : Site}

/-! ### Uploads that are not allowed -/

/-- What the application says when it is asked about an upload. -/
def replyTo (surroundings : Surroundings) (backend : Backend) (site : Site) (asked : Request) :
    Except BackendError Response :=
  backend.judge (surroundings.application site.sent (backend.directed asked))

/-- What a client is answered whose upload is not allowed, by what came of asking the
application. -/
def turnedAway : Except BackendError Response → Response
  | .ok response => if response.head.status = 200 then .badGateway else response
  | .error error => Backend.relayed (.error error)

/-- If the application cannot be asked, nothing is done. -/
lemma handle_of_unasked (hboundary : request.headers.boundary? = some boundary)
    (hnone : Authorization.request? request.uri request.headers = none) :
    ∃ events, (handle surroundings backend uploads route request).run site
      = (.badGateway, { site with journal := { site.journal with events } }) := by
  rw [handle, hboundary]
  simp only [Run.run_bind, Authorization.run_ask_of_none hnone]
  exact ⟨_, rfl⟩

/-- If the application does not allow an upload, it was asked and nothing else was done. -/
lemma handle_of_not_allows (hboundary : request.headers.boundary? = some boundary)
    {asked : Request}
    (hasked : Authorization.request? request.uri request.headers = some asked)
    (hnot : ∀ response, replyTo surroundings backend site asked = .ok response →
      ¬ Authorization.Allows response) :
    ∃ events, (handle surroundings backend uploads route request).run site
      = (turnedAway (replyTo surroundings backend site asked),
        { site with
          sent := backend.directed asked :: site.sent
          journal := { site.journal with events } }) := by
  rw [replyTo] at hnot ⊢
  rw [handle, hboundary]
  simp only [Run.run_bind, Authorization.run_ask_of_some hasked]
  cases hreply : backend.judge (surroundings.application site.sent (backend.directed asked)) with
  | error error => exact Backend.excuse_relayed _ error _
  | ok response =>
    by_cases hstatus : response.head.status = 200
    · rcases Authorization.judge_of_not_allows hstatus (hnot response hreply) with hjudge | hjudge
      · simp only [turnedAway, hstatus, if_true, hjudge]
        exact ⟨_, rfl⟩
      · simp only [turnedAway, hstatus, if_true, hjudge]
        exact ⟨_, rfl⟩
    · simp only [turnedAway, hstatus, if_false, Authorization.judge_of_status hstatus]
      exact ⟨_, rfl⟩

/-- A client whose upload is denied gets the answer of the application. -/
lemma response_of_denied (hboundary : request.headers.boundary? = some boundary)
    {asked : Request} {response : Response}
    (hasked : Authorization.request? request.uri request.headers = some asked)
    (hreply : replyTo surroundings backend site asked = .ok response)
    (hstatus : response.head.status ≠ 200) :
    ((handle surroundings backend uploads route request).run site).1 = response := by
  have hnot : ∀ other, replyTo surroundings backend site asked = .ok other →
      ¬ Authorization.Allows other := by
    intro other hother hallows
    cases hreply.symm.trans hother
    exact hstatus hallows.1
  obtain ⟨events, hrun⟩ := handle_of_not_allows hboundary hasked hnot
  rw [hrun, hreply, turnedAway, if_neg hstatus]

/-! ### Uploads that are allowed -/

/-- What the application allows is granted. -/
lemma ask_of_allows {asked : Request} {response : Response}
    (hasked : Authorization.request? request.uri request.headers = some asked)
    (hreply : replyTo surroundings backend site asked = .ok response)
    (hallows : Authorization.Allows response) :
    ∃ grant, (Authorization.ask surroundings.application backend request.uri request.headers).run
      site = (.ok (.granted grant), { site with sent := backend.directed asked :: site.sent }) := by
  obtain ⟨grant, hjudge⟩ := Authorization.judge_of_allows hallows
  refine ⟨grant, ?_⟩
  rw [replyTo] at hreply
  rw [Authorization.run_ask_of_some hasked, hreply]
  simp only [hjudge]

/-- A new form is handed on, or the client is told that the proxy failed. -/
lemma deliver_cases (surroundings : Surroundings) (backend : Backend) (route : Route)
    (request : Request) (index : FileIndex) (writer : FormWriter) (site : Site) :
    (∃ journal, (deliver surroundings backend route.processor request index writer).run site
        = (.failed, { site with journal })) ∨
      ∃ journal, (deliver surroundings backend route.processor request index writer).run site
        = (backend.forward surroundings.application (rewritten request index writer)).run
            { site with journal } := by
  by_cases hfits : index.Fits
  · rw [deliver, FileIndex.announce?_of_fits hfits]
    exact .inr ⟨_, rfl⟩
  · exact .inl ⟨_, run_deliver_of_not_fits hfits _ _⟩

/-- The answers that the proxy makes itself when an upload that was allowed is not handed on. -/
def IsRefusal (response : Response) : Prop := response = .failed ∨ ∃ error, response = refusal error

/-- An upload that is allowed is turned down, or its new form is handed on. -/
lemma handle_granted_cases (hboundary : request.headers.boundary? = some boundary)
    (hask : (Authorization.ask surroundings.application backend request.uri request.headers).run
      site = (.ok (.granted grant), later)) :
    (∃ response after, IsRefusal response ∧ after.sent = later.sent ∧
        (handle surroundings backend uploads route request).run site = (response, after)) ∨
      ∃ index writer after, after.sent = later.sent ∧
        (handle surroundings backend uploads route request).run site
          = (backend.forward surroundings.application (rewritten request index writer)).run
              after := by
  rcases hmake : (Deposit.make surroundings (settingsFor uploads route request grant)
    (formOf uploads request boundary)).run (counted route later) with ⟨deposit, after⟩
  have hsent := sent_of_make hmake
  rw [handle_granted hboundary hask hmake]
  cases deposit.form with
  | error error =>
    obtain ⟨event, hrun⟩ := run_refuse request.headers.requestId error after
    exact .inl ⟨_, after.logged event, .inr ⟨error, rfl⟩, hsent, hrun⟩
  | ok writer =>
    rcases deliver_cases surroundings backend route request deposit.index writer after with
      ⟨journal, hrun⟩ | ⟨journal, hrun⟩
    · exact .inl ⟨_, { after with journal }, .inl rfl, hsent, hrun⟩
    · exact .inr ⟨deposit.index, writer, { after with journal }, hsent, hrun⟩

/-! ### All that can happen to a form -/

/-- The answers to a form on an upload route, with the site after them. -/
inductive Handled (surroundings : Surroundings) (backend : Backend) (request : Request)
    (site : Site) : Response × Site → Prop where
  /-- The application cannot be asked. -/
  | unasked (hnone : Authorization.request? request.uri request.headers = none)
      (events : List Event) :
      Handled surroundings backend request site
        (.badGateway, { site with journal := { site.journal with events } })
  /-- The application does not allow the upload. -/
  | notAllowed {asked : Request}
      (hasked : Authorization.request? request.uri request.headers = some asked)
      (hnot : ∀ response, replyTo surroundings backend site asked = .ok response →
        ¬ Authorization.Allows response) (events : List Event) :
      Handled surroundings backend request site
        (turnedAway (replyTo surroundings backend site asked),
          { site with
            sent := backend.directed asked :: site.sent
            journal := { site.journal with events } })
  /-- The upload is allowed, but its form is turned down. -/
  | refused {asked : Request} {response answer : Response} {after : Site}
      (hasked : Authorization.request? request.uri request.headers = some asked)
      (hreply : replyTo surroundings backend site asked = .ok response)
      (hallows : Authorization.Allows response) (hrefusal : IsRefusal answer)
      (hsent : after.sent = backend.directed asked :: site.sent) :
      Handled surroundings backend request site (answer, after)
  /-- The upload is allowed, and the new form is handed on. -/
  | handedOn {asked : Request} {response answer : Response} {index : FileIndex}
      {writer : FormWriter} {before after : Site}
      (hasked : Authorization.request? request.uri request.headers = some asked)
      (hreply : replyTo surroundings backend site asked = .ok response)
      (hallows : Authorization.Allows response)
      (hsent : before.sent = backend.directed asked :: site.sent)
      (hrun : (backend.forward surroundings.application (rewritten request index writer)).run before
        = (answer, after)) :
      Handled surroundings backend request site (answer, after)

/-- A form on an upload route is answered in one of these ways. -/
lemma handled_of_boundary (hboundary : request.headers.boundary? = some boundary) :
    Handled surroundings backend request site
      ((handle surroundings backend uploads route request).run site) := by
  cases hasked : Authorization.request? request.uri request.headers with
  | none =>
    obtain ⟨events, hrun⟩ := handle_of_unasked hboundary hasked
    rw [hrun]
    exact .unasked hasked events
  | some asked =>
    by_cases hallows : ∃ response, replyTo surroundings backend site asked = .ok response ∧
        Authorization.Allows response
    · obtain ⟨response, hreply, hallows⟩ := hallows
      obtain ⟨grant, hask⟩ := ask_of_allows hasked hreply hallows
      rcases handle_granted_cases hboundary hask with
        ⟨answer, after, hrefusal, hsent, hrun⟩ | ⟨index, writer, before, hsent, hrun⟩
      · rw [hrun]
        exact .refused hasked hreply hallows hrefusal hsent
      · rw [hrun]
        exact .handedOn hasked hreply hallows hsent (Prod.eta _).symm
    · obtain ⟨events, hrun⟩ := handle_of_not_allows hboundary hasked
        fun response hreply hresponse => hallows ⟨response, hreply, hresponse⟩
      rw [hrun]
      exact .notAllowed hasked
        (fun response hreply hresponse => hallows ⟨response, hreply, hresponse⟩) events

end Upload

end Intercept
