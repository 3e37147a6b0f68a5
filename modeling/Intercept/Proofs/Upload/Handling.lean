/-
# What handling an upload comes to

When the application has allowed an upload, the files are taken out of the form, and either the form
is turned down or the new form is handed on.  While files are taken out, nothing is sent.
-/
import Intercept.Proofs.Upload.NewForm
import Intercept.Upload.Handling

namespace Intercept

variable {α : Type}

/-! ### Work that sends nothing -/

/-- A piece of work sends no request to the application. -/
def Run.Silent (work : Run α) : Prop := ∀ site : Site, (work.run site).2.sent = site.sent

/-- While files are taken out of a form, nothing is sent. -/
lemma Deposit.silent_make (surroundings : Surroundings) (settings : Settings) (form : Form) :
    Run.Silent (make surroundings settings form) := by
  intro site
  have hroom := room_anywhere surroundings settings form.parts site
  exact (confined_make hroom site (Site.Since.refl _ site)).1.sent

namespace Upload

variable {surroundings : Surroundings} {backend : Backend} {uploads : Config.Uploads}
variable {route : Route} {request : Request} {boundary : Bytes} {grant : Grant}
variable {site later : Site}

/-! ### An upload that is allowed -/

/-- How the files are taken out of a form. -/
def settingsFor (uploads : Config.Uploads) (route : Route) (request : Request) (grant : Grant) :
    Deposit.Settings where
  grant := grant
  transform := ⟨uploads.stripper, uploads.artifact, uploads.directory, request.headers.requestId⟩
  processor := route.processor

/-- The form that a request brings. -/
def formOf (uploads : Config.Uploads) (request : Request) (boundary : Bytes) : Form :=
  Form.readNamed ⟨boundary, uploads.maxFormSize⟩ request.body

/-- The site when an upload that is allowed was counted. -/
def counted (route : Route) (site : Site) : Site :=
  ((Site.count (.uploadRequests route.processor) 1).run site).2

lemma accept_eq (surroundings : Surroundings) (backend : Backend) (uploads : Config.Uploads)
    (route : Route) (request : Request) (boundary : Bytes) (grant : Grant) :
    accept surroundings backend uploads route request boundary grant = (do
      Site.count (.uploadRequests route.processor) 1
      let deposit ← Deposit.make surroundings (settingsFor uploads route request grant)
        (formOf uploads request boundary)
      match deposit.form with
      | .error error => refuse request.headers.requestId error
      | .ok writer => deliver surroundings backend route.processor request deposit.index writer) :=
  rfl

/-- An upload that is allowed is counted, and its files are taken out. -/
lemma handle_granted (hboundary : request.headers.boundary? = some boundary)
    (hask : (Authorization.ask surroundings.application backend request.uri request.headers).run
      site = (.ok (.granted grant), later)) {deposit : Deposit} {after : Site}
    (hmake : (Deposit.make surroundings (settingsFor uploads route request grant)
      (formOf uploads request boundary)).run (counted route later) = (deposit, after)) :
    (handle surroundings backend uploads route request).run site
      = (match deposit.form with
        | .error error => refuse request.headers.requestId error
        | .ok writer =>
          deliver surroundings backend route.processor request deposit.index writer).run after := by
  have hcounted : (Site.count (.uploadRequests route.processor) 1).run later
      = ((), counted route later) := rfl
  rw [handle, hboundary]
  simp only [Run.run_bind, hask, accept_eq, hcounted, hmake]

/-- Nothing was sent since the application was asked. -/
lemma sent_of_make {deposit : Deposit} {after : Site}
    (hmake : (Deposit.make surroundings (settingsFor uploads route request grant)
      (formOf uploads request boundary)).run (counted route later) = (deposit, after)) :
    after.sent = later.sent := by
  have hsilent := Deposit.silent_make surroundings (settingsFor uploads route request grant)
    (formOf uploads request boundary) (counted route later)
  rw [hmake] at hsilent
  exact hsilent

/-- What a client is answered whose form is turned down. -/
def refusal (error : DepositError) : Response :=
  if error.status = 500 then .failed else .plain error.status (reason error.status)

lemma run_refuse (requestId : String) (error : DepositError) (site : Site) :
    ∃ event, (refuse requestId error).run site = (refusal error, site.logged event) := by
  rw [refuse, refusal]
  split
  · exact ⟨_, rfl⟩
  · exact ⟨_, rfl⟩

/-! ### An application that allows uploads -/

/-- Surroundings in which the application answers everything with one body. -/
def grantingSurroundings (body : String) : Surroundings := { Deposit.drawnSurroundings with
  application := fun _ _ => .answered ⟨⟨200, []⟩, Stream.once (Utf8.encode body)⟩ none }

/-- An application that has time to answer. -/
def plainBackend : Backend := ⟨"backend", 10, 60⟩

/-- A route for uploads. -/
def plainRoute : Route := ⟨"/uploads", "uploads"⟩

/-- The site when the application was asked about a request. -/
def allowedSite (body : String) (request : Request) : Site :=
  ((Authorization.ask (grantingSurroundings body).application plainBackend request.uri
    request.headers).run { gate := ⟨1, 0, 0⟩ }).2

/-- If what the application answers is a grant, that is granted. -/
lemma ask_granting {body : String} (hsize : (Utf8.encode body).length ≤ Authorization.maxSize)
    (hdecode : Grant.decode? (Utf8.encode body) = some grant)
    (hrequest : (Authorization.request? request.uri request.headers).isSome = true) :
    (Authorization.ask (grantingSurroundings body).application plainBackend request.uri
      request.headers).run { gate := ⟨1, 0, 0⟩ }
        = (.ok (.granted grant), allowedSite body request) := by
  obtain ⟨asked, hsome⟩ := Option.isSome_iff_exists.1 hrequest
  have hjudge : Authorization.judge ⟨⟨200, []⟩, Stream.once (Utf8.encode body)⟩
      = .ok (.granted grant) := by
    simp only [Authorization.judge, Stream.deliver_once, hdecode]
    simp [Nat.not_lt.2 hsize]
  have hgranted : ((Authorization.ask (grantingSurroundings body).application plainBackend
      request.uri request.headers).run { gate := ⟨1, 0, 0⟩ }).1 = .ok (.granted grant) := by
    rw [Authorization.ask, hsome]
    exact hjudge
  rw [allowedSite, ← hgranted]
  exact (Prod.eta _).symm

end Upload

end Intercept
