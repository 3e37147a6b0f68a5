/-
# Whether a scaler is started

An image is either handed back untouched, with a reason, or its scaler is started
(`tryResize_cases`).  What a started scaler does is fixed by the program and by how far it could be
fed: `Scaler.started` is the scaler for an image, and `Scaler.Completed` says that it did its work.

Neither starting a scaler nor finishing it says in the log that an image is delivered unscaled.
-/
import Intercept.Proofs.Image.Delivery
import Intercept.Proofs.Image.Feed

namespace Intercept

/-- Whether an event says that an image is delivered unscaled since it could not be scaled. -/
def Event.isDegradation (event : Event) : Bool :=
  event.level == .warn && event.message == "ImageResizer: serving original image"

/-- How often the log says that an image is delivered unscaled since it could not be scaled. -/
def Site.degradations (site : Site) : Nat := site.journal.events.countP Event.isDegradation

lemma Site.degradations_logged (site : Site) (event : Event) :
    (site.logged event).degradations
      = site.degradations + if event.isDegradation then 1 else 0 := by
  simp [Site.degradations, List.countP_singleton]

lemma Site.degradations_congr {site other : Site}
    (h : other.journal.events = site.journal.events) : other.degradations = site.degradations := by
  rw [Site.degradations, Site.degradations, h]

lemma ResizeLog.isDegradation_degraded (log : ResizeLog) (error : ResizeError) :
    (log.degraded error).isDegradation = true := rfl

/-- A scaler that is finished leaves what it wrote about its work in the log, and nothing else. -/
lemma ScalerProcess.events_finish (process : ScalerProcess) (site : Site) :
    (process.finish.run site).2.journal.events
      = site.journal.events ++ Scaler.remarkEvents process.requestId process.remarks := by
  rw [finish]
  generalize verdict process.exitStatus process.feed = status
  cases status <;> rfl

lemma Scaler.message_of_mem_remarkEvents {requestId : String} {remarks : Bytes} {event : Event}
    (h : event ∈ remarkEvents requestId remarks) : event.message = "Scaler output" := by
  obtain ⟨line, -, rfl⟩ := List.mem_map.1 h
  rfl

lemma ScalerProcess.degradations_finish (process : ScalerProcess) (site : Site) :
    (process.finish.run site).2.degradations = site.degradations := by
  have hremarks : (Scaler.remarkEvents process.requestId process.remarks).countP
      Event.isDegradation = 0 := by
    rw [List.countP_eq_zero]
    intro event hevent
    simp [Event.isDegradation, Scaler.message_of_mem_remarkEvents hevent]
  rw [Site.degradations, events_finish, List.countP_append, hremarks, Nat.add_zero,
    Site.degradations]

lemma ScalerProcess.degradations_abort (process : ScalerProcess) (site : Site) :
    (process.abort.run site).2.degradations = site.degradations :=
  ScalerProcess.degradations_finish _ site

namespace Scaler

variable (surroundings : Surroundings) (settings : Config.Resizer) (source : SourceImage)
  (request : ResizeRequest) (context : Context)

/-- Starting the program that scales: how much it takes, and what it does. -/
def launch : Except SystemError (Intake × (Input → Behaviour)) :=
  (surroundings.program settings.program).start
    ⟨[], environment surroundings.environment request context⟩

/-- What comes of feeding an image to a scaler. -/
def fed (intake : Intake) : Feed.Result := Feed.run settings.maxSize intake source.stream

/-- What a scaler does when it is fed an image. -/
def behaviour (intake : Intake) (run : Input → Behaviour) : Behaviour :=
  run (fed settings source intake).input

/-- The scaler of an image. -/
def started (intake : Intake) (run : Input → Behaviour) : ScalerRun :=
  let behaviour := behaviour settings source intake run
  ⟨behaviour.output,
    ⟨(fed settings source intake).feed, behaviour.ending, behaviour.errors, context.requestId⟩⟩

/-- An image is handed back untouched, with one warning to come, or its scaler is started. -/
lemma tryResize_cases (site : Site) :
    (∃ reason after, (tryResize surroundings settings source request context).run site
        = (.error ⟨source.stream, reason⟩, after) ∧
        after.journal.events = site.journal.events) ∨
      ∃ intake run, oversize? settings.maxSize source.declared = none ∧
        site.gate.live < site.gate.ceiling ∧
        launch surroundings settings request context = .ok (intake, run) ∧
        (tryResize surroundings settings source request context).run site
          = (.ok (started settings source context intake run), site.admitted) := by
  rw [tryResize]
  cases hsize : oversize? settings.maxSize source.declared with
  | some error => exact .inl ⟨error, site, rfl, rfl⟩
  | none =>
    simp only [Run.run_bind, Site.run_acquire, decide_eq_true_eq]
    by_cases hfree : site.gate.live < site.gate.ceiling
    · simp only [hfree, if_true]
      cases hlaunch : launch surroundings settings request context with
      | error cause =>
        rw [launch] at hlaunch
        simp only [hlaunch]
        exact .inl ⟨_, _, rfl, by simp⟩
      | ok pair =>
        obtain ⟨intake, run⟩ := pair
        rw [launch] at hlaunch
        simp only [hlaunch]
        exact .inr ⟨intake, run, trivial, trivial, rfl, rfl⟩
    · simp only [hfree, if_false]
      exact .inl ⟨_, _, rfl, by simp⟩

/-- The scaler of an image did its work and wrote `bytes`: it ended well, and the part of the image
that was read to feed it has no fault and is not above the limit. -/
inductive Completed (bytes : Bytes) : Prop where
  | intro {intake : Intake} {run : Input → Behaviour} {read rest : Stream String}
      (hlaunch : launch surroundings settings request context = .ok (intake, run))
      (hsource : source.stream = read ++ rest)
      (hread : read.deliver = ⟨(fed settings source intake).feed.replay, none⟩)
      (hlimit : (fed settings source intake).feed.replay.length ≤ settings.maxSize)
      (houtput : (behaviour settings source intake run).output.deliver = ⟨bytes, none⟩)
      (hending : (behaviour settings source intake run).ending = .exits (.code 0))

/-- How the feeding of a scaler ends. -/
lemma fed_outcome (intake : Intake) :
    Feed.Outcome settings.maxSize source.stream (fed settings source intake) :=
  Feed.run_outcome _ _ _

variable {surroundings settings source request context}

/-- The status of a scaler tells how it ended. -/
lemma ending_of_exitStatus {intake : Intake} {run : Input → Behaviour}
    (hstatus : (started settings source context intake run).process.exitStatus = .ok (.code 0)) :
    (behaviour settings source intake run).ending = .exits (.code 0) := by
  have hexit : (started settings source context intake run).process.ending
      = (behaviour settings source intake run).ending := rfl
  rw [ScalerProcess.exitStatus, hexit] at hstatus
  cases hcase : (behaviour settings source intake run).ending with
  | exits status =>
    rw [hcase] at hstatus
    cases hstatus
    rfl
  | unknown cause =>
    rw [hcase] at hstatus
    cases hstatus

/-- A scaler that adds no error to what it wrote did its work. -/
lemma completed_of_failure? {intake : Intake} {run : Input → Behaviour} {bytes : Bytes}
    (hlaunch : launch surroundings settings request context = .ok (intake, run))
    (houtput : (started settings source context intake run).output.deliver = ⟨bytes, none⟩)
    (hfailure : (started settings source context intake run).process.failure? = none) :
    Completed surroundings settings source request context bytes := by
  obtain ⟨hstatus, hsize, hfault⟩ := ScalerProcess.verdict_eq_ok_iff.1
    (ScalerProcess.failure?_eq_none_iff.1 hfailure)
  have hfed := fed_outcome settings source intake
  obtain ⟨read, rest, hsource, hread⟩ := hfed.exists_read hfault
  have hlimit : ¬ settings.maxSize < (fed settings source intake).feed.replay.length := by
    intro hgrown
    obtain ⟨size, ceiling, herror⟩ := hfed.tooLarge_iff.2 hgrown
    exact hsize size ceiling herror
  have hending := ending_of_exitStatus hstatus
  exact .intro hlaunch hsource hread (Nat.le_of_not_lt hlimit) houtput hending

end Scaler

end Intercept
