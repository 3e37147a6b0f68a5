/-
# All or nothing

A directive for a scaled image is answered by the proxy's own failure, by the image, or by what a
scaler writes for it (`inject_answered`).  From this list follow the two promises that a client
relies on:

* a body that ends without an error is the whole image or the whole work of a scaler that was fed
  well and ended well, and never a part of either (`collect_eq_whole`);
* if the image can be read, a scaling that fails before its first byte is answered by the image
  itself, complete and unchanged, and by one warning in the log (`collect_of_failsEarly`).
-/
import Intercept.Proofs.Image.Scaler
import Intercept.Image.Resizer

namespace Intercept

namespace Image

variable {surroundings : Surroundings} {settings : Config.Resizer} {source : SourceImage}
  {request : ResizeRequest} {context : Scaler.Context} {head : Head}

/-! ### Opening -/

/-- A request for an image ends at once, or is sent on with one redirection less to go. -/
lemma fetchFrom_step (web : Web) (settings : Config.Fetch) (location : String) (room : Nat)
    (address : WebAddress) (site : Site) :
    (∃ found fetched, (SourceImage.fetchFrom web settings location room address).run site
        = (found, { site with fetched })) ∨
      ∃ less next, room = less + 1 ∧
        (SourceImage.fetchFrom web settings location room address).run site
          = (SourceImage.fetchFrom web settings location less next).run
              { site with fetched := address :: site.fetched } := by
  rw [SourceImage.fetchFrom]
  cases web address with
  | unreachable cause => exact .inl ⟨_, site.fetched, rfl⟩
  | stalled => exact .inl ⟨_, site.fetched, rfl⟩
  | silent => exact .inl ⟨_, _, rfl⟩
  | answered response length =>
    by_cases htimeout : settings.headerTimeout = 0
    · simp only [htimeout, if_true]
      exact .inl ⟨_, _, rfl⟩
    · simp only [htimeout, if_false]
      cases SourceImage.nextAddress? address response.head with
      | none => exact .inl ⟨_, _, rfl⟩
      | some next =>
        cases room with
        | zero => exact .inl ⟨_, _, rfl⟩
        | succ less => exact .inr ⟨less, next, rfl, rfl⟩

lemma fetchFrom_events (web : Web) (settings : Config.Fetch) (location : String) (room : Nat) :
    ∀ (address : WebAddress) (site : Site),
      ∃ fetched, ((SourceImage.fetchFrom web settings location room address).run site).2
        = { site with fetched } := by
  induction room with
  | zero =>
    intro address site
    rcases fetchFrom_step web settings location 0 address site with
      ⟨found, fetched, hrun⟩ | ⟨less, next, hroom, -⟩
    · exact ⟨fetched, by rw [hrun]⟩
    · exact absurd hroom (Nat.succ_ne_zero less).symm
  | succ room ih =>
    intro address site
    rcases fetchFrom_step web settings location (room + 1) address site with
      ⟨found, fetched, hrun⟩ | ⟨less, next, hroom, hrun⟩
    · exact ⟨fetched, by rw [hrun]⟩
    · obtain rfl : room = less := Nat.succ.inj hroom
      obtain ⟨fetched, hrest⟩ := ih next { site with fetched := address :: site.fetched }
      exact ⟨fetched, by rw [hrun, hrest]⟩

lemma openAt_of_isRemote (web : Web) (settings : Config.Fetch) {location : String}
    (hremote : SourceImage.isRemote location = true) :
    SourceImage.openAt web settings location = SourceImage.fetch web settings location := by
  simp only [SourceImage.openAt, hremote, if_true]

/-- Opening an image leaves no trace but the addresses that were asked for it. -/
lemma openAt_events (web : Web) (settings : Config.Fetch) (location : String) (site : Site) :
    ∃ fetched, ((SourceImage.openAt web settings location).run site).2
      = { site with fetched } := by
  cases hremote : SourceImage.isRemote location with
  | true =>
    rw [openAt_of_isRemote web settings hremote, SourceImage.fetch]
    cases WebAddress.parse? location with
    | none => exact ⟨site.fetched, rfl⟩
    | some address => exact fetchFrom_events _ _ _ _ _ _
  | false =>
    simp only [SourceImage.openAt, hremote, if_false, Bool.false_eq_true]
    exact ⟨site.fetched, rfl⟩

/-! ### Delivering an image unscaled -/

/-- An image of which something can be read, or that is empty, is delivered. -/
lemma run_deliverUnscaled (head : Head) (stream : Stream String) (log : ResizeLog) (site : Site)
    (hread : ∀ cause, stream.deliver ≠ ⟨[], some cause⟩) :
    ∃ begun, (deliverUnscaled head stream log).run site
        = (.delivery head (.commit begun none log), site) ∧ begun.deliver = stream.deliver := by
  rw [deliverUnscaled]
  cases hstart : start stream with
  | data begun => exact ⟨begun, rfl, (deliver_of_start hstart).1⟩
  | empty => exact ⟨[], rfl, (start_eq_empty_iff.1 hstart).symm⟩
  | failed cause => exact absurd (start_eq_failed_iff.1 hstart) (hread cause)

/-- An image of which nothing can be read fails the request. -/
lemma run_deliverUnscaled_failed (head : Head) {stream : Stream String} (log : ResizeLog)
    (site : Site) {cause : String} (hread : stream.deliver = ⟨[], some cause⟩) :
    ((deliverUnscaled head stream log).run site).1 = .response .failed := by
  rw [deliverUnscaled, start_eq_failed_iff.2 hread]
  rfl

/-! ### What an answer is -/

/-- The answers that there can be to a directive whose image was opened. -/
inductive Answered (surroundings : Surroundings) (settings : Config.Resizer) (source : SourceImage)
    (request : ResizeRequest) (context : Scaler.Context) : Answer → Prop where
  | failed : Answered surroundings settings source request context (.response .failed)
  /-- The image. -/
  | unscaled {head : Head} {stream : Stream String} {log : ResizeLog}
      (hstream : stream.deliver = source.stream.deliver) :
      Answered surroundings settings source request context
        (.delivery head (.commit stream none log))
  /-- What a scaler writes. -/
  | scaled {head : Head} {stream : Stream String} {log : ResizeLog} {intake : Intake}
      {run : Input → Behaviour} (henabled : settings.enabled = true)
      (hlaunch : Scaler.launch surroundings settings request context = .ok (intake, run))
      (hstream : stream.deliver
        = (Scaler.started settings source context intake run).output.deliver) :
      Answered surroundings settings source request context (.delivery head
        (.commit stream (some (Scaler.started settings source context intake run).process) log))
  /-- Nothing, for a scaler that wrote nothing and ended well. -/
  | silent {head : Head} {log : ResizeLog} (henabled : settings.enabled = true)
      (hcompleted : Scaler.Completed surroundings settings source request context []) :
      Answered surroundings settings source request context (.delivery head (.commit [] none log))

lemma answered_deliverUnscaled (head : Head) {stream : Stream String} (log : ResizeLog)
    (site : Site) (hstream : stream.deliver = source.stream.deliver) :
    Answered surroundings settings source request context
      ((deliverUnscaled head stream log).run site).1 := by
  by_cases hread : ∃ cause, stream.deliver = ⟨[], some cause⟩
  · obtain ⟨cause, hcause⟩ := hread
    rw [run_deliverUnscaled_failed head log site hcause]
    exact .failed
  · obtain ⟨begun, hrun, hbegun⟩ := run_deliverUnscaled head stream log site (not_exists.1 hread)
    rw [hrun]
    exact .unscaled (hbegun.trans hstream)

lemma answered_fallBack (head : Head) (error : ResizeError) (intake : Intake) (log : ResizeLog)
    (site : Site) :
    Answered surroundings settings source request context
      ((fallBack head error (Scaler.fed settings source intake).feed log).run site).1 := by
  rw [fallBack, Run.run_bind]
  by_cases hsource : ∃ cause, (Scaler.fed settings source intake).feed.error = some (.source cause)
  · obtain ⟨cause, hcause⟩ := hsource
    have hnone : (Scaler.fed settings source intake).feed.unscaled? = none := by
      rw [Feed.unscaled?, hcause]
    rw [hnone]
    exact .failed
  · obtain ⟨stream, hstream, hdeliver⟩ :=
      (Scaler.fed_outcome settings source intake).deliver_unscaled (not_exists.1 hsource)
    rw [hstream]
    exact answered_deliverUnscaled head log _ hdeliver

lemma answered_deliverScaled (head : Head) {intake : Intake} {run : Input → Behaviour}
    (henabled : settings.enabled = true)
    (hlaunch : Scaler.launch surroundings settings request context = .ok (intake, run))
    (log : ResizeLog) (site : Site) :
    Answered surroundings settings source request context
      ((deliverScaled head (Scaler.started settings source context intake run) log).run
        site).1 := by
  rw [deliverScaled]
  cases hstart : start (Scaler.started settings source context intake run).output with
  | data begun => exact .scaled henabled hlaunch (deliver_of_start hstart).1
  | failed cause => exact answered_fallBack head _ intake log _
  | empty =>
    simp only [Run.run_bind, ScalerProcess.run_finish]
    cases hverdict : ScalerProcess.verdict
        (Scaler.started settings source context intake run).process.exitStatus
        (Scaler.started settings source context intake run).process.feed with
    | ok done =>
      have hnone := ScalerProcess.failure?_eq_none_iff.2 hverdict
      exact .silent henabled
        (Scaler.completed_of_failure? hlaunch (start_eq_empty_iff.1 hstart) hnone)
    | error error => exact answered_fallBack head error intake log _

/-- Every answer to a directive whose image was opened is one of those listed. -/
lemma answered_deliverSource (surroundings : Surroundings) (settings : Config.Resizer) (head : Head)
    (source : SourceImage) (request : ResizeRequest) (headers : Headers) (site : Site) :
    Answered surroundings settings source request ⟨headers.requestId, headers.traceEnvironment⟩
      ((deliverSource surroundings settings head source request headers).run site).1 := by
  rw [deliverSource, Run.run_bind, choose]
  by_cases henabled : settings.enabled = true
  · rw [if_pos henabled, Run.run_bind]
    rcases Scaler.tryResize_cases surroundings settings source request
        ⟨headers.requestId, headers.traceEnvironment⟩ site with
      ⟨reason, after, hrun, -⟩ | ⟨intake, run, -, -, hlaunch, hrun⟩
    · rw [hrun]
      exact answered_deliverUnscaled _ _ _ rfl
    · rw [hrun]
      exact answered_deliverScaled _ henabled hlaunch _ _
  · rw [if_neg henabled]
    exact answered_deliverUnscaled _ _ _ rfl

lemma run_inject {data : String} {headers : Headers} {site opened : Site}
    (hrequest : ResizeRequest.unpack data = .ok request)
    (hopen : (SourceImage.openAt surroundings.web settings.fetch request.location).run site
      = (.ok source, opened)) :
    (inject surroundings settings head data headers).run site
      = (deliverSource surroundings settings head source request headers).run opened := by
  rw [inject, hrequest, Run.run_bind, hopen]

/-- **All or nothing.**  When the image of a directive was opened and the answer is not the proxy's
own failure, a body that ends without an error is the whole image, or all that a scaler wrote that
did its work.  The body may be read at any later time. -/
theorem collect_eq_whole {data : String} {headers : Headers} {site opened : Site}
    (hrequest : ResizeRequest.unpack data = .ok request)
    (hopen : (SourceImage.openAt surroundings.web settings.fetch request.location).run site
      = (.ok source, opened))
    {answer : Answer}
    (hanswer : ((inject surroundings settings head data headers).run site).1 = answer)
    (hfailed : answer ≠ .response .failed) {later : Site} {bytes : Bytes}
    (hbody : (answer.collect.run later).1 = ⟨bytes, none⟩) :
    source.stream.deliver = ⟨bytes, none⟩ ∨
      settings.enabled = true ∧ Scaler.Completed surroundings settings source request
        ⟨headers.requestId, headers.traceEnvironment⟩ bytes := by
  have hanswered := answered_deliverSource surroundings settings head source request headers opened
  rw [← run_inject hrequest hopen, hanswer] at hanswered
  cases hanswered with
  | failed => exact absurd rfl hfailed
  | unscaled hstream =>
    rw [Answer.collect, Delivery.drain_commit, hstream] at hbody
    obtain ⟨hbytes, hfault⟩ := Delivered.mk.inj hbody
    rw [ScalerProcess.failureOf, Option.or_none] at hfault
    refine .inl ?_
    rw [← hbytes, ← hfault]
  | scaled henabled hlaunch hstream =>
    rw [Answer.collect, Delivery.drain_commit, hstream] at hbody
    obtain ⟨hbytes, hfault⟩ := Delivered.mk.inj hbody
    obtain ⟨hread, hfailure⟩ := Option.or_eq_none_iff.1 hfault
    refine .inr ⟨henabled, Scaler.completed_of_failure? hlaunch ?_ hfailure⟩
    rw [← hbytes, ← hread]
  | silent henabled hcompleted =>
    rw [Answer.collect, Delivery.drain_commit] at hbody
    obtain ⟨hbytes, -⟩ := Delivered.mk.inj hbody
    obtain rfl : [] = bytes := hbytes
    exact .inr ⟨henabled, hcompleted⟩

/-- A directive for an image on another server. -/
def remoteDirective : String :=
  "send-scaled-img:eyJMb2NhdGlvbiI6Imh0dHA6Ly9oL2EiLCJDb250ZW50VHlwZSI6ImltYWdlL3BuZyIsIldpZHRoIjoxfQ=="

/-- What the directive asks for. -/
def remoteRequest : ResizeRequest := ⟨"http://h/a", "image/png", 1⟩

/-- An image that comes in pieces, with a pause, and without a length. -/
def remoteImage : SourceImage := ⟨[.piece [1, 2], .pause, .piece [], .piece [3, 4]], none⟩

/-- Surroundings in which that image is on every other server, and `program` is to scale it. -/
def remoteSurroundings (program : Program) : Surroundings :=
  { (default : Surroundings) with
    program := fun _ => program
    web := fun _ => .answered ⟨⟨200, []⟩, remoteImage.stream⟩ remoteImage.declared }

lemma unpack_remoteDirective : ResizeRequest.unpack remoteDirective = .ok remoteRequest := by
  rfl

lemma openAt_remote (program : Program) (site : Site) :
    (SourceImage.openAt (remoteSurroundings program).web {} remoteRequest.location).run site
      = (.ok remoteImage,
        { site with fetched := ⟨"http", "h", none, "/a", none, none⟩ :: site.fetched }) := by
  have hparse : WebAddress.parse? remoteRequest.location
      = some ⟨"http", "h", none, "/a", none, none⟩ := by
    decide +kernel
  rw [openAt_of_isRemote _ _ (by rfl), SourceImage.fetch, hparse]
  rfl

/-- The image goes through a scaler that adds a byte; the body is read when it took the slot. -/
theorem collect_eq_whole_of_pieces :
    let surroundings := remoteSurroundings (.runs .all fun _ input =>
      ⟨[.piece input.bytes, .pause, .piece [9]], [], .exits (.code 0)⟩)
    let answer := ((inject surroundings {} ⟨200, []⟩ remoteDirective []).run { gate := ⟨1, 0, 0⟩ }).1
    answer ≠ .response .failed ∧
      (answer.collect.run { gate := ⟨1, 1, 0⟩ }).1 = ⟨[1, 2, 3, 4, 9], none⟩ ∧
      (remoteImage.stream.deliver = ⟨[1, 2, 3, 4, 9], none⟩ ∨
        true = true ∧ Scaler.Completed surroundings {} remoteImage remoteRequest ⟨"unknown", []⟩
          [1, 2, 3, 4, 9]) := by
  intro surroundings answer
  have hopen := openAt_remote (.runs .all fun _ input =>
    ⟨[.piece input.bytes, .pause, .piece [9]], [], .exits (.code 0)⟩) { gate := ⟨1, 0, 0⟩ }
  have hanswer : answer = ((deliverSource surroundings {} ⟨200, []⟩ remoteImage remoteRequest []).run
      { gate := ⟨1, 0, 0⟩, fetched := [⟨"http", "h", none, "/a", none, none⟩] }).1 :=
    congrArg Prod.fst (run_inject unpack_remoteDirective hopen)
  have hfailed : answer ≠ .response .failed := by
    rw [hanswer]
    nofun
  have hcollect : (answer.collect.run { gate := ⟨1, 1, 0⟩ }).1 = ⟨[1, 2, 3, 4, 9], none⟩ := by
    rw [hanswer]
    rfl
  have hwhole := collect_eq_whole unpack_remoteDirective hopen rfl hfailed hcollect
  exact ⟨hfailed, hcollect, hwhole⟩

/-! ### When scaling fails -/

/-- The ways in which scaling an image can fail before its scaler wrote a byte. -/
inductive FailsEarly (surroundings : Surroundings) (settings : Config.Resizer)
    (source : SourceImage) (request : ResizeRequest) (context : Scaler.Context) (gate : Gate) :
    Prop where
  /-- The image announces more than is allowed. -/
  | oversize {size : Nat} (hdeclared : source.declared = some size)
      (hlimit : settings.maxSize < size)
  /-- No slot is free. -/
  | full (hfull : gate.ceiling ≤ gate.live)
  /-- The program cannot be started. -/
  | notStarted {cause : SystemError}
      (hlaunch : Scaler.launch surroundings settings request context = .error cause)
  /-- More of the image was read than is allowed. -/
  | outgrown {intake : Intake} {run : Input → Behaviour}
      (hlaunch : Scaler.launch surroundings settings request context = .ok (intake, run))
      (hgrown : settings.maxSize < (Scaler.fed settings source intake).feed.replay.length)
      (hsilent : (Scaler.behaviour settings source intake run).output.deliver.bytes = [])
  /-- The output cannot be read. -/
  | unreadable {intake : Intake} {run : Input → Behaviour} {cause : String}
      (hlaunch : Scaler.launch surroundings settings request context = .ok (intake, run))
      (houtput : (Scaler.behaviour settings source intake run).output.deliver = ⟨[], some cause⟩)
  /-- The scaler wrote nothing, and did not exit with the code of success: it exited with another
  one, was ended by a signal, closed its output and went on, or cannot be waited for. -/
  | unsuccessful {intake : Intake} {run : Input → Behaviour}
      (hlaunch : Scaler.launch surroundings settings request context = .ok (intake, run))
      (houtput : (Scaler.behaviour settings source intake run).output.deliver = ⟨[], none⟩)
      (hending : (Scaler.behaviour settings source intake run).ending ≠ .exits (.code 0))

/-- A started scaler that fails early wrote nothing, and either its output cannot be read or it is
not trusted. -/
lemma FailsEarly.of_started {gate : Gate} {intake : Intake} {run : Input → Behaviour}
    (h : FailsEarly surroundings settings source request context gate)
    (hsize : Scaler.oversize? settings.maxSize source.declared = none)
    (hfree : gate.live < gate.ceiling)
    (hlaunch : Scaler.launch surroundings settings request context = .ok (intake, run)) :
    let scaler := Scaler.started settings source context intake run
    (∃ cause, start scaler.output = .failed cause) ∨
      start scaler.output = .empty ∧ ∃ error,
        ScalerProcess.verdict scaler.process.exitStatus scaler.process.feed = .error error := by
  have hsame : ∀ {intake' run'}, Scaler.launch surroundings settings request context
      = .ok (intake', run') → intake = intake' ∧ run = run' := by
    intro intake' run' hlaunch'
    exact Prod.mk.inj (Except.ok.inj (hlaunch.symm.trans hlaunch'))
  -- what is not trusted is reported
  have hverdict : ∀ {status : Except SystemError ExitStatus} {feed : Feed},
      ScalerProcess.verdict status feed ≠ .ok () →
      ∃ error, ScalerProcess.verdict status feed = .error error := by
    intro status feed hne
    cases hcase : ScalerProcess.verdict status feed with
    | ok done => exact absurd hcase hne
    | error error => exact ⟨error, rfl⟩
  cases h with
  | oversize hdeclared hlimit =>
    rw [hdeclared, Scaler.oversize?, if_pos hlimit] at hsize
    cases hsize
  | full hfull => omega
  | notStarted hlaunch' =>
    rw [hlaunch] at hlaunch'
    cases hlaunch'
  | @outgrown intake' run' hlaunch' hgrown hsilent =>
    obtain ⟨rfl, rfl⟩ := hsame hlaunch'
    cases hfault : (Scaler.behaviour settings source intake run).output.deliver.fault with
    | some cause => exact .inl ⟨cause, start_eq_failed_iff.2 (by rw [← hsilent, ← hfault]; rfl)⟩
    | none =>
      refine .inr ⟨start_eq_empty_iff.2 (by rw [← hsilent, ← hfault]; rfl), hverdict fun hok => ?_⟩
      obtain ⟨-, hnot, -⟩ := ScalerProcess.verdict_eq_ok_iff.1 hok
      obtain ⟨size, ceiling, herror⟩ :=
        (Scaler.fed_outcome settings source intake).tooLarge_iff.2 hgrown
      exact hnot size ceiling herror
  | @unreadable intake' run' cause hlaunch' houtput =>
    obtain ⟨rfl, rfl⟩ := hsame hlaunch'
    exact .inl ⟨cause, start_eq_failed_iff.2 houtput⟩
  | @unsuccessful intake' run' hlaunch' houtput hending =>
    obtain ⟨rfl, rfl⟩ := hsame hlaunch'
    refine .inr ⟨start_eq_empty_iff.2 houtput, hverdict fun hok => hending ?_⟩
    obtain ⟨hstatus, -, -⟩ := ScalerProcess.verdict_eq_ok_iff.1 hok
    exact Scaler.ending_of_exitStatus hstatus

/-- A body that delivers the image and says nothing about a failure. -/
lemma drain_unscaled {begun : Stream String} (log : ResizeLog) (later : Site)
    (hbegun : begun.deliver = source.stream.deliver) (hclean : source.stream.deliver.fault = none) :
    ((Delivery.commit begun none log).drain.run later).1 = ⟨source.stream.deliver.bytes, none⟩ ∧
      ((Delivery.commit begun none log).drain.run later).2.degradations = later.degradations := by
  constructor
  · rw [Delivery.drain_commit, hbegun, hclean]
    rfl
  · rw [Delivery.drain_commit_none, hbegun, hclean, Site.degradations_logged]
    rfl

/-- An image that can be read is delivered, whatever was read of it to feed a scaler; one warning
is logged. -/
lemma run_fallBack (settings : Config.Resizer) (head : Head) (error : ResizeError)
    (intake : Intake) (log : ResizeLog) (site : Site)
    (hclean : source.stream.deliver.fault = none) :
    ∃ begun after,
      (fallBack head error (Scaler.fed settings source intake).feed log).run site
        = (.delivery head (.commit begun none log), after) ∧
      begun.deliver = source.stream.deliver ∧ after.degradations = site.degradations + 1 := by
  have hfed := Scaler.fed_outcome settings source intake
  have hsource : ∀ cause,
      (Scaler.fed settings source intake).feed.error ≠ some (.source cause) := by
    intro cause herror
    rw [hfed.fault_of_error herror] at hclean
    cases hclean
  obtain ⟨stream, hstream, hdeliver⟩ := hfed.deliver_unscaled hsource
  obtain ⟨begun, hrun, hbegun⟩ := run_deliverUnscaled head stream log
    (site.logged (log.degraded error)) (by
      intro cause hcause
      rw [← hdeliver, hcause] at hclean
      cases hclean)
  refine ⟨begun, site.logged (log.degraded error), ?_, hbegun.trans hdeliver, ?_⟩
  · rw [fallBack, Run.run_bind, Site.run_log, hstream]
    exact hrun
  · rw [Site.degradations_logged, ResizeLog.isDegradation_degraded, if_pos rfl]

/-- So is an image whose scaler was started and failed before its first byte. -/
lemma run_deliverScaled (head : Head) (intake : Intake) (run : Input → Behaviour)
    (log : ResizeLog) (site : Site) (hclean : source.stream.deliver.fault = none)
    (hfailed : (∃ cause,
        start (Scaler.started settings source context intake run).output = .failed cause) ∨
      start (Scaler.started settings source context intake run).output = .empty ∧ ∃ error,
        ScalerProcess.verdict (Scaler.started settings source context intake run).process.exitStatus
          (Scaler.started settings source context intake run).process.feed = .error error) :
    ∃ begun after,
      (deliverScaled head (Scaler.started settings source context intake run) log).run site
        = (.delivery head (.commit begun none log), after) ∧
      begun.deliver = source.stream.deliver ∧ after.degradations = site.degradations + 1 := by
  rw [deliverScaled]
  rcases hfailed with ⟨cause, hstart⟩ | ⟨hstart, error, hverdict⟩
  · obtain ⟨begun, after, hrun, hbegun, hafter⟩ := run_fallBack settings head
      (.output cause) intake log _ hclean
    rw [ScalerProcess.degradations_abort] at hafter
    refine ⟨begun, after, ?_, hbegun, hafter⟩
    simp only [hstart, Run.run_bind, ScalerProcess.run_abort]
    exact hrun
  · obtain ⟨begun, after, hrun, hbegun, hafter⟩ := run_fallBack settings head
      error intake log _ hclean
    rw [ScalerProcess.degradations_finish] at hafter
    refine ⟨begun, after, ?_, hbegun, hafter⟩
    simp only [hstart, Run.run_bind, ScalerProcess.run_finish, hverdict]
    exact hrun

/-- **Delivered unscaled.**  With scaling enabled, and an image that can be read to its end, every
scaling that fails before its first byte is answered under the given head, without a length, and
the body is the image: nothing of it is lost, repeated or out of order, wherever the feeding of the
scaler stopped.  One warning says so in the log, and reading the body adds none. -/
theorem collect_of_failsEarly {data : String} {headers : Headers} {site opened : Site}
    (henabled : settings.enabled = true) (hrequest : ResizeRequest.unpack data = .ok request)
    (hopen : (SourceImage.openAt surroundings.web settings.fetch request.location).run site
      = (.ok source, opened))
    (hclean : source.stream.deliver.fault = none)
    (hfails : FailsEarly surroundings settings source request
      ⟨headers.requestId, headers.traceEnvironment⟩ opened.gate) :
    ∃ body after,
      (inject surroundings settings head data headers).run site
        = (.delivery ⟨head.status, head.headers.without Header.contentLength⟩ body, after) ∧
      after.degradations = site.degradations + 1 ∧
      ∀ later : Site, (body.drain.run later).1 = ⟨source.stream.deliver.bytes, none⟩ ∧
        (body.drain.run later).2.degradations = later.degradations := by
  -- opening the image logs nothing, so that the count can start behind it
  obtain ⟨fetched, hfetched⟩ := openAt_events surroundings.web settings.fetch request.location site
  have hfound : opened = { site with fetched } := by
    rw [hopen] at hfetched
    exact hfetched
  have hopened : opened.degradations = site.degradations :=
    Site.degradations_congr (by rw [hfound])
  rw [run_inject hrequest hopen, deliverSource, Run.run_bind, choose, if_pos henabled, Run.run_bind,
    ← hopened]
  rcases Scaler.tryResize_cases surroundings settings source request
      ⟨headers.requestId, headers.traceEnvironment⟩ opened with
    ⟨reason, after, hrun, hafter⟩ | ⟨intake, run, hsize, hfree, hlaunch, hrun⟩
  · -- the image was handed back untouched
    rw [hrun]
    obtain ⟨begun, hdeliver, hbegun⟩ := run_deliverUnscaled
      ⟨head.status, head.headers.without Header.contentLength⟩ source.stream
      ⟨headers.requestId, request.width, request.contentType, source.declared⟩
      (after.logged (ResizeLog.degraded
        ⟨headers.requestId, request.width, request.contentType, source.declared⟩ reason)) (by
        intro cause hcause
        rw [hcause] at hclean
        cases hclean)
    refine ⟨.commit begun none _, _, hdeliver, ?_,
      fun later => drain_unscaled _ later hbegun hclean⟩
    rw [Site.degradations_logged, ResizeLog.isDegradation_degraded, if_pos rfl,
      Site.degradations_congr hafter]
  · -- its scaler was started
    rw [hrun]
    obtain ⟨begun, after, hdeliver, hbegun, hafter⟩ := run_deliverScaled
      ⟨head.status, head.headers.without Header.contentLength⟩ intake run
      ⟨headers.requestId, request.width, request.contentType, source.declared⟩ opened.admitted
      hclean (hfails.of_started hsize hfree hlaunch)
    refine ⟨.commit begun none _, after, hdeliver, ?_,
      fun later => drain_unscaled _ later hbegun hclean⟩
    rw [hafter, Site.degradations_congr opened.events_admitted]

/-- An image whose length was not announced outgrows the limit while it is fed, and the scaler is
killed. -/
theorem collect_of_failsEarly_outgrown :
    ∃ body after,
      (inject (remoteSurroundings (.runs .all fun _ _ => ⟨[], [], .exits .killed⟩)) { maxSize := 3 }
          ⟨200, [(Header.contentLength, [52])]⟩ remoteDirective []).run { gate := ⟨1, 0, 0⟩ }
        = (.delivery ⟨200, []⟩ body, after) ∧
      after.degradations = 1 ∧
      ∀ later : Site, (body.drain.run later).1 = ⟨[1, 2, 3, 4], none⟩ ∧
        (body.drain.run later).2.degradations = later.degradations := by
  have hopen := openAt_remote (.runs .all fun _ _ => ⟨[], [], .exits .killed⟩)
    { gate := ⟨1, 0, 0⟩ }
  have hfails : FailsEarly (remoteSurroundings (.runs .all fun _ _ => ⟨[], [], .exits .killed⟩))
      { maxSize := 3 } remoteImage remoteRequest ⟨"unknown", []⟩ ⟨1, 0, 0⟩ :=
    .outgrown rfl (show 3 < (Scaler.fed { maxSize := 3 } remoteImage .all).feed.replay.length by
      decide) rfl
  have hclean : remoteImage.stream.deliver.fault = none := rfl
  exact collect_of_failsEarly rfl unpack_remoteDirective (by exact hopen) hclean (by exact hfails)

end Image

end Intercept
