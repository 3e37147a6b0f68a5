/-
# Requests for scaled images, step by step

A request for a scaled image goes on in steps: a scaler is tried, its output is read item by item,
the scaler is finished or aborted, and the request or its body may be given up at any point.
`Resize.Step` is one step, which is made of the proxy's own pieces of work.

What a step does to the gate is a `GateMove`.  The gate moves as it is said to, and a slot is taken
and given back together with a scaler (`Resize.Step.gate`, `Resize.Step.turns`).  The proxy's own
way to deliver an image and to read a body is made of such steps (`steps_deliverSource`,
`steps_collect`).
-/
import Intercept.Proofs.Image.Scaler
import Intercept.Image.Resizer

namespace Intercept

/-! ### Moves of a gate -/

/-- What becomes of a gate in one step. -/
inductive GateMove where
  /-- Nothing. -/
  | stay
  /-- A slot is taken. -/
  | take
  /-- Somebody is turned away. -/
  | reject
  /-- A slot is given back. -/
  | giveBack
deriving DecidableEq, Repr, Inhabited

namespace GateMove

/-- The gate after a move. -/
def apply (gate : Gate) : GateMove → Gate
  | stay => gate
  | take => { gate with live := gate.live + 1 }
  | reject => { gate with rejected := gate.rejected + 1 }
  | giveBack => { gate with live := gate.live - 1 }

/-- A move goes with a scaler that is held or not held before and after it. -/
def Turns : GateMove → Bool → Bool → Prop
  | stay, before, after => before = after
  | take, before, after => before = false ∧ after = true
  | reject, before, after => before = false ∧ after = false
  | giveBack, before, after => before = true ∧ after = false

/-- The move with which a scaler that may be held is given up if none is held later. -/
def leaving (before after : Bool) : GateMove := if before && !after then .giveBack else .stay

@[simp] lemma leaving_self (held : Bool) : leaving held held = .stay := by
  cases held <;> rfl

lemma turns_leaving {before after : Bool} (h : after = before ∨ after = false) :
    (leaving before after).Turns before after := by
  rcases h with rfl | rfl
  · rw [leaving_self]
    rfl
  · cases before with
    | false => exact rfl
    | true => exact ⟨rfl, rfl⟩

/-- If as many slots were taken as scalers are held, this is so after a move that goes with them. -/
lemma live_apply {gate : Gate} {move : GateMove} {before after : Bool} {held later : Nat}
    (hturns : move.Turns before after) (hlive : gate.live = held)
    (hheld : later + before.toNat = held + after.toNat) : (move.apply gate).live = later := by
  cases move with
  | stay =>
    obtain rfl : before = after := hturns
    simp only [apply]
    omega
  | take =>
    obtain ⟨rfl, rfl⟩ := hturns
    simp only [apply, Bool.toNat_false, Bool.toNat_true] at hheld ⊢
    omega
  | reject =>
    obtain ⟨rfl, rfl⟩ := hturns
    simp only [apply, Bool.toNat_false] at hheld ⊢
    omega
  | giveBack =>
    obtain ⟨rfl, rfl⟩ := hturns
    simp only [apply, Bool.toNat_false, Bool.toNat_true] at hheld ⊢
    omega

@[simp] lemma ceiling_apply (gate : Gate) (move : GateMove) :
    (move.apply gate).ceiling = gate.ceiling := by
  cases move <;> rfl

/-- A move does not exceed the ceiling if a slot is free when one is taken. -/
lemma live_apply_le {gate : Gate} {move : GateMove} (hlive : gate.live ≤ gate.ceiling)
    (hroom : move = .take → gate.live < gate.ceiling) :
    (move.apply gate).live ≤ gate.ceiling := by
  cases move with
  | stay => exact hlive
  | take => exact hroom rfl
  | reject => exact hlive
  | giveBack => exact Nat.le_trans (Nat.sub_le _ _) hlive

end GateMove

/-! ### Requests for scaled images -/

/-- A request for a scaled image, whose image is opened. -/
structure ResizeJob where
  surroundings : Surroundings
  settings : Config.Resizer
  /-- The head of the application's response. -/
  head : Head
  source : SourceImage
  request : ResizeRequest
  /-- The headers of the client's request. -/
  headers : Headers

namespace ResizeJob

/-- What the log says about a job. -/
def log (job : ResizeJob) : ResizeLog :=
  ⟨job.headers.requestId, job.request.width, job.request.contentType, job.source.declared⟩

/-- What the scaler is told about a job. -/
def context (job : ResizeJob) : Scaler.Context :=
  ⟨job.headers.requestId, job.headers.traceEnvironment⟩

/-- The head under which the image is delivered. -/
def answerHead (job : ResizeJob) : Head :=
  { job.head with headers := job.head.headers.without Header.contentLength }

/-- Tries to scale the image. -/
def choose (job : ResizeJob) : Run Image.Chosen :=
  Image.choose job.surroundings job.settings job.source job.request job.context job.log

/-- Answers the request. -/
def deliver (job : ResizeJob) : Run Answer :=
  Image.deliverSource job.surroundings job.settings job.head job.source job.request job.headers

/-- What trying to scale the image does to the gate: nothing if images are not scaled, if the image
is too large or if the scaler cannot be started; somebody is turned away if the gate is full. -/
def move (job : ResizeJob) (gate : Gate) : GateMove :=
  if job.settings.enabled = false then .stay
  else if (Scaler.oversize? job.settings.maxSize job.source.declared).isSome then .stay
  else if gate.live < gate.ceiling then
    match Scaler.launch job.surroundings job.settings job.request job.context with
    | .ok _ => .take
    | .error _ => .stay
  else .reject

end ResizeJob

/-- What is left of a stream when an item without a byte was read. -/
def Stream.skip? {φ : Type} : Stream φ → Option (Stream φ)
  | .pause :: rest => some rest
  | .piece [] :: rest => some rest
  | _ => none

/-- How far a request for a scaled image is. -/
inductive Resize where
  /-- It was not tried yet to scale the image. -/
  | asked (job : ResizeJob)
  /-- It is chosen what is delivered, and nothing of it is read yet. -/
  | chosen (head : Head) (chosen : Image.Chosen) (log : ResizeLog)
  /-- The scaler ended before its first byte, well or with an error. -/
  | ended (head : Head) (failure : Option ResizeError) (feed : Feed) (log : ResizeLog)
  /-- There is an answer, whose body is being read. -/
  | answered (answer : Answer)
  /-- It was given up. -/
  | gone

namespace Resize

/-- Whether a request holds a scaler process. -/
def holds : Resize → Bool
  | chosen _ (.scaled _) _ => true
  | answered (.delivery _ delivery) => delivery.process.isSome
  | _ => false

/-- Whether a request was not tried yet. -/
def isAsked : Resize → Bool
  | asked _ => true
  | _ => false

/-- Gives a request up, with the scaler or the body that it holds. -/
def drop : Resize → Run Unit
  | chosen _ (.scaled run) _ => run.process.drop
  | answered (.delivery _ delivery) => delivery.drop
  | _ => pure ()

/-- The error of a scaler that did not end well. -/
def failureOf (finished : Finished) : Option ResizeError :=
  match finished.status with
  | .ok () => none
  | .error error => some error

/-- One step of a request, and what becomes of the gate. -/
inductive Step : Resize → Site → GateMove → Resize → Site → Prop where
  /-- It is tried to scale the image. -/
  | choose {job : ResizeJob} {site after : Site} {chosen : Image.Chosen}
      (hrun : job.choose.run site = (chosen, after)) :
      Step (.asked job) site (job.move site.gate) (.chosen job.answerHead chosen job.log) after
  /-- An item without a byte is read from an image. -/
  | waitUnscaled {head : Head} {stream rest : Stream String} {log : ResizeLog} {site : Site}
      (hskip : stream.skip? = some rest) :
      Step (.chosen head (.unscaled stream) log) site .stay
        (.chosen head (.unscaled rest) log) site
  /-- An item without a byte is read from a scaler. -/
  | waitScaled {head : Head} {run : ScalerRun} {rest : Stream String} {log : ResizeLog}
      {site : Site} (hskip : run.output.skip? = some rest) :
      Step (.chosen head (.scaled run) log) site .stay
        (.chosen head (.scaled { run with output := rest }) log) site
  /-- An image is delivered unscaled, or cannot be read. -/
  | unscaled {head : Head} {stream : Stream String} {log : ResizeLog} {site after : Site}
      {answer : Answer} (hrun : (Image.deliverUnscaled head stream log).run site = (answer, after)) :
      Step (.chosen head (.unscaled stream) log) site .stay (.answered answer) after
  /-- The first byte of a scaler is there. -/
  | commit {head : Head} {run : ScalerRun} {stream : Stream String} {log : ResizeLog} {site : Site}
      (hstart : Image.start run.output = .data stream) :
      Step (.chosen head (.scaled run) log) site .stay
        (.answered (.delivery head (.commit stream (some run.process) log))) site
  /-- A scaler is finished. -/
  | finish {head : Head} {run : ScalerRun} {log : ResizeLog} {site after : Site}
      {finished : Finished} (hrun : run.process.finish.run site = (finished, after)) :
      Step (.chosen head (.scaled run) log) site .giveBack
        (.ended head (failureOf finished) finished.feed log) after
  /-- A scaler is aborted. -/
  | abort {head : Head} {run : ScalerRun} {log : ResizeLog} {site after : Site}
      {finished : Finished} (hrun : run.process.abort.run site = (finished, after))
      (cause : String) :
      Step (.chosen head (.scaled run) log) site .giveBack
        (.ended head (some (.output cause)) finished.feed log) after
  /-- Nothing is delivered, for a scaler that ended well. -/
  | silent {head : Head} {feed : Feed} {log : ResizeLog} {site : Site} :
      Step (.ended head none feed log) site .stay
        (.answered (.delivery head (.commit [] none log))) site
  /-- The image is delivered unscaled since its scaler failed, or the request fails. -/
  | fallBack {head : Head} {error : ResizeError} {feed : Feed} {log : ResizeLog}
      {site after : Site} {answer : Answer}
      (hrun : (Image.fallBack head error feed log).run site = (answer, after)) :
      Step (.ended head (some error) feed log) site .stay (.answered answer) after
  /-- A body pauses. -/
  | waitBody {head : Head} {delivery : Delivery} {rest : Stream String} {site : Site}
      (hpause : delivery.stream = .pause :: rest) :
      Step (.answered (.delivery head delivery)) site .stay
        (.answered (.delivery head { delivery with stream := rest })) site
  /-- The next item of a body is read. -/
  | next {head : Head} {delivery rest : Delivery} {item : Option (Except String Bytes)}
      {site after : Site} (hrun : delivery.next.run site = ((item, rest), after)) :
      Step (.answered (.delivery head delivery)) site
        (.leaving delivery.process.isSome rest.process.isSome)
        (.answered (.delivery head rest)) after
  /-- The request is given up, or its body. -/
  | drop {phase : Resize} {site after : Site} (hrun : phase.drop.run site = ((), after)) :
      Step phase site (.leaving phase.holds false) .gone after

end Resize

/-! ### What a step does to the gate -/

namespace ScalerProcess

lemma gate_finish (process : ScalerProcess) (site : Site) :
    (process.finish.run site).2.gate = site.gate.release := by
  rw [finish]
  generalize verdict process.exitStatus process.feed = status
  cases status <;> rfl

lemma gate_abort (process : ScalerProcess) (site : Site) :
    (process.abort.run site).2.gate = site.gate.release := gate_finish _ site

end ScalerProcess

namespace Image

lemma gate_deliverUnscaled (head : Head) (stream : Stream String) (log : ResizeLog) (site : Site) :
    ((deliverUnscaled head stream log).run site).2.gate = site.gate := by
  rw [deliverUnscaled]
  cases start stream with
  | data begun => rfl
  | empty => rfl
  | failed cause => rfl

lemma holds_deliverUnscaled (head : Head) (stream : Stream String) (log : ResizeLog)
    (site : Site) :
    (Resize.answered ((deliverUnscaled head stream log).run site).1).holds = false := by
  rw [deliverUnscaled]
  cases start stream with
  | data begun => rfl
  | empty => rfl
  | failed cause => rfl

lemma gate_fallBack (head : Head) (error : ResizeError) (feed : Feed) (log : ResizeLog)
    (site : Site) : ((fallBack head error feed log).run site).2.gate = site.gate := by
  rw [fallBack, Run.run_bind]
  cases feed.unscaled? with
  | some stream => exact gate_deliverUnscaled head stream log _
  | none => rfl

lemma holds_fallBack (head : Head) (error : ResizeError) (feed : Feed) (log : ResizeLog)
    (site : Site) :
    (Resize.answered ((fallBack head error feed log).run site).1).holds = false := by
  rw [fallBack, Run.run_bind]
  cases feed.unscaled? with
  | some stream => exact holds_deliverUnscaled head stream log _
  | none => rfl

end Image

namespace Delivery

lemma gate_drop (delivery : Delivery) (site : Site) :
    (delivery.drop.run site).2.gate
      = (GateMove.leaving delivery.process.isSome false).apply site.gate := by
  rw [drop]
  cases delivery.process with
  | none => rfl
  | some process => rfl

lemma gate_close (delivery : Delivery) (site : Site) :
    (delivery.close.run site).2.gate
      = (GateMove.leaving delivery.process.isSome false).apply site.gate := by
  rw [close]
  cases delivery.process with
  | none => rfl
  | some process =>
    have hfinish := ScalerProcess.gate_finish process site
    simp only [Run.run_bind]
    cases (process.finish.run site).1.status with
    | ok done => exact hfinish
    | error error => exact hfinish

/-- Reading a body gives back the slot of a scaler that is no longer held. -/
lemma gate_nextFrom (delivery : Delivery) (stream : Stream String) (site : Site) :
    ((delivery.nextFrom stream).run site).2.gate
      = (GateMove.leaving delivery.process.isSome
          ((delivery.nextFrom stream).run site).1.2.process.isSome).apply site.gate := by
  have hstay : site.gate
      = (GateMove.leaving delivery.process.isSome delivery.process.isSome).apply site.gate := by
    rw [GateMove.leaving_self]
    rfl
  induction stream with
  | nil => exact gate_close delivery site
  | cons item rest ih =>
    cases item with
    | pause => exact ih
    | piece bytes => exact hstay
    | fault cause => exact hstay

lemma process_nextFrom (delivery : Delivery) (stream : Stream String) (site : Site) :
    ((delivery.nextFrom stream).run site).1.2.process = delivery.process ∨
      ((delivery.nextFrom stream).run site).1.2.process = none := by
  induction stream with
  | nil => exact .inr rfl
  | cons item rest ih =>
    cases item with
    | pause => exact ih
    | piece bytes => exact .inl rfl
    | fault cause => exact .inl rfl

lemma gate_next (delivery : Delivery) (site : Site) :
    (delivery.next.run site).2.gate
      = (GateMove.leaving delivery.process.isSome
          (delivery.next.run site).1.2.process.isSome).apply site.gate := by
  rw [next]
  split
  · exact gate_drop delivery site
  · exact gate_nextFrom delivery _ site

/-- Reading a body starts no scaler. -/
lemma process_next (delivery : Delivery) (site : Site) :
    (delivery.next.run site).1.2.process = delivery.process ∨
      (delivery.next.run site).1.2.process = none := by
  rw [next]
  split
  · exact .inr rfl
  · exact process_nextFrom delivery _ site

end Delivery

namespace ResizeJob

/-- Trying to scale an image moves the gate as it is said to, and a slot is taken just if the scaler
is started. -/
lemma run_tryResize (job : ResizeJob) (site : Site) (henabled : job.settings.enabled = true) :
    ((Scaler.tryResize job.surroundings job.settings job.source job.request job.context).run
        site).2.gate = (job.move site.gate).apply site.gate ∧
      (job.move site.gate = .take ↔ ∃ run, ((Scaler.tryResize job.surroundings job.settings
        job.source job.request job.context).run site).1 = .ok run) := by
  have hdisabled : job.settings.enabled ≠ false := by simp [henabled]
  have hrefused : ∀ move : GateMove, move ≠ .take → ∀ fallback : Fallback,
      (move = .take ↔
        ∃ run : ScalerRun, (.error fallback : Except Fallback ScalerRun) = .ok run) := by
    intro move hmove fallback
    simp [hmove]
  rw [Scaler.tryResize, move, if_neg hdisabled]
  cases Scaler.oversize? job.settings.maxSize job.source.declared with
  | some error => exact ⟨rfl, hrefused .stay (by decide) _⟩
  | none =>
    simp only [Run.run_bind, Site.run_acquire, decide_eq_true_eq, Option.isSome_none,
      Bool.false_eq_true, if_false]
    by_cases hfree : site.gate.live < site.gate.ceiling
    · have hgate : site.admitted.gate = { site.gate with live := site.gate.live + 1 } := by
        rw [Site.gate_admitted, Gate.acquire, if_pos hfree]
      simp only [hfree, if_true, Scaler.launch]
      cases (job.surroundings.program job.settings.program).start
          ⟨[], Scaler.environment job.surroundings.environment job.request job.context⟩ with
      | error cause =>
        have hreleased : site.admitted.gate.release = site.gate := by
          rw [hgate]
          rfl
        exact ⟨hreleased, hrefused .stay (by decide) _⟩
      | ok started => exact ⟨hgate, fun _ => ⟨_, rfl⟩, fun _ => rfl⟩
    · have hgate : site.admitted.gate = { site.gate with rejected := site.gate.rejected + 1 } := by
        rw [Site.gate_admitted, Gate.acquire, if_neg hfree]
      simp only [hfree, if_false]
      exact ⟨hgate, hrefused .reject (by decide) _⟩

/-- Choosing what is delivered moves the gate as it is said to, and a slot is taken just if a scaler
is chosen. -/
lemma run_choose (job : ResizeJob) (site : Site) :
    (job.choose.run site).2.gate = (job.move site.gate).apply site.gate ∧
      (job.move site.gate = .take ↔
        (Resize.chosen job.answerHead (job.choose.run site).1 job.log).holds = true) := by
  rw [choose, Image.choose]
  by_cases henabled : job.settings.enabled = true
  · obtain ⟨hgate, htake⟩ := run_tryResize job site henabled
    rcases htried : (Scaler.tryResize job.surroundings job.settings job.source job.request
      job.context).run site with ⟨tried, after⟩
    rw [htried] at hgate htake
    rw [if_pos henabled, Run.run_bind, htried]
    cases tried with
    | ok run => exact ⟨hgate, htake.trans ⟨fun _ => rfl, fun _ => ⟨run, rfl⟩⟩⟩
    | error fallback =>
      have hmove : job.move site.gate ≠ .take := by simpa using htake
      exact ⟨hgate, fun h => absurd h hmove, nofun⟩
  · have hdisabled : job.settings.enabled = false := by simpa using henabled
    rw [if_neg henabled, move, if_pos hdisabled]
    exact ⟨rfl, nofun, nofun⟩

lemma lt_of_move {job : ResizeJob} {gate : Gate} (h : job.move gate = .take) :
    gate.live < gate.ceiling := by
  rw [move] at h
  split at h
  · cases h
  · split at h
    · cases h
    · split at h
      · assumption
      · cases h

lemma move_ne_giveBack (job : ResizeJob) (gate : Gate) : job.move gate ≠ .giveBack := by
  rw [move]
  split
  · exact nofun
  · split
    · exact nofun
    · split
      · split
        · exact nofun
        · exact nofun
      · exact nofun

end ResizeJob

namespace Resize

lemma gate_drop (phase : Resize) (site : Site) :
    (phase.drop.run site).2.gate = (GateMove.leaving phase.holds false).apply site.gate := by
  cases phase with
  | asked job => rfl
  | chosen head chosen log =>
    cases chosen with
    | unscaled stream => rfl
    | scaled run => rfl
  | ended head failure feed log => rfl
  | answered answer =>
    cases answer with
    | response response => rfl
    | delivery head delivery => exact delivery.gate_drop site
  | gone => rfl

variable {phase next : Resize} {site after : Site} {move : GateMove}

/-- The gate moves as a step says. -/
lemma Step.gate (h : Step phase site move next after) : after.gate = move.apply site.gate := by
  cases h with
  | @choose job _ _ _ hrun => rw [← (job.run_choose site).1, hrun]
  | waitUnscaled => rfl
  | waitScaled => rfl
  | @unscaled head stream log _ _ _ hrun =>
    rw [GateMove.apply, ← Image.gate_deliverUnscaled head stream log site, hrun]
  | commit => rfl
  | @finish _ run _ _ _ _ hrun =>
    have hgate := run.process.gate_finish site
    rwa [hrun] at hgate
  | @abort _ run _ _ _ _ hrun =>
    have hgate := run.process.gate_abort site
    rwa [hrun] at hgate
  | silent => rfl
  | @fallBack head error feed log _ _ _ hrun =>
    rw [GateMove.apply, ← Image.gate_fallBack head error feed log site, hrun]
  | waitBody => rfl
  | @next _ delivery _ _ _ _ hrun =>
    have hgate := delivery.gate_next site
    rwa [hrun] at hgate
  | drop hrun => rw [← gate_drop phase site, hrun]

/-- A slot is taken and given back together with a scaler. -/
lemma Step.turns (h : Step phase site move next after) : move.Turns phase.holds next.holds := by
  cases h with
  | @choose job _ _ chosen hrun =>
    have htake := (ResizeJob.run_choose job site).2
    rw [hrun] at htake
    cases hmove : job.move site.gate with
    | take => exact ⟨rfl, htake.1 hmove⟩
    | giveBack => exact absurd hmove (job.move_ne_giveBack site.gate)
    | stay =>
      have hnone := mt htake.2 (by rw [hmove]; decide)
      exact (Bool.eq_false_iff.2 hnone).symm
    | reject =>
      have hnone := mt htake.2 (by rw [hmove]; decide)
      exact ⟨rfl, Bool.eq_false_iff.2 hnone⟩
  | waitUnscaled => exact rfl
  | waitScaled => exact rfl
  | @unscaled head stream log _ _ _ hrun =>
    have hnone := Image.holds_deliverUnscaled head stream log site
    rw [hrun] at hnone
    exact hnone.symm
  | commit => exact rfl
  | finish => exact ⟨rfl, rfl⟩
  | abort => exact ⟨rfl, rfl⟩
  | silent => exact rfl
  | @fallBack head error feed log _ _ _ hrun =>
    have hnone := Image.holds_fallBack head error feed log site
    rw [hrun] at hnone
    exact hnone.symm
  | waitBody => exact rfl
  | @next _ delivery _ _ _ _ hrun =>
    have hprocess := Delivery.process_next delivery site
    rw [hrun] at hprocess
    refine GateMove.turns_leaving ?_
    rcases hprocess with hsame | hnone
    · exact .inl (congrArg Option.isSome hsame)
    · exact .inr (congrArg Option.isSome hnone)
  | drop => exact GateMove.turns_leaving (.inr rfl)

/-- A slot is taken only if one is free, and only by a request that was not tried yet, as only such
a request is turned away; no request is tried twice. -/
lemma Step.tried (h : Step phase site move next after) :
    next.isAsked = false ∧ (move = .take → site.gate.live < site.gate.ceiling) ∧
      (move = .take ∨ move = .reject → phase.isAsked = true) := by
  have hleaving : ∀ before after : Bool, GateMove.leaving before after ≠ .take ∧
      GateMove.leaving before after ≠ .reject := by decide
  cases h with
  | choose => exact ⟨rfl, ResizeJob.lt_of_move, fun _ => rfl⟩
  | waitUnscaled => exact ⟨rfl, nofun, nofun⟩
  | waitScaled => exact ⟨rfl, nofun, nofun⟩
  | unscaled => exact ⟨rfl, nofun, nofun⟩
  | commit => exact ⟨rfl, nofun, nofun⟩
  | finish => exact ⟨rfl, nofun, nofun⟩
  | abort => exact ⟨rfl, nofun, nofun⟩
  | silent => exact ⟨rfl, nofun, nofun⟩
  | fallBack => exact ⟨rfl, nofun, nofun⟩
  | waitBody => exact ⟨rfl, nofun, nofun⟩
  | next =>
    obtain ⟨htake, hreject⟩ := hleaving _ _
    exact ⟨rfl, fun h => absurd h htake, fun h => (h.elim htake hreject).elim⟩
  | drop =>
    obtain ⟨htake, hreject⟩ := hleaving _ _
    exact ⟨rfl, fun h => absurd h htake, fun h => (h.elim htake hreject).elim⟩

/-! ### The proxy's own runs -/

/-- Steps of one request. -/
inductive Steps : Resize → Site → Resize → Site → Prop where
  | refl {phase : Resize} {site : Site} : Steps phase site phase site
  | head {phase next last : Resize} {site after final : Site} {move : GateMove}
      (hstep : Step phase site move next after) (hsteps : Steps next after last final) :
      Steps phase site last final

/-- An image is delivered step by step, up to the answer. -/
lemma steps_deliver (job : ResizeJob) (chosen : Image.Chosen) (site : Site) :
    Steps (.chosen job.answerHead chosen job.log) site
      (.answered ((Image.deliver job.head chosen job.log).run site).1)
      ((Image.deliver job.head chosen job.log).run site).2 := by
  cases chosen with
  | unscaled stream => exact .head (.unscaled (Prod.eta _).symm) .refl
  | scaled run =>
    have hdeliver : Image.deliver job.head (.scaled run) job.log
        = Image.deliverScaled job.answerHead run job.log := rfl
    rw [hdeliver, Image.deliverScaled]
    cases hstart : Image.start run.output with
    | data stream => exact .head (.commit hstart) .refl
    | empty =>
      rw [Run.run_bind]
      rcases hfinish : run.process.finish.run site with ⟨⟨status, feed⟩, after⟩
      refine .head (.finish hfinish) ?_
      cases status with
      | ok done => exact .head .silent .refl
      | error error => exact .head (.fallBack (Prod.eta _).symm) .refl
    | failed cause =>
      rw [Run.run_bind]
      rcases habort : run.process.abort.run site with ⟨⟨status, feed⟩, after⟩
      exact .head (.abort habort cause) (.head (.fallBack (Prod.eta _).symm) .refl)

/-- A request whose image is open is answered in such steps. -/
theorem steps_deliverSource (job : ResizeJob) (site : Site) :
    Steps (.asked job) site (.answered (job.deliver.run site).1) (job.deliver.run site).2 :=
  .head (.choose (Prod.eta _).symm) (steps_deliver job _ _)

/-- An open body is read up to its end in such steps, and no scaler is held then. -/
lemma steps_drainFrom (head : Head) (stream : Stream String) :
    ∀ (delivery : Delivery) (done : List Bytes) (site : Site), delivery.ended = false →
      ∃ last, last.holds = false ∧
        Steps (.answered (.delivery head { delivery with stream })) site last
          ((delivery.drainFrom done stream).run site).2 := by
  induction stream with
  | nil =>
    intro delivery done site hopen
    have hnext : ({ delivery with stream := [] } : Delivery).next
        = ({ delivery with stream := [] } : Delivery).nextFrom [] := by
      rw [Delivery.next, hopen]
      rfl
    exact ⟨.answered (.delivery head delivery.finished), rfl,
      .head (.next (by rw [hnext]; rfl)) .refl⟩
  | cons item rest ih =>
    intro delivery done site hopen
    have hnext : ({ delivery with stream := item :: rest } : Delivery).next
        = ({ delivery with stream := item :: rest } : Delivery).nextFrom (item :: rest) := by
      rw [Delivery.next, hopen]
      rfl
    cases item with
    | pause =>
      obtain ⟨last, hlast, hsteps⟩ := ih delivery done site hopen
      exact ⟨last, hlast, .head (.waitBody rfl) hsteps⟩
    | piece bytes =>
      obtain ⟨last, hlast, hsteps⟩ :=
        ih { delivery with written := delivery.written + bytes.length } (bytes :: done) site hopen
      exact ⟨last, hlast, .head (.next (by rw [hnext]; rfl)) hsteps⟩
    | fault cause =>
      have hfault : ({ delivery with stream := .fault cause :: rest } : Delivery).next.run site
          = ((some (.error cause), { delivery with stream := rest, ended := true }),
            site.logged (delivery.log.truncated delivery.written cause)) := by
        rw [hnext]
        rfl
      exact ⟨.gone, rfl, .head (.next hfault) (.head (.drop rfl) .refl)⟩

/-- A body that is read up to its end is read in such steps, and no scaler is held then. -/
theorem steps_collect (answer : Answer) (site : Site) :
    ∃ last, last.holds = false ∧ Steps (.answered answer) site last (answer.collect.run site).2 := by
  cases answer with
  | response response => exact ⟨_, rfl, .refl⟩
  | delivery head delivery =>
    rw [Answer.collect, Delivery.drain]
    split
    · exact ⟨.gone, rfl, .head (.drop (Prod.eta _).symm) .refl⟩
    · rename_i hopen
      exact steps_drainFrom head delivery.stream delivery [] site (Bool.eq_false_iff.2 hopen)

end Resize

end Intercept
