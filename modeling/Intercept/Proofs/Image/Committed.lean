/-
# The commit point

An image is committed at the first byte of its body.  Before that the client can be told that the
request failed; from there on the head is out, and what goes wrong cuts the body off.

A committed body is asked for its items one after the other.  `Delivery.left` lists those that are
still to come, and `Delivery.closing` is the event that is still to be logged.  One question takes
the first item off the list, and the event is logged with the question that finds no piece any more
(`next_asked`).  From this follows what anybody gets who asks again and again, also behind the end
(`run_items`).
-/
import Intercept.Proofs.Image.Resizer

namespace Intercept

/-- Whether an event says how the delivery of an image ended. -/
def Event.isEnding (event : Event) : Bool :=
  event.message == "Request failed" || event.message == "ImageResizer: Success"
    || event.message == "ImageResizer: response truncated"

/-- What the log says about how deliveries ended. -/
def Site.endings (site : Site) : List Event := site.journal.events.filter Event.isEnding

lemma Site.endings_logged (site : Site) {event : Event} (h : event.isEnding = true) :
    (site.logged event).endings = site.endings ++ [event] := by
  simp [Site.endings, h]

namespace ScalerProcess

lemma endings_finish (process : ScalerProcess) (site : Site) :
    (process.finish.run site).2.endings = site.endings := by
  have hremarks : (Scaler.remarkEvents process.requestId process.remarks).filter Event.isEnding
      = [] := by
    rw [List.filter_eq_nil_iff]
    intro event hevent
    simp [Event.isEnding, Scaler.message_of_mem_remarkEvents hevent]
  rw [Site.endings, events_finish, List.filter_append, hremarks, List.append_nil, Site.endings]

end ScalerProcess

namespace Delivery

variable {delivery : Delivery} {site : Site}

lemma isEnding_ending (log : ResizeLog) (written : Nat) (failure : Option String) :
    (ending log written failure).isEnding = true := by
  cases failure <;> rfl

lemma endings_drop (delivery : Delivery) (site : Site) :
    (delivery.drop.run site).2.endings = site.endings := by
  rw [drop]
  cases delivery.process <;> rfl

lemma endings_close (delivery : Delivery) (site : Site) :
    (delivery.close.run site).2.endings = site.endings
      ++ [ending delivery.log delivery.written (ScalerProcess.failureOf delivery.process)] := by
  rw [close]
  cases delivery.process with
  | none => exact site.endings_logged (isEnding_ending _ _ none)
  | some process =>
    have hfinish := ScalerProcess.run_finish process site
    have hendings := ScalerProcess.endings_finish process site
    simp only [ScalerProcess.failureOf, ScalerProcess.failure?, Run.run_bind, hfinish]
    rw [← hendings]
    cases ScalerProcess.verdict process.exitStatus process.feed with
    | ok => exact Site.endings_logged _ (isEnding_ending _ _ none)
    | error error => exact Site.endings_logged _ (isEnding_ending _ _ (some error.message))

/-! ### Item by item -/

/-- The error with which an open body will end. -/
def failure (delivery : Delivery) : Option String :=
  delivery.stream.deliver.fault.or (ScalerProcess.failureOf delivery.process)

/-- The event with which an open body will end. -/
def closing (delivery : Delivery) : Event :=
  ending delivery.log (delivery.written + delivery.stream.deliver.bytes.length) delivery.failure

/-- The items of a body that are still to come. -/
def left (delivery : Delivery) : List (Except String Bytes) :=
  if delivery.ended then []
  else delivery.stream.pieces.1.map .ok ++ (delivery.failure.map .error).toList

/-- What is logged about the end of a body that is asked `n` times. -/
def due (delivery : Delivery) (n : Nat) : List Event :=
  if delivery.ended = false ∧ delivery.stream.pieces.1.length < n then [delivery.closing] else []

/-- What comes of asking a body for an item. -/
inductive Asked (delivery : Delivery) (site : Site) :
    Option (Except String Bytes) → Delivery → Site → Prop where
  /-- There is a piece, and everything else is as before. -/
  | piece {bytes : Bytes} {after : Delivery} (hopen : delivery.ended = false)
      (hpieces : delivery.stream.pieces.1 = bytes :: after.stream.pieces.1)
      (hafter : after.ended = false) (hfailure : after.failure = delivery.failure)
      (hclosing : after.closing = delivery.closing) :
      Asked delivery site (some (.ok bytes)) after site
  /-- There is no piece any more. -/
  | last {after : Delivery} {later : Site} (hopen : delivery.ended = false)
      (hpieces : delivery.stream.pieces.1 = []) (hafter : after.ended = true)
      (hlog : later.endings = site.endings ++ [delivery.closing]) :
      Asked delivery site (delivery.failure.map .error) after later
  /-- The body had ended before. -/
  | past {after : Delivery} {later : Site} (hended : delivery.ended = true)
      (hafter : after.ended = true) (hlog : later.endings = site.endings) :
      Asked delivery site none after later

lemma nextFrom_asked (hopen : delivery.ended = false) {stream : Stream String}
    (hstream : delivery.stream.pieces = stream.pieces) (site : Site) :
    Asked delivery site ((delivery.nextFrom stream).run site).1.1
      ((delivery.nextFrom stream).run site).1.2 ((delivery.nextFrom stream).run site).2 := by
  have hdeliver : delivery.stream.deliver = stream.deliver := by rw [Stream.deliver, hstream]; rfl
  have hclosing : delivery.closing
      = ending delivery.log (delivery.written + stream.deliver.bytes.length)
          (stream.deliver.fault.or (ScalerProcess.failureOf delivery.process)) := by
    rw [closing, failure, hdeliver]
  induction stream with
  | nil =>
    rw [nextFrom, Run.run_bind, run_close]
    have hfailure : delivery.failure = ScalerProcess.failureOf delivery.process := by
      rw [failure, hdeliver]
      rfl
    rw [← hfailure]
    refine .last hopen (by rw [hstream]; rfl) rfl ?_
    rw [hclosing]
    exact endings_close delivery site
  | cons item rest ih =>
    cases item with
    | pause => exact ih hstream hdeliver hclosing
    | piece bytes =>
      rw [nextFrom, Run.run_pure]
      refine .piece hopen (by rw [hstream]; rfl) hopen ?_ ?_
      · simp [failure, hdeliver]
      · rw [hclosing]
        simp [closing, failure, Nat.add_assoc]
    | fault cause =>
      have hfailure : delivery.failure = some cause := by
        rw [failure, hdeliver]
        rfl
      have hasked : Asked delivery site (delivery.failure.map .error)
          { delivery with stream := rest, ended := true }
          (site.logged (delivery.log.truncated delivery.written cause)) := by
        refine .last hopen (by rw [hstream]; rfl) rfl ?_
        rw [hclosing]
        exact site.endings_logged (isEnding_ending _ _ (some cause))
      rw [hfailure] at hasked
      exact hasked

/-- What one question does. -/
lemma next_asked (delivery : Delivery) (site : Site) :
    Asked delivery site (delivery.next.run site).1.1 (delivery.next.run site).1.2
      (delivery.next.run site).2 := by
  rw [next]
  cases hended : delivery.ended with
  | true => exact .past hended rfl (endings_drop delivery site)
  | false => exact nextFrom_asked hended rfl site

/-- A question takes the first item off those that are to come. -/
lemma Asked.left {item : Option (Except String Bytes)} {after : Delivery} {later : Site}
    (h : Asked delivery site item after later) :
    item = delivery.left[0]? ∧ after.left = delivery.left.tail := by
  cases h with
  | piece hopen hpieces hafter hfailure hclosing =>
    simp [Delivery.left, hopen, hpieces, hafter, hfailure]
  | last hopen hpieces hafter hlog =>
    cases hfailure : delivery.failure with
    | none => simp [Delivery.left, hopen, hpieces, hafter, hfailure]
    | some cause => simp [Delivery.left, hopen, hpieces, hafter, hfailure]
  | past hended hafter hlog => simp [Delivery.left, hended, hafter]

/-- What was due is logged by a question, or is still due. -/
lemma Asked.due {item : Option (Except String Bytes)} {after : Delivery} {later : Site}
    (h : Asked delivery site item after later) (n : Nat) :
    later.endings ++ after.due n = site.endings ++ delivery.due (n + 1) := by
  cases h with
  | piece hopen hpieces hafter hfailure hclosing =>
    simp [Delivery.due, hopen, hpieces, hafter, hclosing]
  | last hopen hpieces hafter hlog => simp [Delivery.due, hopen, hpieces, hafter, hlog]
  | past hended hafter hlog => simp [Delivery.due, hended, hafter, hlog]

/-- Asks a body for its next item `n` times. -/
def items : Nat → Delivery → Run (List (Option (Except String Bytes)))
  | 0, _ => pure []
  | n + 1, delivery => do
    let (item, after) ← delivery.next
    let more ← items n after
    return item :: more

lemma items_succ (n : Nat) (delivery : Delivery) (site : Site) :
    (items (n + 1) delivery).run site
      = ((delivery.next.run site).1.1
          :: ((items n (delivery.next.run site).1.2).run (delivery.next.run site).2).1,
        ((items n (delivery.next.run site).1.2).run (delivery.next.run site).2).2) := rfl

/-- Whoever asks again and again gets the items that were to come, and nothing behind them. -/
lemma run_items (n : Nat) : ∀ (delivery : Delivery) (site : Site),
    ((items n delivery).run site).1 = (List.range n).map (delivery.left[·]?) := by
  induction n with
  | zero => exact fun delivery site => rfl
  | succ n ih =>
    intro delivery site
    obtain ⟨hitem, hleft⟩ := (next_asked delivery site).left
    rw [items_succ, ih, hitem, hleft, List.range_succ_eq_map, List.map_cons, List.map_map]
    simp only [Function.comp_def, List.getElem?_tail]

/-- The event at the end is logged once, with the question that comes when all pieces are out. -/
lemma endings_items (n : Nat) : ∀ (delivery : Delivery) (site : Site),
    ((items n delivery).run site).2.endings = site.endings ++ delivery.due n := by
  induction n with
  | zero =>
    intro delivery site
    rw [items, Run.run_pure]
    simp [due]
  | succ n ih =>
    intro delivery site
    rw [items_succ, ih, (next_asked delivery site).due]

/-! ### A whole body -/

lemma endings_drainFrom (stream : Stream String) :
    ∀ (delivery : Delivery) (done : List Bytes) (site : Site),
      ((delivery.drainFrom done stream).run site).2.endings = site.endings
        ++ [ending delivery.log (delivery.written + stream.deliver.bytes.length)
          (stream.deliver.fault.or (ScalerProcess.failureOf delivery.process))] := by
  induction stream with
  | nil => exact fun delivery done site => endings_close delivery site
  | cons item rest ih =>
    intro delivery done site
    cases item with
    | pause => exact ih delivery done site
    | piece bytes =>
      rw [drainFrom, ih]
      simp [Nat.add_assoc]
    | fault cause =>
      rw [drainFrom, Run.run_bind, Run.run_bind, Run.run_pure, endings_drop]
      exact site.endings_logged (isEnding_ending _ _ (some cause))

/-- A body delivers `bytes` and ends with `failure` if there is one, whether it is asked for its
items, any number of times, or read in one go; it says once in the log how it ended. -/
structure Delivers (body : Delivery) (log : ResizeLog) (bytes : Bytes) (failure : Option String) :
    Prop where
  /-- The items are pieces of the bytes, and the failure behind them. -/
  items : ∃ pieces : List Bytes, pieces.flatten = bytes ∧ ∀ (n : Nat) (site : Site),
    ((body.items n).run site).1
        = (List.range n).map
            ((pieces.map Except.ok ++ (failure.map Except.error).toList)[·]?) ∧
      ((body.items n).run site).2.endings
        = site.endings ++ if pieces.length < n then [ending log bytes.length failure] else []
  drain : ∀ site : Site, (body.drain.run site).1 = ⟨bytes, failure⟩ ∧
    (body.drain.run site).2.endings = site.endings ++ [ending log bytes.length failure]

/-- What a committed body delivers. -/
theorem commit_delivers (stream : Stream String) (process : Option ScalerProcess)
    (log : ResizeLog) :
    (commit stream process log).Delivers log stream.deliver.bytes
      (stream.deliver.fault.or (ScalerProcess.failureOf process)) where
  items := by
    refine ⟨stream.pieces.1, rfl, fun n site => ⟨run_items n _ site, ?_⟩⟩
    rw [endings_items]
    simp [due, commit, closing, failure]
  drain := by
    refine fun site => ⟨drain_commit stream process log site, ?_⟩
    have hopen : ¬ (commit stream process log).ended = true := Bool.false_ne_true
    rw [drain, if_neg hopen, endings_drainFrom]
    simp [commit]

end Delivery

namespace Image

lemma start_of_bytes {stream : Stream String} (h : stream.deliver.bytes ≠ []) :
    ∃ begun, start stream = .data begun ∧ begun.deliver = stream.deliver := by
  cases hstart : start stream with
  | data begun => exact ⟨begun, rfl, (deliver_of_start hstart).1⟩
  | empty => exact absurd (by rw [start_eq_empty_iff.1 hstart]) h
  | failed cause => exact absurd (by rw [start_eq_failed_iff.1 hstart]) h

/-- **The commit point.**  An image that fails before its first byte is answered by the fixed
failure, and the log says so once.  Every other image is delivered under the status of the head and
its headers but for the length: all bytes before the first fault, and then an end without an error
if and only if there was no fault.  So is what a scaler wrote, if it wrote anything; there an end
of the scaler that is no success is an error behind its last byte. -/
theorem deliver_committed (head : Head) (log : ResizeLog) (site : Site) :
    (∀ (stream : Stream String) (cause : String), stream.deliver = ⟨[], some cause⟩ →
      (deliver head (.unscaled stream) log).run site
          = (.response .failed, site.logged (Response.failedEvent log.requestId cause)) ∧
        (site.logged (Response.failedEvent log.requestId cause)).endings
          = site.endings ++ [Response.failedEvent log.requestId cause]) ∧
    (∀ stream : Stream String, (∀ cause, stream.deliver ≠ ⟨[], some cause⟩) →
      ∃ body : Delivery, (deliver head (.unscaled stream) log).run site
          = (.delivery ⟨head.status, head.headers.without Header.contentLength⟩ body, site) ∧
        body.Delivers log stream.deliver.bytes stream.deliver.fault) ∧
    ∀ run : ScalerRun, run.output.deliver.bytes ≠ [] →
      ∃ body : Delivery, (deliver head (.scaled run) log).run site
          = (.delivery ⟨head.status, head.headers.without Header.contentLength⟩ body, site) ∧
        body.Delivers log run.output.deliver.bytes
          (run.output.deliver.fault.or run.process.failure?) := by
  refine ⟨fun stream cause hread => ⟨?_, site.endings_logged rfl⟩, fun stream hread => ?_,
    fun run hbytes => ?_⟩
  · rw [deliver, deliverUnscaled, start_eq_failed_iff.2 hread]
    rfl
  · obtain ⟨begun, hrun, hbegun⟩ := run_deliverUnscaled
      ⟨head.status, head.headers.without Header.contentLength⟩ stream log site hread
    have hdelivers := Delivery.commit_delivers begun none log
    rw [ScalerProcess.failureOf, Option.or_none, hbegun] at hdelivers
    exact ⟨.commit begun none log, hrun, hdelivers⟩
  · obtain ⟨begun, hstart, hbegun⟩ := start_of_bytes hbytes
    have hdelivers := Delivery.commit_delivers begun (some run.process) log
    rw [ScalerProcess.failureOf, hbegun] at hdelivers
    refine ⟨.commit begun (some run.process) log, ?_, hdelivers⟩
    rw [deliver, deliverScaled, hstart]
    rfl

/-- An image that begins with an empty piece, and that goes on behind a fault. -/
def tornImage : Stream String :=
  [.piece [], .piece [1, 2], .pause, .piece [], .fault "torn", .piece [3]]

/-- A scaler that wrote one byte and then ended badly. -/
def tornScaler : ScalerRun :=
  ⟨[.pause, .piece [7], .piece []], ⟨⟨[1, 2], none, none⟩, .exits (.code 3), [], "r"⟩⟩

theorem deliver_committed_torn :
    let log : ResizeLog := ⟨"r", 10, "image/png", some 10⟩
    let head : Head :=
      ⟨203, [(Header.contentLength, [49]), ([120], [121]), (Header.contentLength, [50])]⟩
    let site : Site := { gate := ⟨1, 1, 0⟩ }
    (deliver head (.unscaled [.piece [], .fault "torn", .piece [3]]) log).run site
        = (.response .failed, site.logged (Response.failedEvent "r" "torn")) ∧
      (∃ body : Delivery, (deliver head (.unscaled tornImage) log).run site
          = (.delivery ⟨203, [([120], [121])]⟩ body, site) ∧
        body.Delivers log [1, 2] (some "torn")) ∧
      ∃ body : Delivery, (deliver head (.scaled tornScaler) log).run site
          = (.delivery ⟨203, [([120], [121])]⟩ body, site) ∧
        body.Delivers log [7] (some "scaler exited with exit status: 3") := by
  intro log head site
  obtain ⟨hfailed, hunscaled, hscaled⟩ := deliver_committed head log site
  refine ⟨(hfailed _ "torn" rfl).1, hunscaled tornImage fun cause hread => ?_,
    hscaled tornScaler (List.cons_ne_nil _ _)⟩
  exact absurd (congrArg Delivered.bytes hread) (List.cons_ne_nil _ _)

end Image

end Intercept
