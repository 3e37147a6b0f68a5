/-
# What a committed body delivers

A body that is committed delivers what its stream delivers.  It ends with the fault of the stream
or, if a scaler writes it, with an error if the scaler did not end well (`drain_commit`).  A body
that is written by nobody says in the log how it ended and does nothing else
(`drain_commit_none`).

`start` looks for the first byte of a stream and loses nothing of it.
-/
import Intercept.Proofs.Site
import Intercept.Proofs.Stream
import Intercept.Image.Delivery

namespace Intercept

namespace ScalerProcess

/-- What the end of a scaler means for the body that it wrote. -/
def failure? (process : ScalerProcess) : Option String :=
  match verdict process.exitStatus process.feed with
  | .ok () => none
  | .error error => some error.message

/-- The error that a scaler which is finished or dropped adds to a body. -/
def failureOf : Option ScalerProcess → Option String
  | none => none
  | some process => process.failure?

/-- A scaler is trusted only if it ended well and the image that it was fed could be read and was
not above the limit. -/
lemma verdict_eq_ok_iff {status : Except SystemError ExitStatus} {feed : Feed} :
    verdict status feed = .ok () ↔
      status = .ok (.code 0) ∧ (∀ size limit, feed.error ≠ some (.tooLarge size limit)) ∧
        ∀ cause, feed.error ≠ some (.source cause) := by
  constructor
  · intro h
    cases status with
    | error cause => cases h
    | ok status =>
      by_cases hsuccess : status.isSuccess = true
      · obtain rfl : status = .code 0 := by simpa [ExitStatus.isSuccess] using hsuccess
        refine ⟨rfl, fun size limit herror => ?_, fun cause herror => ?_⟩
        · rw [verdict, if_pos hsuccess, herror] at h
          cases h
        · rw [verdict, if_pos hsuccess, herror] at h
          cases h
      · rw [verdict, if_neg hsuccess] at h
        cases h
  · rintro ⟨rfl, hsize, hsource⟩
    rw [verdict, if_pos (by rfl)]
    split
    · next herror => exact absurd herror (hsize _ _)
    · next herror => exact absurd herror (hsource _)
    · rfl

lemma failure?_eq_none_iff {process : ScalerProcess} :
    process.failure? = none ↔ verdict process.exitStatus process.feed = .ok () := by
  unfold failure?
  cases verdict process.exitStatus process.feed with
  | ok => simp
  | error => simp

@[simp] lemma run_finish (process : ScalerProcess) (site : Site) :
    (process.finish.run site).1 = ⟨verdict process.exitStatus process.feed, process.feed⟩ := by
  rw [finish]
  generalize verdict process.exitStatus process.feed = status
  cases status <;> rfl

@[simp] lemma run_abort (process : ScalerProcess) (site : Site) :
    (process.abort.run site).1
      = ⟨verdict (.ok .killed) process.feed, process.feed⟩ :=
  run_finish _ site

end ScalerProcess

namespace Delivery

lemma run_close (delivery : Delivery) (site : Site) :
    (delivery.close.run site).1 = ScalerProcess.failureOf delivery.process := by
  rw [close]
  cases hprocess : delivery.process with
  | none => rfl
  | some process =>
    have hfinish := ScalerProcess.run_finish process site
    simp only [ScalerProcess.failureOf, ScalerProcess.failure?, Run.run_bind, hfinish]
    cases ScalerProcess.verdict process.exitStatus process.feed <;> rfl

/-- An open body delivers, behind what was read of it, what its stream delivers. -/
lemma run_drainFrom (stream : Stream String) :
    ∀ (delivery : Delivery) (done : List Bytes) (site : Site),
      ((delivery.drainFrom done stream).run site).1
        = ⟨done.reverse.flatten ++ stream.deliver.bytes,
            stream.deliver.fault.or (ScalerProcess.failureOf delivery.process)⟩ := by
  induction stream with
  | nil =>
    intro delivery done site
    rw [drainFrom, Run.run_bind, Run.run_pure, run_close]
    simp
  | cons item rest ih =>
    intro delivery done site
    cases item with
    | pause =>
      rw [drainFrom, ih]
      simp
    | piece bytes =>
      rw [drainFrom, ih]
      simp
    | fault cause =>
      rw [drainFrom, Run.run_bind, Run.run_bind, Run.run_pure]
      simp

/-- **What a body delivers**: what its stream delivers, with an error at the end if its scaler did
not end well. -/
theorem drain_commit (stream : Stream String) (process : Option ScalerProcess) (log : ResizeLog)
    (site : Site) :
    ((commit stream process log).drain.run site).1
      = ⟨stream.deliver.bytes, stream.deliver.fault.or (ScalerProcess.failureOf process)⟩ := by
  have hopen : ¬ (commit stream process log).ended = true := Bool.false_ne_true
  rw [drain, if_neg hopen, run_drainFrom]
  simp [commit]

/-- The event with which a body that nobody writes ends, when `written` bytes are out. -/
def ending (log : ResizeLog) (written : Nat) : Option String → Event
  | none => log.success written
  | some cause => log.truncated written cause

lemma run_drainFrom_none (stream : Stream String) :
    ∀ (delivery : Delivery) (done : List Bytes) (site : Site), delivery.process = none →
      ((delivery.drainFrom done stream).run site).2
        = site.logged (ending delivery.log (delivery.written + stream.deliver.bytes.length)
            stream.deliver.fault) := by
  induction stream with
  | nil =>
    intro delivery done site hprocess
    rw [drainFrom, close, hprocess]
    rfl
  | cons item rest ih =>
    intro delivery done site hprocess
    cases item with
    | pause =>
      rw [drainFrom, ih _ _ _ hprocess]
      simp
    | piece bytes =>
      rw [drainFrom, ih _ _ _ (by exact hprocess)]
      simp [Nat.add_assoc]
    | fault cause =>
      rw [drainFrom, drop, hprocess]
      rfl

/-- A body that nobody writes leaves one event behind when it is read to its end. -/
theorem drain_commit_none (stream : Stream String) (log : ResizeLog) (site : Site) :
    ((commit stream none log).drain.run site).2
      = site.logged (ending log stream.deliver.bytes.length stream.deliver.fault) := by
  have hopen : ¬ (commit stream none log).ended = true := Bool.false_ne_true
  rw [drain, if_neg hopen, run_drainFrom_none _ _ _ _ rfl]
  simp [commit]

end Delivery

namespace Image

/-- The stream at its first byte delivers what the stream delivers. -/
lemma deliver_of_start {stream begun : Stream String} (h : start stream = .data begun) :
    begun.deliver = stream.deliver ∧ stream.deliver.bytes ≠ [] := by
  induction stream with
  | nil => cases h
  | cons item rest ih =>
    cases item with
    | pause => exact ih h
    | fault cause => cases h
    | piece bytes =>
      cases bytes with
      | nil => simpa using ih h
      | cons b bytes =>
        cases h
        simp

lemma start_eq_empty_iff {stream : Stream String} :
    start stream = .empty ↔ stream.deliver = ⟨[], none⟩ := by
  induction stream with
  | nil => simp [start]
  | cons item rest ih =>
    cases item with
    | pause => simpa [start] using ih
    | fault cause => simp [start]
    | piece bytes =>
      cases bytes with
      | nil =>
        rw [Stream.deliver_piece]
        exact ih
      | cons b bytes => simp [start]

lemma start_eq_failed_iff {stream : Stream String} {cause : String} :
    start stream = .failed cause ↔ stream.deliver = ⟨[], some cause⟩ := by
  induction stream with
  | nil => simp [start]
  | cons item rest ih =>
    cases item with
    | pause => simpa [start] using ih
    | fault cause => simp [start]
    | piece bytes =>
      cases bytes with
      | nil =>
        rw [Stream.deliver_piece]
        exact ih
      | cons b bytes => simp [start]

end Image

end Intercept
