/-
# What the program that removes metadata was fed

A program gets the data of an image in order, however the data arrived: all of it, or as much as the
program takes before it closes its input.  Its output counts only if the program ended well and the
data was read to its end, so that `Stripped` is all that a stream without a fault can come from.

If the program was started, `Ends` says what stands behind its output: nothing, the reason why the
program starved, or that it failed.
-/
import Intercept.Proofs.Stream
import Intercept.Upload.Stripping

namespace Intercept.Stripping

variable {program : Program} {environment : Environment} {intake : Intake}

/-! ### Feeding -/

/-- Whether a program has taken all of so many bytes. -/
def takesAll (size : Nat) : Intake → Bool
  | .all => true
  | .closesAfter room | .failsAfter room _ => size ≤ room

/-- What a program is fed of data with a fault at its end, or with none. -/
def fedFrom (delivered : Delivered UploadFault) : Intake → Fed
  | .all => ⟨delivered.bytes, delivered.fault⟩
  | .closesAfter room =>
    if delivered.bytes.length ≤ room then ⟨delivered.bytes, delivered.fault⟩
    else ⟨delivered.bytes.take room, none⟩
  | .failsAfter room cause =>
    if delivered.bytes.length ≤ room then ⟨delivered.bytes, delivered.fault⟩
    else ⟨delivered.bytes.take room, some (.unreadable cause.message)⟩

lemma fedFrom_of_takesAll {delivered : Delivered UploadFault}
    (htakes : takesAll delivered.bytes.length intake = true) :
    fedFrom delivered intake = ⟨delivered.bytes, delivered.fault⟩ := by
  cases intake with
  | all => rfl
  | closesAfter room => exact if_pos (of_decide_eq_true htakes)
  | failsAfter room cause => exact if_pos (of_decide_eq_true htakes)

/-- A program that has room for some bytes, but not for all that come next, is fed up to its room. -/
lemma take_fed {before next rest : Bytes} {room : Nat} (hroom : before.length ≤ room)
    (hlong : room < before.length + next.length) :
    (before ++ (next ++ rest)).take room = before ++ next.take (room - before.length) ∧
      ¬ (before ++ (next ++ rest)).length ≤ room := by
  constructor
  · rw [List.take_append, List.take_of_length_le hroom,
      List.take_append_of_le_length (by omega)]
  · rw [List.length_append, List.length_append]
    omega

/-- How a program is fed does not depend on the pieces. -/
lemma feedLoop_eq (done : List Bytes)
    (htakes : takesAll done.reverse.flatten.length intake = true) (input : Stream UploadFault) :
    feedLoop intake done done.reverse.flatten.length input
      = fedFrom ⟨done.reverse.flatten ++ input.deliver.bytes, input.deliver.fault⟩ intake := by
  induction input generalizing done with
  | nil =>
    rw [Stream.deliver_nil, List.append_nil, fedFrom_of_takesAll htakes, feedLoop]
  | cons item rest ih =>
    cases item with
    | pause => exact ih done htakes
    | fault cause =>
      rw [Stream.deliver_fault, List.append_nil, fedFrom_of_takesAll htakes, feedLoop]
    | piece first =>
      have hdone : (first :: done).reverse.flatten = done.reverse.flatten ++ first := by simp
      have htaken : ∀ room, (first.take (room - done.reverse.flatten.length) :: done).reverse.flatten
          = done.reverse.flatten ++ first.take (room - done.reverse.flatten.length) := by simp
      -- a program that takes the piece is fed with the rest
      have hmore : takesAll (done.reverse.flatten.length + first.length) intake = true →
          feedLoop intake (first :: done) (done.reverse.flatten.length + first.length) rest
            = fedFrom ⟨done.reverse.flatten ++ (first ++ (Stream.deliver rest).bytes),
                (Stream.deliver rest).fault⟩ intake := by
        intro hroom
        have hnext := ih (first :: done) (by rwa [hdone, List.length_append])
        rwa [hdone, List.length_append, List.append_assoc] at hnext
      rw [Stream.deliver_piece, feedLoop]
      cases intake with
      | all => exact hmore rfl
      | closesAfter room =>
        rw [Intake.write]
        by_cases hroom : done.reverse.flatten.length + first.length ≤ room
        · rw [if_pos hroom]
          exact hmore (decide_eq_true hroom)
        · rw [if_neg hroom, fedFrom]
          obtain ⟨htake, hlong⟩ := @take_fed _ _ (Stream.deliver rest).bytes _
            (of_decide_eq_true htakes) (Nat.not_le.1 hroom)
          simp only [if_neg hlong, htake, htaken]
      | failsAfter room cause =>
        rw [Intake.write]
        by_cases hroom : done.reverse.flatten.length + first.length ≤ room
        · rw [if_pos hroom]
          exact hmore (decide_eq_true hroom)
        · rw [if_neg hroom, fedFrom]
          obtain ⟨htake, hlong⟩ := @take_fed _ _ (Stream.deliver rest).bytes _
            (of_decide_eq_true htakes) (Nat.not_le.1 hroom)
          simp only [if_neg hlong, htake, htaken]

/-- A program is fed the data as it is delivered, up to the room that the program has. -/
lemma feed_eq (intake : Intake) (input : Stream UploadFault) :
    feed intake input = fedFrom input.deliver intake := by
  have htakes : takesAll (([] : List Bytes).reverse.flatten.length) intake = true := by
    cases intake <;> simp [takesAll]
  exact feedLoop_eq [] htakes input

/-- A program is fed all data with its fault, or it closes its input before, or writing to it fails
before. -/
lemma fedFrom_cases (delivered : Delivered UploadFault) (intake : Intake) :
    (fedFrom delivered intake = ⟨delivered.bytes, delivered.fault⟩ ∧
      ∀ room, intake = .closesAfter room → delivered.bytes.length ≤ room) ∨
    (∃ room, intake = .closesAfter room ∧ room < delivered.bytes.length ∧
      fedFrom delivered intake = ⟨delivered.bytes.take room, none⟩) ∨
    ∃ room cause, intake = .failsAfter room cause ∧
      fedFrom delivered intake
        = ⟨delivered.bytes.take room, some (.unreadable cause.message)⟩ := by
  cases intake with
  | all =>
    refine .inl ⟨rfl, fun other hother => ?_⟩
    cases hother
  | closesAfter room =>
    by_cases hroom : delivered.bytes.length ≤ room
    · refine .inl ⟨if_pos hroom, fun other hother => ?_⟩
      obtain rfl := Intake.closesAfter.inj hother
      exact hroom
    · exact .inr (.inl ⟨room, rfl, Nat.not_le.1 hroom, if_neg hroom⟩)
  | failsAfter room cause =>
    by_cases hroom : delivered.bytes.length ≤ room
    · refine .inl ⟨if_pos hroom, fun other hother => ?_⟩
      cases hother
    · exact .inr (.inr ⟨room, cause, rfl, if_neg hroom⟩)

/-! ### Output that counts -/

lemma runs_of_start {invocation : Invocation} {run : Input → Behaviour}
    (hstart : program.start invocation = .ok (intake, run)) :
    ∃ whole, program = .runs intake whole ∧ run = whole invocation := by
  unfold Program.start at hstart
  split at hstart
  · cases hstart
  · split at hstart
    · cases hstart
    · next whole =>
      obtain ⟨rfl, rfl⟩ := Prod.mk.inj (Except.ok.inj hstart)
      exact ⟨whole, rfl, rfl⟩

lemma deliver_output (fed : Fed) (behaviour : Behaviour) :
    (output fed behaviour).deliver = ⟨behaviour.output.deliver.bytes,
      match behaviour.output.deliver.fault with
      | some cause =>
        some (.notStripped ⟨.warn, "Reading exiftool output failed", [("error", cause)]⟩)
      | none => verdict fed behaviour.ending⟩ := by
  rw [output]
  exact Stream.deliver_ended _ _

/-- What is delivered of an image is the output of a program that was started, with what can be said
of it at the end. -/
lemma deliver_strip {input output : Stream UploadFault}
    (hstrip : strip program environment input = .ok output) :
    ∃ intake run, program = .runs intake run ∧
      let fed := fedFrom input.deliver intake
      let behaviour := run ⟨arguments, environment⟩ ⟨fed.bytes, false⟩
      output.deliver.bytes = behaviour.output.deliver.bytes ∧
      (output.deliver.fault = none →
        behaviour.output.deliver.fault = none ∧ verdict fed behaviour.ending = none) ∧
      ∀ cause, output.deliver.fault = some (.unreadable cause) →
        verdict fed behaviour.ending = some (.unreadable cause) := by
  unfold strip at hstrip
  split at hstrip
  · cases hstrip
  · next intake run hstart =>
    obtain ⟨whole, hprogram, rfl⟩ := runs_of_start hstart
    obtain rfl := Except.ok.inj hstrip
    refine ⟨intake, whole, hprogram, ?_⟩
    rw [deliver_output, feed_eq]
    simp only
    split
    · exact ⟨trivial, fun h => (nomatch h), fun _ h => (nomatch h)⟩
    · next hwhole => exact ⟨trivial, fun h => ⟨hwhole, h⟩, fun _ h => h⟩

/-- A program is only found to have done its work if it ended well and its input was read. -/
lemma verdict_eq_none {fed : Fed} {ending : Ending} (h : verdict fed ending = none) :
    fed.fault = none ∧ ending = .exits (.code 0) := by
  unfold verdict at h
  split at h
  · cases h
  · next hfault =>
    refine ⟨hfault, ?_⟩
    split at h
    · next status =>
      split at h
      · next hsuccess => rw [eq_of_beq hsuccess]
      · cases h
    · cases h

/-- Only what was fed can be found unreadable. -/
lemma verdict_eq_unreadable {fed : Fed} {ending : Ending} {cause : String}
    (h : verdict fed ending = some (.unreadable cause)) : fed.fault = some (.unreadable cause) := by
  unfold verdict at h
  split at h
  · next hfault => rw [hfault, Option.some.inj h]
  · split at h
    · split at h
      · cases h
      · cases h
    · cases h

/-- The program was started, it was fed the data in order, all of it unless it closed its input
early, it ended well, and all that it wrote is `bytes`. -/
def Stripped (program : Program) (environment : Environment) (data bytes : Bytes) : Prop :=
  ∃ intake run fed, program = .runs intake run ∧
    (fed = data ∨ ∃ room, intake = .closesAfter room ∧ room < data.length ∧
      fed = data.take room) ∧
    (run ⟨arguments, environment⟩ ⟨fed, false⟩).output.deliver = ⟨bytes, none⟩ ∧
    (run ⟨arguments, environment⟩ ⟨fed, false⟩).ending = .exits (.code 0)

/-- **What comes without a fault is stripped.**  However the data of an image arrives, whatever is
delivered without a fault for it is the whole output of a program that ended well. -/
lemma stripped_of_strip {input output : Stream UploadFault} {bytes : Bytes}
    (hstrip : strip program environment input = .ok output)
    (hdeliver : output.deliver = ⟨bytes, none⟩) :
    Stripped program environment input.deliver.bytes bytes := by
  obtain ⟨intake, run, hprogram, hbytes, hnone, -⟩ := deliver_strip hstrip
  obtain ⟨hwhole, hverdict⟩ := hnone (congrArg Delivered.fault hdeliver)
  obtain ⟨hfault, hending⟩ := verdict_eq_none hverdict
  rw [hdeliver] at hbytes
  refine ⟨intake, run, _, hprogram, ?_, ?_, hending⟩
  · obtain ⟨hfed, -⟩ | ⟨room, hcloses, hroom, hfed⟩ | ⟨room, cause, -, hfed⟩ :=
      fedFrom_cases input.deliver intake
    · exact .inl (by rw [hfed])
    · exact .inr ⟨room, hcloses, hroom, by rw [hfed]⟩
    · rw [hfed] at hfault
      cases hfault
  · rw [show bytes = _ from hbytes, ← hwhole]

/-! ### Data that breaks off -/

/-- Whether a program closes its input before so many bytes are written. -/
def closesWithin (size : Nat) : Program → Bool
  | .runs (.closesAfter room) _ => room < size
  | _ => false

/-- If the output has no fault, neither has the input, as far as the program took it. -/
lemma fault_of_strip {input output : Stream UploadFault}
    (hstrip : strip program environment input = .ok output)
    (hdeliver : output.deliver.fault = none) :
    input.deliver.fault = none ∨ closesWithin input.deliver.bytes.length program = true := by
  obtain ⟨intake, run, rfl, -, hnone, -⟩ := deliver_strip hstrip
  have hfault := (verdict_eq_none (hnone hdeliver).2).1
  obtain ⟨hfed, -⟩ | ⟨room, rfl, hroom, -⟩ | ⟨room, cause, -, hfed⟩ :=
    fedFrom_cases input.deliver intake
  · rw [hfed] at hfault
    exact .inl hfault
  · exact .inr (decide_eq_true hroom)
  · rw [hfed] at hfault
    cases hfault

/-- If the output ends for want of data, then the data cannot be read and the program was still
reading it, or it cannot be written to the program. -/
lemma unreadable_of_strip {input output : Stream UploadFault} {cause : String}
    (hstrip : strip program environment input = .ok output)
    (hdeliver : output.deliver.fault = some (.unreadable cause)) :
    (input.deliver.fault = some (.unreadable cause) ∧
      closesWithin input.deliver.bytes.length program = false) ∨
    ∃ error : SystemError, cause = error.message := by
  obtain ⟨intake, run, rfl, -, -, hunreadable⟩ := deliver_strip hstrip
  have hfault := verdict_eq_unreadable (hunreadable cause hdeliver)
  obtain ⟨hfed, hcloses⟩ | ⟨room, -, -, hfed⟩ | ⟨room, error, -, hfed⟩ :=
    fedFrom_cases input.deliver intake
  · rw [hfed] at hfault
    refine .inl ⟨hfault, ?_⟩
    cases intake with
    | closesAfter room => exact decide_eq_false (Nat.not_lt.2 (hcloses room rfl))
    | all => rfl
    | failsAfter room error => rfl
  · rw [hfed] at hfault
    cases hfault
  · rw [hfed] at hfault
    exact .inr ⟨error, (UploadFault.unreadable.inj (Option.some.inj hfault)).symm⟩

/-! ### How the output ends -/

/-- A program was started, and its output can be read. -/
structure Started (program : Program) (environment : Environment) (intake : Intake)
    (run : Input → Behaviour) : Prop where
  start : program.start ⟨arguments, environment⟩ = .ok (intake, run)
  read : ∀ input, (run input).output.deliver.fault = none

/-- What a program takes of some data. -/
def taken (data : Bytes) : Intake → Bytes
  | .all => data
  | .closesAfter room | .failsAfter room _ => data.take room

/-- A program was fed all that a stream delivers, to its end, or it closed its input before. -/
def Served (intake : Intake) (delivered : Delivered String) : Prop :=
  (takesAll delivered.bytes.length intake = true ∧ delivered.fault = none) ∨
    ∃ room, intake = .closesAfter room ∧ room < delivered.bytes.length

/-- A program was not fed all that a stream should have delivered, for the cause: the stream broke
off, or a write to the program failed before. -/
def Starved (intake : Intake) (delivered : Delivered String) (cause : String) : Prop :=
  (takesAll delivered.bytes.length intake = true ∧ delivered.fault = some cause) ∨
    ∃ room error, intake = .failsAfter room error ∧ room < delivered.bytes.length ∧
      cause = error.message

/-- How the output ends of a program that was fed what a stream delivers and then ended. -/
structure Ends (intake : Intake) (delivered : Delivered String) (ending : Ending)
    (last : Option UploadFault) : Prop where
  clean : last = none ↔ Served intake delivered ∧ ending = .exits (.code 0)
  failed : (∃ event, last = some (.notStripped event)) ↔
    Served intake delivered ∧ ending ≠ .exits (.code 0)
  unread : ∀ cause, last = some (.unreadable cause) ↔ Starved intake delivered cause

lemma taken_of_takesAll {data : Bytes} (htakes : takesAll data.length intake = true) :
    taken data intake = data := by
  cases intake with
  | all => rfl
  | closesAfter room => exact List.take_of_length_le (of_decide_eq_true htakes)
  | failsAfter room error => exact List.take_of_length_le (of_decide_eq_true htakes)

/-- A program is fed what it takes, without a fault if it was served and otherwise with the cause for
which it starved. -/
lemma fedFrom_eq_taken (intake : Intake) (delivered : Delivered String) :
    ∃ fault, fedFrom ⟨delivered.bytes, delivered.fault.map .unreadable⟩ intake
        = ⟨taken delivered.bytes intake, fault⟩ ∧
      (Served intake delivered ∧ fault = none ∨
        ∃ cause, Starved intake delivered cause ∧ fault = some (.unreadable cause)) := by
  by_cases htakes : takesAll delivered.bytes.length intake = true
  · refine ⟨_, (fedFrom_of_takesAll htakes).trans (by rw [taken_of_takesAll htakes]), ?_⟩
    cases hfault : delivered.fault with
    | none => exact .inl ⟨.inl ⟨htakes, hfault⟩, rfl⟩
    | some cause => exact .inr ⟨cause, .inl ⟨htakes, hfault⟩, rfl⟩
  · cases intake with
    | all => exact absurd rfl htakes
    | closesAfter room =>
      have hlong : ¬ delivered.bytes.length ≤ room := fun hroom => htakes (decide_eq_true hroom)
      exact ⟨none, if_neg hlong, .inl ⟨.inr ⟨room, rfl, Nat.not_le.1 hlong⟩, rfl⟩⟩
    | failsAfter room error =>
      have hlong : ¬ delivered.bytes.length ≤ room := fun hroom => htakes (decide_eq_true hroom)
      exact ⟨_, if_neg hlong,
        .inr ⟨_, .inr ⟨room, error, rfl, Nat.not_le.1 hlong, rfl⟩, rfl⟩⟩

/-- A program that was served does not starve. -/
lemma Served.not_starved {delivered : Delivered String} {cause : String}
    (hserved : Served intake delivered) : ¬ Starved intake delivered cause := by
  rintro (⟨htakes, hfault⟩ | ⟨room, error, rfl, hshort, -⟩)
  · obtain ⟨-, hnone⟩ | ⟨room, rfl, hshort⟩ := hserved
    · rw [hnone] at hfault
      cases hfault
    · exact absurd (of_decide_eq_true htakes) (Nat.not_le.2 hshort)
  · obtain ⟨htakes, -⟩ | ⟨room, hcloses, -⟩ := hserved
    · exact absurd (of_decide_eq_true htakes) (Nat.not_le.2 hshort)
    · cases hcloses

/-- A program starves for one cause. -/
lemma Starved.cause_eq {delivered : Delivered String} {cause other : String}
    (h : Starved intake delivered cause) (hother : Starved intake delivered other) :
    other = cause := by
  obtain ⟨htakes, hfault⟩ | ⟨room, error, rfl, hshort, rfl⟩ := h
  · obtain ⟨-, hsame⟩ | ⟨room, error, rfl, hshort, -⟩ := hother
    · exact Option.some.inj (hsame.symm.trans hfault)
    · exact absurd (of_decide_eq_true htakes) (Nat.not_le.2 hshort)
  · obtain ⟨htakes, -⟩ | ⟨room, error, hsame, -, rfl⟩ := hother
    · exact absurd (of_decide_eq_true htakes) (Nat.not_le.2 hshort)
    · rw [(Intake.failsAfter.inj hsame).2]

/-- A program that was fed without a fault is judged by how it ended. -/
lemma verdict_of_fed (bytes : Bytes) (ending : Ending) :
    (verdict ⟨bytes, none⟩ ending = none ∧ ending = .exits (.code 0)) ∨
      ∃ event, verdict ⟨bytes, none⟩ ending = some (.notStripped event) ∧
        ending ≠ .exits (.code 0) := by
  cases ending with
  | exits status =>
    by_cases hsuccess : status.isSuccess = true
    · exact .inl ⟨if_pos hsuccess, by rw [eq_of_beq hsuccess]⟩
    · refine .inr ⟨_, if_neg hsuccess, fun hcode => hsuccess ?_⟩
      rw [Ending.exits.inj hcode]
      rfl
  | unknown cause => exact .inr ⟨_, rfl, nofun⟩

lemma ends_of_served {delivered : Delivered String} (hserved : Served intake delivered)
    (bytes : Bytes) (ending : Ending) :
    Ends intake delivered ending (verdict ⟨bytes, none⟩ ending) := by
  have hstarved : ∀ cause, ¬ Starved intake delivered cause := fun _ => hserved.not_starved
  obtain ⟨hverdict, hending⟩ | ⟨event, hverdict, hending⟩ := verdict_of_fed bytes ending
  · rw [hverdict]
    exact ⟨by simp [hserved, hending], by simp [hending], by simp [hstarved]⟩
  · rw [hverdict]
    exact ⟨by simp [hending], by simp [hserved, hending], by simp [hstarved]⟩

lemma ends_of_starved {delivered : Delivered String} {cause : String}
    (hstarved : Starved intake delivered cause) (ending : Ending) :
    Ends intake delivered ending (some (.unreadable cause)) := by
  have hserved : ¬ Served intake delivered := fun h => h.not_starved hstarved
  refine ⟨by simp [hserved], by simp [hserved], fun other => ⟨fun hsame => ?_, fun hother => ?_⟩⟩
  · rwa [← UploadFault.unreadable.inj (Option.some.inj hsame)]
  · rw [hstarved.cause_eq hother]

/-- **How the output of the program ends.**  The output of a program that was started comes as the
program wrote it, in its pieces, and ends as `Ends` says, with nothing behind a fault. -/
lemma strip_ends {run : Input → Behaviour} (h : Started program environment intake run)
    (stream : Stream String) :
    let behaviour := run ⟨taken stream.deliver.bytes intake, false⟩
    ∃ last, strip program environment (stream.mapFault .unreadable)
        = .ok (behaviour.output.pieces.1.map .piece ++ (last.map Item.fault).toList) ∧
      Ends intake stream.deliver behaviour.ending last := by
  intro behaviour
  obtain ⟨fault, hfed, hwhy⟩ := fedFrom_eq_taken intake stream.deliver
  have hread : behaviour.output.pieces.2 = none := h.read _
  have hstrip : strip program environment (stream.mapFault .unreadable)
      = .ok (behaviour.output.pieces.1.map .piece ++ ((verdict
          ⟨taken stream.deliver.bytes intake, fault⟩ behaviour.ending).map Item.fault).toList) := by
    simp only [strip, h.start, feed_eq, Stream.deliver_mapFault, hfed]
    simp only [output, hread, behaviour]
  refine ⟨_, hstrip, ?_⟩
  obtain ⟨hserved, rfl⟩ | ⟨cause, hstarved, rfl⟩ := hwhy
  · exact ends_of_served hserved _ _
  · exact ends_of_starved hstarved _

end Intercept.Stripping
