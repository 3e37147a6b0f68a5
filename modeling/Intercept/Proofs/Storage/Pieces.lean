/-
# Written piece by piece is written at once

What of a stream is stored is determined by what the stream delivers and by the limit: `accept`
gives it, together with the reason why not all of it is.  What of it is written when that reason is
met is `poured`: all of it but the part that is on its way.  A file that is written piece by piece
comes out as if this had been written at once (`run_writeFile`), even if the disk fails in the
middle.
-/
import Intercept.Proofs.Digest.Sha256
import Intercept.Proofs.Site
import Intercept.Proofs.Stream
import Intercept.Storage.Save

namespace Intercept

namespace Disk

variable {place : Place}

lemma putFile_putFile (old bytes : Bytes) (files : List (Place × Bytes)) :
    putFile place bytes (putFile place old files) = putFile place bytes files := by
  induction files with
  | nil => simp [putFile]
  | cons file rest ih =>
    rw [putFile, putFile]
    split
    · simp [putFile]
    · next hother => rw [putFile, if_neg hother, ih]

lemma note_note (touched : List Place) : note place (note place touched) = note place touched := by
  have hhead : (note place touched).head? = some place := by
    rw [note]
    split
    · assumption
    · rfl
  rw [note, if_pos hhead]

/-- Bytes that are added to a file come behind those that it was given. -/
lemma append_put (disk : Disk) (place : Place) (old bytes : Bytes) :
    (disk.put place old).append place bytes = disk.put place (old ++ bytes) := by
  have hcontents : (disk.put place old).contents? place = some old := by
    rw [contents?_put, if_pos rfl]
  rw [append, hcontents, Option.getD_some]
  simp only [put, putFile_putFile, note_note]

/-- A file that was just made is empty when it is opened. -/
lemma openHandle_of_create {path : String} {made created : Disk}
    (hcreate : made.create path = .ok (place, created)) :
    ∃ (base : Disk) (trouble : Option (Nat × SystemError)),
      created.openHandle place = (⟨place, trouble⟩, base.put place []) := by
  obtain ⟨rfl, -⟩ := find_of_create hcreate
  obtain ⟨trouble, troubles, hopen⟩ := openHandle_eq (made.put place []) place
  exact ⟨{ made with troubles }, trouble, hopen⟩

lemma Handle.take_nil (handle : Handle) : handle.take [] = (.ok handle, []) := by
  obtain ⟨place, trouble⟩ := handle
  cases trouble with
  | none => rfl
  | some trouble => rfl

/-- Of two pieces an open file takes what it takes of both at once. -/
lemma Handle.take_append {handle next : Handle} {first taken : Bytes}
    (h : handle.take first = (.ok next, taken)) (second : Bytes) :
    handle.take (first ++ second) = ((next.take second).1, first ++ (next.take second).2) := by
  obtain ⟨place, trouble⟩ := handle
  cases trouble with
  | none =>
    obtain ⟨hnext, -⟩ := Prod.mk.inj h
    obtain rfl := Except.ok.inj hnext
    rfl
  | some trouble =>
    obtain ⟨room, cause⟩ := trouble
    simp only [take] at h
    split at h
    · next hroom =>
      obtain ⟨hnext, -⟩ := Prod.mk.inj h
      obtain rfl := Except.ok.inj hnext
      simp only [take, List.length_append]
      by_cases hfits : second.length ≤ room - first.length
      · rw [if_pos hfits, if_pos (by omega), Nat.sub_sub]
      · rw [if_neg hfits, if_neg (by omega), List.take_append,
          List.take_of_length_le hroom]
    · cases congrArg Prod.fst h

/-- What an open file does not take whole, it does not take with more behind it. -/
lemma Handle.take_append_error {handle : Handle} {first taken : Bytes} {cause : SystemError}
    (h : handle.take first = (.error cause, taken)) (second : Bytes) :
    handle.take (first ++ second) = (.error cause, taken) := by
  obtain ⟨place, trouble⟩ := handle
  cases trouble with
  | none => cases congrArg Prod.fst h
  | some trouble =>
    obtain ⟨room, reason⟩ := trouble
    simp only [take] at h
    split at h
    · cases congrArg Prod.fst h
    · next hroom =>
      rw [← h]
      simp only [take, List.length_append]
      rw [if_neg (by omega), List.take_append_of_le_length (by omega)]

/-- Bytes that are written to an open file come behind those that it was given. -/
lemma writeTo_put (disk : Disk) (handle : Handle) (done bytes : Bytes) :
    (disk.put handle.place done).writeTo handle bytes
      = ((handle.take bytes).1, disk.put handle.place (done ++ (handle.take bytes).2)) := by
  simp only [writeTo, append_put]

/-- Handing bytes over writes those on their way and all parts of the new ones but the last. -/
lemma handOver_put (disk : Disk) (handle : Handle) (done held : Bytes) {bytes : Bytes}
    (hbytes : ¬ bytes.isEmpty = true) :
    let taken := handle.take (held ++ bytes.take (lastPart bytes))
    (disk.put handle.place done).handOver ⟨handle, held⟩ bytes
      = (taken.1.map fun next => ⟨next, bytes.drop (lastPart bytes)⟩,
        disk.put handle.place (done ++ taken.2)) := by
  simp only [handOver, if_neg hbytes, writeTo_put]

end Disk

namespace Storage

variable {φ : Type} {stream : Stream φ}

/-! ### What is accepted -/

/-- What of a stream is written behind `size` bytes, and why no more is. -/
def acceptFrom (limit : Option Nat) (size : Nat) : Stream φ → Bytes × Option (StoreError φ)
  | [] => ([], none)
  | .pause :: rest => acceptFrom limit size rest
  | .fault cause :: _ => ([], some (.unreadable cause))
  | .piece bytes :: rest =>
    if exceeds limit (size + bytes.length) then ([], some .tooLarge)
    else (acceptFrom limit (size + bytes.length) rest).map (bytes ++ ·) id

/-- What of a stream is written, and why no more is. -/
def accept (limit : Option Nat) (stream : Stream φ) : Bytes × Option (StoreError φ) :=
  acceptFrom limit 0 stream

/-- A limit that is kept by more bytes is kept by fewer. -/
lemma exceeds_mono {limit : Option Nat} {size more : Nat} (hle : size ≤ more)
    (h : exceeds limit size = true) : exceeds limit more = true := by
  cases limit with
  | none => exact h
  | some limit => exact decide_eq_true (Nat.lt_of_lt_of_le (of_decide_eq_true h) hle)

/-- What is refused, and why, is decided by what the stream delivers, and not by its pieces. -/
lemma acceptFrom_snd (limit : Option Nat) {size : Nat} (hsize : exceeds limit size = false)
    (stream : Stream φ) :
    (acceptFrom limit size stream).2
      = if exceeds limit (size + stream.deliver.bytes.length) then some .tooLarge
        else stream.deliver.fault.map .unreadable := by
  induction stream generalizing size with
  | nil => simp [acceptFrom, hsize]
  | cons item rest ih =>
    cases item with
    | pause => exact ih hsize
    | fault cause => simp [acceptFrom, hsize]
    | piece first =>
      rw [acceptFrom, Stream.deliver_piece, List.length_append, ← Nat.add_assoc]
      split
      · next hlarge => rw [if_pos (exceeds_mono (Nat.le_add_right _ _) hlarge)]
      · next hfits => exact ih (Bool.eq_false_iff.2 hfits)

lemma exceeds_zero (limit : Option Nat) : exceeds limit 0 = false := by cases limit <;> rfl

lemma accept_snd (limit : Option Nat) (stream : Stream φ) :
    (accept limit stream).2
      = if exceeds limit stream.deliver.bytes.length then some .tooLarge
        else stream.deliver.fault.map .unreadable := by
  rw [accept, acceptFrom_snd limit (exceeds_zero limit), Nat.zero_add]

/-- What is accepted is the beginning of what the stream delivers, and it fits. -/
lemma acceptFrom_fst (limit : Option Nat) {size : Nat} (hsize : exceeds limit size = false)
    (stream : Stream φ) :
    (acceptFrom limit size stream).1 <+: stream.deliver.bytes ∧
      exceeds limit (size + (acceptFrom limit size stream).1.length) = false := by
  induction stream generalizing size with
  | nil => exact ⟨List.prefix_rfl, hsize⟩
  | cons item rest ih =>
    cases item with
    | pause => exact ih hsize
    | fault cause => exact ⟨List.prefix_rfl, hsize⟩
    | piece first =>
      rw [acceptFrom, Stream.deliver_piece]
      split
      · exact ⟨List.nil_prefix, hsize⟩
      · next hfits =>
        obtain ⟨hbegin, hmore⟩ := ih (Bool.eq_false_iff.2 hfits)
        refine ⟨(List.prefix_append_right_inj first).2 hbegin, ?_⟩
        rwa [Prod.map_fst, List.length_append, ← Nat.add_assoc]

lemma accept_fst (limit : Option Nat) (stream : Stream φ) :
    (accept limit stream).1 <+: stream.deliver.bytes ∧
      exceeds limit (accept limit stream).1.length = false := by
  have hfirst := acceptFrom_fst limit (exceeds_zero limit) stream
  rwa [Nat.zero_add] at hfirst

/-- What is accepted is all that the stream delivers, unless this is too large. -/
lemma acceptFrom_of_ne_tooLarge {limit : Option Nat} {size : Nat}
    (h : (acceptFrom limit size stream).2 ≠ some .tooLarge) :
    (acceptFrom limit size stream).1 = stream.deliver.bytes := by
  induction stream generalizing size with
  | nil => rfl
  | cons item rest ih =>
    cases item with
    | pause => exact ih h
    | fault cause => rfl
    | piece first =>
      rw [acceptFrom] at h ⊢
      split at h
      · exact absurd rfl h
      · next hfits =>
        rw [if_neg hfits, Stream.deliver_piece]
        exact congrArg (first ++ ·) (ih h)

lemma accept_of_fits {limit : Option Nat}
    (hfits : exceeds limit stream.deliver.bytes.length = false) :
    (accept limit stream).1 = stream.deliver.bytes := by
  refine acceptFrom_of_ne_tooLarge fun hlarge => ?_
  rw [← accept, accept_snd, if_neg (Bool.eq_false_iff.1 hfits)] at hlarge
  cases hfault : stream.deliver.fault <;> simp [hfault] at hlarge

lemma deliver_of_accept {limit : Option Nat} {bytes : Bytes}
    (h : accept limit stream = (bytes, none)) : bytes = stream.deliver.bytes := by
  have hall : (accept limit stream).1 = stream.deliver.bytes :=
    acceptFrom_of_ne_tooLarge fun hlarge => by
      rw [← accept, h] at hlarge
      cases hlarge
  rwa [h] at hall

/-- A stream is accepted if it ends without a fault and fits. -/
lemma accept_eq_iff {limit : Option Nat} {bytes : Bytes} :
    accept limit stream = (bytes, none) ↔
      stream.deliver = ⟨bytes, none⟩ ∧ exceeds limit bytes.length = false := by
  have hsnd := accept_snd limit stream
  constructor
  · intro h
    obtain rfl := deliver_of_accept h
    rw [h] at hsnd
    by_cases hlarge : exceeds limit stream.deliver.bytes.length = true
    · rw [if_pos hlarge] at hsnd
      cases hsnd
    · rw [if_neg hlarge] at hsnd
      have hfault : stream.deliver.fault = none := Option.map_eq_none_iff.1 hsnd.symm
      exact ⟨by rw [← hfault], Bool.eq_false_iff.2 hlarge⟩
  · rintro ⟨hdeliver, hfits⟩
    rw [hdeliver, if_neg (Bool.eq_false_iff.1 hfits)] at hsnd
    have haccept : accept limit stream = ((accept limit stream).1, none) := Prod.ext rfl hsnd
    have hbytes := deliver_of_accept haccept
    rw [hdeliver] at hbytes
    rw [haccept, hbytes]

/-! ### What is written by then -/

/-- What of a stream is written behind `size` bytes, of which the last ones, `held`, are on their
way, when the stream ends or no more is accepted. -/
def pouredFrom (limit : Option Nat) (size : Nat) (held : Bytes) : Stream φ → Bytes
  | [] => held
  | .pause :: rest => pouredFrom limit size held rest
  | .fault _ :: _ => []
  | .piece bytes :: rest =>
    if exceeds limit (size + bytes.length) then []
    else if bytes.isEmpty then pouredFrom limit size held rest
    else
      held ++ bytes.take (Disk.lastPart bytes)
        ++ pouredFrom limit (size + bytes.length) (bytes.drop (Disk.lastPart bytes)) rest

/-- What of a stream is written when the stream ends or no more is accepted. -/
def poured (limit : Option Nat) (stream : Stream φ) : Bytes := pouredFrom limit 0 [] stream

/-- The part that is on its way is no larger than a part may be. -/
lemma length_lastPart (bytes : Bytes) :
    (bytes.drop (Disk.lastPart bytes)).length ≤ Disk.maxPart := by
  have hsplit := Nat.mod_add_div (bytes.length - 1) Disk.maxPart
  have hless := Nat.mod_lt (bytes.length - 1) (show 0 < Disk.maxPart by decide)
  rw [List.length_drop, Disk.lastPart, Nat.mul_comm]
  omega

/-- What is written is the beginning of what is accepted, and no more than one part of this is
missing. -/
lemma pouredFrom_begins (limit : Option Nat) {held : Bytes} (hheld : held.length ≤ Disk.maxPart)
    (size : Nat) (stream : Stream φ) :
    pouredFrom limit size held stream <+: held ++ (acceptFrom limit size stream).1 ∧
      (held ++ (acceptFrom limit size stream).1).length
        ≤ (pouredFrom limit size held stream).length + Disk.maxPart := by
  induction stream generalizing held size with
  | nil => simp [pouredFrom, acceptFrom]
  | cons item rest ih =>
    cases item with
    | pause => exact ih hheld size
    | fault cause => simp [pouredFrom, acceptFrom, hheld]
    | piece bytes =>
      rw [pouredFrom, acceptFrom]
      split
      · simp [hheld]
      · split
        · next hempty =>
          obtain rfl := List.isEmpty_iff.1 hempty
          exact ih hheld size
        · obtain ⟨hbegin, hmissing⟩ := ih (length_lastPart bytes) (size + bytes.length)
          have hparts : ∀ more, held ++ (bytes ++ more) = (held ++ bytes.take (Disk.lastPart bytes))
              ++ (bytes.drop (Disk.lastPart bytes) ++ more) := by
            intro more
            rw [List.append_assoc, ← List.append_assoc (bytes.take _), List.take_append_drop]
          rw [Prod.map_fst, hparts]
          refine ⟨(List.prefix_append_right_inj _).2 hbegin, ?_⟩
          rw [List.length_append, @List.length_append _ (held ++ _), Nat.add_assoc]
          exact Nat.add_le_add_left hmissing _

/-- If the stream is accepted, all of it is written. -/
lemma pouredFrom_of_accepted {limit : Option Nat} {size : Nat} {stream : Stream φ}
    (h : (acceptFrom limit size stream).2 = none) (held : Bytes) :
    pouredFrom limit size held stream = held ++ (acceptFrom limit size stream).1 := by
  induction stream generalizing size held with
  | nil => simp [pouredFrom, acceptFrom]
  | cons item rest ih =>
    cases item with
    | pause => exact ih h held
    | fault cause => cases h
    | piece bytes =>
      rw [acceptFrom] at h ⊢
      rw [pouredFrom]
      split at h
      · cases h
      · next hfits =>
        rw [if_neg hfits, if_neg hfits]
        split
        · next hempty =>
          obtain rfl := List.isEmpty_iff.1 hempty
          exact ih h held
        · rw [ih h, Prod.map_fst, List.append_assoc, ← List.append_assoc (bytes.take _),
            List.take_append_drop]

lemma poured_of_accept {limit : Option Nat} {stream : Stream φ} {bytes : Bytes}
    (h : accept limit stream = (bytes, none)) : poured limit stream = bytes := by
  rw [accept] at h
  rw [poured, pouredFrom_of_accepted (by rw [h]), h, List.nil_append]

/-- Without a limit all of a stream is written that can be read to its end. -/
lemma poured_of_read {stream : Stream φ} (hread : stream.deliver.fault = none) :
    poured none stream = stream.deliver.bytes := by
  refine poured_of_accept (accept_eq_iff.2 ⟨?_, rfl⟩)
  rw [← hread]

/-- What is written is the beginning of what the stream delivers, and it fits. -/
lemma poured_begins (limit : Option Nat) (stream : Stream φ) :
    poured limit stream <+: stream.deliver.bytes ∧
      exceeds limit (poured limit stream).length = false := by
  have hnothing : ([] : Bytes).length ≤ Disk.maxPart := Nat.zero_le _
  obtain ⟨hbegin, -⟩ := pouredFrom_begins limit hnothing 0 stream
  obtain ⟨hall, hfits⟩ := accept_fst limit stream
  refine ⟨hbegin.trans hall, Bool.eq_false_iff.2 fun hlarge => ?_⟩
  exact Bool.eq_false_iff.1 hfits (exceeds_mono hbegin.length_le hlarge)

/-- If the stream fits, no more than one part of what it delivers is not written. -/
lemma length_le_poured {limit : Option Nat} {stream : Stream φ}
    (hfits : exceeds limit stream.deliver.bytes.length = false) :
    stream.deliver.bytes.length ≤ (poured limit stream).length + Disk.maxPart := by
  have hnothing : ([] : Bytes).length ≤ Disk.maxPart := Nat.zero_le _
  obtain ⟨-, hmissing⟩ := pouredFrom_begins limit hnothing 0 stream
  rwa [List.nil_append, ← accept, accept_of_fits hfits] at hmissing

/-! ### Writing at once -/

/-- Why a file does not remain: it could not be written, which is noticed first, or the stream was
not accepted. -/
def failure? {α : Type} (path : String) (written : Except SystemError α)
    (refusal : Option (StoreError φ)) : Option (StoreError φ) :=
  match written with
  | .error cause => some (.unwritable path cause)
  | .ok _ => refusal

lemma failure?_eq_none_iff {path : String} {written : Except SystemError Unit}
    {refusal : Option (StoreError φ)} :
    failure? path written refusal = none ↔ written = .ok () ∧ refusal = none := by
  cases written with
  | error cause => simp [failure?]
  | ok done => simp [failure?]

lemma failure?_map {α β : Type} (path : String) (written : Except SystemError α) (f : α → β)
    (refusal : Option (StoreError φ)) :
    failure? path (written.map f) refusal = failure? path written refusal := by
  cases written <;> rfl

/-- What is found out about the bytes of a whole file. -/
def Progress.of (bytes : Bytes) : Progress := Progress.take {} bytes

lemma Progress.take_of (done bytes : Bytes) :
    (Progress.of done).take bytes = Progress.of (done ++ bytes) := by
  rw [Progress.of, Progress.of, take, take, take]
  simp [Sha256.Hasher.update_append]

/-- Writing piece by piece behind some bytes, of which the last ones are on their way, writes what
is poured of the stream, as far as the file takes it. -/
lemma run_pour (path : String) (limit : Option Nat) (disk : Disk) (site : Site)
    (stream : Stream φ) : ∀ (handle : Disk.Handle) (done held : Bytes),
      (pour path limit ⟨handle, held⟩ (Progress.of (done ++ held)) stream).run
          { site with disk := disk.put handle.place done }
        = ((match failure? path
              (handle.take (pouredFrom limit (done ++ held).length held stream)).1
              (acceptFrom limit (done ++ held).length stream).2 with
            | some error => .error error
            | none => .ok (Progress.of
                (done ++ held ++ (acceptFrom limit (done ++ held).length stream).1))),
          { site with
            disk := disk.put handle.place (done
              ++ (handle.take (pouredFrom limit (done ++ held).length held stream)).2) }) := by
  have hsize : ∀ done bytes : Bytes,
      ((Progress.of done).take bytes).size = done.length + bytes.length := by
    intro done bytes
    simp [Progress.of, Progress.take]
  induction stream with
  | nil =>
    intro handle done held
    rw [pour, Run.run_bind, Site.run_onDisk, Disk.flush, Disk.writeTo_put, pouredFrom, acceptFrom,
      List.append_nil]
    cases (handle.take held).1 with
    | ok next => rfl
    | error cause => rfl
  | cons item rest ih =>
    intro handle done held
    cases item with
    | pause => exact ih handle done held
    | fault cause =>
      rw [acceptFrom, pouredFrom, Disk.Handle.take_nil]
      simp [failure?, pour]
      rfl
    | piece bytes =>
      rw [pour, acceptFrom, pouredFrom]
      simp only [hsize]
      split
      · rw [Disk.Handle.take_nil]
        simp [failure?]
        rfl
      · rw [Run.run_bind, Site.run_onDisk]
        by_cases hempty : bytes.isEmpty = true
        · obtain rfl := List.isEmpty_iff.1 hempty
          rw [Progress.take_of, List.append_nil]
          exact ih handle done held
        · rw [if_neg hempty, Disk.handOver_put disk handle done held hempty]
          have hbytes := List.take_append_drop (Disk.lastPart bytes) bytes
          generalize bytes.take (Disk.lastPart bytes) = early at hbytes ⊢
          generalize bytes.drop (Disk.lastPart bytes) = late at hbytes ⊢
          subst hbytes
          rcases handle.take_cases (held ++ early) with
            ⟨next, htake, hplace⟩ | ⟨cause, taken, htake⟩
          · have hdone : done ++ held ++ (early ++ late) = done ++ (held ++ early) ++ late := by
              simp only [List.append_assoc]
            have hlength : (done ++ held).length + (early ++ late).length
                = (done ++ (held ++ early) ++ late).length := by
              rw [← hdone, ← List.length_append]
            rw [htake, Progress.take_of, hdone, hlength, Prod.map_fst,
              Disk.Handle.take_append htake, ← hplace]
            refine (ih next (done ++ (held ++ early)) late).trans ?_
            rw [Prod.map_snd, id, ← hdone]
            simp only [List.append_assoc]
          · rw [htake, Disk.Handle.take_append_error htake]
            rfl

/-- Writing a stream piece by piece to an empty file. -/
lemma run_pour_empty (path : String) (limit : Option Nat) (disk : Disk) (site : Site)
    (handle : Disk.Handle) (stream : Stream φ) :
    (pour path limit ⟨handle, []⟩ {} stream).run { site with disk := disk.put handle.place [] }
      = ((match failure? path (handle.take (poured limit stream)).1 (accept limit stream).2 with
          | some error => .error error
          | none => .ok (Progress.of (accept limit stream).1)),
        { site with disk := disk.put handle.place (handle.take (poured limit stream)).2 }) :=
  run_pour path limit disk site stream handle [] []

/-- Writes to a new file what is poured of a stream, all at once.  The file remains only if all of
the stream is accepted and written. -/
def writeWhole (directory path : String) (limit : Option Nat) (stream : Stream φ) :
    Run (Except (StoreError φ) Bytes) := do
  match ← Site.onDisk fun disk => disk.makeFolders directory with
  | .error cause => return .error (.unwritable path cause)
  | .ok () =>
    match ← Site.tryOnDisk fun disk => disk.create path with
    | .error cause => return .error (.unwritable path cause)
    | .ok place =>
      let (bytes, refusal) := accept limit stream
      let written ← Site.onDisk fun disk => disk.write place (poured limit stream)
      match failure? path written refusal with
      | some error =>
        Site.onDisk fun disk => ((), disk.erase place)
        return .error error
      | none => return .ok bytes

/-- **Written piece by piece is written at once.**  It does not show in a file, in what is found out
about it or in the error how a stream is cut into pieces. -/
theorem run_writeFile (directory path : String) (limit : Option Nat) (stream : Stream φ)
    (site : Site) :
    (writeFile directory path limit stream).run site
      = Prod.map (Except.map Progress.of) id
          ((writeWhole directory path limit stream).run site) := by
  rw [writeFile, writeWhole, Run.run_bind, Run.run_bind, Site.run_onDisk]
  cases hfolders : (site.disk.makeFolders directory).1 with
  | error cause => rfl
  | ok done =>
    simp only [Run.run_bind, Site.tryOnDisk, Site.run_onDisk]
    cases hcreate : (site.disk.makeFolders directory).2.create path with
    | error cause => rfl
    | ok created =>
      obtain ⟨place, disk⟩ := created
      obtain ⟨base, trouble, hopen⟩ := Disk.openHandle_of_create hcreate
      have hpour := run_pour_empty path limit base site ⟨place, trouble⟩ stream
      simp only [Run.run_bind, Site.run_onDisk, hopen, Disk.write, Disk.writeTo, Disk.append_put,
        failure?_map, hpour, List.nil_append]
      cases failure? path (Disk.Handle.take ⟨place, trouble⟩ (poured limit stream)).1
        (accept limit stream).2 with
      | some error => rfl
      | none => rfl

end Storage

end Intercept
