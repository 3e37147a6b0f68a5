/-
# What comes of storing a stream

Where a file can be made and written, `verdict` tells from what a stream delivers what comes of
storing it: the file, or the error that there is to be.  The announced size matters only if it is
above the limit, and then nothing is touched (`save_outcome`).

No more is ever written than the limit allows: a file that takes no more than that will do
(`run_save_facing`), and holds no more at any time (`pour_bounded`).  A file that does not remain is
gone from its path.

A stream with a fault is not stored, and `Unstored` says what error there is: the one of the verdict,
unless the folder or the file cannot be made, or what was poured by then cannot be written.
-/
import Intercept.Proofs.Storage.Save

namespace Intercept

/-- A part of a stream delivers the beginning of what the stream delivers. -/
lemma Stream.deliver_prefix {φ : Type} (front rest : Stream φ) :
    front.deliver.bytes <+: (front ++ rest).deliver.bytes := by
  induction front with
  | nil => exact List.nil_prefix
  | cons item front ih =>
    cases item with
    | pause => exact ih
    | fault cause => exact List.prefix_rfl
    | piece bytes =>
      rw [List.cons_append, deliver_piece, deliver_piece]
      exact (List.prefix_append_right_inj bytes).2 ih

/-- What a file held does not show when it is taken away. -/
lemma Disk.erase_put (disk : Disk) (place : Place) (old other : Bytes) :
    (disk.put place old).erase place = (disk.put place other).erase place := by
  have hfilter : ∀ (bytes : Bytes) (files : List (Place × Bytes)),
      (putFile place bytes files).filter (fun file => file.1 != place)
        = files.filter fun file => file.1 != place := by
    intro bytes files
    induction files with
    | nil => simp [putFile]
    | cons file rest ih =>
      rw [putFile]
      split
      · next hsame => simp [hsame]
      · rw [List.filter_cons, List.filter_cons, ih]
  simp only [erase, put, hfilter]

namespace Storage

variable {φ : Type} {chance : Chance} {request : Request} {place : Disk.Place}
  {disk created : Disk} {directory path : String} {limit : Option Nat} {site : Site}

/-- A folder can be made and a file in it, at a place, and what is not above the limit can be
written to the file; `created` is the disk with the empty file. -/
structure Writable (disk : Disk) (directory path : String) (limit : Option Nat)
    (place : Disk.Place) (created : Disk) : Prop where
  folder : (disk.makeFolders directory).1 = .ok ()
  file : (disk.makeFolders directory).2.create path = .ok (place, created)
  writes : ∀ bytes, exceeds limit bytes.length = false → (created.write place bytes).1 = .ok ()

/-- What comes of storing a stream that delivers some bytes, and then perhaps a fault. -/
def verdict (limit : Option Nat) (delivered : Delivered φ) : Except (StoreError φ) Bytes :=
  if exceeds limit delivered.bytes.length then .error .tooLarge
  else
    match delivered.fault with
    | some fault => .error (.unreadable fault)
    | none => .ok delivered.bytes

lemma verdict_of_accept_none {stream : Stream φ} {bytes : Bytes}
    (h : accept limit stream = (bytes, none)) : verdict limit stream.deliver = .ok bytes := by
  obtain ⟨hdeliver, hfits⟩ := accept_eq_iff.1 h
  rw [hdeliver, verdict, if_neg (Bool.eq_false_iff.1 hfits)]

lemma verdict_of_accept_some {stream : Stream φ} {bytes : Bytes} {error : StoreError φ}
    (h : accept limit stream = (bytes, some error)) :
    verdict limit stream.deliver = .error error := by
  have hsnd := accept_snd limit stream
  rw [h] at hsnd
  rw [verdict]
  split
  · next hlarge =>
    rw [if_pos hlarge] at hsnd
    rw [Option.some.inj hsnd]
  · next hfits =>
    rw [if_neg hfits] at hsnd
    cases hfault : stream.deliver.fault with
    | none =>
      rw [hfault] at hsnd
      cases hsnd
    | some fault =>
      rw [hfault] at hsnd
      rw [Option.some.inj hsnd]

lemma fits_of_verdict {delivered : Delivered φ} {bytes : Bytes}
    (h : verdict limit delivered = .ok bytes) : exceeds limit bytes.length = false := by
  rw [verdict] at h
  split at h
  · cases h
  · next hfits =>
    split at h
    · cases h
    · obtain rfl := Except.ok.inj h
      exact Bool.eq_false_iff.2 hfits

lemma le_of_exceeds_eq_false {size max : Nat} (h : exceeds limit size = false)
    (hmax : max ∈ limit) : size ≤ max := by
  obtain rfl := Option.mem_def.1 hmax
  exact Nat.le_of_not_lt (of_decide_eq_false h)

namespace Writable

/-- It is enough that the file takes as many bytes as the limit allows. -/
lemma facing (h : Writable disk directory path limit place created) {max : Nat}
    (hmax : max ∈ limit) (cause : SystemError) (later : List (Nat × SystemError)) :
    Writable (disk.facing ((max, cause) :: later)) directory path limit place
      (created.facing ((max, cause) :: later)) := by
  refine ⟨?_, ?_, fun bytes hfits => ?_⟩
  · rw [Disk.makeFolders_facing]
    exact h.folder
  · rw [Disk.makeFolders_facing]
    exact Disk.create_facing h.file
  · rw [Disk.write_facing created place (le_of_exceeds_eq_false hfits hmax)]

/-- The disk when a stream was stored: with the file, or without it again. -/
def settled (place : Disk.Place) (created : Disk) : Except (StoreError φ) Bytes → Disk
  | .ok bytes => (created.write place bytes).2
  | .error _ => (created.write place []).2.erase place

/-- The file is taken away as if nothing had been written to it. -/
lemma erase_write (h : Writable disk directory path limit place created) (bytes : Bytes) :
    (created.write place bytes).2.erase place = (created.write place []).2.erase place := by
  obtain ⟨base, trouble, hopen⟩ := Disk.openHandle_of_create h.file
  simp only [Disk.write, hopen, Disk.writeTo, Disk.append_put]
  exact Disk.erase_put _ _ _ _

lemma run_writeWhole (h : Writable site.disk directory path limit place created)
    (stream : Stream φ) :
    (writeWhole directory path limit stream).run site
      = (verdict limit stream.deliver,
        { site with disk := settled place created (verdict limit stream.deliver) }) := by
  rcases haccept : accept limit stream with ⟨bytes, refusal⟩
  rw [writeWhole, Run.run_bind, Site.run_onDisk, h.folder]
  simp only [Run.run_bind, Site.tryOnDisk, Site.run_onDisk, h.file, haccept,
    h.writes _ (poured_begins limit stream).2, failure?]
  cases refusal with
  | none =>
    rw [verdict_of_accept_none haccept, poured_of_accept haccept]
    rfl
  | some error =>
    rw [verdict_of_accept_some haccept]
    simp only [Run.run_bind, Site.run_onDisk, h.erase_write]
    rfl

lemma read_settled (h : Writable disk directory path limit place created) {bytes : Bytes}
    (hfits : exceeds limit bytes.length = false) :
    (settled place created (.ok bytes : Except (StoreError φ) Bytes)).read path = .ok bytes := by
  obtain ⟨hfind, hfile⟩ := found_write h.file (h.writes bytes hfits)
  exact (Disk.Keeps.refl place _).read hfind hfile

lemma find_settled (h : Writable disk directory path limit place created) (error : StoreError φ) :
    (settled place created (.error error : Except (StoreError φ) Bytes)).find path
      = .ok (.free place false) :=
  Disk.find_erase (found_write h.file (h.writes [] (exceeds_zero limit))).path

/-- While a stream is written, the file holds the beginning of what the stream delivers, and never
more than the limit. -/
lemma pour_bounded (h : Writable disk directory path limit place created) (site : Site)
    (front rest : Stream φ) :
    ∃ written, ((pour path limit ⟨(created.openHandle place).1, []⟩ {} front).run
        { site with disk := (created.openHandle place).2 }).2.disk.contents? place = some written ∧
      written <+: (front ++ rest).deliver.bytes ∧ exceeds limit written.length = false := by
  obtain ⟨base, trouble, hopen⟩ := Disk.openHandle_of_create h.file
  obtain ⟨hbegin, hfits⟩ := poured_begins limit front
  have htake : (Disk.Handle.take ⟨place, trouble⟩ (poured limit front)).2 = poured limit front := by
    rcases Disk.Handle.take_cases ⟨place, trouble⟩ (poured limit front) with
      ⟨next, htake, -⟩ | ⟨cause, taken, htake⟩
    · rw [htake]
    · have hwrites := h.writes _ hfits
      simp only [Disk.write, hopen, Disk.writeTo, htake] at hwrites
      cases hwrites
  refine ⟨poured limit front, ?_, hbegin.trans (Stream.deliver_prefix front rest), hfits⟩
  have hpour := run_pour_empty path limit base site ⟨place, trouble⟩ front
  rw [hopen, hpour, htake, Disk.contents?_put, if_pos rfl]

end Writable

lemma isHopeless_iff {hint : Option Nat} :
    isHopeless hint limit = true ↔
      ∃ size max, hint = some size ∧ limit = some max ∧ max < size := by
  cases hint with
  | none => simp [isHopeless]
  | some size =>
    cases limit with
    | none => simp [isHopeless]
    | some max => simp [isHopeless]

/-- A file that is not known to be too large is stored, or not, as the verdict says. -/
lemma run_save_of_writable {hint : Option Nat}
    (hpath : path = Path.join request.directory
      (labelled request.stem (chance.label (site.saves + 1))))
    (hwritable : Writable site.disk request.directory path request.limit place created)
    (hhint : isHopeless hint request.limit = false) (stream : Stream φ) :
    (save chance request hint stream).run site
      = ((verdict request.limit stream.deliver).map (describedAs chance request (site.saves + 1)),
        { site with
          saves := site.saves + 1
          disk := Writable.settled place created (verdict request.limit stream.deliver) }) := by
  subst hpath
  have hnext : Writable ({ site with saves := site.saves + 1 } : Site).disk request.directory
      (Path.join request.directory (labelled request.stem (chance.label (site.saves + 1))))
      request.limit place created := hwritable
  rw [run_save hhint, hnext.run_writeWhole]
  rfl

lemma save_of_hopeless {hint : Option Nat} (hhint : isHopeless hint request.limit = true)
    (stream : Stream φ) (site : Site) :
    (save chance request hint stream).run site = (.error .tooLarge, site) := by
  rw [save, if_pos hhint]
  rfl

/-- It comes to the same where the file takes no more bytes than the limit allows: no more are ever
written. -/
lemma run_save_facing
    (hpath : path = Path.join request.directory
      (labelled request.stem (chance.label (site.saves + 1))))
    (hwritable : Writable site.disk request.directory path request.limit place created) {max : Nat}
    (hmax : max ∈ request.limit) (hint : Option Nat) (stream : Stream φ) {faced : Site}
    {cause : SystemError} {later : List (Nat × SystemError)} (hsaves : faced.saves = site.saves)
    (hdisk : faced.disk = site.disk.facing ((max, cause) :: later)) :
    ((save chance request hint stream).run faced).1
      = ((save chance request hint stream).run site).1 := by
  cases hhint : isHopeless hint request.limit with
  | true => rw [save_of_hopeless hhint, save_of_hopeless hhint]
  | false =>
    have hfacing := hwritable.facing hmax cause later
    rw [← hdisk] at hfacing
    rw [run_save_of_writable hpath hwritable hhint stream]
    rw [← hsaves] at hpath ⊢
    rw [run_save_of_writable hpath hfacing hhint stream]

/-- **What comes of storing a stream**, where the file can be made and written.  If an announced
size is above the limit, the file is refused and nothing is touched.  Otherwise neither the
announced size nor the pieces of the stream matter: what comes of it is the verdict on the bytes
before the first fault and on that fault.  A file that remains is read at its path, and is described
with its size and digest; after any failure there is none.  No more bytes are ever written than the
limit allows: it comes to the same on a disk where the file takes no more, and at no time does the
file hold more. -/
theorem save_outcome
    (hpath : path = Path.join request.directory
      (labelled request.stem (chance.label (site.saves + 1))))
    (hwritable : Writable site.disk request.directory path request.limit place created)
    (hint : Option Nat)
    (stream : Stream φ) :
    ((∃ size max, hint = some size ∧ request.limit = some max ∧ max < size) →
      (save chance request hint stream).run site = (.error .tooLarge, site)) ∧
    ((¬ ∃ size max, hint = some size ∧ request.limit = some max ∧ max < size) →
      ∃ after, (save chance request hint stream).run site
          = ((verdict request.limit stream.deliver).map
              (describedAs chance request (site.saves + 1)), after) ∧
        (∀ bytes, verdict request.limit stream.deliver = .ok bytes →
          after.disk.read path = .ok bytes) ∧
        (∀ error, verdict request.limit stream.deliver = .error error →
          after.disk.find path = .ok (.free place false)) ∧
        ∀ other : Stream φ, other.deliver = stream.deliver →
          (save chance request none other).run site
            = (save chance request hint stream).run site) ∧
    (∀ max ∈ request.limit, ∀ cause later,
      ((save chance request hint stream).run
          { site with disk := site.disk.facing ((max, cause) :: later) }).1
        = ((save chance request hint stream).run site).1) ∧
    ∀ front rest : Stream φ, stream = front ++ rest → ∃ written,
      ((pour path request.limit ⟨(created.openHandle place).1, []⟩ {} front).run
        { site with
          saves := site.saves + 1
          disk := (created.openHandle place).2 }).2.disk.contents? place = some written ∧
        written <+: stream.deliver.bytes ∧ ∀ max ∈ request.limit, written.length ≤ max := by
  refine ⟨fun hhopeless => save_of_hopeless (isHopeless_iff.2 hhopeless) stream site,
    fun hhint => ?_, fun max hmax cause later =>
      run_save_facing hpath hwritable hmax hint stream rfl rfl, fun front rest hstream => ?_⟩
  · have hnot : isHopeless hint request.limit = false :=
      Bool.eq_false_iff.2 fun hhopeless => hhint (isHopeless_iff.1 hhopeless)
    have hnone : isHopeless none request.limit = false := rfl
    refine ⟨_, run_save_of_writable hpath hwritable hnot stream, fun bytes hverdict => ?_,
      fun error hverdict => ?_, fun other hother => ?_⟩
    · simp only [hverdict]
      exact hwritable.read_settled (fits_of_verdict hverdict)
    · simp only [hverdict]
      exact hwritable.find_settled error
    · rw [run_save_of_writable hpath hwritable hnone other,
        run_save_of_writable hpath hwritable hnot stream, hother]
  · obtain ⟨written, hcontents, hbegin, hfits⟩ :=
      hwritable.pour_bounded { site with saves := site.saves + 1 } front rest
    rw [← hstream] at hbegin
    exact ⟨written, hcontents, hbegin, fun max hmax => le_of_exceeds_eq_false hfits hmax⟩

/-- Chance that numbers everything. -/
def numbered : Chance := ⟨toString, toString, fun _ => default, [], "id"⟩

/-- A file of four bytes at most. -/
def fourBytes : Request := ⟨"a.txt", "up", "form", some 4⟩

theorem save_outcome_exact :
    let site : Site := { gate := ⟨1, 0, 0⟩ }
    (save numbered fourBytes (some 5) ([.piece [1]] : Stream String)).run site
        = (.error .tooLarge, site) ∧
      (∃ after, (save numbered fourBytes (some 4)
            ([.piece [1, 2], .pause, .piece [], .piece [3, 4]] : Stream String)).run site
          = (.ok ⟨"a.txt", "up/form-1", 4, Sha256.hex [1, 2, 3, 4], default⟩, after) ∧
        after.disk.read "up/form-1" = .ok [1, 2, 3, 4]) ∧
      (∃ after, (save numbered fourBytes none
            ([.piece [1, 2], .fault "torn", .piece [3, 4, 5]] : Stream String)).run site
          = (.error (.unreadable "torn"), after) ∧
        after.disk.find "up/form-1" = .ok (.free ["up", "form-1"] false)) ∧
      ∃ after, (save numbered fourBytes none
            ([.piece [1, 2, 3, 4], .piece [5], .fault "torn"] : Stream String)).run site
          = (.error .tooLarge, after) ∧
        after.disk.find "up/form-1" = .ok (.free ["up", "form-1"] false) := by
  intro site
  have hpath : "up/form-1" = Path.join fourBytes.directory
      (labelled fourBytes.stem (numbered.label (site.saves + 1))) := by decide +kernel
  have hwritable : Writable site.disk fourBytes.directory "up/form-1" fourBytes.limit
      ["up", "form-1"]
      { folders := [[], ["up"]], files := [(["up", "form-1"], [])],
        touched := [["up", "form-1"]] } :=
    ⟨by decide +kernel, by decide +kernel, fun _ _ => rfl⟩
  obtain ⟨hhopeless, -⟩ :=
    save_outcome hpath hwritable (some 5) ([.piece [1]] : Stream String)
  obtain ⟨-, hexact, -⟩ := save_outcome hpath hwritable (some 4)
    ([.piece [1, 2], .pause, .piece [], .piece [3, 4]] : Stream String)
  obtain ⟨-, htorn, -⟩ := save_outcome hpath hwritable none
    ([.piece [1, 2], .fault "torn", .piece [3, 4, 5]] : Stream String)
  obtain ⟨-, hlarge, -⟩ := save_outcome hpath hwritable none
    ([.piece [1, 2, 3, 4], .piece [5], .fault "torn"] : Stream String)
  refine ⟨hhopeless ⟨5, 4, rfl, rfl, by decide⟩, ?_, ?_, ?_⟩
  · obtain ⟨after, hrun, hread, -⟩ := hexact (by
      rintro ⟨size, max, ⟨⟩, ⟨⟩, hlarge⟩
      exact absurd hlarge (by decide))
    have hverdict : verdict fourBytes.limit (Stream.deliver
        ([.piece [1, 2], .pause, .piece [], .piece [3, 4]] : Stream String))
          = .ok [1, 2, 3, 4] := rfl
    rw [hverdict, Except.map, describedAs, ← hpath] at hrun
    exact ⟨after, hrun, hread _ hverdict⟩
  · obtain ⟨after, hrun, -, hfree, -⟩ := htorn (by rintro ⟨size, max, ⟨⟩, -⟩)
    exact ⟨after, hrun, hfree _ rfl⟩
  · obtain ⟨after, hrun, -, hfree, -⟩ := hlarge (by rintro ⟨size, max, ⟨⟩, -⟩)
    exact ⟨after, hrun, hfree _ rfl⟩

/-! ### Streams with a fault -/

/-- Bytes cannot be stored at a path: the folder cannot be made, or the file cannot be made in it, or
the bytes cannot be written to the file. -/
def Unwritable (disk : Disk) (directory path : String) (bytes : Bytes) : Prop :=
  ∀ place created, (disk.makeFolders directory).1 = .ok () →
    (disk.makeFolders directory).2.create path = .ok (place, created) →
      (created.write place bytes).1 ≠ .ok ()

/-- Nothing can be stored under a name that is too long. -/
lemma unwritable_of_overlong {stem label : String} (hstem : '/' ∉ stem.toList)
    (hlabel : '/' ∉ label.toList) (hlong : Disk.maxName < (labelled stem label).utf8ByteSize)
    (disk : Disk) (directory : String) (bytes : Bytes) :
    Unwritable disk directory (Path.join directory (labelled stem label)) bytes := by
  intro place created _ hcreate
  obtain ⟨-, spot, hfind, -⟩ := Disk.find_of_create hcreate
  exact absurd (Disk.size_le_of_find (not_mem_slash_labelled hstem hlabel)
    (isHere_labelled stem label) (labelled_ne_up stem label) hfind) (Nat.not_le.2 hlong)

lemma writeWhole_of_unwritable {stream : Stream φ}
    (h : Unwritable site.disk directory path (poured limit stream)) :
    ∃ cause, ((writeWhole directory path limit stream).run site).1
      = .error (.unwritable path cause) := by
  rw [writeWhole, Run.run_bind, Site.run_onDisk]
  cases hfolder : (site.disk.makeFolders directory).1 with
  | error cause => exact ⟨cause, rfl⟩
  | ok done =>
    simp only [Run.run_bind, Site.tryOnDisk, Site.run_onDisk]
    cases hcreate : (site.disk.makeFolders directory).2.create path with
    | error cause => exact ⟨cause, rfl⟩
    | ok made =>
      obtain ⟨place, created⟩ := made
      simp only [Run.run_bind, Site.run_onDisk]
      cases hwritten : (created.write place (poured limit stream)).1 with
      | error cause => exact ⟨cause, rfl⟩
      | ok done => exact absurd hwritten (h place created hfolder hcreate)

lemma writeWhole_of_writable {stream : Stream φ}
    (h : ¬ Unwritable site.disk directory path (poured limit stream)) :
    ((writeWhole directory path limit stream).run site).1 = verdict limit stream.deliver := by
  rw [Unwritable] at h
  push Not at h
  obtain ⟨place, created, hfolder, hcreate, hwritten⟩ := h
  rcases haccept : accept limit stream with ⟨bytes, refusal⟩
  rw [writeWhole, Run.run_bind, Site.run_onDisk, hfolder]
  simp only [Run.run_bind, Site.tryOnDisk, Site.run_onDisk, hcreate, haccept, hwritten, failure?]
  cases refusal with
  | none =>
    rw [verdict_of_accept_none haccept]
    rfl
  | some error =>
    rw [verdict_of_accept_some haccept]
    rfl

/-- What comes of storing a stream with a fault behind what it delivers.  If what is poured by then
cannot be stored, there is an error that says so, and else the one of the verdict. -/
def Unstored (disk : Disk) (directory path : String) (limit : Option Nat) (stream : Stream φ)
    (fault : φ) (error : StoreError φ) : Prop :=
  (Unwritable disk directory path (poured limit stream) ∧
      ∃ cause, error = .unwritable path cause) ∨
    (¬ Unwritable disk directory path (poured limit stream) ∧
      error = if exceeds limit stream.deliver.bytes.length then .tooLarge else .unreadable fault)

/-- A stream with a fault is not stored. -/
lemma save_of_fault {stream : Stream φ} {fault : φ} (hfault : stream.deliver.fault = some fault)
    {after : Site} {result : Except (StoreError φ) StoredFile}
    (hrun : (save chance request none stream).run site = (result, after)) :
    ∃ error, result = .error error ∧
      Unstored site.disk request.directory (Path.join request.directory
        (labelled request.stem (chance.label (site.saves + 1)))) request.limit stream fault
        error := by
  rw [run_save rfl] at hrun
  obtain rfl := congrArg Prod.fst hrun
  by_cases h : Unwritable site.disk request.directory (Path.join request.directory
    (labelled request.stem (chance.label (site.saves + 1)))) (poured request.limit stream)
  · obtain ⟨cause, hwritten⟩ :=
      @writeWhole_of_unwritable _ _ _ _ { site with saves := site.saves + 1 } _ h
    exact ⟨_, by rw [Prod.map_fst, hwritten]; rfl, .inl ⟨h, cause, rfl⟩⟩
  · have hwritten := @writeWhole_of_writable _ _ _ _ { site with saves := site.saves + 1 } _ h
    have hverdict : verdict request.limit stream.deliver = .error
        (if exceeds request.limit stream.deliver.bytes.length then .tooLarge
          else .unreadable fault) := by
      rw [verdict, hfault]
      split
      · rfl
      · rfl
    exact ⟨_, by rw [Prod.map_fst, hwritten, hverdict]; rfl, .inr ⟨h, rfl⟩⟩

end Storage

end Intercept
