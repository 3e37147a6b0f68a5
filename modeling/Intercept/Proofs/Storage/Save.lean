/-
# What is stored is found

A file that is stored is on the disk: its path leads to it, it holds the bytes that were accepted,
and its size and its digest are those of these bytes.  Storing it leaves the files stored before
alone.
-/
import Intercept.Proofs.Storage.Pieces
import Intercept.Proofs.Storage.Unused

namespace Intercept

namespace Storage

variable {φ : Type} {chance : Chance} {request : Request} {stream : Stream φ}
variable {inside : Disk.Place → Prop} {place : Disk.Place} {start site after : Site}

/-! ### Other files -/

lemma confined_writeWhole {directory path : String}
    (hleads : Disk.Leads inside start.disk.here path) (limit : Option Nat) (stream : Stream φ) :
    Run.Confined inside start (writeWhole directory path limit stream) fun _ => True := by
  have hfolders : Run.Confined inside start (Site.onDisk fun disk => disk.makeFolders directory)
      fun _ => True :=
    Run.confined_onDisk fun disk _ => ⟨Disk.works_makeFolders inside directory disk, trivial⟩
  refine hfolders.bind fun made _ => ?_
  cases made with
  | error cause => exact Run.confined_pure trivial
  | ok done =>
    refine (Run.confined_create hleads).bind fun found hfound => ?_
    cases found with
    | error cause => exact Run.confined_pure trivial
    | ok place =>
      have hplace := hfound place rfl
      rcases accept limit stream with ⟨bytes, refusal⟩
      refine (Run.confined_write hplace _).bind fun written _ => ?_
      cases failure? path written refusal with
      | some error =>
        exact (Run.confined_erase hplace).bind fun _ _ => Run.confined_pure trivial
      | none => exact Run.confined_pure trivial

lemma confined_writeFile {directory path : String}
    (hleads : Disk.Leads inside start.disk.here path) (limit : Option Nat) (stream : Stream φ) :
    Run.Confined inside start (writeFile directory path limit stream) fun _ => True := by
  intro site hsite
  rw [run_writeFile]
  exact confined_writeWhole hleads limit stream site hsite

/-- Storing a file touches none but the one with the number that it draws. -/
lemma confined_save (hleads : ∀ m, start.saves < m → Disk.Leads inside start.disk.here
      (Path.join request.directory (labelled request.stem (chance.label m))))
    (hint : Option Nat) (stream : Stream φ) :
    Run.Confined inside start (save chance request hint stream)
      fun saved => ∀ file, saved = .ok file → ∃ m, start.saves < m ∧
        file.path = Path.join request.directory (labelled request.stem (chance.label m)) := by
  have hfailed : ∀ error : StoreError φ, Run.Confined inside start
      (pure (.error error) : Run (Except (StoreError φ) StoredFile))
      fun saved => ∀ file, saved = .ok file → ∃ m, start.saves < m ∧
        file.path = Path.join request.directory (labelled request.stem (chance.label m)) :=
    fun error => Run.confined_pure fun file hfile => nomatch hfile
  rw [save]
  split
  · exact hfailed _
  · refine Run.confined_nextSave.bind fun m hm => ?_
    refine (confined_writeFile (hleads m hm) request.limit stream).bind fun written _ => ?_
    cases written with
    | error error => exact hfailed error
    | ok bytes =>
      refine Run.confined_pure fun file hfile => ?_
      obtain rfl := Except.ok.inj hfile
      exact ⟨m, hm, rfl⟩

/-! ### The file itself -/

/-- A file with some bytes is at the end of a path. -/
structure Found (disk : Disk) (path : String) (place : Disk.Place) (bytes : Bytes) : Prop where
  path : disk.find path = .ok (.file place false)
  file : disk.HasFile place bytes

/-- A file that stays is found. -/
lemma Found.keeps {disk later : Disk} {path : String} {bytes : Bytes}
    (h : Found disk path place bytes) (hkeeps : Disk.Keeps place disk later) :
    Found later path place bytes :=
  ⟨Disk.find_file h.path (.inl rfl) hkeeps.here hkeeps.folders (hkeeps.file bytes h.file),
    hkeeps.file bytes h.file⟩

/-- What writing a file comes to, where `made` is the disk with the folder made: the file is not
made, or it is made and taken away again, or it stays. -/
inductive Wrote (path : String) (limit : Option Nat) (stream : Stream φ) (made : Disk)
    (site : Site) : Except (StoreError φ) Bytes → Site → Prop where
  | refused (cause : SystemError) :
    Wrote path limit stream made site (.error (.unwritable path cause)) { site with disk := made }
  | removed {place : Disk.Place} {disk : Disk} {error : StoreError φ}
      (hcreate : made.create path = .ok (place, disk))
      (hfailure : failure? path (disk.write place (poured limit stream)).1
        (accept limit stream).2 = some error) :
    Wrote path limit stream made site (.error error)
      { site with disk := (disk.write place (poured limit stream)).2.erase place }
  | kept {place : Disk.Place} {disk : Disk} {bytes : Bytes}
      (hcreate : made.create path = .ok (place, disk))
      (haccept : accept limit stream = (bytes, none))
      (hwritten : (disk.write place bytes).1 = .ok ()) :
    Wrote path limit stream made site (.ok bytes) { site with disk := (disk.write place bytes).2 }

lemma writeWhole_wrote (directory path : String) (limit : Option Nat) (stream : Stream φ)
    (site : Site) :
    Wrote path limit stream (site.disk.makeFolders directory).2 site
      ((writeWhole directory path limit stream).run site).1
      ((writeWhole directory path limit stream).run site).2 := by
  rw [writeWhole, Run.run_bind, Site.run_onDisk]
  cases hfolders : (site.disk.makeFolders directory).1 with
  | error cause => exact .refused cause
  | ok done =>
    simp only [Run.run_bind, Site.tryOnDisk, Site.run_onDisk]
    cases hcreate : (site.disk.makeFolders directory).2.create path with
    | error cause => exact .refused cause
    | ok made =>
      obtain ⟨place, disk⟩ := made
      rcases haccept : accept limit stream with ⟨bytes, refusal⟩
      simp only [Run.run_bind, Site.run_onDisk]
      cases hfailure : failure? path (disk.write place (poured limit stream)).1 refusal with
      | some error => exact .removed hcreate (by rw [haccept]; exact hfailure)
      | none =>
        obtain ⟨hwritten, rfl⟩ := failure?_eq_none_iff.1 hfailure
        rw [poured_of_accept haccept] at hwritten ⊢
        exact .kept hcreate haccept hwritten

/-- What is written to a new file is found there. -/
lemma found_write {path : String} {disk made : Disk} {bytes : Bytes}
    (hcreate : made.create path = .ok (place, disk))
    (hwritten : (disk.write place bytes).1 = .ok ()) :
    Found (disk.write place bytes).2 path place bytes := by
  obtain ⟨-, hempty, hfind, -⟩ := Disk.create_cases hcreate
  obtain ⟨written, hfile, hall⟩ := hempty.write bytes
  obtain rfl := hall hwritten
  exact ⟨Disk.find_write hfind hempty _, hfile⟩

/-- What is written to a new file comes behind all other files. -/
lemma files_write_new {path : String} {disk made : Disk}
    (hcreate : made.create path = .ok (place, disk)) (hlacks : Disk.Lacks place made.files)
    (bytes : Bytes) :
    ∃ written, (disk.write place bytes).2.files = made.files ++ [(place, written)] ∧
      ((disk.write place bytes).1 = .ok () → written = bytes) := by
  obtain ⟨rfl, -⟩ := Disk.create_cases hcreate
  exact Disk.files_write (Disk.files_put hlacks []) hlacks bytes

/-- A file that stays holds what was accepted, and is the only one that is added. -/
lemma Wrote.found {path : String} {limit : Option Nat} {made : Disk} {bytes : Bytes}
    (h : Wrote path limit stream made site (.ok bytes) after) :
    accept limit stream = (bytes, none) ∧ ∃ place, Found after.disk path place bytes ∧
      (∃ spot, Disk.Reached made (Path.names path) spot place) ∧
      (Disk.Lacks place made.files → after.disk.files = made.files ++ [(place, bytes)]) := by
  cases h with
  | kept hcreate haccept hwritten =>
    obtain ⟨-, -, -, hreached⟩ := Disk.create_cases hcreate
    refine ⟨haccept, _, found_write hcreate hwritten, hreached, fun hlacks => ?_⟩
    obtain ⟨written, hfiles, hall⟩ := files_write_new hcreate hlacks bytes
    obtain rfl := hall hwritten
    exact hfiles

/-- A file that does not stay leaves nothing behind. -/
lemma Wrote.files {path : String} {limit : Option Nat} {made : Disk} {error : StoreError φ}
    (h : Wrote path limit stream made site (.error error) after)
    (hlacks : ∀ spot place, Disk.Reached made (Path.names path) spot place →
      Disk.Lacks place made.files) : after.disk.files = made.files := by
  cases h with
  | refused cause => rfl
  | @removed place disk error hcreate hfailure =>
    obtain ⟨-, -, -, spot, hreached⟩ := Disk.create_cases hcreate
    have hnew := hlacks _ _ hreached
    obtain ⟨written, hfiles, -⟩ := files_write_new hcreate hnew (poured limit stream)
    have hnone : Disk.Lacks place [] := fun _ h => nomatch h
    exact (Disk.files_erase hfiles hnew hnone).trans (List.append_nil _)

lemma Wrote.counts {path : String} {limit : Option Nat} {made : Disk}
    {result : Except (StoreError φ) Bytes} (h : Wrote path limit stream made site result after) :
    after.saves = site.saves ∧ after.scratches = site.scratches := by
  cases h <;> exact ⟨rfl, rfl⟩

/-- What is known of a file that is stored under a number. -/
def describedAs (chance : Chance) (request : Request) (n : Nat) (bytes : Bytes) : StoredFile :=
  ⟨request.name, Path.join request.directory (labelled request.stem (chance.label n)),
    bytes.length, Sha256.hex bytes, chance.duration n⟩

/-- A file that is stored is written under the next number. -/
lemma run_save {hint : Option Nat} (hhint : isHopeless hint request.limit = false)
    (stream : Stream φ) (site : Site) :
    (save chance request hint stream).run site
      = Prod.map (Except.map (describedAs chance request (site.saves + 1))) id
          ((writeWhole request.directory
            (Path.join request.directory (labelled request.stem (chance.label (site.saves + 1))))
            request.limit stream).run { site with saves := site.saves + 1 }) := by
  rw [save, if_neg (Bool.eq_false_iff.1 hhint), Run.run_bind, Site.run_nextSave]
  simp only [Run.run_bind, run_writeFile]
  show _ = Prod.map _ id ((writeWhole request.directory
    (Path.join request.directory (request.stem ++ "-" ++ chance.label (site.saves + 1)))
    request.limit stream).run { site with saves := site.saves + 1 })
  rcases (writeWhole request.directory
    (Path.join request.directory (request.stem ++ "-" ++ chance.label (site.saves + 1)))
    request.limit stream).run { site with saves := site.saves + 1 } with ⟨written, later⟩
  cases written with
  | error error => rfl
  | ok bytes =>
    have hsize : (Progress.of bytes).size = bytes.length := Nat.zero_add _
    have hdigest : (Progress.of bytes).hasher.hex = Sha256.hex bytes :=
      Sha256.Hasher.hex_update bytes
    simp only [Prod.map_apply, Except.map, hsize, hdigest]
    rfl

/-- Storing a file touches nothing, since the file is known to be too large, or it comes to writing
a file under the next number. -/
lemma save_cases {hint : Option Nat} {result : Except (StoreError φ) StoredFile}
    (hrun : (save chance request hint stream).run site = (result, after)) :
    (result = .error .tooLarge ∧ after = site) ∨
    ∃ written, result = Except.map (describedAs chance request (site.saves + 1)) written ∧
      Wrote (Path.join request.directory (labelled request.stem (chance.label (site.saves + 1))))
        request.limit stream (site.disk.makeFolders request.directory).2
        { site with saves := site.saves + 1 } written after := by
  by_cases hhint : isHopeless hint request.limit = true
  · rw [save, if_pos hhint] at hrun
    obtain ⟨rfl, rfl⟩ := Prod.mk.inj hrun
    exact .inl ⟨rfl, rfl⟩
  · have hwrote := writeWhole_wrote request.directory
      (Path.join request.directory (labelled request.stem (chance.label (site.saves + 1))))
      request.limit stream { site with saves := site.saves + 1 }
    rw [run_save (Bool.eq_false_iff.2 hhint)] at hrun
    rcases hwrite : (writeWhole request.directory
      (Path.join request.directory (labelled request.stem (chance.label (site.saves + 1))))
      request.limit stream).run { site with saves := site.saves + 1 } with ⟨written, later⟩
    rw [hwrite] at hrun hwrote
    obtain ⟨rfl, rfl⟩ := Prod.mk.inj hrun
    exact .inr ⟨written, rfl, hwrote⟩

/-- A file that is stored is the one that is described, and it is the only one that is added. -/
lemma save_ok (hfresh : chance.Fresh) (hstem : '/' ∉ request.stem.toList) {hint : Option Nat}
    {file : StoredFile}
    (hrun : (save chance request hint stream).run site = (.ok file, after)) :
    ∃ bytes place, accept request.limit stream = (bytes, none) ∧
      file = describedAs chance request (site.saves + 1) bytes ∧
      after.saves = site.saves + 1 ∧ Found after.disk file.path place bytes ∧
      StoredAt chance (site.saves + 1) place ∧
      (Disk.Lacks place site.disk.files →
        after.disk.files = site.disk.files ++ [(place, bytes)]) := by
  obtain ⟨hresult, -⟩ | ⟨written, hresult, hwrote⟩ := save_cases hrun
  · cases hresult
  · cases written with
    | error error => cases hresult
    | ok bytes =>
      obtain rfl := Except.ok.inj hresult
      obtain ⟨haccept, place, hfound, ⟨spot, hreached⟩, hfiles⟩ := hwrote.found
      rw [Disk.files_makeFolders] at hfiles
      exact ⟨bytes, place, haccept, rfl, hwrote.counts.1, hfound, ⟨request.stem,
        getLast?_of_reached hstem (hfresh.label _).not_mem_slash hreached⟩, hfiles⟩

/-- A file that is stored was accepted. -/
lemma accept_of_save {hint : Option Nat} {file : StoredFile}
    (hrun : (save chance request hint stream).run site = (.ok file, after)) :
    ∃ bytes, accept request.limit stream = (bytes, none) := by
  obtain ⟨hresult, -⟩ | ⟨written, hresult, hwrote⟩ := save_cases hrun
  · cases hresult
  · cases written with
    | error error => cases hresult
    | ok bytes => exact ⟨bytes, hwrote.found.1⟩

/-- A file that is not stored for want of data has a stream with that fault. -/
lemma fault_of_save {hint : Option Nat} {fault : φ}
    (hrun : (save chance request hint stream).run site = (.error (.unreadable fault), after)) :
    stream.deliver.fault = some fault := by
  obtain ⟨hresult, -⟩ | ⟨written, hresult, hwrote⟩ := save_cases hrun
  · cases hresult
  · cases written with
    | ok bytes => cases hresult
    | error error =>
      obtain rfl := Except.error.inj hresult
      cases hwrote with
      | removed hcreate hfailure =>
        unfold failure? at hfailure
        split at hfailure
        · cases hfailure
        · rw [accept_snd] at hfailure
          split at hfailure
          · cases hfailure
          · obtain ⟨cause, hcause, hsame⟩ := Option.map_eq_some_iff.1 hfailure
            rw [hcause, StoreError.unreadable.inj hsame]

/-- A file that is not stored leaves nothing behind. -/
lemma files_of_save_error (hfresh : chance.Fresh) (hunused : site.Unused chance)
    (hstem : '/' ∉ request.stem.toList) {hint : Option Nat} {error : StoreError φ}
    (hrun : (save chance request hint stream).run site = (.error error, after)) :
    after.disk.files = site.disk.files := by
  obtain ⟨-, rfl⟩ | ⟨written, hresult, hwrote⟩ := save_cases hrun
  · rfl
  · cases written with
    | ok bytes => cases hresult
    | error failure =>
      have hfiles := hwrote.files fun spot place hreached => by
        rw [Disk.files_makeFolders]
        exact hunused.lacks (.stored request.stem (Nat.lt_succ_self _))
          (getLast?_of_reached hstem (hfresh.label _).not_mem_slash hreached)
      rwa [Disk.files_makeFolders] at hfiles

/-- Storing a file begins one file at most, and no temporary one. -/
lemma counts_save {hint : Option Nat} {result : Except (StoreError φ) StoredFile}
    (hrun : (save chance request hint stream).run site = (result, after)) :
    site.saves ≤ after.saves ∧ after.scratches = site.scratches := by
  obtain ⟨-, rfl⟩ | ⟨written, -, hwrote⟩ := save_cases hrun
  · exact ⟨Nat.le_refl _, rfl⟩
  · obtain ⟨hsaves, hscratches⟩ := hwrote.counts
    exact ⟨hsaves ▸ Nat.le_succ _, hscratches⟩

end Storage

end Intercept
