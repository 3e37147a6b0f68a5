/-
# Which artifacts are taken out

The size that an archive declares for an entry and the size of what the entry is unpacked to may
differ.  An artifact is taken out if neither is above the limit and the checksum is right; if either
is above it, the artifact is too large, whatever the archive says (`extract_outcome`).  No more is
unpacked than one byte above the limit: a file that can take no more makes no difference.  In no
case one of the temporary files remains.
-/
import Intercept.Proofs.Upload.Contents

namespace Intercept

namespace Extraction

variable {chance : Chance} {site after : Site} {artifact : String} {limit : Option Nat}
  {entry : Archive.Entry} {packing : Archive.Packing} {data packed content : Bytes}

/-! ### The bound -/

lemma bound_le_maxFileSize (limit : Option Nat) : bound limit ≤ maxFileSize := by
  cases limit with
  | none => exact Nat.le_refl _
  | some max => exact Nat.min_le_right _ _

lemma bound_le_succ {max : Nat} (hmax : max ∈ limit) : bound limit ≤ max + 1 := by
  obtain rfl := Option.mem_def.1 hmax
  exact Nat.min_le_left _ _

/-- The content is smaller than a file may be at all, or the limit is. -/
def Measurable (limit : Option Nat) (content : Bytes) : Prop :=
  content.length < maxFileSize ∨ ∃ max ∈ limit, max < maxFileSize

/-- Content that fits stays below the bound. -/
lemma length_lt_bound (hmeasurable : Measurable limit content)
    (hfits : ∀ max ∈ limit, content.length ≤ max) : content.length < bound limit := by
  cases limit with
  | none =>
    obtain hless | ⟨max, hmax, -⟩ := hmeasurable
    · exact hless
    · cases hmax
  | some max =>
    have hle := hfits max rfl
    obtain hless | ⟨other, hother, hless⟩ := hmeasurable
    · exact Nat.lt_min.2 ⟨Nat.lt_succ_of_le hle, hless⟩
    · obtain rfl := Option.some.inj hother
      exact Nat.lt_min.2 ⟨Nat.lt_succ_of_le hle, Nat.lt_of_le_of_lt hle hless⟩

/-! ### Unpacking -/

/-- The data is an archive whose entry with the name has the packed bytes, and these are unpacked to
the content. -/
structure Holds (data : Bytes) (artifact : String) (entry : Archive.Entry)
    (packing : Archive.Packing) (packed content : Bytes) : Prop where
  archive : ∃ archive, Archive.open? data = some archive ∧ archive.find? artifact = some entry ∧
    archive.packed? entry = some (packing, packed)
  unpacks : Archive.Unpacks packing packed content

/-- The declared size is looked at before anything is unpacked. -/
lemma locate_of_holds (h : Holds data artifact entry packing packed content)
    (limit : Option Nat) :
    (∃ max ∈ limit, max < entry.size ∧
      locate data artifact limit = .error (.tooLarge max)) ∨
    (∀ max ∈ limit, entry.size ≤ max) ∧
      locate data artifact limit = .ok (entry, packing, packed) := by
  obtain ⟨archive, hopen, hfind, hpacked⟩ := h.archive
  cases limit with
  | none =>
    refine .inr ⟨(fun max hmax => nomatch hmax), ?_⟩
    simp only [locate, hopen, hfind, hpacked]
  | some max =>
    simp only [locate, hopen, hfind, hpacked]
    by_cases hsize : max < entry.size
    · exact .inl ⟨max, rfl, hsize, if_pos hsize⟩
    · refine .inr ⟨fun other hother => ?_, if_neg hsize⟩
      obtain rfl := Option.some.inj hother
      exact Nat.not_lt.1 hsize

/-- Content that fits is the artifact if the checksum is right, and none otherwise. -/
lemma judge_of_fits (h : Archive.Unpacks packing packed content)
    (hmeasurable : Measurable limit content) (hfits : ∀ max ∈ limit, content.length ≤ max) :
    judge limit (Archive.unpack entry (bound limit) packing packed)
      = if (Crc32.checksum content).toNat = entry.checksum then .ok content
        else .error .notUnpacked := by
  rw [Archive.unpack_of_lt h (length_lt_bound hmeasurable hfits)]
  split
  · cases limit with
    | none => rfl
    | some max => exact if_neg (Nat.not_lt.2 (hfits max rfl))
  · rfl

/-- Content that does not fit is too large, whatever its checksum is. -/
lemma judge_of_not_fits (h : Archive.Unpacks packing packed content)
    (hmeasurable : Measurable limit content) {max : Nat} (hmax : max ∈ limit)
    (hlarge : max < content.length) :
    judge limit (Archive.unpack entry (bound limit) packing packed) = .error (.tooLarge max) := by
  obtain rfl := Option.mem_def.1 hmax
  have hsmall : max < maxFileSize := by
    obtain hless | ⟨other, hother, hless⟩ := hmeasurable
    · exact Nat.lt_trans hlarge hless
    · obtain rfl := Option.some.inj hother
      exact hless
  have hbound : bound (some max) = max + 1 := Nat.min_eq_left hsmall
  obtain ⟨bytes, hunpack, hlength⟩ :=
    Archive.unpack_of_le h (hbound ▸ hlarge : bound (some max) ≤ content.length)
  rw [hunpack, judge, if_pos (by omega)]

/-! ### Temporary files -/

/-- The temporary files of an extraction can be made and written: their folder can be made, their
paths then lead to free places, and the files take so many bytes. -/
structure Ready (disk : Disk) (archivePath artifactPath : String) (archiveSize artifactSize : Nat) :
    Prop where
  folder : (disk.makeParent archivePath).1 = .ok ()
  archive : ∃ place, (disk.makeParent archivePath).2.find archivePath = .ok (.free place false)
  artifact : ∃ place, (disk.makeParent archivePath).2.find artifactPath = .ok (.free place false)
  room : Disk.HasRoom [archiveSize, artifactSize] disk.troubles

variable {requestId directory : String} {m n size : Nat} {input : Stream UploadFault}

/-- It is enough that the files take just so many bytes. -/
lemma Ready.facing {disk : Disk} {archivePath artifactPath : String}
    (h : Ready disk archivePath artifactPath m n) (cause cause' : SystemError)
    (later : List (Nat × SystemError)) :
    Ready (disk.facing ((m, cause) :: (n, cause') :: later)) archivePath artifactPath m n := by
  obtain ⟨place, harchive⟩ := h.archive
  obtain ⟨other, hartifact⟩ := h.artifact
  have hmade : (disk.facing ((m, cause) :: (n, cause') :: later)).makeParent archivePath
      = (disk.makeParent archivePath).map id (Disk.facing · _) :=
    Disk.makeParent_facing disk archivePath
  refine ⟨?_, ⟨place, ?_⟩, ⟨other, ?_⟩, Nat.le_refl _, Nat.le_refl _, trivial⟩
  · rw [hmade]
    exact h.folder
  · rw [hmade]
    exact (Disk.find_facing _ _).trans harchive
  · rw [hmade]
    exact (Disk.find_facing _ _).trans hartifact

/-- An archive that is spooled leaves room for the artifact. -/
lemma spool_of_ready (hfresh : chance.Fresh)
    (h : Ready site.disk (Path.join directory (archiveName chance m))
      (Path.join directory (artifactName chance n)) data.length size)
    (hinput : input.deliver = ⟨data, none⟩) :
    ∃ later, (spool (Path.join directory (archiveName chance m)) input).run site
        = (.ok data, later) ∧
      later.scratches = site.scratches ∧ Disk.HasRoom [size] later.disk.troubles ∧
      ∃ place, later.disk.find (Path.join directory (artifactName chance n))
        = .ok (.free place false) := by
  obtain ⟨place, harchive⟩ := h.archive
  obtain ⟨other, hartifact⟩ := h.artifact
  have hreached : Disk.Reached _ _ (.free other false) other :=
    Disk.reached_of_find hartifact rfl
  -- the two files are called differently, so they are not at one place
  have hapart : other ≠ place := by
    rintro rfl
    have hsame : Disk.Reached _ _ (.free other false) other := Disk.reached_of_find harchive rfl
    have hname := getLast?_of_reached_archive hfresh hsame
    rw [getLast?_of_reached_artifact hfresh hreached] at hname
    exact hfresh.archiveName_ne m n (Option.some.inj hname).symm
  generalize hmade : (site.disk.makeParent (Path.join directory (archiveName chance m))).2 = made
    at harchive hartifact hreached
  have hroom : Disk.HasRoom [data.length, size] made.troubles := by
    rw [← hmade, Disk.troubles_makeParent]
    exact h.room
  have hpoured : Storage.poured none input = data := by
    rw [Storage.poured_of_read (by rw [hinput]), hinput]
  obtain ⟨troubles, hleft, hwrite⟩ :=
    @Disk.write_of_hasRoom (made.put place []) _ _ data hroom (Nat.le_refl _) place
  refine ⟨{ site with disk := ((made.put place []).facing troubles).append place data }, ?_, rfl,
    hleft, other, ?_⟩
  · rw [run_spool, spoolWhole, Run.run_bind, Site.run_onDisk, h.folder, hmade]
    simp only [Run.run_bind, Site.tryOnDisk, Site.run_onDisk, Disk.create_of_free harchive, hpoured,
      hinput, hwrite]
    rfl
  · refine Disk.find_free hartifact (.inr rfl) rfl (fun _ => rfl) ?_
    rw [Disk.append, Disk.contents?_put, if_neg hapart]
    exact (Disk.contents?_put made place [] other).trans
      ((if_neg hapart).trans (hreached.empty false rfl))

/-- What is found in an archive when nothing is in the way: what is judged of the located entry. -/
def found (limit : Option Nat) (artifact : String) (data : Bytes) : Except ExtractError Bytes :=
  (locate data artifact limit).bind fun located =>
    judge limit (Archive.unpack located.1 (bound limit) located.2.1 located.2.2)

/-- Where its file can be made and written, an artifact is what is found in the archive. -/
lemma run_unpackAt {path : String} {place : Disk.Place}
    (hfree : site.disk.find path = .ok (.free place false))
    (hroom : Disk.HasRoom [bound limit] site.disk.troubles) :
    ((unpackAt path artifact limit data).run site).1 = found limit artifact data := by
  rw [unpackAt, found]
  cases locate data artifact limit with
  | error error => rfl
  | ok located =>
    obtain ⟨entry, packing, packed⟩ := located
    obtain ⟨troubles, -, hwrite⟩ := @Disk.write_of_hasRoom (site.disk.put place []) _ _ _ hroom
      (Archive.unpack_length_le entry (bound limit) packing packed) place
    simp only [Run.run_bind, Site.tryOnDisk, Site.run_onDisk, Disk.create_of_free hfree, hwrite]
    rfl

/-- An extraction whose temporary files can be made and written gives what is found in the
archive. -/
lemma result_of_extract (hfresh : chance.Fresh)
    (hready : Ready site.disk (Path.join directory (archiveName chance (site.scratches + 1)))
      (Path.join directory (artifactName chance (site.scratches + 2))) data.length (bound limit))
    (hinput : input.deliver = ⟨data, none⟩) :
    ((extract chance requestId directory artifact limit input).run site).1
      = found limit artifact data := by
  rcases hrun : (extract chance requestId directory artifact limit input).run site
    with ⟨result, after⟩
  obtain ⟨path, spooled, later, rfl, hspool, hrest⟩ := extract_cases hrun
  have hbegun : Ready ({ site with scratches := site.scratches + 1 } : Site).disk
      (Path.join directory (archiveName chance (site.scratches + 1)))
      (Path.join directory (artifactName chance (site.scratches + 2))) data.length (bound limit) :=
    hready
  obtain ⟨done, hdone, hscratches, hroom, place, hfree⟩ :=
    spool_of_ready hfresh hbegun hinput
  rw [hdone] at hspool
  obtain ⟨rfl, rfl⟩ := Prod.mk.inj hspool
  obtain ⟨error, herror, -⟩ | ⟨archive, last, harchive, hunpack, -⟩ := hrest
  · cases herror
  · obtain rfl := Except.ok.inj harchive
    rw [hscratches] at hunpack
    have hdrawn : ({ done with scratches := site.scratches + 1 + 1 } : Site).disk.find
        (Path.join directory (artifactName chance (site.scratches + 2)))
          = .ok (.free place false) := hfree
    rw [← run_unpackAt hdrawn hroom, hunpack]

/-- No path of a temporary file leads to a file when no name of a file was to be drawn. -/
lemma find_ne_file {path name : String} {disk : Disk} (hunused : site.Unused chance)
    (hfiles : disk.files = site.disk.files)
    (hdraws : chance.Draws site.saves site.scratches name)
    (hlast : ∀ spot place, Disk.Reached disk (Path.names path) spot place →
      place.getLast? = some name) (place : Disk.Place) (slash : Bool) :
    disk.find path ≠ .ok (.file place slash) := by
  intro hfind
  have hlacks : Disk.Lacks place disk.files := by
    rw [hfiles]
    exact hunused.lacks hdraws (hlast _ _ (Disk.reached_of_find hfind rfl))
  have hempty : disk.contents? place = none := by
    rw [Disk.contents?, ← List.append_nil disk.files]
    exact Disk.lookup_of_lacks hlacks
  have hfree := Disk.find_free hfind (.inl rfl) rfl (fun _ => rfl) hempty
  rw [hfind] at hfree
  cases hfree

/-- **Which artifacts are taken out.**  From an archive that can be read, and where the temporary
files can be made, an artifact is taken out whole if neither its declared size nor its content is
above the limit and its checksum is right; with a wrong checksum there is none.  If its declared
size or its content is above the limit it is too large, whatever else the archive says, and the
client is told so.  No more is unpacked than one byte above the limit, also with the largest of all
limits: the extraction gives the same on a disk that takes the archive and so much of the artifact,
and not one byte more of either.  In every case the files on the disk are those from before, and
neither of the two temporary files is there. -/
theorem extract_outcome (hfresh : chance.Fresh) (hunused : site.Unused chance)
    (hready : Ready site.disk (Path.join directory (archiveName chance (site.scratches + 1)))
      (Path.join directory (artifactName chance (site.scratches + 2))) data.length (bound limit))
    (hinput : input.deliver = ⟨data, none⟩)
    (hholds : Holds data artifact entry packing packed content)
    (hmeasurable : Measurable limit content) {result : Except ExtractError Bytes}
    (hrun : (extract chance requestId directory artifact limit input).run site
      = (result, after)) :
    ((∀ max ∈ limit, entry.size ≤ max ∧ content.length ≤ max) →
      result = if (Crc32.checksum content).toNat = entry.checksum then .ok content
        else .error .notUnpacked) ∧
    (∀ max ∈ limit, max < entry.size ∨ max < content.length →
      result = .error (.tooLarge max) ∧
        (Deposit.untransformed (.extract (.tooLarge max))).status = 413) ∧
    ((Archive.unpack entry (bound limit) packing packed).bytes.length ≤ bound limit ∧
      bound limit ≤ maxFileSize ∧ (∀ max ∈ limit, bound limit ≤ max + 1) ∧
      ∀ cause cause' later,
        ((extract chance requestId directory artifact limit input).run { site with
          disk := site.disk.facing ((data.length, cause) :: (bound limit, cause') :: later) }).1
            = result) ∧
    after.disk.files = site.disk.files ∧
    ∀ (place : Disk.Place) (slash : Bool),
      after.disk.find (Path.join directory (archiveName chance (site.scratches + 1)))
          ≠ .ok (.file place slash) ∧
        after.disk.find (Path.join directory (artifactName chance (site.scratches + 2)))
          ≠ .ok (.file place slash) := by
  obtain ⟨hfiles, -⟩ := files_extract hfresh hunused hrun
  have harchive : ∀ place slash,
      after.disk.find (Path.join directory (archiveName chance (site.scratches + 1)))
        ≠ .ok (.file place slash) :=
    find_ne_file hunused hfiles (.archive (Nat.lt_succ_self _))
      fun _ _ hreached => getLast?_of_reached_archive hfresh hreached
  have hartifact : ∀ place slash,
      after.disk.find (Path.join directory (artifactName chance (site.scratches + 2)))
        ≠ .ok (.file place slash) :=
    find_ne_file hunused hfiles (.artifact (Nat.lt_succ_of_lt (Nat.lt_succ_self _)))
      fun _ _ hreached => getLast?_of_reached_artifact hfresh hreached
  have hresult : result = found limit artifact data := by
    rw [← result_of_extract hfresh hready hinput, hrun]
  refine ⟨fun hfits => ?_, fun max hmax hlarge => ⟨?_, rfl⟩,
    ⟨Archive.unpack_length_le _ _ _ _, bound_le_maxFileSize limit, fun _ => bound_le_succ,
      fun cause cause' later => ?_⟩, hfiles,
    fun place slash => ⟨harchive place slash, hartifact place slash⟩⟩
  · obtain ⟨max, hmax, hlarge, -⟩ | ⟨-, hlocate⟩ := locate_of_holds hholds limit
    · exact absurd (hfits max hmax).1 (Nat.not_le.2 hlarge)
    · rw [hresult, found, hlocate]
      exact judge_of_fits hholds.unpacks hmeasurable fun max hmax => (hfits max hmax).2
  · obtain ⟨other, hother, -, hlocate⟩ | ⟨hsize, hlocate⟩ := locate_of_holds hholds limit
    · obtain rfl := Option.some.inj ((Option.mem_def.1 hmax).symm.trans hother)
      rw [hresult, found, hlocate]
      rfl
    · rw [hresult, found, hlocate]
      exact judge_of_not_fits hholds.unpacks hmeasurable hmax
        (hlarge.resolve_left (Nat.not_lt.2 (hsize max hmax)))
  · rw [hresult]
    exact result_of_extract hfresh (hready.facing cause cause' later) hinput

/-- An archive with one entry of seventy equal bytes, which is declared to be of two. -/
def lyingArchive : Bytes := [
  80, 75, 3, 4, 20, 0, 0, 0, 8, 0, 0, 0, 33, 0, 67, 129, 129, 43, 6, 0, 0, 0, 2, 0, 0, 0, 11, 0, 0,
  0, 109, 101, 116, 97, 100, 97, 116, 97, 46, 103, 122, 75, 76, 164, 6, 0, 0, 80, 75, 1, 2, 20, 0,
  20, 0, 0, 0, 8, 0, 0, 0, 33, 0, 67, 129, 129, 43, 6, 0, 0, 0, 2, 0, 0, 0, 11, 0, 0, 0, 0, 0, 0, 0,
  0, 0, 0, 0, 0, 0, 0, 0, 0, 0, 109, 101, 116, 97, 100, 97, 116, 97, 46, 103, 122, 80, 75, 5, 6, 0,
  0, 0, 0, 1, 0, 1, 0, 57, 0, 0, 0, 47, 0, 0, 0, 0, 0]

/-- The archive as it arrives: the pause is in the middle of the packed bytes. -/
def lyingInput : Stream UploadFault :=
  [.piece (lyingArchive.take 44), .pause, .piece (lyingArchive.drop 44)]

/-- An archive with one entry holds its content. -/
lemma holds_of_single (hname : entry.name = artifact)
    (hdirectory : (Archive.placesOf Archive.endMark data).findSome?
      (Archive.directory? data) = some [entry])
    (hpacked : Archive.packed? ⟨data, [entry]⟩ entry = some (packing, packed))
    (hunpacks : Archive.Unpacks packing packed content) :
    Holds data artifact entry packing packed content := by
  refine ⟨⟨⟨data, [entry]⟩, ?_, ?_, hpacked⟩, hunpacks⟩
  · rw [Archive.open?, hdirectory]
    rfl
  · simp [Archive.find?, hname]

theorem extract_outcome_lying :
    let site : Site := { gate := ⟨1, 0, 0⟩ }
    let run (limit : Option Nat) (input : Stream UploadFault) :=
      (extract Deposit.drawnSurroundings.chance "id" "up" "metadata.gz" limit input).run site
    (run (some 3) lyingInput).1 = .error (.tooLarge 3) ∧
      (run (some 18446744073709551615) [.piece Deposit.smallArchive]).1
        = .ok [109, 101, 116, 97] ∧
      (run none [.piece (Deposit.smallArchive.set 41 0)]).1 = .error .notUnpacked ∧
      (run none [.piece (Deposit.smallArchive.set 41 0)]).2.disk.files = [] := by
  intro site run
  have hunused : site.Unused Deposit.drawnSurroundings.chance := List.forall_mem_nil _
  have hready : ∀ size limit, Ready site.disk
      (Path.join "up" (archiveName Deposit.drawnSurroundings.chance (site.scratches + 1)))
      (Path.join "up" (artifactName Deposit.drawnSurroundings.chance (site.scratches + 2)))
      size (bound limit) := fun _ _ =>
    ⟨by decide +kernel,
      ⟨["up", archiveName Deposit.drawnSurroundings.chance 1], by decide +kernel⟩,
      ⟨["up", artifactName Deposit.drawnSurroundings.chance 2], by decide +kernel⟩, trivial⟩
  have hlying : Holds lyingArchive "metadata.gz" ⟨"metadata.gz", false, 8, 729907523, 6, 2, 0⟩
      .deflated [75, 76, 164, 6, 0, 0] (List.replicate 70 97) := by
    refine holds_of_single rfl (by decide +kernel) (by decide +kernel) ?_
    exact .deflated (by decide : _ < 100) (by decide +kernel) (by decide +kernel)
  have hsmall : Holds Deposit.smallArchive "metadata.gz"
      ⟨"metadata.gz", false, 0, 3622966325, 4, 4, 0⟩ .stored [109, 101, 116, 97]
      [109, 101, 116, 97] :=
    holds_of_single rfl (by decide +kernel) (by decide +kernel) (.stored _)
  have hspoilt : Holds (Deposit.smallArchive.set 41 0) "metadata.gz"
      ⟨"metadata.gz", false, 0, 3622966325, 4, 4, 0⟩ .stored [0, 101, 116, 97]
      [0, 101, 116, 97] :=
    holds_of_single rfl (by decide +kernel) (by decide +kernel) (.stored _)
  have hcut : lyingInput.deliver = ⟨lyingArchive, none⟩ := by decide +kernel
  refine ⟨?_, ?_, ?_⟩
  · rcases hrun : run (some 3) lyingInput with ⟨result, after⟩
    obtain ⟨-, hlarge, -⟩ := extract_outcome Deposit.fresh_drawnSurroundings hunused
      (hready _ _) hcut hlying (.inl (by decide +kernel)) hrun
    exact (hlarge 3 rfl (.inr (by decide))).1
  · rcases hrun : run (some 18446744073709551615) [.piece Deposit.smallArchive]
      with ⟨result, after⟩
    obtain ⟨hfits, -⟩ := extract_outcome Deposit.fresh_drawnSurroundings hunused (hready _ _) rfl
      hsmall (.inl (by decide +kernel)) hrun
    have hsizes : ∀ max ∈ some 18446744073709551615, 4 ≤ max ∧ 4 ≤ max := by decide +kernel
    rw [hfits hsizes, if_pos (by decide +kernel)]
  · rcases hrun : run none [.piece (Deposit.smallArchive.set 41 0)] with ⟨result, after⟩
    obtain ⟨hfits, -, -, hfiles, -⟩ := extract_outcome Deposit.fresh_drawnSurroundings hunused
      (hready _ _) rfl hspoilt (.inl (by decide +kernel)) hrun
    refine ⟨?_, hfiles⟩
    have hsizes : ∀ max ∈ (none : Option Nat), 4 ≤ max ∧ 4 ≤ max := fun _ hmax => nomatch hmax
    rw [hfits hsizes, if_neg (by decide +kernel)]

end Extraction

end Intercept
