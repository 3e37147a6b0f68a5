/-
# What is made of a file before it is stored

An image, which is known by the ending of its name, is freed of its metadata, even if the
application asks for artifacts; of another file an artifact is taken out if the application asks for
it; all else is kept.  `Made` says what may be stored then.  Whatever is done leaves no file behind,
and does not touch a stored one.
-/
import Intercept.Proofs.Upload.Extraction
import Intercept.Proofs.Upload.Stripping
import Intercept.Upload.Transform

namespace Intercept

namespace FileName

/-- A name has an ending, where capital Latin letters count as small. -/
def EndsIn (ending name : String) : Prop :=
  ∃ found, found <:+ name.toList ∧ found.map Char.toLower = ending.toList

/-- By its name, a file is an image that carries metadata. -/
def IsImage (name : String) : Prop := EndsIn ".jpg" name ∨ EndsIn ".jpeg" name ∨ EndsIn ".tiff" name

lemma isSuffixOf_iff_endsIn (ending name : String) :
    ending.toList.isSuffixOf (name.toList.map Char.toLower) = true ↔ EndsIn ending name := by
  rw [List.isSuffixOf_iff_suffix, List.suffix_map_iff]
  exact exists_congr fun found => and_congr_right fun _ => eq_comm

lemma hasMetadata_iff (name : String) : hasMetadata name = true ↔ IsImage name := by
  simp only [hasMetadata, metadataEndings, List.any_cons, List.any_nil, Bool.or_false,
    Bool.or_eq_true, isSuffixOf_iff_endsIn, IsImage]

end FileName

namespace Transform

variable {surroundings : Surroundings} {settings : Settings} {grant : Grant} {fileName : String}
variable {inside : Disk.Place → Prop} {start site after : Site} {input : Stream UploadFault}
variable {result : Except TransformError (Stream UploadFault)}

/-- Whatever is done to a file before it is stored touches no file but temporary ones. -/
lemma confined_run (harchive : ∀ m, start.scratches < m → Disk.Leads inside start.disk.here
      (Path.join (grant.directory.getD settings.directory) (archiveName surroundings.chance m)))
    (hartifact : ∀ m, start.scratches < m → Disk.Leads inside start.disk.here
      (Path.join (grant.directory.getD settings.directory) (artifactName surroundings.chance m)))
    (fileName : String) (input : Stream UploadFault) :
    Run.Confined inside start (run surroundings settings grant fileName input) fun _ => True := by
  rw [run]
  cases select grant fileName with
  | strip => exact Run.confined_pure trivial
  | extract =>
    refine (Extraction.confined_extract harchive hartifact _ _ _ _).bind fun found _ => ?_
    cases found with
    | error error => exact Run.confined_pure trivial
    | ok bytes => exact Run.confined_pure trivial
  | keep => exact Run.confined_pure trivial

/-- Meanwhile the number of files stored so far does not shrink. -/
lemma saves_le (surroundings : Surroundings) (settings : Settings) (grant : Grant)
    (fileName : String) (input : Stream UploadFault) (site : Site) :
    site.saves ≤ ((run surroundings settings grant fileName input).run site).2.saves := by
  have hconfined : Run.Confined (fun _ => True) site
      (run surroundings settings grant fileName input) fun _ => True :=
    confined_run (fun _ _ => Disk.leads_anywhere _ _) (fun _ _ => Disk.leads_anywhere _ _) _ _
  exact (hconfined site (Site.Since.refl _ site)).1.saves

/-- Taking out an artifact comes to an extraction. -/
lemma runExtract_cases
    (hrun : (runExtract surroundings settings grant input).run site = (result, after)) :
    ∃ found, (Extraction.extract surroundings.chance settings.requestId
        (grant.directory.getD settings.directory) settings.artifact grant.maximumSize input).run site
          = (found, after) ∧
      match result with
      | .ok stream => ∃ bytes, found = .ok bytes ∧ stream = Stream.once bytes
      | .error error => ∃ cause, found = .error cause ∧ error = .extract cause := by
  rw [runExtract, Run.run_bind] at hrun
  rcases hextract : (Extraction.extract surroundings.chance settings.requestId
    (grant.directory.getD settings.directory) settings.artifact grant.maximumSize input).run site
      with ⟨found, later⟩
  rw [hextract] at hrun
  cases found with
  | error error =>
    obtain ⟨rfl, rfl⟩ := Prod.mk.inj hrun
    exact ⟨_, rfl, error, rfl, rfl⟩
  | ok bytes =>
    obtain ⟨rfl, rfl⟩ := Prod.mk.inj hrun
    exact ⟨_, rfl, bytes, rfl, rfl⟩

/-- Whatever is done to a file before it is stored, the same files are on the disk afterwards. -/
lemma files_run (hfresh : surroundings.chance.Fresh)
    (hrun : (run surroundings settings grant fileName input).run site = (result, after))
    (hunused : site.Unused surroundings.chance) :
    after.disk.files = site.disk.files ∧ after.saves = site.saves ∧
      site.scratches ≤ after.scratches := by
  rw [run] at hrun
  cases hselect : select grant fileName with
  | strip =>
    rw [hselect] at hrun
    obtain ⟨-, rfl⟩ := Prod.mk.inj hrun
    exact ⟨rfl, rfl, Nat.le_refl _⟩
  | extract =>
    rw [hselect] at hrun
    obtain ⟨found, hextract, -⟩ := runExtract_cases hrun
    exact Extraction.files_extract hfresh hunused hextract
  | keep =>
    rw [hselect] at hrun
    obtain ⟨-, rfl⟩ := Prod.mk.inj hrun
    exact ⟨rfl, rfl, Nat.le_refl _⟩

/-! ### What may be stored -/

/-- What may be stored of a file with some data, which has the name `fileName`. -/
structure Made (surroundings : Surroundings) (settings : Settings) (grant : Grant)
    (fileName : String) (data bytes : Bytes) : Prop where
  /-- Of an image: what the program that removes metadata wrote. -/
  strip : FileName.IsImage fileName →
    Stripping.Stripped (surroundings.program settings.stripper) surroundings.environment data bytes
  /-- Of another file, if artifacts are asked for: its artifact. -/
  extract : ¬ FileName.IsImage fileName → grant.extractsArtifact = true →
    Extraction.Extracted settings.artifact data bytes
  /-- Of all else: the data. -/
  keep : ¬ FileName.IsImage fileName → grant.extractsArtifact = false → bytes = data
  /-- It is not larger than the application allows. -/
  fits : ∀ limit, grant.maximumSize = some limit → bytes.length ≤ limit

/-- The name decides first, then the application. -/
lemma select_cases (grant : Grant) (fileName : String) :
    (select grant fileName = .strip ∧ FileName.IsImage fileName) ∨
    (select grant fileName = .extract ∧ ¬ FileName.IsImage fileName ∧
      grant.extractsArtifact = true) ∨
    (select grant fileName = .keep ∧ ¬ FileName.IsImage fileName ∧
      grant.extractsArtifact = false) := by
  rw [select, ← FileName.hasMetadata_iff]
  cases FileName.hasMetadata fileName <;> cases grant.extractsArtifact <;> simp

/-- What is kept is the data itself. -/
lemma Made.kept {data bytes : Bytes}
    (h : Made surroundings settings grant fileName data bytes)
    (hkeep : select grant fileName = .keep) : bytes = data := by
  obtain ⟨hselect, -⟩ | ⟨hselect, -⟩ | ⟨-, hname, hgrant⟩ := select_cases grant fileName
  · rw [hselect] at hkeep
    cases hkeep
  · rw [hselect] at hkeep
    cases hkeep
  · exact h.keep hname hgrant

/-- **What is stored is what may be stored.**  If a file is transformed and what comes of it is
accepted, it was made of the data as it should be. -/
lemma made_of_run {stream : Stream UploadFault} {bytes : Bytes}
    (hrun : (run surroundings settings grant fileName input).run site = (.ok stream, after))
    (haccept : Storage.accept grant.maximumSize stream = (bytes, none)) :
    Made surroundings settings grant fileName input.deliver.bytes bytes := by
  obtain ⟨hdeliver, hlimit⟩ := Storage.accept_eq_iff.1 haccept
  have hfits : ∀ limit, grant.maximumSize = some limit → bytes.length ≤ limit := by
    intro limit hsome
    rw [hsome] at hlimit
    exact Nat.not_lt.1 (of_decide_eq_false hlimit)
  rw [run] at hrun
  obtain ⟨hselect, hname⟩ | ⟨hselect, hname, hgrant⟩ | ⟨hselect, hname, hgrant⟩ :=
    select_cases grant fileName
  · refine ⟨fun _ => ?_, fun hnot => absurd hname hnot, fun hnot => absurd hname hnot, hfits⟩
    rw [hselect] at hrun
    have hstrip := (Prod.mk.inj hrun).1
    unfold runStrip at hstrip
    split at hstrip
    · next output houtput =>
      obtain rfl := Except.ok.inj hstrip
      exact Stripping.stripped_of_strip houtput hdeliver
    · cases hstrip
  · refine ⟨fun hother => absurd hother hname, fun _ _ => ?_, by simp [hgrant], hfits⟩
    rw [hselect] at hrun
    obtain ⟨found, hextract, hfound⟩ := runExtract_cases hrun
    obtain ⟨content, rfl, rfl⟩ := hfound
    rw [Stream.deliver_once] at hdeliver
    obtain rfl := congrArg Delivered.bytes hdeliver
    exact (Extraction.extracted_of_extract hextract).2.1
  · refine ⟨fun hother => absurd hother hname, by simp [hgrant], fun _ _ => ?_, hfits⟩
    rw [hselect] at hrun
    obtain rfl := Except.ok.inj (Prod.mk.inj hrun).1
    rw [hdeliver]

/-! ### Data that breaks off -/

/-- Whether the data is sent through a program that closes its input before so many bytes. -/
def closesWithin (surroundings : Surroundings) (settings : Settings) (grant : Grant)
    (fileName : String) (size : Nat) : Bool :=
  select grant fileName == .strip &&
    Stripping.closesWithin size (surroundings.program settings.stripper)

lemma runStrip_ok {stream : Stream UploadFault}
    (hrun : runStrip surroundings settings input = .ok stream) :
    Stripping.strip (surroundings.program settings.stripper) surroundings.environment input
      = .ok stream := by
  unfold runStrip at hrun
  split at hrun
  · next houtput => rw [houtput, Except.ok.inj hrun]
  · cases hrun

/-- If what comes of a file has no fault, neither has its data, as far as it was read. -/
lemma fault_of_run {stream : Stream UploadFault}
    (hrun : (run surroundings settings grant fileName input).run site = (.ok stream, after))
    (hdeliver : stream.deliver.fault = none) :
    input.deliver.fault = none ∨
      closesWithin surroundings settings grant fileName input.deliver.bytes.length = true := by
  rw [run] at hrun
  cases hselect : select grant fileName with
  | strip =>
    rw [hselect] at hrun
    have hstrip := runStrip_ok (Prod.mk.inj hrun).1
    obtain hnone | hcloses := Stripping.fault_of_strip hstrip hdeliver
    · exact .inl hnone
    · exact .inr (by rw [closesWithin, hselect, hcloses]; rfl)
  | extract =>
    rw [hselect] at hrun
    obtain ⟨found, hextract, hfound⟩ := runExtract_cases hrun
    obtain ⟨content, rfl, -⟩ := hfound
    exact .inl (Extraction.extracted_of_extract hextract).1
  | keep =>
    rw [hselect] at hrun
    obtain rfl := Except.ok.inj (Prod.mk.inj hrun).1
    exact .inl hdeliver

/-- If what comes of a file ends for want of data, then its data was still read and cannot be read on,
or it cannot be written to a program. -/
lemma unreadable_of_run {stream : Stream UploadFault} {cause : String}
    (hrun : (run surroundings settings grant fileName input).run site = (.ok stream, after))
    (hdeliver : stream.deliver.fault = some (.unreadable cause)) :
    (input.deliver.fault = some (.unreadable cause) ∧
      closesWithin surroundings settings grant fileName input.deliver.bytes.length = false) ∨
    ∃ error : SystemError, cause = error.message := by
  rw [run] at hrun
  cases hselect : select grant fileName with
  | strip =>
    rw [hselect] at hrun
    have hstrip := runStrip_ok (Prod.mk.inj hrun).1
    obtain ⟨hfault, hcloses⟩ | herror := Stripping.unreadable_of_strip hstrip hdeliver
    · exact .inl ⟨hfault, by rw [closesWithin, hcloses, Bool.and_false]⟩
    · exact .inr herror
  | extract =>
    rw [hselect] at hrun
    obtain ⟨found, -, hfound⟩ := runExtract_cases hrun
    obtain ⟨content, -, rfl⟩ := hfound
    rw [Stream.deliver_once] at hdeliver
    cases hdeliver
  | keep =>
    rw [hselect] at hrun
    obtain rfl := Except.ok.inj (Prod.mk.inj hrun).1
    exact .inl ⟨hdeliver, by rw [closesWithin, hselect]; rfl⟩

/-- If a file is not transformed for want of data, its data was still read and has that fault. -/
lemma unreadable_of_run_error {fault : UploadFault}
    (hrun : (run surroundings settings grant fileName input).run site
      = (.error (.extract (.unreadable fault)), after)) :
    input.deliver.fault = some fault ∧
      closesWithin surroundings settings grant fileName input.deliver.bytes.length = false := by
  rw [run] at hrun
  cases hselect : select grant fileName with
  | strip =>
    rw [hselect] at hrun
    have hstrip := (Prod.mk.inj hrun).1
    unfold runStrip at hstrip
    split at hstrip
    · cases hstrip
    · cases hstrip
  | extract =>
    rw [hselect] at hrun
    obtain ⟨found, hextract, cause, rfl, hcause⟩ := runExtract_cases hrun
    obtain rfl := TransformError.extract.inj hcause
    exact ⟨Extraction.fault_of_extract hextract, by rw [closesWithin, hselect]; rfl⟩
  | keep =>
    rw [hselect] at hrun
    cases (Prod.mk.inj hrun).1

end Transform

end Intercept
