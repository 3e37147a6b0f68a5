/-
# When metadata cannot be removed

Whether the program that removes metadata did its work shows only behind its output, when all of it
has been stored.  Then the file is taken away again, and what the client is told depends on who is to
blame: the program, if it was fed and failed; the form, if the program starved for want of data.
Only the limit on the size of files and the disk come before that.
-/
import Intercept.Proofs.Storage.Outcome
import Intercept.Proofs.Upload.Confinement
import Intercept.Proofs.Upload.Handover

namespace Intercept

namespace Deposit

variable {surroundings : Surroundings} {settings : Settings} {part : Part} {draft : Draft}
variable {fileName : String} {site : Site} {intake : Intake} {run : Input → Behaviour}

/-! ### The part with the image -/

/-- The data of a part as it comes with the form. -/
def source (part : Part) : Stream String :=
  part.pieces.map .piece ++ (part.fault.map fun error => .fault error.message).toList

lemma mapFault_source (part : Part) : (source part).mapFault .unreadable = dataOf part := by
  rw [dataOf, source, Stream.mapFault, List.map_append, List.map_map]
  cases part.fault <;> rfl

lemma deliver_source (part : Part) :
    (source part).deliver = ⟨part.data, part.fault.map FormError.message⟩ := by
  have hended := Stream.deliver_ended part.pieces (part.fault.map FormError.message)
  rwa [Option.map_map] at hended

/-- A part holds an image with a legal file name, under a name that is not reserved. -/
structure HoldsImage (part : Part) (draft : Draft) (fileName : String) : Prop where
  named : ∃ name, part.name? = some name ∧ name ≠ "" ∧ name ∉ draft.reserved.names
  file : part.fileName? = some fileName
  legal : FileName.isIllegal fileName = false
  image : FileName.IsImage fileName

/-- What comes of the data of an image: the pieces that the program wrote, and perhaps a fault. -/
def cleaned (behaviour : Behaviour) (last : Option UploadFault) : Stream UploadFault :=
  behaviour.output.pieces.1.map .piece ++ (last.map Item.fault).toList

lemma deliver_cleaned (behaviour : Behaviour) (last : Option UploadFault) :
    (cleaned behaviour last).deliver = ⟨behaviour.output.deliver.bytes, last⟩ :=
  Stream.deliver_ended behaviour.output.pieces.1 last

/-- An image of which the output of the program ends with a fault is turned down. -/
lemma takePart_of_image
    (hstarted : Stripping.Started (surroundings.program settings.transform.stripper)
      surroundings.environment intake run) (h : HoldsImage part draft fileName) :
    let behaviour := run ⟨Stripping.taken part.data intake, false⟩
    ∃ last, Stripping.strip (surroundings.program settings.transform.stripper)
        surroundings.environment (dataOf part) = .ok (cleaned behaviour last) ∧
      Stripping.Ends intake ⟨part.data, part.fault.map FormError.message⟩ behaviour.ending last ∧
      ∀ fault, last = some fault → ∃ error,
        ((takePart surroundings settings part draft).run site).1.2 = some (rejected error).1 ∧
        Storage.Unstored site.disk (folder settings)
          (storedPath surroundings settings fileName (site.saves + 1)) settings.grant.maximumSize
          (cleaned behaviour last) fault error := by
  intro behaviour
  obtain ⟨last, hstrip, hends⟩ := Stripping.strip_ends hstarted (source part)
  rw [mapFault_source, deliver_source] at hstrip
  rw [deliver_source] at hends
  refine ⟨last, hstrip, hends, fun fault hlast => ?_⟩
  obtain ⟨name, hname, hne, hfree⟩ := h.named
  have hfileName : fileName ≠ "" := by
    rintro rfl
    exact absurd ((FileName.hasMetadata_iff "").2 h.image) (by decide)
  have hselect : Transform.select settings.grant fileName = .strip :=
    if_pos ((FileName.hasMetadata_iff fileName).2 h.image)
  have htransform :
      (Transform.run surroundings settings.transform settings.grant fileName (dataOf part)).run
          ((Site.count (.uploadFiles settings.processor) 1).run site).2
        = (.ok (cleaned behaviour last),
          ((Site.count (.uploadFiles settings.processor) 1).run site).2) := by
    have hran : Transform.runStrip surroundings settings.transform (dataOf part)
        = .ok (cleaned behaviour last) := by
      rw [Transform.runStrip, hstrip]
      rfl
    rw [Transform.run, hselect, ← hran]
    rfl
  have hfault : (cleaned behaviour last).deliver.fault = some fault := by
    rw [deliver_cleaned, hlast]
  rcases hrun : (takePart surroundings settings part draft).run site with ⟨outcome, after⟩
  rw [takePart_of_file hname hne hfree h.file hfileName] at hrun
  cases storePart_handled hrun with
  | illegal houtcome hafter hillegal =>
    rw [h.legal] at hillegal
    cases hillegal
  | untransformed hnot houtcome =>
    rw [htransform] at hnot
    cases (Prod.mk.inj hnot).1
  | @rejected found error later final hlegal hsame hsave houtcome hafter =>
    rw [htransform] at hsame
    obtain ⟨hfound, rfl⟩ := Prod.mk.inj hsame
    obtain rfl := Except.ok.inj hfound
    obtain ⟨reason, hreason, hwhy⟩ := Storage.save_of_fault hfault hsave
    obtain rfl := Except.error.inj hreason
    exact ⟨error, congrArg Prod.snd houtcome, hwhy⟩
  | @stored found file later final hlegal hsame hsave houtcome hafter =>
    rw [htransform] at hsame
    obtain ⟨hfound, rfl⟩ := Prod.mk.inj hsame
    obtain rfl := Except.ok.inj hfound
    obtain ⟨reason, hreason, -⟩ := Storage.save_of_fault hfault hsave
    cases hreason

lemma rejected_ne_form (error : StoreError UploadFault) (fault : FormError) :
    (rejected error).1 ≠ .form fault := by
  cases error with
  | tooLarge => exact nofun
  | unreadable found => cases found <;> exact nofun
  | unwritable path cause => exact nofun

end Deposit

namespace Upload

variable {surroundings : Surroundings} {backend : Backend} {uploads : Config.Uploads}
variable {route : Route} {request : Request} {grant : Grant} {site reached : Site} {part : Part}
variable {draft : Deposit.Draft} {fileName : String} {intake : Intake} {run : Input → Behaviour}

/-! ### The answer -/

/-- An upload is allowed and comes to a part of its form, since all parts before it are taken in; by
then there are this draft and this site. -/
def ComesTo (surroundings : Surroundings) (backend : Backend) (uploads : Config.Uploads)
    (route : Route) (request : Request) (grant : Grant) (site : Site) (part : Part)
    (draft : Deposit.Draft) (reached : Site) : Prop :=
  ∃ boundary later before rest, request.headers.boundary? = some boundary ∧
    (Authorization.ask surroundings.application backend request.uri request.headers).run site
      = (.ok (.granted grant), later) ∧
    (formOf uploads request boundary).parts = before ++ part :: rest ∧
    (Deposit.takeParts surroundings (settingsFor uploads route request grant) before
      { writer := .start surroundings.chance.boundary }).run (counted route later)
        = ((draft, none), reached)

/-- If the part is turned down, so is the upload, and nothing is left of its form. -/
lemma ComesTo.handle_of_failed (hfresh : surroundings.chance.Fresh)
    (hunused : site.Unused surroundings.chance)
    (h : ComesTo surroundings backend uploads route request grant site part draft reached)
    {error : DepositError} (hform : ∀ fault, error ≠ .form fault)
    (hfailed : ((Deposit.takePart surroundings (settingsFor uploads route request grant) part
      draft).run reached).1.2 = some error) :
    ((handle surroundings backend uploads route request).run site).1 = refusal error ∧
      ((handle surroundings backend uploads route request).run site).2.disk.files
        = site.disk.files := by
  obtain ⟨boundary, later, before, rest, hboundary, hask, hparts, hbefore⟩ := h
  have hdeposit := (Deposit.make_error_iff hform).2
    (Deposit.takeParts_error_iff.2 ⟨_, _, _, _, _, hparts, hbefore, hfailed⟩)
  rcases hmake : (Deposit.make surroundings (settingsFor uploads route request grant)
    (formOf uploads request boundary)).run (counted route later) with ⟨deposit, after⟩
  rw [hmake] at hdeposit
  obtain ⟨event, hrefuse⟩ := run_refuse request.headers.requestId error after
  obtain ⟨hdisk, hsaves, hscratches⟩ := disk_ask hask
  have hcounted : (counted route later).Unused surroundings.chance :=
    hunused.congr (congrArg Disk.files hdisk) hsaves.ge hscratches.ge
  have hfiles := Deposit.files_of_make_error hfresh hcounted hmake hdeposit
  rw [handle_granted hboundary hask hmake, hdeposit]
  simp only [hrefuse]
  exact ⟨trivial, hfiles.trans (congrArg Disk.files hdisk)⟩

/-- If the part holds an image, the output of the program ends as `Ends` says, and if it ends with a
fault, nothing is left of the form, and the answer is that to the error that comes of the fault. -/
lemma ComesTo.handle_of_fault (hfresh : surroundings.chance.Fresh)
    (hunused : site.Unused surroundings.chance)
    (hstarted : Stripping.Started (surroundings.program uploads.stripper) surroundings.environment
      intake run)
    (h : ComesTo surroundings backend uploads route request grant site part draft reached)
    (himage : Deposit.HoldsImage part draft fileName) :
    let behaviour := run ⟨Stripping.taken part.data intake, false⟩
    ∃ last, Stripping.strip (surroundings.program uploads.stripper) surroundings.environment
        (Deposit.dataOf part) = .ok (Deposit.cleaned behaviour last) ∧
      Stripping.Ends intake ⟨part.data, part.fault.map FormError.message⟩ behaviour.ending last ∧
      ∀ fault, last = some fault → ∃ error,
        ((handle surroundings backend uploads route request).run site).1
          = refusal (Deposit.rejected error).1 ∧
        ((handle surroundings backend uploads route request).run site).2.disk.files
          = site.disk.files ∧
        Storage.Unstored reached.disk (grant.directory.getD uploads.directory)
          (Deposit.storedPath surroundings (settingsFor uploads route request grant) fileName
            (reached.saves + 1)) grant.maximumSize (Deposit.cleaned behaviour last) fault
          error := by
  intro behaviour
  obtain ⟨last, hstrip, hends, hturned⟩ := @Deposit.takePart_of_image _
    (settingsFor uploads route request grant) _ _ _ reached _ _ hstarted himage
  refine ⟨last, hstrip, hends, fun fault hlast => ?_⟩
  obtain ⟨error, hfailed, hwhy⟩ := hturned fault hlast
  obtain ⟨hrefusal, hfiles⟩ :=
    h.handle_of_failed hfresh hunused (Deposit.rejected_ne_form error) hfailed
  exact ⟨error, hrefusal, hfiles, hwhy⟩

/-- **How removing metadata ends.**  The program that removes metadata was started, its output can
be read, and it ends.

* Whatever stream it is fed, its output is passed on in order.  Behind it there is nothing exactly if
  the program was served and ended well; a failure to remove metadata exactly if it was served and
  did not; and a cause for which the stream could not be read on exactly if it starved for that,
  however it ended.  Nothing follows a fault.
* If an upload that is allowed comes to an image, and the program was served its data and did not end
  well, then no file stays.  The client is told that metadata cannot be removed, or that the file is
  too large if the output is larger than a file may be.  If what was poured of the output by then
  cannot be stored, because the file cannot be made or cannot be written, the client is told instead
  that the proxy failed; whether the last part can be written is not known by then, and does not
  matter.
* If the program starved, the client is not told that metadata cannot be removed. -/
theorem handle_of_image (hfresh : surroundings.chance.Fresh)
    (hunused : site.Unused surroundings.chance)
    (hstarted : Stripping.Started (surroundings.program uploads.stripper) surroundings.environment
      intake run)
    (hcomes : ComesTo surroundings backend uploads route request grant site part draft reached)
    (himage : Deposit.HoldsImage part draft fileName) :
    let delivered : Delivered String := ⟨part.data, part.fault.map FormError.message⟩
    let behaviour := run ⟨Stripping.taken part.data intake, false⟩
    let output := behaviour.output.deliver.bytes
    let outcome := (handle surroundings backend uploads route request).run site
    (∀ stream : Stream String,
      let behaviour := run ⟨Stripping.taken stream.deliver.bytes intake, false⟩
      ∃ last, Stripping.strip (surroundings.program uploads.stripper) surroundings.environment
          (stream.mapFault .unreadable)
            = .ok (behaviour.output.pieces.1.map .piece ++ (last.map Item.fault).toList) ∧
        Stripping.Ends intake stream.deliver behaviour.ending last) ∧
    (Stripping.Served intake delivered → behaviour.ending ≠ .exits (.code 0) →
      outcome.2.disk.files = site.disk.files ∧
      ∃ stream, Stripping.strip (surroundings.program uploads.stripper) surroundings.environment
          (Deposit.dataOf part) = .ok stream ∧
        let front := Storage.poured grant.maximumSize stream
        let unwritable := Storage.Unwritable reached.disk (grant.directory.getD uploads.directory)
          (Deposit.storedPath surroundings (settingsFor uploads route request grant) fileName
            (reached.saves + 1)) front
        front <+: output ∧
        (Storage.exceeds grant.maximumSize output.length = false →
          output.length ≤ front.length + Disk.maxPart) ∧
        (unwritable → outcome.1 = Response.failed) ∧
        (¬ unwritable → outcome.1 = if Storage.exceeds grant.maximumSize output.length
          then Response.plain 413 "Request Entity Too Large"
          else Response.plain 422 "Failed to process image")) ∧
    ∀ cause, Stripping.Starved intake delivered cause → outcome.1.head.status ≠ 422 := by
  intro delivered behaviour output outcome
  obtain ⟨last, hstrip, hends, hturned⟩ :=
    hcomes.handle_of_fault hfresh hunused hstarted himage
  have hdeliver := Deposit.deliver_cleaned behaviour last
  refine ⟨Stripping.strip_ends hstarted, fun hserved hending => ?_, fun cause hstarved => ?_⟩
  · obtain ⟨event, rfl⟩ := hends.failed.2 ⟨hserved, hending⟩
    obtain ⟨error, hrefusal, hfiles, hwhy⟩ := hturned _ rfl
    have hbegin := (Storage.poured_begins grant.maximumSize
      (Deposit.cleaned behaviour (some (.notStripped event)))).1
    have hmissing := @Storage.length_le_poured _ grant.maximumSize
      (Deposit.cleaned behaviour (some (.notStripped event)))
    rw [hdeliver] at hbegin hmissing
    refine ⟨hfiles, _, hstrip, hbegin, hmissing, fun hnot => ?_, fun hfits => ?_⟩
    · obtain ⟨-, cause, rfl⟩ := hwhy.resolve_right fun hother => hother.1 hnot
      exact hrefusal
    · obtain ⟨-, rfl⟩ := hwhy.resolve_left fun hother => hfits hother.1
      rw [show outcome.1 = _ from hrefusal, hdeliver]
      split
      · rfl
      · rfl
  · obtain rfl := (hends.unread cause).2 hstarved
    obtain ⟨error, hrefusal, -, hwhy⟩ := hturned _ rfl
    rw [show outcome.1 = _ from hrefusal]
    have hstatus : (413 : Status) ≠ 422 ∧ (500 : Status) ≠ 422 := by decide
    obtain ⟨-, reason, rfl⟩ | ⟨-, rfl⟩ := hwhy
    · exact hstatus.2
    · split
      · exact hstatus.1
      · exact hstatus.2

/-! ### A program that fails -/

/-- A program that reads all and writes a byte, but does not end well. -/
def failure : Behaviour := ⟨[.piece [1]], [], .exits (.code 1)⟩

/-- Surroundings in which uploads are allowed and every program fails. -/
def failingSurroundings : Surroundings := { grantingSurroundings "{}" with
  program := fun _ => .runs .all fun _ _ => failure }

/-- A request with a form that holds one file. -/
def fileRequest (fileName : String) : Request := ⟨"POST", ⟨none, none, "/uploads", none⟩,
  [(Header.contentType, Utf8.encode "multipart/form-data; boundary=X")],
  Stream.once (Utf8.encode ("--X\r\nContent-Disposition: form-data; name=\"f\"; filename=\""
    ++ fileName ++ "\"\r\n\r\ndata\r\n--X--\r\n"))⟩

/-- The part with the file. -/
def filePart (fileName : String) : Part := ⟨[(Header.contentDisposition,
  Utf8.encode ("form-data; name=\"f\"; filename=\"" ++ fileName ++ "\""))],
  [Utf8.encode "data"], none⟩

/-- The draft before the first part. -/
def firstDraft : Deposit.Draft := { writer := .start failingSurroundings.chance.boundary }

/-- The site before the first part. -/
def firstSite (fileName : String) : Site :=
  counted plainRoute (allowedSite "{}" (fileRequest fileName))

lemma fresh_failing : failingSurroundings.chance.Fresh := Deposit.fresh_drawnSurroundings

lemma unused_failing : Site.Unused failingSurroundings.chance { gate := ⟨1, 0, 0⟩ } :=
  List.forall_mem_nil _

lemma started_failing : Stripping.Started (failingSurroundings.program "exiftool")
    failingSurroundings.environment .all fun _ => failure :=
  ⟨rfl, fun _ => rfl⟩

lemma comesTo_first {fileName : String}
    (hparts : (formOf {} (fileRequest fileName) [88]).parts = [filePart fileName]) :
    ComesTo failingSurroundings plainBackend {} plainRoute (fileRequest fileName) {}
      { gate := ⟨1, 0, 0⟩ } (filePart fileName) firstDraft (firstSite fileName) := by
  have hasked : (Authorization.request? (fileRequest "").uri
      (fileRequest "").headers).isSome = true := by decide +kernel
  have hboundary : (fileRequest "").headers.boundary? = some [88] := by decide +kernel
  have hask := @ask_granting (fileRequest fileName) {} "{}" (by decide) (by decide +kernel) hasked
  exact ⟨[88], _, [], [], hboundary, hask, hparts, rfl⟩

theorem handle_of_image_failing :
    ((handle failingSurroundings plainBackend {} plainRoute (fileRequest "a.jpg")).run
      { gate := ⟨1, 0, 0⟩ }).2.disk.files = [] ∧
    ((handle failingSurroundings plainBackend {} plainRoute (fileRequest "a.jpg")).run
      { gate := ⟨1, 0, 0⟩ }).1 = Response.plain 422 "Failed to process image" := by
  have hcomes := comesTo_first
    (show (formOf {} (fileRequest "a.jpg") [88]).parts = [filePart "a.jpg"] by decide +kernel)
  have himage : Deposit.HoldsImage (filePart "a.jpg") firstDraft "a.jpg" :=
    ⟨⟨"f", by decide +kernel, by decide, nofun⟩, by decide +kernel, by decide,
      (FileName.hasMetadata_iff "a.jpg").1 (by decide)⟩
  obtain ⟨-, hfailed, -⟩ :=
    handle_of_image fresh_failing unused_failing started_failing hcomes himage
  obtain ⟨hfiles, stream, -, -, -, -, hanswer⟩ := hfailed (.inl ⟨rfl, rfl⟩) nofun
  refine ⟨hfiles, hanswer fun hnot => absurd rfl (hnot
    ["tmp", "a.jpg-a0123456789a4def8123456789abcde0"]
    { folders := [[], ["tmp"]]
      files := [(["tmp", "a.jpg-a0123456789a4def8123456789abcde0"], [])]
      touched := [["tmp", "a.jpg-a0123456789a4def8123456789abcde0"]] } ?_ ?_)⟩
  · decide +kernel
  · decide +kernel

/-! ### An image that cannot be stored -/

/-- The file name of an image, of so many letters. -/
def letters (n : Nat) : String := String.ofList (List.replicate n 'a') ++ ".jpg"

lemma toList_letters (n : Nat) : (letters n).toList = List.replicate n 'a' ++ ".jpg".toList := by
  simp [letters]

lemma fileName?_filePart {fileName : String}
    (hfound : ∀ header, header = Utf8.encode ("form-data; name=\"f\"; filename=\"" ++ fileName
        ++ "\"") →
      Disposition.attributeLoop (Utf8.encode "filename") (header.length + 1) none header
        = some (Utf8.encode fileName)) :
    (filePart fileName).fileName? = some fileName := by
  show Disposition.attribute? _ _ = _
  rw [Disposition.attribute?, hfound _ rfl]
  exact Utf8.decode?_encode fileName

lemma holdsImage_letters :
    Deposit.HoldsImage (filePart (letters 230)) firstDraft (letters 230) := by
  refine ⟨⟨"f", by decide +kernel, by decide, nofun⟩, fileName?_filePart ?_, ?_, ?_⟩
  · rintro _ rfl
    decide +kernel
  · have hsize : (letters 230).utf8ByteSize = 234 := by decide +kernel
    have hdot : letters 230 ≠ "." := fun h => absurd (h ▸ hsize) (by decide)
    have hup : letters 230 ≠ ".." := fun h => absurd (h ▸ hsize) (by decide)
    rw [FileName.isIllegal, toList_letters, beq_eq_false_iff_ne.2 hdot, beq_eq_false_iff_ne.2 hup]
    decide +kernel
  · rw [← FileName.hasMetadata_iff, FileName.hasMetadata, toList_letters]
    decide +kernel

/-- **A program that fails is not always told of.**  The program fails on an image, which is not
larger than a file may be.  But the name of the file is too long, and the client is told that the
proxy failed. -/
theorem failed_of_overlongName :
    Stripping.Started (failingSurroundings.program "exiftool") failingSurroundings.environment .all
      (fun _ => failure) ∧
    ComesTo failingSurroundings plainBackend {} plainRoute (fileRequest (letters 230)) {}
      { gate := ⟨1, 0, 0⟩ } (filePart (letters 230)) firstDraft (firstSite (letters 230)) ∧
    Deposit.HoldsImage (filePart (letters 230)) firstDraft (letters 230) ∧
    Stripping.Served .all ⟨(filePart (letters 230)).data, none⟩ ∧
    failure.ending ≠ .exits (.code 0) ∧
    Storage.exceeds none failure.output.deliver.bytes.length = false ∧
    ((handle failingSurroundings plainBackend {} plainRoute (fileRequest (letters 230))).run
      { gate := ⟨1, 0, 0⟩ }).1.head.status = 500 := by
  have hcomes := comesTo_first (show (formOf {} (fileRequest (letters 230)) [88]).parts
    = [filePart (letters 230)] by decide +kernel)
  have himage := holdsImage_letters
  have hserved : Stripping.Served .all ⟨(filePart (letters 230)).data, none⟩ := .inl ⟨rfl, rfl⟩
  refine ⟨started_failing, hcomes, himage, hserved, nofun, rfl, ?_⟩
  obtain ⟨last, -, hends, hturned⟩ :=
    hcomes.handle_of_fault fresh_failing unused_failing started_failing himage
  obtain ⟨event, rfl⟩ := hends.failed.2 ⟨hserved, nofun⟩
  obtain ⟨error, hrefusal, -, hwhy⟩ := hturned _ rfl
  have hnot := Storage.unwritable_of_overlong (Deposit.not_mem_of_isIllegal himage.legal)
    (fresh_failing.label 1).not_mem_slash (by decide +kernel) (firstSite (letters 230)).disk "/tmp"
    (Storage.poured none (Deposit.cleaned failure (some (.notStripped event))))
  obtain ⟨-, cause, rfl⟩ := hwhy.resolve_right fun hother => hother.1 hnot
  rw [hrefusal]
  rfl

end Upload

end Intercept
