/-
# Handing on the new form

When a form was rewritten, the index of its files goes into the headers and the request is handed on.
That can only fail if the index does not fit into a header.  Names come from headers themselves, and
labels are digits, so it depends on the folder alone.  Where it fails, the files stay on the disk
although nothing refers to them.
-/
import Intercept.Proofs.Backend
import Intercept.Proofs.Upload.Cleanup
import Intercept.Proofs.Upload.Handling

namespace Intercept

namespace Deposit

variable {surroundings : Surroundings} {settings : Settings} {site after : Site} {n : Nat}

/-! ### What the index holds -/

/-- A text that was read from clean headers does not hold the control character that JSON does not
escape. -/
lemma bareControl_not_mem {headers : Headers} (hclean : HeaderBlock.Clean headers) {text : String}
    (hread : ∃ header ∈ headers, ∀ b ∈ Utf8.encode text, b ∈ header.2) :
    Json.bareControl ∉ text.toList := by
  intro hmem
  obtain ⟨header, hheader, hsubset⟩ := hread
  have hbyte : (127 : UInt8) ∈ Utf8.encode text :=
    (Utf8.mem_encode_iff (c := Json.bareControl) (by decide) rfl).2 hmem
  exact absurd ((hclean.legible header hheader).value 127 (hsubset 127 hbyte)) (by decide)

/-- A legal name that holds no such character makes a path that holds it where the folder does. -/
lemma bareControl_mem_storedPath (hfresh : surroundings.chance.Fresh) {fileName : String}
    (hlegal : FileName.isIllegal fileName = false) (hname : Json.bareControl ∉ fileName.toList) :
    Json.bareControl ∈ (storedPath surroundings settings fileName n).toList ↔
      Json.bareControl ∈ (settings.grant.directory.getD settings.transform.directory).toList := by
  have hlabel : Json.bareControl ∉ (surroundings.chance.label n).toList :=
    (hfresh.label n).not_mem (b := 127) (by decide) rfl (by decide)
  have hnone : Json.bareControl ∉ (labelled fileName (surroundings.chance.label n)).toList := by
    rw [toList_labelled, List.mem_append, List.mem_cons]
    rintro (hmem | hmem | hmem)
    · exact hname hmem
    · exact absurd hmem (by decide)
    · exact hlabel hmem
  have hrelative : Path.isAbsolute (labelled fileName (surroundings.chance.label n)) = false := by
    rw [Path.isAbsolute, beq_eq_false_iff_ne, toList_labelled]
    intro hfirst
    have hslash : '/' ∈ fileName.toList ++ '-' :: (surroundings.chance.label n).toList :=
      List.mem_of_head? hfirst
    rw [List.mem_append, List.mem_cons] at hslash
    rcases hslash with hslash | hslash | hslash
    · exact not_mem_of_isIllegal hlegal hslash
    · exact absurd hslash (by decide)
    · exact (hfresh.label n).not_mem_slash hslash
  have hseparator : Json.bareControl ∉ "/".toList := by decide
  rw [storedPath, Path.join, hrelative]
  simp only [Bool.false_eq_true, if_false]
  split
  · rw [String.toList_append, List.mem_append, or_iff_left hnone]
  · rw [String.toList_append, String.toList_append, List.mem_append, List.mem_append,
      or_iff_left hnone, or_iff_left hseparator]

variable {contents : List (Headers × Bytes)} {entries : List Entry}
variable {files : List (Disk.Place × Bytes)}

/-- What is reported of a stored file fits into a header where the folder does. -/
lemma Deposited.reported (hfresh : surroundings.chance.Fresh) {disk : Disk}
    (h : Deposited surroundings settings disk n contents entries files)
    (hclean : ∀ content ∈ contents, HeaderBlock.Clean content.1) :
    ∀ report ∈ reports entries, Json.bareControl ∉ report.1.toList ∧
      (Json.bareControl ∈ report.2.toList ↔
        Json.bareControl ∈ (settings.grant.directory.getD settings.transform.directory).toList) := by
  induction h with
  | nil => exact List.forall_mem_nil _
  | dropped _ _ ih => exact ih (List.forall_mem_cons.1 hclean).2
  | copied _ _ _ ih => exact ih (List.forall_mem_cons.1 hclean).2
  | stored hname _ hfile _ hlegal _ _ _ _ ih =>
    obtain ⟨hheaders, hrest⟩ := List.forall_mem_cons.1 hclean
    rw [reports_descriptions, List.forall_mem_cons]
    have hfileName := bareControl_not_mem hheaders (Disposition.fileName?_subset hfile)
    exact ⟨⟨bareControl_not_mem hheaders (Disposition.fieldName?_subset hname),
      bareControl_mem_storedPath hfresh hlegal hfileName⟩, ih hrest⟩

/-- The index of the files of a form fits into a header unless there are files and their folder has
the control character that JSON does not escape. -/
lemma Remade.fits_iff (hfresh : surroundings.chance.Fresh) {index : FileIndex}
    {writer : FormWriter}
    (h : Remade surroundings settings contents site index writer after entries files)
    (hclean : ∀ content ∈ contents, HeaderBlock.Clean content.1) :
    index.Fits ↔ ¬ (files ≠ [] ∧
      Json.bareControl ∈ (settings.grant.directory.getD settings.transform.directory).toList) := by
  have hreported := h.deposited.reported hfresh hclean
  have hlength := h.deposited.found.length_eq
  constructor
  · rintro hfits ⟨hsome, hfolder⟩
    obtain ⟨front, last, hlast⟩ : ∃ front last, reports entries = front ++ [last] := by
      refine (List.eq_nil_or_concat' (reports entries)).resolve_left fun hnil => hsome ?_
      rw [hnil] at hlength
      exact List.eq_nil_of_length_eq_zero hlength
    have hmem : last ∈ index.entries := by
      rw [h.index, hlast]
      exact FileIndex.mem_recordAll_concat
    have hreport : last ∈ reports entries := hlast ▸ List.mem_append_right _ List.mem_cons_self
    exact (hfits last hmem).2 ((hreported last hreport).2.2 hfolder)
  · intro hnot entry hentry
    rw [h.index] at hentry
    obtain hnone | hreport := FileIndex.mem_recordAll hentry
    · cases hnone
    · obtain ⟨hname, hpath⟩ := hreported entry hreport
      refine ⟨hname, fun hmem => hnot ⟨fun hnil => ?_, hpath.1 hmem⟩⟩
      rw [hnil] at hlength
      rw [List.eq_nil_of_length_eq_zero hlength.symm] at hreport
      cases hreport

end Deposit

namespace Upload

variable {surroundings : Surroundings} {backend : Backend} {uploads : Config.Uploads}
variable {route : Route} {request : Request} {boundary : Bytes} {grant : Grant}
variable {site later after : Site} {index : FileIndex} {writer : FormWriter}

/-! ### Handing on -/

/-- A request with its new form and the index of its files. -/
def rewritten (request : Request) (index : FileIndex) (writer : FormWriter) : Request :=
  { request with
    headers := framed writer (request.headers.set Header.multipartFields index.toJson.render)
    body := Stream.once writer.finish }

lemma sent_deliver (surroundings : Surroundings) (backend : Backend) (processor : String)
    (request : Request) (writer : FormWriter) (site : Site) (hfits : index.Fits) :
    ∃ journal, ((deliver surroundings backend processor request index writer).run site).2
      = { site with
          sent := backend.directed (rewritten request index writer) :: site.sent
          journal } := by
  rw [deliver, FileIndex.announce?_of_fits hfits]
  obtain ⟨journal, hforward⟩ := Backend.run_forward surroundings.application backend
    (rewritten request index writer) (site.logged ⟨.info, "Forwarding rewritten upload",
      [("request_id", request.headers.requestId), ("processor", processor),
        ("files", toString index.count)]⟩)
  exact ⟨journal, hforward⟩

lemma run_deliver_of_not_fits (hfits : ¬ index.Fits) (processor : String) (site : Site) :
    (deliver surroundings backend processor request index writer).run site
      = (.failed, site.logged (Response.failedEvent request.headers.requestId unfitIndex)) := by
  rw [deliver, FileIndex.announce?_of_not_fits hfits]
  rfl

/-- Asking for permission leaves the disk alone, and begins no files. -/
lemma disk_ask {application : Application} {uri : Uri} {headers : Headers}
    {found : Except AuthorizationError Authorization}
    (hask : (Authorization.ask application backend uri headers).run site = (found, later)) :
    later.disk = site.disk ∧ later.saves = site.saves ∧ later.scratches = site.scratches := by
  rw [Authorization.ask] at hask
  split at hask
  · obtain rfl := congrArg Prod.snd hask
    exact ⟨rfl, rfl, rfl⟩
  · rw [Run.run_bind, Backend.run_send] at hask
    split at hask
    · obtain rfl := congrArg Prod.snd hask
      exact ⟨rfl, rfl, rfl⟩
    · obtain rfl := congrArg Prod.snd hask
      exact ⟨rfl, rfl, rfl⟩

/-- **What becomes of a form that was rewritten.**  An upload was allowed, and its form was rewritten.
Then there is one more file on the disk for each part that holds one.  The request is handed on with
the new form, unless there are such files and the folder in which they are stored has the control
character that JSON does not escape.  In this case the client is told that the proxy failed, nothing
is sent, and the files stay. -/
theorem handle_of_rewritten (hfresh : surroundings.chance.Fresh)
    (hunused : site.Unused surroundings.chance)
    (hboundary : request.headers.boundary? = some boundary)
    (hask : (Authorization.ask surroundings.application backend request.uri request.headers).run
      site = (.ok (.granted grant), later)) {deposit : Deposit}
    (hmake : (Deposit.make surroundings (settingsFor uploads route request grant)
      (formOf uploads request boundary)).run (counted route later) = (deposit, after))
    (hform : deposit.form = .ok writer) :
    let body := request.body.deliver.bytes
    let contents := (Form.read ⟨boundary, body.length⟩ (Stream.once body)).contents
    let outcome := (handle surroundings backend uploads route request).run site
    ∃ files : List (Disk.Place × Bytes),
      files.length = (contents.filter fun content => Deposit.holdsFile content.1).length ∧
      outcome.2.disk.files = site.disk.files ++ files ∧ Disk.Beside site.disk.files files ∧
      if files ≠ [] ∧ Json.bareControl ∈ (grant.directory.getD uploads.directory).toList then
        outcome.1 = .failed ∧ outcome.2.sent = later.sent
      else outcome.2.sent
        = backend.directed (rewritten request deposit.index writer) :: later.sent := by
  intro body contents outcome
  obtain ⟨hnone, entries, files, h⟩ :=
    Deposit.remade_of_make_readNamed hfresh hboundary hmake hform
  have hclean : ∀ content ∈ contents, HeaderBlock.Clean content.1 :=
    Form.clean_of_mem_contents (Headers.not_mem_boundary hboundary) hnone
  obtain ⟨hdisk, hsaves, hscratches⟩ := disk_ask hask
  have hcounted : (counted route later).disk.files = site.disk.files := congrArg Disk.files hdisk
  obtain ⟨-, hfiles, hbeside⟩ := h.added (hunused.congr hcounted hsaves.ge hscratches.ge)
  rw [hcounted] at hfiles hbeside
  have houtcome : outcome
      = (deliver surroundings backend route.processor request deposit.index writer).run after := by
    rw [show outcome = _ from handle_granted hboundary hask hmake, hform]
  have hsent := sent_of_make hmake
  have hfits := h.fits_iff hfresh hclean
  refine ⟨files, h.deposited.length_files, ?_⟩
  by_cases hunfit : files ≠ [] ∧
      Json.bareControl ∈ (grant.directory.getD uploads.directory).toList
  · rw [if_pos hunfit, houtcome, run_deliver_of_not_fits fun hfit => hfits.1 hfit hunfit]
    exact ⟨hfiles, hbeside, rfl, hsent⟩
  · obtain ⟨journal, hdeliver⟩ := sent_deliver surroundings backend route.processor request writer
      after (hfits.2 hunfit)
    rw [if_neg hunfit, houtcome, hdeliver]
    exact ⟨hfiles, hbeside, congrArg _ hsent⟩

/-! ### A folder that does not fit into a header -/

/-- What an application answers that names a folder with a control character. -/
def controlFolder : String := "\x7b\"TempPath\":\"up\\u007f\"\x7d"

/-- A request with a form that holds one file. -/
def oneFileRequest : Request := ⟨"POST", ⟨none, none, "/uploads", none⟩,
  [(Header.contentType, Utf8.encode "multipart/form-data; boundary=X")],
  Stream.once (Utf8.encode ("--X\r\nContent-Disposition: form-data; name=\"f\"; filename=\"t\""
    ++ "\r\n\r\ndata\r\n--X--\r\n"))⟩

theorem handle_of_rewritten_controlFolder :
    ((handle (grantingSurroundings controlFolder) plainBackend {} plainRoute oneFileRequest).run
      { gate := ⟨1, 0, 0⟩ }).1 = .failed ∧
    ((handle (grantingSurroundings controlFolder) plainBackend {} plainRoute oneFileRequest).run
      { gate := ⟨1, 0, 0⟩ }).2.sent = (allowedSite controlFolder oneFileRequest).sent ∧
    ((handle (grantingSurroundings controlFolder) plainBackend {} plainRoute oneFileRequest).run
      { gate := ⟨1, 0, 0⟩ }).2.disk.files ≠ [] := by
  have hfresh : (grantingSurroundings controlFolder).chance.Fresh := Deposit.fresh_drawnSurroundings
  have hunused : Site.Unused (grantingSurroundings controlFolder).chance { gate := ⟨1, 0, 0⟩ } :=
    List.forall_mem_nil _
  have hboundary : oneFileRequest.headers.boundary? = some [88] := by decide +kernel
  have hask := ask_granting (by decide)
    (show Grant.decode? (Utf8.encode controlFolder) = some ⟨some "up\x7f", false, none⟩ by
      decide +kernel)
    (show (Authorization.request? oneFileRequest.uri oneFileRequest.headers).isSome = true by
      decide +kernel)
  have haccepted : ((Deposit.make (grantingSurroundings controlFolder)
      (settingsFor {} plainRoute oneFileRequest ⟨some "up\x7f", false, none⟩)
      (formOf {} oneFileRequest [88])).run
        (counted plainRoute (allowedSite controlFolder oneFileRequest))).1.form.toOption.isSome
          = true := by
    decide +kernel
  rcases hmake : (Deposit.make (grantingSurroundings controlFolder)
    (settingsFor {} plainRoute oneFileRequest ⟨some "up\x7f", false, none⟩)
    (formOf {} oneFileRequest [88])).run
      (counted plainRoute (allowedSite controlFolder oneFileRequest)) with ⟨deposit, after⟩
  rw [hmake] at haccepted
  obtain ⟨writer, hform⟩ := Deposit.exists_of_isSome haccepted
  obtain ⟨files, hlength, hfiles, -, hanswer⟩ :=
    handle_of_rewritten hfresh hunused hboundary hask hmake hform
  have hone : ((Form.read ⟨[88], oneFileRequest.body.deliver.bytes.length⟩
      (Stream.once oneFileRequest.body.deliver.bytes)).contents.filter fun content =>
        Deposit.holdsFile content.1).length = 1 := by
    decide +kernel
  have hsome : files ≠ [] := by
    rintro rfl
    cases hlength.trans hone
  rw [if_pos ⟨hsome, by decide⟩] at hanswer
  rw [hfiles]
  exact ⟨hanswer.1, hanswer.2, List.append_ne_nil_of_right_ne_nil _ hsome⟩

end Upload

end Intercept
