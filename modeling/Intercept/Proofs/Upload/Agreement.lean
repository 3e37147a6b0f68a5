/-
# The header, the form and the disk agree

When a form was rewritten, the application is told of each file three times: a header lists where it
is, fields of the new form describe it, and the file itself is on the disk.  These are put together by
different means, but they agree: for each part that holds a file, and for nothing else, there is one
entry of the list and one field of each kind, and the file is where both of them say.

In the list a name is a JSON string, and in the form it is a quoted string with an ending.  Both are
made so that any name can be read from them (`Json.parse?_render`, `Disposition.unquoted_escaped`).
-/
import Intercept.Proofs.Json.Reader
import Intercept.Proofs.Upload.Authorization
import Intercept.Proofs.Upload.Injection

namespace Intercept

namespace Deposit

variable {surroundings : Surroundings} {settings : Settings} {site after : Site} {disk : Disk}
variable {n : Nat} {contents : List (Headers × Bytes)} {entries : List Entry}

/-! ### The names of the files -/

/-- Parts without a name hold no file. -/
lemma fileFields_filter_isNamed (all : List Headers) :
    fileFields (all.filter Form.isNamed) = fileFields all := by
  rw [fileFields, List.filterMap_filter, fileFields]
  refine List.filterMap_congr fun headers _ => ?_
  cases hname : Form.isNamed headers with
  | false => rw [if_neg Bool.false_ne_true, fileField?_of_not_named hname]
  | true => rw [if_pos rfl]

/-- Where a form was rewritten, the parts that hold a file have different names. -/
lemma nodup_fileFields_of_make {headers : Headers} {boundary : Bytes}
    (hboundary : headers.boundary? = some boundary) {limit : Nat} {stream : Stream String}
    {deposit : Deposit} {writer : FormWriter}
    (hrun : (make surroundings settings (Form.readNamed ⟨boundary, limit⟩ stream)).run site
      = (deposit, after))
    (hform : deposit.form = .ok writer) :
    let body := stream.deliver.bytes
    let contents := (Form.read ⟨boundary, body.length⟩ (Stream.once body)).contents
    (fileFields (contents.map Prod.fst)).Nodup := by
  intro body contents
  obtain ⟨hfault, next, htake, -, -⟩ := takeParts_of_make hrun hform
  have hnamed : (Form.readNamed ⟨boundary, limit⟩ stream).contents
      = contents.filter fun content => Form.isNamed content.1 :=
    (Form.readWhere_contents (Headers.not_mem_boundary hboundary) hfault le_rfl).2
  have hheaders : (Form.readNamed ⟨boundary, limit⟩ stream).parts.map Part.headers
      = (contents.map Prod.fst).filter Form.isNamed := by
    have hsame := congrArg (List.map Prod.fst) hnamed
    rw [Form.contents, List.map_map] at hsame
    rw [List.filter_map]
    exact hsame
  rw [← fileFields_filter_isNamed, ← hheaders]
  exact (nodup_fileFields_of_takeParts htake).1

/-- What is reported are the names of the parts that hold a file. -/
lemma Rewritten.names_reports (h : Rewritten surroundings settings disk n contents entries) :
    (reports entries).map Prod.fst = fileFields (contents.map Prod.fst) := by
  induction h with
  | nil => rfl
  | dropped hname _ ih =>
    rw [ih, List.map_cons, fileFields_cons_of_none (fileField?_of_not_named hname)]
  | copied hname hfile _ ih =>
    rw [reports_copied, ih, List.map_cons,
      fileFields_cons_of_none (fileField?_of_no_file hfile)]
  | stored hname hne hfile hfileName _ _ _ _ ih =>
    rw [reports_descriptions, List.map_cons, ih, List.map_cons,
      fileFields_cons_of_file hname hne hfile hfileName]

/-! ### What is said of a file -/

/-- Of a file under a name, a list tells the path that a field gives, and other fields tell the length
and the digest of what is found there. -/
def Told (disk : Disk) (listed fields : List (String × String)) (name : String) : Prop :=
  ∃ path bytes, (name, path) ∈ listed ∧ (name ++ ".path", path) ∈ fields ∧
    disk.read path = .ok bytes ∧ (name ++ ".size", toString bytes.length) ∈ fields ∧
    (name ++ ".sha256", Sha256.hex bytes) ∈ fields

lemma Told.mono {listed more fields others : List (String × String)} {name : String}
    (h : Told disk listed fields name) (hlisted : listed ⊆ more) (hfields : fields ⊆ others) :
    Told disk more others name := by
  obtain ⟨path, bytes, hpath, hfield, hread, hsize, hdigest⟩ := h
  exact ⟨path, bytes, hlisted hpath, hfields hfield, hread, hfields hsize, hfields hdigest⟩

/-- Of every file a new form tells where it is, and what is there. -/
lemma Rewritten.told (h : Rewritten surroundings settings disk n contents entries) :
    ∀ name ∈ fileFields (contents.map Prod.fst),
      Told disk (reports entries) (writtenFields entries) name := by
  induction h with
  | nil => exact List.forall_mem_nil _
  | dropped hname _ ih =>
    rwa [List.map_cons, fileFields_cons_of_none (fileField?_of_not_named hname)]
  | copied hname hfile _ ih =>
    rwa [List.map_cons, fileFields_cons_of_none (fileField?_of_no_file hfile)]
  | @stored n m headers data bytes name fileName rest entries hname hne hfile hfileName _ hread _ _
      ih =>
    rw [List.map_cons, fileFields_cons_of_file hname hne hfile hfileName, List.forall_mem_cons,
      reports_descriptions, writtenFields_descriptions]
    refine ⟨⟨_, bytes, List.mem_cons_self, ?_, hread, ?_, ?_⟩, fun other hother => ?_⟩
    · simp [StoredFile.fields]
    · simp [StoredFile.fields, Deposit.stored]
    · simp [StoredFile.fields, Deposit.stored]
    · exact (ih other hother).mono (List.subset_cons_self _ _) (List.subset_append_right _ _)

/-- A part of a form gives the name, as a quoted string in which a backslash stands for the byte behind
it, and the value of a field. -/
def IsField (content : Headers × Bytes) (name value : String) : Prop :=
  ∃ quoted, content.1
      = [(Header.contentDisposition, Utf8.encode "form-data; name=\"" ++ quoted ++ [34])] ∧
    Disposition.unquoted quoted = Utf8.encode name ∧ content.2 = Utf8.encode value

/-- The fields that describe files are parts of the new form. -/
lemma exists_isField {field : String × String} (h : field ∈ writtenFields entries) :
    ∃ content ∈ entries.map Entry.content, IsField content field.1 field.2 := by
  obtain ⟨entry, hentry, hfield⟩ := List.mem_filterMap.1 h
  cases entry with
  | copied headers data => cases hfield
  | described name ending value =>
    obtain rfl := Option.some.inj hfield
    exact ⟨_, List.mem_map_of_mem hentry, _, rfl, Disposition.unquoted_escaped _, rfl⟩

end Deposit

namespace Upload

variable {surroundings : Surroundings} {backend : Backend} {uploads : Config.Uploads}
variable {route : Route} {request asked forwarded : Request} {boundary : Bytes} {site : Site}

/-! ### Requests that are handed on -/

/-- If something is sent once an upload was allowed, it is the new form. -/
lemma sent_rewritten {grant : Grant} {later after : Site} {deposit : Deposit}
    (hboundary : request.headers.boundary? = some boundary)
    (hask : (Authorization.ask surroundings.application backend request.uri request.headers).run
      site = (.ok (.granted grant), later))
    (hmake : (Deposit.make surroundings (settingsFor uploads route request grant)
      (formOf uploads request boundary)).run (counted route later) = (deposit, after))
    (hmore : ((handle surroundings backend uploads route request).run site).2.sent
      ≠ later.sent) :
    ∃ writer, deposit.form = .ok writer ∧
      ((handle surroundings backend uploads route request).run site).2.sent
        = backend.directed (rewritten request deposit.index writer) :: later.sent ∧
      ((handle surroundings backend uploads route request).run site).2.disk = after.disk := by
  have hsame : after.sent = later.sent := sent_of_make hmake
  rw [handle_granted hboundary hask hmake] at hmore ⊢
  cases hform : deposit.form with
  | error error =>
    obtain ⟨event, hrefuse⟩ := run_refuse request.headers.requestId error after
    simp only [hform, hrefuse] at hmore
    exact absurd hsame hmore
  | ok writer =>
    simp only [hform] at hmore ⊢
    by_cases hfits : deposit.index.Fits
    · obtain ⟨journal, hdeliver⟩ := sent_deliver surroundings backend route.processor request
        writer after hfits
      rw [hdeliver, ← hsame]
      exact ⟨writer, rfl, rfl, rfl⟩
    · rw [run_deliver_of_not_fits hfits] at hmore
      exact absurd hsame hmore

/-- What has become of an upload when a request was sent behind the one that asks: its form was
rewritten, and the request brings the new form. -/
lemma exists_make_of_sent (hboundary : request.headers.boundary? = some boundary)
    (hsent : ((handle surroundings backend uploads route request).run site).2.sent
      = forwarded :: asked :: site.sent) :
    ∃ grant later deposit after writer,
      (Authorization.ask surroundings.application backend request.uri request.headers).run site
        = (.ok (.granted grant), later) ∧
      (Deposit.make surroundings (settingsFor uploads route request grant)
        (formOf uploads request boundary)).run (counted route later) = (deposit, after) ∧
      deposit.form = .ok writer ∧
      forwarded = backend.directed (rewritten request deposit.index writer) ∧
      ((handle surroundings backend uploads route request).run site).2.disk = after.disk := by
  have hhandled : Handled surroundings backend request site
    ((handle surroundings backend uploads route request).run site) := handled_of_boundary hboundary
  have hlength : ((handle surroundings backend uploads route request).run site).2.sent.length
      = site.sent.length + 2 := congrArg List.length hsent
  generalize hrun : (handle surroundings backend uploads route request).run site = outcome
    at hhandled hlength
  -- only a form that is handed on comes behind the request that asks
  cases hhandled with
  | unasked hnone events => exact absurd hlength (by simp)
  | notAllowed hasked hnot events => exact absurd hlength (by simp)
  | refused hasked hreply hallows hrefusal hsent => exact absurd hlength (by simp [hsent])
  | @handedOn question _ _ _ _ _ _ hasked hreply hallows _ _ =>
    obtain ⟨grant, hask⟩ := ask_of_allows hasked hreply hallows
    rcases hmake : (Deposit.make surroundings (settingsFor uploads route request grant)
      (formOf uploads request boundary)).run (counted route
        { site with sent := backend.directed question :: site.sent }) with ⟨deposit, after⟩
    obtain ⟨writer, hform, hnew, hdisk⟩ := sent_rewritten hboundary hask hmake fun hsame => by
      rw [← hrun, hsame] at hlength
      simp at hlength
    rw [hsent] at hnew
    exact ⟨grant, _, deposit, after, writer, hask, hmake, hform, (List.cons.inj hnew).1,
      hrun ▸ hdisk⟩

/-! ### What is handed on -/

variable {entries : List Deposit.Entry} {index : FileIndex} {writer : FormWriter}

/-- Headers say how to read a body with these entries. -/
structure Framed (headers : Headers) (entries : List Deposit.Entry) (body fresh : Bytes) :
    Prop where
  length : headers.values Header.contentLength = [Utf8.encode (toString body.length)]
  encoding : headers.values Header.transferEncoding = []
  type : headers.values Header.contentType
    = [Utf8.encode "multipart/form-data; boundary=" ++ fresh]
  boundary : headers.boundary? = some fresh
  /-- The boundary is the one that the parts of the body stand between. -/
  delimits : FormWriter.Delimits fresh body (entries.map Deposit.Entry.content)
  /-- With this boundary the body is read as the entries, if no data holds its delimiter. -/
  reads : ∀ room, body.length ≤ room →
    (∀ entry ∈ entries,
      Bytes.occursIn (Form.Settings.dataEnd ⟨fresh, room⟩) entry.content.2 = false) →
    (Form.read ⟨fresh, room⟩ (Stream.once body)).fault = none ∧
    (Form.read ⟨fresh, room⟩ (Stream.once body)).contents = entries.map Deposit.Entry.content

lemma names_distinct : Header.contentType ≠ Header.contentLength ∧
    Header.contentType ≠ Header.transferEncoding ∧
    Header.contentLength ≠ Header.transferEncoding ∧
    Header.multipartFields ≠ Header.contentType ∧
    Header.multipartFields ≠ Header.contentLength ∧
    Header.multipartFields ≠ Header.transferEncoding := by
  decide +kernel

/-- The list of the files keeps its one value when the body is described. -/
lemma values_multipartFields_rewritten (request : Request) (index : FileIndex)
    (writer : FormWriter) :
    (rewritten request index writer).headers.values Header.multipartFields
      = [index.toJson.render] := by
  obtain ⟨-, -, -, htype, hlength, hencoding⟩ := names_distinct
  rw [rewritten, framed, Headers.values_set_of_ne htype, Headers.values_set_of_ne hlength,
    Headers.values_without_of_ne hencoding, Headers.values_set_self]

lemma framed_rewritten (request : Request) (index : FileIndex)
    (hannounced : Headers.boundary? [(Header.contentType, writer.contentType)]
      = some writer.boundary)
    (hsay : writer.Says (entries.map Deposit.Entry.content))
    (hread : Deposit.IsReadAs writer entries) :
    Framed (rewritten request index writer).headers entries writer.finish writer.boundary := by
  obtain ⟨hlength, hencoding, hother, -, -, -⟩ := names_distinct
  have htype : (rewritten request index writer).headers.values Header.contentType
      = [writer.contentType] := Headers.values_set_self _ _ _
  refine ⟨?_, ?_, htype, ?_, hsay.delimits, ?_⟩
  · rw [rewritten, framed, Headers.values_set_of_ne hlength.symm, Headers.values_set_self]
  · rw [rewritten, framed, Headers.values_set_of_ne hencoding.symm,
      Headers.values_set_of_ne hother.symm, Headers.values_without_self]
  · rw [← hannounced]
    refine Headers.boundary?_congr (htype.trans ?_)
    simp [Headers.values]
  · obtain ⟨fresh, hfresh, hreads⟩ := hread
    obtain rfl := Option.some.inj (hannounced.symm.trans hfresh)
    exact hreads

/-- What a form, its headers and the disk say of files with some names: a header lists where each of
them is, and the fields of the form that describe them say the same, and what is there. -/
structure Agrees (names : List String) (disk : Disk) (headers : Headers)
    (entries : List Deposit.Entry) (listed : List (String × String)) : Prop where
  /-- There is one list of the files, which is a JSON object. -/
  header : ∃ value, headers.values Header.multipartFields = [value] ∧
    Json.parse? value = some (.object (Json.textMembers listed))
  /-- Its keys are the names of the files. -/
  keys : ∀ name, name ∈ listed.map Prod.fst ↔ name ∈ names
  nodup_keys : (listed.map Prod.fst).Nodup
  nodup_fields : ((Deposit.writtenFields entries).map Prod.fst).Nodup
  written : ∀ field ∈ Deposit.writtenFields entries,
    ∃ content ∈ entries.map Deposit.Entry.content, Deposit.IsField content field.1 field.2
  told : ∀ name ∈ names, Deposit.Told disk listed (Deposit.writtenFields entries) name

lemma agrees_rewritten {settings : Deposit.Settings} {disk : Disk} {n : Nat}
    {contents : List (Headers × Bytes)} (request : Request) (writer : FormWriter)
    (hnodup : (Deposit.fileFields (contents.map Prod.fst)).Nodup)
    (h : Deposit.Rewritten surroundings settings disk n contents entries) :
    Agrees (Deposit.fileFields (contents.map Prod.fst)) disk
      (rewritten request (FileIndex.recordAll {} (Deposit.reports entries)) writer).headers entries
      (FileIndex.recordAll {} (Deposit.reports entries)).entries := by
  have hnames := h.names_reports
  have hperm : (FileIndex.recordAll {} (Deposit.reports entries)).entries.Perm
      (Deposit.reports entries ++ []) :=
    FileIndex.recordAll_perm (hnames ▸ hnodup) (List.forall_mem_nil _)
  rw [List.append_nil] at hperm
  have hkeys := hperm.map Prod.fst
  rw [hnames] at hkeys
  refine ⟨⟨_, values_multipartFields_rewritten _ _ _, Json.parse?_render ?_⟩,
    fun name => hkeys.mem_iff, hkeys.nodup_iff.2 hnodup, ?_,
    fun field => Deposit.exists_isField, fun name hname => ?_⟩
  · exact Json.written_textMembers _
  · rw [h.names_writtenFields]
    exact Deposit.nodup_flatMap_endings hnodup
  · exact (h.told name hname).mono hperm.symm.subset (List.Subset.refl _)

/-- **Header, form and disk agree.**  An upload was handed on, so that a request was sent behind the
one that asks the application.  Its body is a new form, which is what `Rewritten` makes of the
client's form, and its headers say how to read it.  It has one list of files, whatever the client
sent under this name.  For each part of the client that holds a file, and for nothing else, the list
and the new form tell the same path, and the file there has the length and the digest that the new
form tells. -/
theorem forwarded_agrees (hfresh : surroundings.chance.Fresh)
    (hboundary : request.headers.boundary? = some boundary)
    (hsent : ((handle surroundings backend uploads route request).run site).2.sent
      = forwarded :: asked :: site.sent) :
    let sent := request.body.deliver.bytes
    let contents := (Form.read ⟨boundary, sent.length⟩ (Stream.once sent)).contents
    let names := Deposit.fileFields (contents.map Prod.fst)
    let disk := ((handle surroundings backend uploads route request).run site).2.disk
    names.Nodup ∧ ∃ grant entries listed body fresh,
      Deposit.Rewritten surroundings (settingsFor uploads route request grant) disk site.saves
        contents entries ∧
      Agrees names disk forwarded.headers entries listed ∧
      forwarded.body = Stream.once body ∧ Framed forwarded.headers entries body fresh := by
  intro sent contents names disk
  obtain ⟨grant, later, deposit, after, writer, hask, hmake, hform, rfl, hdisk⟩ :=
    exists_make_of_sent hboundary hsent
  obtain ⟨-, entries, files, h⟩ := Deposit.remade_of_make_readNamed hfresh hboundary hmake hform
  have hnodup : names.Nodup := Deposit.nodup_fileFields_of_make hboundary hmake hform
  have hsaves : (counted route later).saves = site.saves := (disk_ask hask).2.1
  have hrewritten := h.deposited.rewritten
  rw [hsaves, ← hdisk] at hrewritten
  refine ⟨hnodup, grant, entries, deposit.index.entries, writer.finish, writer.boundary, hrewritten,
    ?_, rfl, ?_⟩
  · rw [h.index]
    exact agrees_rewritten request writer hnodup hrewritten
  · exact framed_rewritten request deposit.index h.announced h.written h.readable

/-- A request with a list of files from the client, and with two files. -/
def forgedRequest : Request := ⟨"POST", ⟨none, none, "/uploads", none⟩,
  [(Header.multipartFields, Utf8.encode "\x7b\"a\":\"/etc/passwd\"\x7d"),
    (Header.transferEncoding, Utf8.encode "chunked"),
    (Header.contentType, Utf8.encode "multipart/form-data; boundary=X"),
    (Header.multipartFields, Utf8.encode "[]")],
  Stream.once (Utf8.encode (
    "--X\r\nContent-Disposition: form-data; name=\"a.name\"; filename=\"t\"\r\n\r\ndata"
    ++ "\r\n--X\r\nContent-Disposition: form-data; name=\"é\\\"\"; filename=\"u\""
    ++ "\r\n\r\nmore\r\n--X--\r\n"))⟩

theorem forwarded_agrees_forged :
    ∃ forwarded asked entries listed,
      ((handle (grantingSurroundings "\x7b\x7d") plainBackend {} plainRoute forgedRequest).run
        { gate := ⟨1, 0, 0⟩ }).2.sent = [forwarded, asked] ∧
      Agrees ["a.name", "é\""]
        ((handle (grantingSurroundings "\x7b\x7d") plainBackend {} plainRoute forgedRequest).run
          { gate := ⟨1, 0, 0⟩ }).2.disk forwarded.headers entries listed := by
  have hfresh : (grantingSurroundings "\x7b\x7d").chance.Fresh := Deposit.fresh_drawnSurroundings
  have hboundary : forgedRequest.headers.boundary? = some [88] := by decide +kernel
  have hlength : ((handle (grantingSurroundings "\x7b\x7d") plainBackend {} plainRoute
      forgedRequest).run { gate := ⟨1, 0, 0⟩ }).2.sent.length = 2 := by
    decide +kernel
  have hnames : Deposit.fileFields ((Form.read ⟨[88], forgedRequest.body.deliver.bytes.length⟩
      (Stream.once forgedRequest.body.deliver.bytes)).contents.map Prod.fst)
        = ["a.name", "é\""] := by
    decide +kernel
  obtain ⟨forwarded, asked, hsent⟩ := List.length_eq_two.1 hlength
  obtain ⟨-, grant, entries, listed, body, fresh, -, hagrees, -, -⟩ :=
    forwarded_agrees hfresh hboundary hsent
  rw [hnames] at hagrees
  exact ⟨forwarded, asked, entries, listed, hsent, hagrees⟩

end Upload

end Intercept
