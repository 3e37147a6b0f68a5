/-
# Names that collide

The names that a client may not use are those of the fields that were written, while the
application reads the names back.  A name with a backslash is read back as another one, with its
backslashes doubled, and that one is not reserved.  So a part of the client can have the name of a
field that was written before it, and it can for every file whose part has a backslash in its name.
No other name is affected, whatever the form.
-/
import Intercept.Proofs.Upload.NewForm

namespace Intercept

namespace Deposit

variable {surroundings : Surroundings} {settings : Settings} {site after : Site}
variable {name ending fileName : String} {headers : Headers} {data : Bytes}
variable {entries : List Entry}

/-! ### Endings -/

/-- With what a name ends, and what stands before it, is told by the name. -/
lemma append_ending_inj {front other : String} (hending : ending ∈ endings)
    {another : String} (hanother : another ∈ endings) (h : front ++ ending = other ++ another) :
    front = other ∧ ending = another := by
  have hlong : ∀ e ∈ endings, 2 ≤ e.toList.reverse.length := by
    decide
  have hlast : ∀ e ∈ endings, ∀ e' ∈ endings,
      e.toList.reverse.take 2 = e'.toList.reverse.take 2 → e = e' := by
    decide
  have hchars : ending.toList.reverse ++ front.toList.reverse
      = another.toList.reverse ++ other.toList.reverse := by
    rw [← List.reverse_append, ← List.reverse_append, ← String.toList_append,
      ← String.toList_append, h]
  -- no two endings have their last two characters in common
  have htwo := congrArg (List.take 2) hchars
  rw [List.take_append_of_le_length (hlong ending hending),
    List.take_append_of_le_length (hlong another hanother)] at htwo
  obtain rfl := hlast ending hending another hanother htwo
  exact ⟨(String.append_left_inj ending).1 h, rfl⟩

/-- No ending has a backslash. -/
lemma not_mem_ending (hending : ending ∈ endings) : '\\' ∉ ending.toList := by
  revert ending
  decide

lemma getLast?_ending (hending : ending ∈ endings) (name : String) :
    (Utf8.encode (name ++ ending)).getLast? ≠ some 92 := by
  have hbytes : ∀ e ∈ endings,
      (Utf8.encode e).getLast? ≠ none ∧ (Utf8.encode e).getLast? ≠ some 92 := by
    decide +kernel
  obtain ⟨hsome, hne⟩ := hbytes ending hending
  obtain ⟨b, hlast⟩ := Option.ne_none_iff_exists'.1 hsome
  rw [Utf8.encode_append, List.getLast?_append, hlast, Option.some_or]
  rwa [hlast] at hne

/-- The name that a field of a file is read back with. -/
lemma fieldName?_described (hending : ending ∈ endings) (name : String) :
    Disposition.fieldName? [(Header.contentDisposition, Disposition.written (name ++ ending))]
      = some (Disposition.doubled (name ++ ending)) :=
  Disposition.fieldName?_written (getLast?_ending hending name)

/-! ### Collisions -/

/-- Among the entries a copied part with these headers stands behind a field that describes a file,
and the field's name is a name with an ending. -/
def Behind (name ending : String) (headers : Headers) (entries : List Entry) : Prop :=
  ∃ before value between data behind,
    entries = before ++ .described name ending value :: between ++ .copied headers data :: behind

/-- Only the fields of a stored file are described. -/
lemma Rewritten.mem_endings {disk : Disk} {n : Nat} {contents : List (Headers × Bytes)}
    {value : String} (h : Rewritten surroundings settings disk n contents entries)
    (hmem : .described name ending value ∈ entries) : ending ∈ endings := by
  induction h with
  | nil => cases hmem
  | dropped hname hrest ih => exact ih hmem
  | copied hname hfile hrest ih =>
    rcases List.mem_cons.1 hmem with heq | hmem
    · cases heq
    · exact ih hmem
  | stored hname hne hfile hfileName hnew hread hkept hrest ih =>
    rcases List.mem_append.1 hmem with hmem | hmem
    · simp only [descriptions, List.mem_cons, List.not_mem_nil, or_false, Entry.described.injEq]
        at hmem
      rcases hmem with ⟨-, rfl, -⟩ | ⟨-, rfl, -⟩ | ⟨-, rfl, -⟩ | ⟨-, rfl, -⟩ | ⟨-, rfl, -⟩
      all_goals simp [endings]
    · exact ih hmem

/-- A copied part behind a field is read back with the name of the field exactly if the field's name
has a backslash and the part is called like it with the backslashes doubled. -/
lemma Guarded.fieldName?_eq_iff (hguarded : Guarded [] entries) (hending : ending ∈ endings)
    (hbehind : Behind name ending headers entries) :
    Disposition.fieldName? headers
        = Disposition.fieldName? [(Header.contentDisposition, Disposition.written (name ++ ending))]
      ↔ '\\' ∈ name.toList ∧
        Disposition.fieldName? headers = some (Disposition.doubled (name ++ ending)) := by
  rw [fieldName?_described hending]
  refine ⟨fun hsame => ⟨?_, hsame⟩, And.right⟩
  by_contra hnone
  obtain ⟨before, value, between, data, behind, rfl⟩ := hbehind
  -- without a backslash the name is read back as it is, and then it is reserved
  have hwhole : '\\' ∉ (name ++ ending).toList := by
    rw [String.toList_append, List.mem_append, not_or]
    exact ⟨hnone, not_mem_ending hending⟩
  rw [Disposition.doubled_of_not_mem hwhole] at hsame
  exact hguarded.ne hsame

/-! ### A part that collides -/

/-- A header value that gives an empty file name, and then a name that is put down as in
`Disposition.written`. -/
def plain (name : String) : Bytes :=
  Utf8.encode "form-data; filename=\"\"; name=\"" ++ Disposition.escaped (Utf8.encode name) ++ [34]

lemma encode_plainOpening : Utf8.encode "form-data; filename=\"\"; name=\""
    = [102, 111, 114, 109, 45, 100, 97, 116, 97, 59, 32, 102, 105, 108, 101, 110, 97, 109, 101, 61,
        34, 34, 59, 32, 110, 97, 109, 101, 61, 34] := by
  decide +kernel

lemma encode_filename : Utf8.encode "filename" = [102, 105, 108, 101, 110, 97, 109, 101] := by
  decide +kernel

lemma length_plain (name : String) :
    (plain name).length = (Disposition.escaped (Utf8.encode name)).length + 31 := by
  rw [plain, encode_plainOpening]
  simp only [List.length_append, List.length_cons, List.length_nil]
  omega

lemma fieldName?_plain (hlast : (Utf8.encode name).getLast? ≠ some 92) :
    Disposition.fieldName? [(Header.contentDisposition, plain name)]
      = some (Disposition.doubled name) := by
  have hloop : ∀ fuel, Disposition.attributeLoop (Utf8.encode "name") (fuel + 25) none (plain name)
      = some (Utf8.encode (Disposition.doubled name)) := by
    intro fuel
    rw [plain, encode_plainOpening, Disposition.encode_name, ← Disposition.value?_escaped hlast]
    simp [Disposition.attributeLoop, List.isPrefixOf, Disposition.isBlank]
  have hlength : (plain name).length + 1
      = (Disposition.escaped (Utf8.encode name)).length + 7 + 25 := by
    rw [length_plain]
  rw [Disposition.fieldName?, Disposition.first?_contentDisposition, Option.bind_some,
    Disposition.attribute?, hlength, hloop]
  exact Utf8.decode?_encode _

lemma fileName?_plain (name : String) :
    Disposition.fileName? [(Header.contentDisposition, plain name)] = some "" := by
  have hloop : ∀ fuel, Disposition.attributeLoop (Utf8.encode "filename") (fuel + 12) none
      (plain name) = some [] := by
    intro fuel
    rw [plain, encode_plainOpening, encode_filename]
    simp [Disposition.attributeLoop, List.isPrefixOf, Disposition.isBlank, Disposition.value?,
      Disposition.quoted?, Disposition.unescaped]
  have hlength : (plain name).length + 1
      = (Disposition.escaped (Utf8.encode name)).length + 20 + 12 := by
    rw [length_plain]
  rw [Disposition.fileName?, Disposition.first?_contentDisposition, Option.bind_some,
    Disposition.attribute?, hlength, hloop]
  rfl

lemma clean_plain (hname : ∀ b ∈ Utf8.encode name, Header.isValueByte b = true) :
    HeaderBlock.Clean [(Header.contentDisposition, plain name)] := by
  have hkey : Header.contentDisposition ≠ [] ∧
      Header.contentDisposition.all Header.isNameByte = true ∧
      Header.contentDisposition.map Bytes.lower = Header.contentDisposition := by
    decide +kernel
  have hopening : ∀ b ∈ Utf8.encode "form-data; filename=\"\"; name=\"",
      Header.isValueByte b = true := List.all_eq_true.1 (by decide +kernel)
  have hvalue : ∀ b ∈ plain name, Header.isValueByte b = true := by
    intro b hb
    rw [plain, List.mem_append, List.mem_append, List.mem_singleton] at hb
    rcases hb with (hb | hb) | rfl
    · exact hopening b hb
    · exact Disposition.isValueByte_escaped hname b hb
    · rfl
  have htrimmed : Bytes.trim HeaderBlock.isBlank (plain name) = plain name := by
    refine Bytes.trim_eq_self (fun b hb => ?_) (fun b hb => ?_)
    · rw [plain, encode_plainOpening] at hb
      obtain rfl := Option.some.inj hb
      rfl
    · rw [plain, List.getLast?_append] at hb
      obtain rfl := Option.some.inj hb
      rfl
  refine ⟨by simp [Headers.names], fun header hheader => ?_, by simp [HeaderBlock.maxHeaders]⟩
  obtain rfl := List.mem_singleton.1 hheader
  exact ⟨hkey.1, List.all_eq_true.1 hkey.2.1, hkey.2.2, hvalue, htrimmed⟩

/-- A part with such a header. -/
def plainPart (name : String) (data : Bytes) : Part :=
  ⟨[(Header.contentDisposition, plain name)], [data], none⟩

/-! ### A form that collides -/

/-- The names that are reserved when a file has been described. -/
lemma mem_reserved_describe {file : StoredFile} {draft : Draft} {key : String} :
    key ∈ (describe name file draft).reserved.names ↔
      key = name ∨ (∃ ending ∈ endings, key = name ++ ending) ∨ key ∈ draft.reserved.names := by
  simp only [describe, StoredFile.fields, List.foldl_cons, List.foldl_nil, ReservedNames.insert,
    List.mem_cons, endings, exists_eq_or_imp, List.not_mem_nil, or_false, exists_eq_left]
  tauto

/-- With its backslashes doubled a field's name is not reserved. -/
lemma doubled_not_reserved (hback : '\\' ∈ name.toList) (hending : ending ∈ endings)
    (file : StoredFile) (writer : FormWriter) :
    (describe name file { writer }).reserved.contains (Disposition.doubled (name ++ ending))
      = false := by
  have hlonger := Disposition.length_lt_doubled hback
  rw [Disposition.doubled_append, Disposition.doubled_of_not_mem (not_mem_ending hending),
    ReservedNames.contains, ← Bool.not_eq_true, List.contains_iff_mem, mem_reserved_describe]
  rintro (heq | ⟨another, hanother, heq⟩ | hmem)
  · -- it is longer than the name itself
    have hlength := congrArg (fun key => key.toList.length) heq
    simp only [String.toList_append, List.length_append] at hlength
    omega
  · -- it is longer than what stands before an ending
    obtain ⟨heq, -⟩ := append_ending_inj hending hanother heq
    rw [heq] at hlonger
    exact Nat.lt_irrefl _ hlonger
  · cases hmem

/-- A part that was taken in and holds a file was stored. -/
lemma Taken.eq_describe {part : Part} {draft next : Draft}
    (h : Taken surroundings settings part draft site next after) (hname : part.name? = some name)
    (hne : name ≠ "") (hfile : part.fileName? = some fileName) (hfileName : fileName ≠ "") :
    ∃ file, next = describe name file draft := by
  cases h with
  | dropped hnot =>
    rw [isNamed_iff.2 ⟨name, hname, hne⟩] at hnot
    cases hnot
  | copied _ _ _ hnone =>
    rw [hfile, Option.filter_some, if_pos (by simpa using hfileName)] at hnone
    cases hnone
  | @stored other otherFile m bytes place _ hother hotherNe hotherFile =>
    rw [hname] at hother
    obtain rfl := Option.some.inj hother
    exact ⟨_, rfl⟩

/-- If one part is taken in, the rest is gone on with. -/
lemma takeParts_cons {part : Part} {rest : List Part} {draft next : Draft}
    (htake : (takePart surroundings settings part draft).run site = ((next, none), after)) :
    (takeParts surroundings settings (part :: rest) draft).run site
      = (takeParts surroundings settings rest next).run after := by
  rw [takeParts, Run.run_bind, htake]

lemma takePart_of_takeParts {part : Part} {draft next : Draft}
    (htake : (takeParts surroundings settings [part] draft).run site = ((next, none), after)) :
    (takePart surroundings settings part draft).run site = ((next, none), after) := by
  obtain ⟨middle, later, hfirst, hrest⟩ := takeParts_ok_cons htake
  exact hfirst.trans hrest

/-- A part that holds no file and has no reserved name is copied. -/
lemma takePart_of_no_file {part : Part} {draft : Draft} (hname : part.name? = some name)
    (hne : name ≠ "") (hreserved : draft.reserved.contains name = false)
    (hfile : (part.fileName?.filter fun fileName => !fileName.isEmpty) = none) :
    (takePart surroundings settings part draft).run site = (copy part draft, site) := by
  have hnonempty : (!name.isEmpty) = true := by simpa using hne
  rw [takePart, hname, Option.filter_some, if_pos hnonempty]
  simp only [hreserved, Bool.false_eq_true, if_false, hfile]
  rfl

lemma make_of_takeParts {form : Form} {next : Draft}
    (htake : (takeParts surroundings settings form.parts
      { writer := .start surroundings.chance.boundary }).run site = ((next, none), after))
    (hfault : form.fault = none) :
    (make surroundings settings form).run site = (⟨next.index, .ok next.writer⟩, after) := by
  rw [make, Run.run_bind, htake]
  simp only [hfault]
  rfl

/-- What becomes of a file and of a part behind it that holds none. -/
lemma Rewritten.eq_descriptions {disk : Disk} {n : Nat} {other : Headers} {more : Bytes}
    (h : Rewritten surroundings settings disk n [(headers, data), (other, more)] entries)
    (hname : Disposition.fieldName? headers = some name) (hne : name ≠ "")
    (hfile : Disposition.fileName? headers = some fileName) (hfileName : fileName ≠ "")
    (hother : Form.isNamed other = true) (hnone : Disposition.fileName? other = some "") :
    ∃ file, entries = descriptions name file ++ [.copied other more] := by
  cases h with
  | dropped hnot =>
    rw [isNamed_iff.2 ⟨name, hname, hne⟩] at hnot
    cases hnot
  | copied _ hnot =>
    rw [hfile, Option.filter_some, if_pos (by simpa using hfileName)] at hnot
    cases hnot
  | stored hsame _ _ _ _ _ _ hrest =>
    rw [hname] at hsame
    obtain rfl := Option.some.inj hsame
    cases hrest with
    | dropped hnot => exact absurd hother (Bool.eq_false_iff.1 hnot)
    | copied _ _ hend =>
      cases hend
      exact ⟨_, rfl⟩
    | stored _ _ hsome hsomeNe =>
      rw [hnone] at hsome
      exact absurd (Option.some.inj hsome).symm hsomeNe

/-- Behind the fields of a file a part is behind each of them. -/
lemma behind_descriptions (hending : ending ∈ endings) (file : StoredFile) :
    Behind name ending headers (descriptions name file ++ [.copied headers data]) := by
  simp only [endings, List.mem_cons, List.not_mem_nil, or_false] at hending
  rcases hending with rfl | rfl | rfl | rfl | rfl
  · exact ⟨[], _, _, data, [], rfl⟩
  · exact ⟨[_], _, _, data, [], rfl⟩
  · exact ⟨[_, _], _, _, data, [], rfl⟩
  · exact ⟨[_, _, _], _, _, data, [], rfl⟩
  · exact ⟨[_, _, _, _], _, [], data, [], rfl⟩

/-- A form is accepted, and the new form is read as these entries, which are what `Rewritten` makes
of the contents. -/
def IsMadeInto (surroundings : Surroundings) (settings : Settings) (site : Site) (form : Form)
    (entries : List Entry) : Prop :=
  ∃ deposit after writer, (make surroundings settings form).run site = (deposit, after) ∧
    deposit.form = .ok writer ∧
    Rewritten surroundings settings after.disk site.saves form.contents entries ∧
    IsReadAs writer entries

/-- A copied part behind a field of a file is read back with the name of the field. -/
def Collides (name ending : String) (entries : List Entry) : Prop :=
  ∃ headers, Behind name ending headers entries ∧
    Disposition.fieldName? headers
      = Disposition.fieldName? [(Header.contentDisposition, Disposition.written (name ++ ending))]

lemma ne_empty_of_backslash (hback : '\\' ∈ name.toList) : name ≠ "" := by
  rintro rfl
  exact absurd hback (by decide)

/-- With its backslashes doubled a field's name is not empty. -/
lemma doubled_ne_empty (hback : '\\' ∈ name.toList) :
    Disposition.doubled (name ++ ending) ≠ "" := by
  have hlonger := Disposition.length_lt_doubled
    (show '\\' ∈ (name ++ ending).toList from by
      rw [String.toList_append]
      exact List.mem_append_left _ hback)
  intro hempty
  rw [hempty] at hlonger
  exact Nat.not_lt_zero _ hlonger

/-- Behind a file with a backslash in its part's name a part is copied whose name is that of a field
with the backslashes doubled. -/
lemma takePart_plainPart (hback : '\\' ∈ name.toList) (hending : ending ∈ endings)
    (file : StoredFile) (writer : FormWriter) (data : Bytes) :
    (takePart surroundings settings (plainPart (name ++ ending) data)
      (describe name file { writer })).run site
        = (((copy (plainPart (name ++ ending) data) (describe name file { writer })).1, none),
            site) := by
  have hname : (plainPart (name ++ ending) data).name?
      = some (Disposition.doubled (name ++ ending)) :=
    fieldName?_plain (getLast?_ending hending name)
  have hfile : ((plainPart (name ++ ending) data).fileName?.filter
      fun fileName => !fileName.isEmpty) = none := by
    rw [Part.fileName?, plainPart, fileName?_plain]
    rfl
  exact takePart_of_no_file hname (doubled_ne_empty hback)
    (doubled_not_reserved hback hending file writer) hfile

/-- If a form of one file with a backslash in its part's name is accepted, then for each of the
fields it is accepted with a part that collides with it. -/
lemma make_colliding (hfresh : surroundings.chance.Fresh) {file : Part}
    (hclean : HeaderBlock.Clean file.headers) (hname : file.name? = some name)
    (hback : '\\' ∈ name.toList) (hfile : file.fileName? = some fileName)
    (hfileName : fileName ≠ "")
    {deposit : Deposit} {writer : FormWriter}
    (hrun : (make surroundings settings ⟨[file], none⟩).run site = (deposit, after))
    (hform : deposit.form = .ok writer) (hending : ending ∈ endings) (data : Bytes) :
    ∃ entries, IsMadeInto surroundings settings site
        ⟨[file, plainPart (name ++ ending) data], none⟩ entries ∧
      Collides name ending entries := by
  have hne := ne_empty_of_backslash hback
  have hbytes := isValueByte_append_ending (isValueByte_of_fieldName? hclean hname) hending
  have hkey := fieldName?_plain (getLast?_ending hending name)
  have hparts : ∀ part ∈ [file, plainPart (name ++ ending) data],
      HeaderBlock.Clean part.headers := by
    intro part hpart
    rcases List.mem_cons.1 hpart with rfl | hpart
    · exact hclean
    · exact List.mem_singleton.1 hpart ▸ clean_plain hbytes
  -- the file is stored, and the other part is copied behind its fields
  obtain ⟨-, next, htake, -⟩ := takeParts_of_make hrun hform
  have hfirst := takePart_of_takeParts htake
  obtain ⟨stored, rfl⟩ := (takePart_taken hfresh hfirst).eq_describe hname hne hfile hfileName
  have hboth : (takeParts surroundings settings [file, plainPart (name ++ ending) data]
      { writer := .start surroundings.chance.boundary }).run site
        = (((copy (plainPart (name ++ ending) data) (describe name stored
            { writer := .start surroundings.chance.boundary })).1, none), after) := by
    rw [takeParts_cons hfirst, takeParts_cons (takePart_plainPart hback hending stored _ data)]
    rfl
  have hmake := make_of_takeParts
    (show (takeParts surroundings settings
      (Form.mk [file, plainPart (name ++ ending) data] none).parts _).run site = _ from hboth) rfl
  obtain ⟨-, entries, hrewritten, -, hread⟩ := rewritten_of_make hfresh hparts hmake rfl
  obtain ⟨described, rfl⟩ := hrewritten.eq_descriptions hname hne hfile hfileName
    (isNamed_iff.2 ⟨_, hkey, doubled_ne_empty hback⟩) (fileName?_plain _)
  exact ⟨_, ⟨_, after, _, hmake, rfl, hrewritten, hread⟩, _, behind_descriptions hending _,
    hkey.trans (fieldName?_described hending name).symm⟩

/-- The form of a client that sends these parts in one piece. -/
def posted (boundary : Bytes) (limit : Nat) (contents : List (Headers × Bytes)) : Form :=
  Form.readNamed ⟨boundary, limit⟩ (Stream.once (FormWriter.holding boundary contents).finish)

/-- What is sent is read, if all parts have a name and no data holds the delimiter. -/
lemma posted_eq {boundary : Bytes} (hboundary : 13 ∉ boundary) {limit : Nat}
    {contents : List (Headers × Bytes)}
    (hcontents : ∀ content ∈ contents, HeaderBlock.Clean content.1 ∧
      Form.isNamed content.1 = true ∧
      Bytes.occursIn (Form.Settings.dataEnd ⟨boundary, limit⟩) content.2 = false)
    (hlimit : (FormWriter.holding boundary contents).finish.length ≤ limit) :
    posted boundary limit contents
      = ⟨contents.map fun (headers, data) => ⟨headers, [data], none⟩, none⟩ := by
  have hne : ∀ content ∈ contents, HeaderBlock.Clean content.1 ∧ content.1 ≠ [] := by
    intro content hcontent
    obtain ⟨hclean, hnamed, -⟩ := hcontents content hcontent
    refine ⟨hclean, fun hnil => ?_⟩
    rw [hnil] at hnamed
    cases hnamed
  have hsay := FormWriter.says_holding boundary hne
  have hwriter := FormWriter.boundary_holding boundary contents
  rw [posted, Form.readNamed]
  generalize FormWriter.holding boundary contents = writer at hsay hwriter hlimit
  subst hwriter
  exact FormWriter.readWhere_finish hsay hboundary
    (fun content hcontent => (hcontents content hcontent).2.2)
    (fun content hcontent => (hcontents content hcontent).2.1) hlimit

/-- A file with a backslash in its part's name that may be sent may be sent with a part behind it
that collides with a field. -/
lemma posted_colliding (hfresh : surroundings.chance.Fresh) {boundary : Bytes}
    (hboundary : 13 ∉ boundary) {limit : Nat} {file : Headers} {more : Bytes}
    (hclean : HeaderBlock.Clean file) (hname : Disposition.fieldName? file = some name)
    (hback : '\\' ∈ name.toList) (hfile : Disposition.fileName? file = some fileName)
    (hfileName : fileName ≠ "") (hending : ending ∈ endings) :
    let collider := [(Header.contentDisposition, plain (name ++ ending))]
    (FormWriter.holding boundary [(file, data), (collider, more)]).finish.length ≤ limit →
    Bytes.occursIn (Form.Settings.dataEnd ⟨boundary, limit⟩) data = false →
    Bytes.occursIn (Form.Settings.dataEnd ⟨boundary, limit⟩) more = false →
    ((make surroundings settings (posted boundary limit [(file, data)])).run site).1.form.isOk →
    ∃ entries, IsMadeInto surroundings settings site
        (posted boundary limit [(file, data), (collider, more)]) entries ∧
      Collides name ending entries := by
  intro collider hlimit hdata hmore haccepted
  have hne := ne_empty_of_backslash hback
  have hbytes := isValueByte_append_ending (isValueByte_of_fieldName? hclean hname) hending
  have hcollider : Form.isNamed collider = true :=
    isNamed_iff.2 ⟨_, fieldName?_plain (getLast?_ending hending name), doubled_ne_empty hback⟩
  have hcontents : ∀ content ∈ [(file, data), (collider, more)],
      HeaderBlock.Clean content.1 ∧ Form.isNamed content.1 = true ∧
        Bytes.occursIn (Form.Settings.dataEnd ⟨boundary, limit⟩) content.2 = false := by
    intro content hcontent
    rcases List.mem_cons.1 hcontent with rfl | hcontent
    · exact ⟨hclean, isNamed_iff.2 ⟨name, hname, hne⟩, hdata⟩
    · obtain rfl := List.mem_singleton.1 hcontent
      exact ⟨clean_plain hbytes, hcollider, hmore⟩
  have hone : posted boundary limit [(file, data)] = ⟨[⟨file, [data], none⟩], none⟩ := by
    have hfirst : ∀ content ∈ [(file, data)], content ∈ [(file, data), (collider, more)] :=
      fun content hcontent => List.mem_cons.2 (.inl (List.mem_singleton.1 hcontent))
    exact posted_eq hboundary (fun content hcontent => hcontents content (hfirst content hcontent))
      ((FormWriter.length_finish_holding_le boundary _ (collider, more)).trans hlimit)
  have htwo : posted boundary limit [(file, data), (collider, more)]
      = ⟨[⟨file, [data], none⟩, plainPart (name ++ ending) more], none⟩ :=
    posted_eq hboundary hcontents hlimit
  have hpart : (Part.mk file [data] none).name? = some name := hname
  rw [hone] at haccepted
  rw [htwo]
  rcases hrun : (make surroundings settings ⟨[⟨file, [data], none⟩], none⟩).run site
    with ⟨deposit, after⟩
  rw [hrun] at haccepted
  cases hform : deposit.form with
  | error error =>
    rw [hform] at haccepted
    cases haccepted
  | ok writer =>
    exact make_colliding hfresh hclean hpart hback hfile hfileName hrun hform hending more

/-- **Which parts collide.**  Whenever a client's form is rewritten, a part that is copied behind a
field of a file is read back with the name of the field exactly if the file's part has a backslash
in its name and the copied part is called like the field with all backslashes doubled.

For every such name, this happens: if a file is accepted whose part has a backslash in its name,
then for each of the fields it is accepted with a part behind it that collides with the field. -/
theorem collision_iff_doubled (hfresh : surroundings.chance.Fresh) {client : Headers}
    {boundary : Bytes} (hboundary : client.boundary? = some boundary) (limit : Nat) (site : Site) :
    (∀ {stream : Stream String} {deposit : Deposit} {after : Site} {writer : FormWriter},
      (make surroundings settings (Form.readNamed ⟨boundary, limit⟩ stream)).run site
        = (deposit, after) →
      deposit.form = .ok writer →
      let body := stream.deliver.bytes
      let parts := Form.read ⟨boundary, body.length⟩ (Stream.once body)
      ∃ entries,
        Rewritten surroundings settings after.disk site.saves parts.contents entries ∧
        IsReadAs writer entries ∧
        ∀ name ending headers, Behind name ending headers entries →
          (Disposition.fieldName? headers = Disposition.fieldName?
              [(Header.contentDisposition, Disposition.written (name ++ ending))] ↔
            '\\' ∈ name.toList ∧
              Disposition.fieldName? headers = some (Disposition.doubled (name ++ ending)))) ∧
    ∀ {file : Headers} {name fileName ending : String} {data more : Bytes},
      HeaderBlock.Clean file →
      Disposition.fieldName? file = some name → '\\' ∈ name.toList →
      Disposition.fileName? file = some fileName → fileName ≠ "" →
      ending ∈ endings →
      let collider := [(Header.contentDisposition, plain (name ++ ending))]
      (FormWriter.holding boundary [(file, data), (collider, more)]).finish.length ≤ limit →
      Bytes.occursIn (Form.Settings.dataEnd ⟨boundary, limit⟩) data = false →
      Bytes.occursIn (Form.Settings.dataEnd ⟨boundary, limit⟩) more = false →
      ((make surroundings settings (posted boundary limit [(file, data)])).run site).1.form.isOk →
      ∃ entries, IsMadeInto surroundings settings site
          (posted boundary limit [(file, data), (collider, more)]) entries ∧
        Collides name ending entries := by
  have hreturn := Headers.not_mem_boundary hboundary
  constructor
  · intro stream deposit after writer hrun hform body parts
    obtain ⟨-, entries, hrewritten, hguarded, hread⟩ :=
      rewritten_of_make_readNamed hfresh hboundary hrun hform
    refine ⟨entries, hrewritten, hread, fun name ending headers hbehind => ?_⟩
    have hending : ending ∈ endings := by
      obtain ⟨before, value, between, data, behind, hentries⟩ := hbehind
      have hmem : Entry.described name ending value ∈ entries := by
        rw [hentries]
        simp
      exact hrewritten.mem_endings hmem
    exact hguarded.fieldName?_eq_iff hending hbehind
  · exact fun hclean hname hback hfile hfileName hending =>
      posted_colliding hfresh hreturn hclean hname hback hfile hfileName hending

/-- The headers of a file whose part has a backslash in its name. -/
def backslashHeaders : Headers :=
  [(Header.contentDisposition, Utf8.encode "form-data; name=\"a\\b\"; filename=\"f\"")]

theorem collision_iff_doubled_backslash :
    ∃ entries, IsMadeInto drawnSurroundings plainSettings { gate := ⟨1, 0, 0⟩ }
        (posted [88] 1000 [(backslashHeaders, [100]),
          ([(Header.contentDisposition, plain ("a\\b" ++ ".path"))], [47])]) entries ∧
      Collides "a\\b" ".path" entries := by
  have hboundary : Headers.boundary?
      [(Header.contentType, Utf8.encode "multipart/form-data; boundary=X")] = some [88] := by
    decide +kernel
  have hnames : Disposition.fieldName? backslashHeaders = some "a\\b" ∧
      Disposition.fileName? backslashHeaders = some "f" := by
    decide +kernel
  have hparse : HeaderBlock.parse? (Utf8.encode
      "Content-Disposition: form-data; name=\"a\\b\"; filename=\"f\"\r\n\r\n")
        = some backslashHeaders := by
    decide +kernel
  have haccepted : ((make drawnSurroundings plainSettings
      (posted [88] 1000 [(backslashHeaders, [100])])).run { gate := ⟨1, 0, 0⟩ }).1.form.isOk := by
    decide +kernel
  exact (collision_iff_doubled fresh_drawnSurroundings hboundary 1000 _).2
    (HeaderBlock.parse?_clean hparse) hnames.1
    (by decide) hnames.2 (by decide) (by decide) (by decide +kernel) (by decide +kernel)
    (by decide +kernel) haccepted

end Deposit

end Intercept
