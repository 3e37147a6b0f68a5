/-
# The new form

What the application gets instead of a client's form.  The form of the client is taken as all of
its bytes say, and the new form as the bytes that were written say, so that neither the way in which
the one arrived nor the way in which the other was put together matters.
-/
import Intercept.Proofs.Http.MediaType
import Intercept.Proofs.Upload.Deposit

namespace Intercept

namespace Deposit

variable {surroundings : Surroundings} {settings : Settings} {site after : Site}

/-- Parts without a name may be left out before the rest is taken in. -/
lemma deposited_of_filter {disk : Disk} {n : Nat} {contents : List (Headers × Bytes)}
    {entries : List Entry} {files : List (Disk.Place × Bytes)}
    (h : Deposited surroundings settings disk n
      (contents.filter fun (headers, _) => Form.isNamed headers) entries files) :
    Deposited surroundings settings disk n contents entries files := by
  induction contents generalizing n entries files with
  | nil => exact h
  | cons content rest ih =>
    obtain ⟨headers, data⟩ := content
    cases hname : Form.isNamed headers with
    | false =>
      rw [List.filter_cons, if_neg (Bool.eq_false_iff.1 hname)] at h
      exact .dropped hname (ih h)
    | true =>
      rw [List.filter_cons, if_pos hname] at h
      cases h with
      | dropped hnot hrest => exact .dropped hnot (ih hrest)
      | copied hnamed hfile hrest => exact .copied hnamed hfile (ih hrest)
      | stored hfield hne hfile hfileName hlegal hnew hfound hmade hrest =>
        exact .stored hfield hne hfile hfileName hlegal hnew hfound hmade (ih hrest)

/-- A form that is not turned down was read to its end, and all its parts were taken in. -/
lemma takeParts_of_make {form : Form} {deposit : Deposit} {writer : FormWriter}
    (hrun : (make surroundings settings form).run site = (deposit, after))
    (hform : deposit.form = .ok writer) :
    form.fault = none ∧ ∃ next,
      (takeParts surroundings settings form.parts
        { writer := .start surroundings.chance.boundary }).run site = ((next, none), after) ∧
      next.writer = writer ∧ deposit.index = next.index := by
  rw [make, Run.run_bind] at hrun
  rcases htake : (takeParts surroundings settings form.parts
    { writer := .start surroundings.chance.boundary }).run site with ⟨⟨next, failure⟩, later⟩
  rw [htake] at hrun
  cases failure with
  | some error =>
    obtain ⟨rfl, -⟩ := Prod.mk.inj hrun
    cases hform
  | none =>
    cases hfault : form.fault with
    | some error =>
      simp only [hfault] at hrun
      obtain ⟨rfl, -⟩ := Prod.mk.inj hrun
      cases hform
    | none =>
      simp only [hfault] at hrun
      obtain ⟨rfl, rfl⟩ := Prod.mk.inj hrun
      exact ⟨rfl, next, rfl, Except.ok.inj hform, rfl⟩

lemma exists_of_isSome {deposit : Deposit} (h : deposit.form.toOption.isSome = true) :
    ∃ writer, deposit.form = .ok writer := by
  cases hform : deposit.form with
  | error error =>
    rw [hform] at h
    cases h
  | ok writer => exact ⟨writer, rfl⟩

/-- A hexadecimal digit may stand in a boundary. -/
lemma isWordByte_of_hex {b : UInt8} (hb : (Bytes.hexValue? b).isSome = true) :
    MediaType.isWordByte b = true := by
  have hne : b ≠ 42 := by
    rintro rfl
    exact absurd hb (by decide)
  have hname : Header.isNameByte b = true := by
    unfold Bytes.hexValue? at hb
    simp only [Header.isNameByte, Bool.or_eq_true, Bool.and_eq_true, decide_eq_true_eq]
    split at hb
    · next hdigit => exact .inl (.inl (.inl hdigit))
    · split at hb
      · next hsmall =>
        have hletter : b ≤ 122 := UInt8.le_trans hsmall.2 (show (102 : UInt8) ≤ 122 by decide)
        exact .inl (.inr ⟨hsmall.1, hletter⟩)
      · split at hb
        · next hcapital =>
          have hletter : b ≤ 90 := UInt8.le_trans hcapital.2 (show (70 : UInt8) ≤ 90 by decide)
          exact .inl (.inl (.inr ⟨hcapital.1, hletter⟩))
        · cases hb
  rw [MediaType.isWordByte, hname, Bool.true_and, bne_iff_ne]
  exact hne

/-- What is written is announced with a boundary, and is read as the entries: to its end, in their
order and nothing else, if the delimiter of this boundary occurs in no data and in no value. -/
def IsReadAs (writer : FormWriter) (entries : List Entry) : Prop :=
  ∃ fresh, Headers.boundary? [(Header.contentType, writer.contentType)] = some fresh ∧
    ∀ room, writer.finish.length ≤ room →
      (∀ entry ∈ entries,
        Bytes.occursIn (Form.Settings.dataEnd ⟨fresh, room⟩) entry.content.2 = false) →
      (Form.read ⟨fresh, room⟩ (Stream.once writer.finish)).fault = none ∧
      (Form.read ⟨fresh, room⟩ (Stream.once writer.finish)).contents = entries.map Entry.content

/-- What is known when a form with some contents was rewritten: the entries of the new form, the files
that were stored, and the index of these files. -/
structure Remade (surroundings : Surroundings) (settings : Settings)
    (contents : List (Headers × Bytes)) (site : Site) (index : FileIndex) (writer : FormWriter)
    (after : Site) (entries : List Entry) (files : List (Disk.Place × Bytes)) : Prop where
  deposited : Deposited surroundings settings after.disk site.saves contents entries files
  guarded : Guarded [] entries
  readable : IsReadAs writer entries
  written : writer.Says (entries.map Entry.content)
  announced : Headers.boundary? [(Header.contentType, writer.contentType)] = some writer.boundary
  index : index = FileIndex.recordAll {} (reports entries)
  added : site.Unused surroundings.chance → after.Unused surroundings.chance ∧
    after.disk.files = site.disk.files ++ files ∧ Disk.Beside site.disk.files files

/-- The boundary of a new form is drawn, so it consists of bytes that make up a word. -/
lemma TakenIn.isWordByte {parts : List Part} {next : Draft} {entries : List Entry}
    {files : List (Disk.Place × Bytes)} (hfresh : surroundings.chance.Fresh)
    (h : TakenIn surroundings settings parts { writer := .start surroundings.chance.boundary } site
      next after entries files) :
    ∀ b ∈ next.writer.boundary, MediaType.isWordByte b = true := by
  intro b hb
  rw [h.boundary] at hb
  exact isWordByte_of_hex (hfresh.boundary b hb)

/-- What is written for parts with clean headers is read as their entries. -/
lemma TakenIn.readable {parts : List Part} {next : Draft} {entries : List Entry}
    {files : List (Disk.Place × Bytes)} (hfresh : surroundings.chance.Fresh)
    (h : TakenIn surroundings settings parts { writer := .start surroundings.chance.boundary } site
      next after entries files)
    (hclean : ∀ part ∈ parts, HeaderBlock.Clean part.headers) : IsReadAs next.writer entries := by
  have hsay := h.written [] hclean (FormWriter.says_start _)
  have hword := h.isWordByte hfresh
  have hreturn : 13 ∉ next.writer.boundary := fun hmem => absurd (hword 13 hmem) (by decide)
  -- the boundary was written into the content type as a word, and is read from it as one
  refine ⟨next.writer.boundary, FormWriter.boundary?_contentType hword, fun room hroom hfree => ?_⟩
  refine FormWriter.read_finish (by simpa using hsay) hreturn (fun content hcontent => ?_) hroom
  obtain ⟨entry, hentry, rfl⟩ := List.mem_map.1 hcontent
  exact hfree entry hentry

/-- What is made of a form whose parts have clean headers. -/
lemma remade_of_make (hfresh : surroundings.chance.Fresh) {form : Form}
    (hclean : ∀ part ∈ form.parts, HeaderBlock.Clean part.headers) {deposit : Deposit}
    {writer : FormWriter} (hrun : (make surroundings settings form).run site = (deposit, after))
    (hform : deposit.form = .ok writer) :
    form.fault = none ∧ ∃ entries files,
      Remade surroundings settings form.contents site deposit.index writer after entries files := by
  obtain ⟨hfault, next, htake, rfl, hindex⟩ := takeParts_of_make hrun hform
  obtain ⟨entries, files, h⟩ := takeParts_takenIn hfresh htake
  have hsay := h.written [] hclean (FormWriter.says_start _)
  exact ⟨hfault, entries, files, h.deposited, h.guarded, h.readable hfresh hclean,
    by simpa using hsay, FormWriter.boundary?_contentType (h.isWordByte hfresh),
    hindex.trans h.index, h.added⟩

/-- What is made of a form that arrives: the parts that its bytes hold are rewritten. -/
lemma remade_of_make_readNamed (hfresh : surroundings.chance.Fresh) {headers : Headers}
    {boundary : Bytes} (hboundary : headers.boundary? = some boundary) {limit : Nat}
    {stream : Stream String} {deposit : Deposit} {writer : FormWriter}
    (hrun : (make surroundings settings (Form.readNamed ⟨boundary, limit⟩ stream)).run site
      = (deposit, after))
    (hform : deposit.form = .ok writer) :
    let body := stream.deliver.bytes
    let parts := Form.read ⟨boundary, body.length⟩ (Stream.once body)
    parts.fault = none ∧ ∃ entries files,
      Remade surroundings settings parts.contents site deposit.index writer after entries files := by
  intro body parts
  have hreturn := Headers.not_mem_boundary hboundary
  have hfault := (takeParts_of_make hrun hform).1
  obtain ⟨hnone, hnamed⟩ := Form.readWhere_contents hreturn hfault (le_refl body.length)
  have hclean : ∀ part ∈ (Form.readNamed ⟨boundary, limit⟩ stream).parts,
      HeaderBlock.Clean part.headers := fun part hpart =>
    Form.clean_of_mem_contents hreturn hfault _ (List.mem_map_of_mem hpart)
  obtain ⟨-, entries, files, h⟩ := remade_of_make hfresh hclean hrun hform
  exact ⟨hnone, entries, files, { h with deposited := deposited_of_filter (hnamed ▸ h.deposited) }⟩

lemma rewritten_of_make (hfresh : surroundings.chance.Fresh) {form : Form}
    (hclean : ∀ part ∈ form.parts, HeaderBlock.Clean part.headers) {deposit : Deposit}
    {writer : FormWriter} (hrun : (make surroundings settings form).run site = (deposit, after))
    (hform : deposit.form = .ok writer) :
    form.fault = none ∧ ∃ entries,
      Rewritten surroundings settings after.disk site.saves form.contents entries ∧
      Guarded [] entries ∧ IsReadAs writer entries := by
  obtain ⟨hfault, entries, files, h⟩ := remade_of_make hfresh hclean hrun hform
  exact ⟨hfault, entries, h.deposited.rewritten, h.guarded, h.readable⟩

lemma rewritten_of_make_readNamed (hfresh : surroundings.chance.Fresh) {headers : Headers}
    {boundary : Bytes} (hboundary : headers.boundary? = some boundary) {limit : Nat}
    {stream : Stream String} {deposit : Deposit} {writer : FormWriter}
    (hrun : (make surroundings settings (Form.readNamed ⟨boundary, limit⟩ stream)).run site
      = (deposit, after))
    (hform : deposit.form = .ok writer) :
    let body := stream.deliver.bytes
    let parts := Form.read ⟨boundary, body.length⟩ (Stream.once body)
    parts.fault = none ∧ ∃ entries,
      Rewritten surroundings settings after.disk site.saves parts.contents entries ∧
      Guarded [] entries ∧ IsReadAs writer entries := by
  obtain ⟨hnone, entries, files, h⟩ := remade_of_make_readNamed hfresh hboundary hrun hform
  exact ⟨hnone, entries, h.deposited.rewritten, h.guarded, h.readable⟩

/-- **What the new form says.**  Whenever a client's form is rewritten, however it arrived, all its
parts can be read from its bytes.  The new form says what `Rewritten` makes of these parts, in their
order and nothing else. -/
theorem contents_of_make (hfresh : surroundings.chance.Fresh) {headers : Headers}
    {boundary : Bytes} (hboundary : headers.boundary? = some boundary) {limit : Nat}
    {stream : Stream String} {deposit : Deposit} {writer : FormWriter}
    (hrun : (make surroundings settings (Form.readNamed ⟨boundary, limit⟩ stream)).run site
      = (deposit, after))
    (hform : deposit.form = .ok writer) :
    let body := stream.deliver.bytes
    let parts := Form.read ⟨boundary, body.length⟩ (Stream.once body)
    parts.fault = none ∧ ∃ entries,
      Rewritten surroundings settings after.disk site.saves parts.contents entries ∧
      IsReadAs writer entries := by
  intro body parts
  obtain ⟨hnone, entries, hrewritten, -, hread⟩ :=
    rewritten_of_make_readNamed hfresh hboundary hrun hform
  exact ⟨hnone, entries, hrewritten, hread⟩

/-! ### A form that arrives in two pieces -/

/-- Thirty-two hexadecimal digits for the first number, and more zeros for later ones. -/
def drawn (first : Char) (n : Nat) : String :=
  String.ofList (first :: "0123456789a4def8123456789abcde".toList ++ List.replicate n '0')

/-- Surroundings in which labels are drawn one after the other. -/
def drawnSurroundings : Surroundings where
  program _ := .missing .notFound
  chance := ⟨drawn 'a', drawn 'b', fun _ => default,
    Utf8.encode "c0123456789a4def8123456789abcde0", "id"⟩

/-- Settings for a folder and no transformation. -/
def plainSettings : Settings := ⟨{}, ⟨"exiftool", "metadata.gz", "/tmp", "id"⟩, "uploads"⟩

lemma isHex_ofList {chars : List Char}
    (h : ∀ c ∈ chars, ∀ b ∈ String.utf8EncodeChar c, (Bytes.hexValue? b).isSome = true) :
    IsHex (String.ofList chars) := by
  intro b hb
  rw [Utf8.encode_ofList, List.mem_flatMap] at hb
  obtain ⟨c, hc, hbc⟩ := hb
  exact h c hc b hbc

lemma fresh_drawnSurroundings : drawnSurroundings.chance.Fresh := by
  have hhex : ∀ first ∈ ['a', 'b'], ∀ n, IsHex (drawn first n) := by
    intro first hfirst n
    refine isHex_ofList fun c hc => ?_
    have hdigit : c ∈ first :: "0123456789a4def8123456789abcde0".toList := by
      rw [List.mem_append, List.mem_replicate] at hc
      rcases hc with hc | ⟨-, rfl⟩
      · rcases List.mem_cons.1 hc with rfl | hc
        · exact List.mem_cons_self
        · exact List.mem_cons_of_mem _ (List.mem_append_left _ hc)
      · exact List.mem_cons_of_mem _ (by decide)
    have hall : (['a', 'b'].all fun first => (first :: "0123456789a4def8123456789abcde0".toList).all
        fun c => (String.utf8EncodeChar c).all fun b => (Bytes.hexValue? b).isSome) = true := by
      decide +kernel
    exact List.all_eq_true.1 (List.all_eq_true.1 (List.all_eq_true.1 hall first hfirst) c hdigit)
  refine ⟨hhex 'a' (by simp), hhex 'b' (by simp), by decide +kernel, fun m n hsame => ?_,
    fun m n hsame => ?_⟩
  · have hlength := congrArg (fun label => label.toList.length) hsame
    simpa [drawnSurroundings, drawn] using hlength
  · have hfirst := congrArg (fun label => label.toList.head?) hsame
    simp [drawnSurroundings, drawn] at hfirst

/-- A form with a part without a name, a field, and a file, as it arrives: the pause is in the
middle of a delimiter. -/
def pausingForm : Stream String := [
  .piece (Utf8.encode "--X\r\nContent-Disposition: form-data\r\n\r\nlost\r\n-"),
  .pause,
  .piece (Utf8.encode ("-X\r\nContent-Disposition: form-data; name=\"a\"\r\n\r\nkept\r\n--X\r\n"
    ++ "Content-Disposition: form-data; name=\"f\"; filename=\"t\"\r\n\r\ndata\r\n--X--\r\n"))]

theorem contents_of_make_pausing :
    ∃ writer,
      ((make drawnSurroundings plainSettings (Form.readNamed ⟨[88], 1000⟩ pausingForm)).run
        { gate := ⟨1, 0, 0⟩ }).1.form = .ok writer ∧
      (Form.read ⟨[88], pausingForm.deliver.bytes.length⟩
        (Stream.once pausingForm.deliver.bytes)).fault = none ∧
      ∃ entries,
        Rewritten drawnSurroundings plainSettings
          ((make drawnSurroundings plainSettings (Form.readNamed ⟨[88], 1000⟩ pausingForm)).run
            { gate := ⟨1, 0, 0⟩ }).2.disk 0
          (Form.read ⟨[88], pausingForm.deliver.bytes.length⟩
            (Stream.once pausingForm.deliver.bytes)).contents entries ∧
        IsReadAs writer entries := by
  have hboundary : Headers.boundary?
      [(Header.contentType, Utf8.encode "multipart/form-data; boundary=X")] = some [88] := by
    decide +kernel
  have haccepted : ((make drawnSurroundings plainSettings
      (Form.readNamed ⟨[88], 1000⟩ pausingForm)).run
        { gate := ⟨1, 0, 0⟩ }).1.form.toOption.isSome = true := by
    decide +kernel
  rcases hrun : (make drawnSurroundings plainSettings
    (Form.readNamed ⟨[88], 1000⟩ pausingForm)).run { gate := ⟨1, 0, 0⟩ } with ⟨deposit, after⟩
  rw [hrun] at haccepted
  cases hform : deposit.form with
  | error error =>
    rw [hform] at haccepted
    cases haccepted
  | ok writer =>
    exact ⟨writer, rfl, contents_of_make fresh_drawnSurroundings hboundary hrun hform⟩

end Deposit

end Intercept
