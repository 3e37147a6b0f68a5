/-
# A written form is read back

`FormWriter.Says` relates a writer to the parts written so far, in order, each with its headers and
its data.  Each step of the writing adds what it should, and the finished form, whose data does not
hold its delimiter, is read as these parts and nothing else.

In the bytes the line break before a delimiter is taken as the end of the part before it.  So every
part has the same shape, `Piece.text`, and the reading goes by induction on the parts.
-/
import Intercept.Proofs.Multipart.Disposition
import Intercept.Proofs.Multipart.HeaderBlock
import Intercept.Proofs.Multipart.Reader

namespace Intercept

namespace FormWriter

variable {writer : FormWriter} {contents : List (Headers × Bytes)}

/-! ### What is written -/

/-- A part as it is written: the block of its headers as bytes and as they are read, and its
data. -/
structure Piece where
  block : Bytes
  headers : Headers
  data : Bytes
  reads : HeaderBlock.Reads block headers

namespace Piece

/-- The bytes of a part, from its delimiter up to the line break behind its data. -/
def text (boundary : Bytes) (piece : Piece) : Bytes :=
  Form.dashes ++ boundary ++ [13, 10] ++ piece.block ++ piece.data ++ [13, 10]

lemma text_ne_nil (boundary : Bytes) (piece : Piece) : piece.text boundary ≠ [] :=
  List.append_ne_nil_of_right_ne_nil _ (List.cons_ne_nil _ _)

/-- What a part says. -/
def content (piece : Piece) : Headers × Bytes := (piece.headers, piece.data)

end Piece

/-- The parts that a writer holds. -/
structure Holds (writer : FormWriter) (pieces : List Piece) : Prop where
  begun : pieces ≠ [] → writer.hasPart = true
  text : writer.written.reverse.flatten ++ (if writer.hasPart then [13, 10] else [])
    = pieces.flatMap (Piece.text writer.boundary)

/-- What the parts written so far say. -/
def Says (writer : FormWriter) (contents : List (Headers × Bytes)) : Prop :=
  ∃ pieces, Holds writer pieces ∧ pieces.map Piece.content = contents

@[simp] lemma boundary_beginPart (headers : Headers) :
    (writer.beginPart headers).boundary = writer.boundary := rfl

@[simp] lemma boundary_write (bytes : Bytes) :
    (writer.write bytes).boundary = writer.boundary := rfl

lemma says_start (boundary : Bytes) : Says (start boundary) [] :=
  ⟨[], ⟨fun h => absurd rfl h, rfl⟩, rfl⟩

/-- A new part stands behind the parts before it. -/
lemma Holds.append {pieces : List Piece} (h : Holds writer pieces) (piece : Piece) :
    Holds
      { writer with
        written := (writer.delimiter ++ [13, 10] ++ piece.block ++ piece.data) :: writer.written
        hasPart := true }
      (pieces ++ [piece]) where
  begun _ := rfl
  text := by
    rw [List.flatMap_append, ← h.text]
    simp [Piece.text, delimiter, Form.dashes]

/-- More data belongs to the part begun last. -/
lemma Holds.write {pieces : List Piece} {piece : Piece} (h : Holds writer (pieces ++ [piece]))
    (bytes : Bytes) :
    Holds (writer.write bytes) (pieces ++ [{ piece with data := piece.data ++ bytes }]) where
  begun _ := h.begun (by simp)
  text := by
    have hbegun := h.begun (by simp)
    have htext := h.text
    rw [List.flatMap_append, List.flatMap_singleton, Piece.text, hbegun, if_pos rfl,
      ← List.append_assoc] at htext
    have hwritten := List.append_cancel_right htext
    rw [List.flatMap_append, List.flatMap_singleton]
    simp [FormWriter.write, hbegun, hwritten, Piece.text]

/-- A copied part has the headers and the data of the original. -/
lemma Says.copy (h : Says writer contents) {headers : Headers}
    (hclean : HeaderBlock.Clean headers) (hne : headers ≠ []) (data : List Bytes) :
    Says (data.foldl (fun writer bytes => writer.write bytes) (writer.beginPart headers))
      (contents ++ [(headers, data.flatten)]) := by
  obtain ⟨pieces, hholds, rfl⟩ := h
  have hbegun : Holds (writer.beginPart headers)
      (pieces ++ [⟨_, headers, [], hclean.reads hne⟩]) := by
    have happend := hholds.append ⟨_, headers, [], hclean.reads hne⟩
    simpa [beginPart] using happend
  have hfold : ∀ {writer : FormWriter} {piece : Piece}, Holds writer (pieces ++ [piece]) →
      Holds (data.foldl (fun writer bytes => writer.write bytes) writer)
        (pieces ++ [{ piece with data := piece.data ++ data.flatten }]) := by
    induction data with
    | nil =>
      intro writer piece hpiece
      simpa using hpiece
    | cons bytes more ih =>
      intro writer piece hpiece
      have hmore := ih (hpiece.write bytes)
      simpa using hmore
  exact ⟨_, hfold hbegun, by simp [Piece.content]⟩

/-- The header block of a field is read as the one header that gives its name. -/
lemma reads_writeField {name : String}
    (hname : ∀ b ∈ Utf8.encode name, Header.isValueByte b = true) :
    HeaderBlock.Reads
      (Utf8.encode "Content-Disposition: " ++ Disposition.written name ++ [13, 10, 13, 10])
      [(Header.contentDisposition, Disposition.written name)] := by
  have hlead : Utf8.encode "Content-Disposition: "
      = Utf8.encode "Content-Disposition" ++ [58, 32] := by
    decide +kernel
  have hsmall : (Utf8.encode "Content-Disposition").map Bytes.lower
      = Header.contentDisposition := by
    decide +kernel
  have hnonempty : Utf8.encode "Content-Disposition" ≠ [] := by
    decide +kernel
  have hletters : ∀ b ∈ Utf8.encode "Content-Disposition", Header.isNameByte b = true :=
    List.all_eq_true.1 (by decide +kernel)
  have hwritable : HeaderBlock.Writable
      (Utf8.encode "Content-Disposition", Disposition.written name) :=
    ⟨hnonempty, hletters, Disposition.isValueByte_written hname⟩
  have hreads := HeaderBlock.reads_written (List.cons_ne_nil _ [])
    (fun header hheader => List.mem_singleton.1 hheader ▸ hwritable) (Nat.succ_pos _)
    (List.nodup_cons.2 ⟨List.not_mem_nil, List.nodup_nil⟩)
  rw [List.map_singleton, HeaderBlock.seen, hsmall,
    Disposition.trim_written _ rfl rfl] at hreads
  rw [hlead]
  simpa [headerLine] using hreads

/-- A field has a name and a value. -/
lemma Says.writeField (h : Says writer contents) {name : String}
    (hname : ∀ b ∈ Utf8.encode name, Header.isValueByte b = true) (value : String) :
    Says (writer.writeField name value)
      (contents ++ [([(Header.contentDisposition, Disposition.written name)],
        Utf8.encode value)]) := by
  obtain ⟨pieces, hholds, rfl⟩ := h
  have happend := hholds.append ⟨_, _, Utf8.encode value, reads_writeField hname⟩
  refine ⟨pieces ++ [⟨_, _, Utf8.encode value, reads_writeField hname⟩], ?_, by
    simp [Piece.content]⟩
  simpa [FormWriter.writeField] using happend

lemma Holds.finish {pieces : List Piece} (h : Holds writer pieces) :
    writer.finish = pieces.flatMap (Piece.text writer.boundary)
      ++ (Form.dashes ++ writer.boundary ++ [45, 45, 13, 10]) := by
  rw [← h.text]
  simp [FormWriter.finish, delimiter, Form.dashes]

/-- The bytes of a form are its parts, each behind a delimiter of the boundary, and a last delimiter
that closes the form. -/
def Delimits (boundary body : Bytes) (contents : List (Headers × Bytes)) : Prop :=
  ∃ pieces : List Piece, pieces.map Piece.content = contents ∧
    body = pieces.flatMap (Piece.text boundary)
      ++ (Form.dashes ++ boundary ++ [45, 45, 13, 10])

lemma Says.delimits (h : Says writer contents) :
    Delimits writer.boundary writer.finish contents := by
  obtain ⟨pieces, hholds, hcontents⟩ := h
  exact ⟨pieces, hcontents, hholds.finish⟩

/-! ### Reading a written form -/

variable {settings : Form.Settings} {reader : Form.Reader}

lemma readDelimiter_of_eq {rest : Bytes} (hbuffer : reader.buffer = settings.delimiter ++ rest) :
    Form.readDelimiter settings reader = Form.readEnding (reader.with rest) := by
  rw [Form.readDelimiter, hbuffer, List.take_left]
  simp only [Nat.lt_irrefl, if_false, if_true, List.drop_left]

/-- Behind a delimiter stand the headers of the part. -/
lemma resume_piece {piece : Piece} {rest : Bytes}
    (hbuffer : reader.buffer = piece.text settings.boundary ++ rest) :
    Form.resume settings .delimiter reader
      = .part piece.headers (reader.with (piece.data ++ [13, 10] ++ rest)) := by
  have htext : reader.buffer
      = settings.delimiter ++ 13 :: 10 :: (piece.block ++ (piece.data ++ [13, 10] ++ rest)) := by
    rw [hbuffer]
    simp [Piece.text, Form.Settings.delimiter]
  have hdashes : ¬ [(13 : UInt8), 10] = Form.dashes := by decide
  have hblank : ∀ behind : Bytes, (13 :: 10 :: behind).dropWhile HeaderBlock.isBlank
      = 13 :: 10 :: behind := fun _ => List.dropWhile_cons_of_neg (by decide)
  have hcut : Bytes.cutBehind? (Form.lineBreak ++ Form.lineBreak)
      (piece.block ++ (piece.data ++ [13, 10] ++ rest))
        = some (piece.block, piece.data ++ [13, 10] ++ rest) := piece.reads.cut _
  show Form.readDelimiter settings reader = _
  rw [readDelimiter_of_eq htext, Form.readEnding]
  simp only [Form.Reader.with]
  rw [if_neg hdashes, Form.readPadding]
  simp only [Form.Reader.with, hblank]
  rw [if_pos (show [13, 10] = Form.lineBreak from rfl), Form.readHeaders]
  simp only [hcut, piece.reads.parse]
  rfl

/-- The data of a part ends before the next delimiter, if it does not hold one. -/
lemma pass_piece (hboundary : 13 ∉ settings.boundary) (hended : reader.ended = true)
    {data : Bytes} (hdata : Bytes.occursIn settings.dataEnd data = false) (rest : Bytes) :
    Form.pass settings (reader.with (data ++ [13, 10] ++ (settings.delimiter ++ rest)))
      = .last data (reader.with (settings.delimiter ++ rest)) := by
  have htext : data ++ [13, 10] ++ (settings.delimiter ++ rest)
      = data ++ settings.dataEnd ++ rest := by
    simp [Form.Settings.dataEnd, Form.lineBreak]
  have hcut : Bytes.cutBefore? settings.dataEnd (data ++ settings.dataEnd ++ rest)
      = some (data, settings.dataEnd ++ rest) :=
    Bytes.cutBefore?_of_lead (Form.not_mem_tail hboundary) hdata
  rw [htext, Form.pass_of_ended (by exact hended)]
  simp only [Form.Reader.with, hcut]
  rfl

/-- Behind the last delimiter stand two dashes. -/
lemma resume_end (hbuffer : reader.buffer = settings.delimiter ++ [45, 45, 13, 10]) :
    Form.resume settings .delimiter reader = .finished := by
  show Form.readDelimiter settings reader = _
  rw [readDelimiter_of_eq hbuffer]
  rfl

/-- The parts of a written form are read one by one. -/
lemma readParts_pieces (hboundary : 13 ∉ settings.boundary) {pieces : List Piece}
    (hfree : ∀ piece ∈ pieces, Bytes.occursIn settings.dataEnd piece.data = false)
    (hended : reader.ended = true)
    (hbuffer : reader.buffer = pieces.flatMap (Piece.text settings.boundary)
      ++ (settings.delimiter ++ [45, 45, 13, 10]))
    {isWanted : Headers → Bool} (hwanted : ∀ piece ∈ pieces, isWanted piece.headers = true)
    {fuel : Nat} (hfuel : pieces.length < fuel) :
    Form.readParts settings isWanted fuel .delimiter reader
      = ⟨pieces.map fun piece => ⟨piece.headers, [piece.data], none⟩, none⟩ := by
  induction pieces generalizing reader fuel with
  | nil =>
    obtain ⟨fuel, rfl⟩ : ∃ n, fuel = n + 1 := ⟨fuel - 1, by omega⟩
    rw [Form.readParts_of_finished hended (resume_end hbuffer)]
    rfl
  | cons piece more ih =>
    rw [List.length_cons] at hfuel
    obtain ⟨fuel, rfl⟩ : ∃ n, fuel = n + 1 := ⟨fuel - 1, by omega⟩
    rw [List.flatMap_cons, List.append_assoc] at hbuffer
    -- what follows the data begins with a delimiter, that of the next part or the last one
    obtain ⟨rest, hrest⟩ : ∃ rest, more.flatMap (Piece.text settings.boundary)
        ++ (settings.delimiter ++ [45, 45, 13, 10]) = settings.delimiter ++ rest := by
      cases more with
      | nil => exact ⟨_, rfl⟩
      | cons second others => exact ⟨_, by simp [Piece.text, Form.Settings.delimiter]; rfl⟩
    have hpass := pass_piece hboundary hended (hfree piece List.mem_cons_self) rest
    have hnext : (reader.with (settings.delimiter ++ rest)).ended = true := hended
    have hmore := ih (fun piece hpiece => hfree piece (List.mem_cons_of_mem _ hpiece)) hnext
      hrest.symm (fun piece hpiece => hwanted piece (List.mem_cons_of_mem _ hpiece))
      (show more.length < fuel by omega)
    rw [hrest] at hbuffer
    rw [Form.readParts_of_wanted hended (resume_piece hbuffer) (hwanted piece List.mem_cons_self)
      hpass, hmore]
    rfl

/-- A form that begins with a delimiter has nothing before it. -/
lemma resume_preamble {rest : Bytes} (hbuffer : reader.buffer = settings.delimiter ++ rest) :
    Form.resume settings .preamble reader = Form.resume settings .delimiter reader := by
  have hcut : Bytes.cutBefore? settings.delimiter reader.buffer = some ([], reader.buffer) :=
    Bytes.cutBefore?_eq_some_iff.2
      ⟨rfl, hbuffer ▸ List.prefix_append _ _, fun j hj => absurd hj (Nat.not_lt_zero j)⟩
  have hoccurs : Bytes.occursIn settings.delimiter reader.buffer = true := by
    rw [Bytes.occursIn, ← Option.isSome_map, ← Bytes.cutBefore?, hcut]
    rfl
  show Form.readPreamble settings reader = _
  rw [Form.readPreamble, if_pos hoccurs, Form.search, hcut]
  rfl

/-- A written form in one piece is read as its parts, if all of them are wanted and none of its data
holds the delimiter. -/
lemma readWhere_finish (h : Says writer contents) (hboundary : 13 ∉ writer.boundary) {limit : Nat}
    (hfree : ∀ content ∈ contents,
      Bytes.occursIn (Form.Settings.dataEnd ⟨writer.boundary, limit⟩) content.2 = false)
    {isWanted : Headers → Bool} (hwanted : ∀ content ∈ contents, isWanted content.1 = true)
    (hlimit : writer.finish.length ≤ limit) :
    Form.readWhere ⟨writer.boundary, limit⟩ isWanted (Stream.once writer.finish)
      = ⟨contents.map fun (headers, data) => ⟨headers, [data], none⟩, none⟩ := by
  obtain ⟨pieces, hholds, rfl⟩ := h
  have hbuffer : writer.finish = pieces.flatMap (Piece.text writer.boundary)
      ++ (Form.Settings.delimiter ⟨writer.boundary, limit⟩ ++ [45, 45, 13, 10]) := by
    rw [hholds.finish]
    rfl
  obtain ⟨rest, hstart⟩ : ∃ rest, writer.finish
      = Form.Settings.delimiter ⟨writer.boundary, limit⟩ ++ rest := by
    rw [hbuffer]
    cases pieces with
    | nil => exact ⟨_, rfl⟩
    | cons first more => exact ⟨_, by simp [Piece.text, Form.Settings.delimiter]; rfl⟩
  have hmany : pieces.length < writer.finish.length + 2 := by
    have hlength := Bytes.length_le_flatMap (Piece.text_ne_nil writer.boundary) pieces
    rw [hbuffer, List.length_append]
    omega
  have hpreamble : Form.resume ⟨writer.boundary, limit⟩ .preamble
      ⟨writer.finish, [], true, writer.finish.length⟩
        = Form.resume ⟨writer.boundary, limit⟩ .delimiter
            ⟨writer.finish, [], true, writer.finish.length⟩ := resume_preamble hstart
  have hread : Form.readParts ⟨writer.boundary, limit⟩ isWanted (writer.finish.length + 2)
      .delimiter ⟨writer.finish, [], true, writer.finish.length⟩
        = ⟨pieces.map fun piece => ⟨piece.headers, [piece.data], none⟩, none⟩ :=
    readParts_pieces hboundary
      (fun piece hpiece => hfree piece.content (List.mem_map_of_mem hpiece)) rfl hbuffer
      (fun piece hpiece => hwanted piece.content (List.mem_map_of_mem hpiece)) hmany
  rw [Form.readWhere_once hlimit, Form.readParts_congr rfl rfl hpreamble, hread, List.map_map]
  rfl

/-- **A written form is read back.**  Read with the boundary it was written with, a form says what
was written, in order and nothing else, if none of its data holds the delimiter. -/
theorem read_finish (h : Says writer contents) (hboundary : 13 ∉ writer.boundary) {limit : Nat}
    (hfree : ∀ content ∈ contents,
      Bytes.occursIn (Form.Settings.dataEnd ⟨writer.boundary, limit⟩) content.2 = false)
    (hlimit : writer.finish.length ≤ limit) :
    (Form.read ⟨writer.boundary, limit⟩ (Stream.once writer.finish)).fault = none ∧
      (Form.read ⟨writer.boundary, limit⟩ (Stream.once writer.finish)).contents = contents := by
  rw [Form.read, readWhere_finish h hboundary hfree (fun _ _ => rfl) hlimit]
  refine ⟨rfl, ?_⟩
  rw [Form.contents, List.map_map]
  refine (List.map_congr_left fun content _ => ?_).trans (List.map_id contents)
  simp [Part.data]

/-! ### A form with given parts -/

/-- The writer of a form with given parts. -/
def holding (boundary : Bytes) (contents : List (Headers × Bytes)) : FormWriter :=
  contents.foldl (fun writer (headers, data) => (writer.beginPart headers).write data)
    (start boundary)

lemma holding_concat (boundary : Bytes) (contents : List (Headers × Bytes))
    (content : Headers × Bytes) :
    holding boundary (contents ++ [content])
      = ((holding boundary contents).beginPart content.1).write content.2 := by
  rw [holding, List.foldl_append, List.foldl_cons, List.foldl_nil, holding]

lemma boundary_holding (boundary : Bytes) (contents : List (Headers × Bytes)) :
    (holding boundary contents).boundary = boundary := by
  induction contents using List.reverseRecOn with
  | nil => rfl
  | append_singleton more content ih =>
    rw [holding_concat, boundary_write, boundary_beginPart, ih]

lemma says_holding (boundary : Bytes)
    (hclean : ∀ content ∈ contents, HeaderBlock.Clean content.1 ∧ content.1 ≠ []) :
    (holding boundary contents).Says contents := by
  induction contents using List.reverseRecOn with
  | nil => exact says_start boundary
  | append_singleton more content ih =>
    obtain ⟨hheaders, hne⟩ := hclean content (by simp)
    have hmore := ih fun other hother => hclean other (List.mem_append_left _ hother)
    have hsay := hmore.copy hheaders hne [content.2]
    rw [holding_concat]
    simpa using hsay

/-- A form grows with every part. -/
lemma length_finish_holding_le (boundary : Bytes) (contents : List (Headers × Bytes))
    (content : Headers × Bytes) :
    (holding boundary contents).finish.length
      ≤ (holding boundary (contents ++ [content])).finish.length := by
  rw [holding_concat]
  simp only [finish, write, beginPart, delimiter, List.reverse_cons, List.append_assoc,
    List.flatten_append, List.flatten_cons, List.flatten_nil, List.length_append, List.length_cons,
    List.length_nil, if_true]
  omega

end FormWriter

end Intercept
