/-
# Writing and reading are inverse

A part of a form is written by one call, as a field, or by a call that begins it with its headers
and any number of calls that add data to it.  A form that is written part by part in this way is
read back as just these parts (`read_compose`), however its bytes arrive.  All that is asked of the
data is that the delimiter does not occur in it: nothing is asked of its ends, which meet the
delimiters before and behind it.
-/
import Intercept.Proofs.Multipart.Splitting
import Intercept.Proofs.Multipart.Writer

namespace Intercept

/-- The bytes of a text without control characters may stand in the value of a header. -/
lemma Header.isValueByte_encode {text : String}
    (h : ∀ c ∈ text.toList, 32 ≤ c.toNat ∧ c.toNat ≠ 127) :
    ∀ b ∈ Utf8.encode text, isValueByte b = true := by
  intro b hb
  have hvalue : 32 ≤ b.toNat ∧ b.toNat ≠ 127 := by
    by_cases hsmall : b < 128
    · -- a small byte is a character of the text
      have hlt : b.toNat < 128 := UInt8.lt_iff_toNat_lt.1 hsmall
      have hcode : (Char.ofNat b.toNat).toNat = b.toNat := by
        rw [Char.ofNat, dif_pos (.inl (by omega))]
        rfl
      have hchar := h _ ((Utf8.mem_encode_iff hsmall hcode).1 hb)
      rwa [hcode] at hchar
    · have hle : 128 ≤ b.toNat := UInt8.le_iff_toNat_le.1 (UInt8.not_lt.1 hsmall)
      omega
  have hne : b ≠ 127 := by
    rintro rfl
    exact hvalue.2 rfl
  simp [isValueByte, UInt8.le_iff_toNat_le, hvalue.1, hne]

namespace FormWriter

variable {writer : FormWriter} {contents : List (Headers × Bytes)}

/-- The calls that write one part. -/
inductive PartCalls where
  /-- A field with a name and a value. -/
  | field (name value : String)
  /-- A part that is begun with its headers, and the data that is added to it by each call. -/
  | begun (headers : Headers) (writes : List Bytes)
deriving DecidableEq, Repr, Inhabited

namespace PartCalls

/-- Makes the calls. -/
def make : PartCalls → FormWriter → FormWriter
  | field name value, writer => writer.writeField name value
  | begun headers writes, writer =>
    writes.foldl (fun writer bytes => writer.write bytes) (writer.beginPart headers)

/-- The part that is to be read back. -/
def content : PartCalls → Headers × Bytes
  | field name value =>
    ([(Header.contentDisposition, Disposition.written name)], Utf8.encode value)
  | begun headers writes => (headers, writes.flatten)

/-- The name of a field has no control characters, and the headers of a part are of distinct names,
trimmed, and neither none nor too many. -/
def IsLegal : PartCalls → Prop
  | field name _ => ∀ c ∈ name.toList, 32 ≤ c.toNat ∧ c.toNat ≠ 127
  | begun headers _ => headers ≠ [] ∧ HeaderBlock.Clean headers

lemma boundary_make (calls : PartCalls) (writer : FormWriter) :
    (calls.make writer).boundary = writer.boundary := by
  cases calls with
  | field name value => rfl
  | begun headers writes =>
    have hwrites : ∀ writer : FormWriter,
        (writes.foldl (fun writer bytes => writer.write bytes) writer).boundary
          = writer.boundary := by
      induction writes with
      | nil => exact fun _ => rfl
      | cons bytes more ih => exact fun writer => ih (writer.write bytes)
    exact hwrites _

/-- The calls add their part to those written before. -/
lemma says_make {calls : PartCalls} (hlegal : calls.IsLegal) (h : Says writer contents) :
    Says (calls.make writer) (contents ++ [calls.content]) := by
  cases calls with
  | field name value => exact h.writeField (Header.isValueByte_encode hlegal) value
  | begun headers writes => exact h.copy hlegal.2 hlegal.1 writes

end PartCalls

/-- A form that is written part by part. -/
def compose (boundary : Bytes) (parts : List PartCalls) : FormWriter :=
  parts.foldl (fun writer calls => calls.make writer) (start boundary)

lemma compose_concat (boundary : Bytes) (parts : List PartCalls) (calls : PartCalls) :
    compose boundary (parts ++ [calls]) = calls.make (compose boundary parts) := by
  rw [compose, List.foldl_append, List.foldl_cons, List.foldl_nil, compose]

lemma boundary_compose (boundary : Bytes) (parts : List PartCalls) :
    (compose boundary parts).boundary = boundary := by
  induction parts using List.reverseRecOn with
  | nil => rfl
  | append_singleton more calls ih => rw [compose_concat, PartCalls.boundary_make, ih]

lemma says_compose (boundary : Bytes) {parts : List PartCalls}
    (hlegal : ∀ calls ∈ parts, calls.IsLegal) :
    Says (compose boundary parts) (parts.map PartCalls.content) := by
  induction parts using List.reverseRecOn with
  | nil => exact says_start boundary
  | append_singleton more calls ih =>
    have hmore := ih fun other hother => hlegal other (List.mem_append_left _ hother)
    rw [compose_concat, List.map_append, List.map_singleton]
    exact PartCalls.says_make (hlegal calls (by simp)) hmore

/-- **Writing and reading are inverse.**  Whatever is written part by part by legal calls, with a
boundary of characters that may stand in a name, is read back with this boundary: to its end, with
the same parts in the same order, each with its headers and with all that was written of its data,
if the delimiter does not occur in the data of a part.  It does not matter how the bytes arrive. -/
theorem read_compose {boundary : Bytes} (hboundary : ∀ b ∈ boundary, Header.isNameByte b = true)
    {parts : List PartCalls} (hlegal : ∀ calls ∈ parts, calls.IsLegal)
    (hfree : ∀ calls ∈ parts,
      Bytes.occursIn (Form.lineBreak ++ Form.dashes ++ boundary) calls.content.2 = false)
    {stream : Stream String} (hstream : stream.deliver = ⟨(compose boundary parts).finish, none⟩)
    {limit : Nat} (hlimit : (compose boundary parts).finish.length ≤ limit) :
    (Form.read ⟨boundary, limit⟩ stream).fault = none ∧
      (Form.read ⟨boundary, limit⟩ stream).contents = parts.map PartCalls.content := by
  have hreturn : 13 ∉ boundary := fun hmem => absurd (hboundary 13 hmem) (by decide)
  have hsay := says_compose boundary hlegal
  have hname := boundary_compose boundary parts
  generalize compose boundary parts = writer at hsay hname hstream hlimit
  subst hname
  -- in one piece the form is read as it was written, and so it is in any others
  obtain ⟨hfault, hcontents⟩ := read_finish hsay hreturn (fun content hcontent => by
    obtain ⟨calls, hcalls, rfl⟩ := List.mem_map.1 hcontent
    exact hfree calls hcalls) hlimit
  obtain ⟨hsame, hparts⟩ : _ ∧ ((Form.read ⟨writer.boundary, limit⟩ stream).fault = none →
      (Form.read ⟨writer.boundary, limit⟩ stream).contents = _) :=
    Form.readWhere_of_smooth hreturn hstream hlimit
  have hread := hsame.2 hfault
  exact ⟨hread, (hparts hread).trans hcontents⟩

/-- A form with data that begins or ends like a delimiter, or has nothing between two of them. -/
def borderingForm : List PartCalls := [
  .field "a\"b\\" "--X",
  .begun [(Header.contentDisposition, Utf8.encode "form-data"), ([120], [255])]
    [[45, 45], [88, 13, 10], [13]],
  .begun [([121], [])] [],
  .begun [([122], [97])] [[], [13, 10], [13, 10]]]

theorem read_compose_bordering :
    let body := (compose [88] borderingForm).finish
    let stream : Stream String := [.piece (body.take 90), .pause, .piece (body.drop 90)]
    (Form.read ⟨[88], body.length⟩ stream).fault = none ∧
      (Form.read ⟨[88], body.length⟩ stream).contents = [
        ([(Header.contentDisposition, Disposition.written "a\"b\\")], [45, 45, 88]),
        ([(Header.contentDisposition, Utf8.encode "form-data"), ([120], [255])],
          [45, 45, 88, 13, 10, 13]),
        ([([121], [])], []),
        ([([122], [97])], [13, 10, 13, 10])] := by
  intro body stream
  have hclean : ∀ headers ∈ [[(Header.contentDisposition, Utf8.encode "form-data"), ([120], [255])],
      [([121], [])], [([122], [97])]], HeaderBlock.Clean headers := by
    intro headers hheaders
    have hparse : HeaderBlock.parse? (headers.flatMap headerLine ++ [13, 10]) = some headers := by
      revert headers
      decide +kernel
    exact HeaderBlock.parse?_clean hparse
  have hname : ∀ c ∈ "a\"b\\".toList, 32 ≤ c.toNat ∧ c.toNat ≠ 127 := by simp
  have hlegal : ∀ calls ∈ borderingForm, calls.IsLegal := by
    simp only [borderingForm, List.forall_mem_cons]
    exact ⟨hname, ⟨by simp, hclean _ (.head _)⟩, ⟨by simp, hclean _ (.tail _ (.head _))⟩,
      ⟨by simp, hclean _ (.tail _ (.tail _ (.head _)))⟩, List.forall_mem_nil _⟩
  have hstream : stream.deliver = ⟨(compose [88] borderingForm).finish, none⟩ := by
    simp [stream, body]
  have hboundary : ∀ b ∈ ([88] : Bytes), Header.isNameByte b = true :=
    List.forall_mem_singleton.2 (by decide)
  exact read_compose hboundary hlegal (by decide +kernel) hstream le_rfl

end FormWriter

end Intercept
