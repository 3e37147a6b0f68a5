/-
# The new form does not depend on how the client's form arrives

The same form arrives twice, cut into pieces and pausing in two ways.  The parts that are read have
the same headers and the same data, in other pieces.  Whatever is done with the data of a part
depends on what its pieces deliver together: programs are fed it, archives are spooled and files are
written.  So the two rewritings go side by side, on the same site at each step, up to the end or to
the first part that cannot be taken in.

What remains different is how long it took to store each file, which is measured and not computed,
and how the bytes of the new form are cut while it is written.

One thing of this is taken from the format of forms and not from a parser, that data which comes
with the end of the stream is searched too; `Form.nextPart_eq_firstPart` says where it does not
matter.
-/
import Intercept.Proofs.Multipart.Splitting
import Intercept.Proofs.Upload.NewForm
import Intercept.Proofs.Upload.Overrun

namespace Intercept

/-- The same chance, but it takes other times to store files. -/
def Chance.timed (chance : Chance) (duration : Nat → Duration) : Chance := { chance with duration }

/-- The same surroundings, but it takes other times to store files. -/
def Surroundings.timed (surroundings : Surroundings) (duration : Nat → Duration) : Surroundings :=
  { surroundings with chance := surroundings.chance.timed duration }

section Pieces

variable {first second : Stream UploadFault} {site after : Site}

namespace Storage

end Storage

end Pieces

/-! ### Writing the new form in other pieces -/

namespace FormWriter

variable {one other : FormWriter}

/-- Two writers have written the same, up to how it is cut. -/
structure Same (one other : FormWriter) : Prop where
  boundary : one.boundary = other.boundary
  hasPart : one.hasPart = other.hasPart
  written : one.written.reverse.flatten = other.written.reverse.flatten

lemma Same.refl (writer : FormWriter) : Same writer writer := ⟨rfl, rfl, rfl⟩

lemma Same.delimiter (h : Same one other) : one.delimiter = other.delimiter := by
  rw [FormWriter.delimiter, FormWriter.delimiter, h.boundary, h.hasPart]

lemma Same.finish (h : Same one other) : one.finish = other.finish := by
  rw [FormWriter.finish, FormWriter.finish, h.delimiter, h.written]

lemma Same.beginPart (h : Same one other) (headers : Headers) :
    Same (one.beginPart headers) (other.beginPart headers) where
  boundary := h.boundary
  hasPart := rfl
  written := by simp [FormWriter.beginPart, h.delimiter, h.written]

lemma Same.writeField (h : Same one other) (name value : String) :
    Same (one.writeField name value) (other.writeField name value) where
  boundary := h.boundary
  hasPart := rfl
  written := by simp [FormWriter.writeField, h.delimiter, h.written]

/-- Data may be written piece by piece or in one go. -/
lemma Same.writeAll (h : Same one other) (pieces : List Bytes) :
    Same (pieces.foldl (fun writer bytes => writer.write bytes) one)
      (other.write pieces.flatten) := by
  induction pieces generalizing one other with
  | nil => exact ⟨h.boundary, h.hasPart, by simp [FormWriter.write, h.written]⟩
  | cons first more ih =>
    have hfirst : Same (one.write first) (other.write first) :=
      ⟨h.boundary, h.hasPart, by simp [FormWriter.write, h.written]⟩
    have hmore := ih hfirst
    exact ⟨hmore.boundary, hmore.hasPart, hmore.written.trans (by simp [FormWriter.write])⟩

end FormWriter

namespace Deposit

variable {surroundings : Surroundings} {settings : Settings} {duration : Nat → Duration}
variable {part : Part} {draft next : Draft} {site after : Site}

/-- An entry as it is written. -/
def Entry.write : Entry → FormWriter → FormWriter
  | .copied headers data, writer => (writer.beginPart headers).write data
  | .described name ending value, writer => writer.writeField (name ++ ending) value

/-- A form with some entries. -/
def writing (boundary : Bytes) (entries : List Entry) : FormWriter :=
  entries.foldl (fun writer entry => entry.write writer) (.start boundary)

/-- The same entry of two forms.  Only the time that it took to store a file may be another one; the
files are told apart by their numbers. -/
inductive Entry.Retimed (first second : Nat → Duration) : Entry → Entry → Prop
  | same (entry : Entry) : Retimed first second entry entry
  | timed (name : String) (n : Nat) :
    Retimed first second (.described name ".upload_duration" (first n).text)
      (.described name ".upload_duration" (second n).text)

/-- Two forms that say the same, but for the times that it took to store the files. -/
def SameForm (first second : Nat → Duration) (boundary : Bytes) (one other : FormWriter) : Prop :=
  ∃ entries entries', one.Same (writing boundary entries) ∧
    other.Same (writing boundary entries') ∧
    List.Forall₂ (Entry.Retimed first second) entries entries'

lemma writing_append (boundary : Bytes) (entries more : List Entry) :
    writing boundary (entries ++ more)
      = more.foldl (fun writer entry => entry.write writer) (writing boundary entries) :=
  List.foldl_append

section Writing

variable {first second : Nat → Duration} {boundary : Bytes} {one other : FormWriter}

lemma SameForm.copy (h : SameForm first second boundary one other) (headers : Headers)
    {pieces pieces' : List Bytes} (hdata : pieces.flatten = pieces'.flatten) :
    SameForm first second boundary
      (pieces.foldl (fun writer bytes => writer.write bytes) (one.beginPart headers))
      (pieces'.foldl (fun writer bytes => writer.write bytes) (other.beginPart headers)) := by
  obtain ⟨entries, entries', hone, hother, hsame⟩ := h
  refine ⟨entries ++ [.copied headers pieces.flatten], entries' ++ [.copied headers pieces.flatten],
    ?_, ?_, List.rel_append hsame (.cons (.same _) .nil)⟩
  · rw [writing_append]
    exact (hone.beginPart headers).writeAll pieces
  · rw [writing_append, hdata]
    exact (hother.beginPart headers).writeAll pieces'

/-- The fields of a stored file are its descriptions. -/
lemma same_fields {entries : List Entry} (h : one.Same (writing boundary entries)) (name : String)
    (file : StoredFile) :
    FormWriter.Same
      ((file.fields name).foldl (fun writer (key, value) => writer.writeField key value) one)
      (writing boundary (entries ++ descriptions name file)) := by
  rw [writing_append]
  exact ((((h.writeField _ _).writeField _ _).writeField _ _).writeField _ _).writeField _ _

lemma retimed_descriptions (name : String) {file : StoredFile} {n : Nat}
    (hduration : file.duration = first n) :
    List.Forall₂ (Entry.Retimed first second) (descriptions name file)
      (descriptions name { file with duration := second n }) := by
  refine .cons (.same _) (.cons (.same _) (.cons (.same _) (.cons (.same _) (.cons ?_ .nil))))
  rw [hduration]
  exact .timed name n

lemma SameForm.describe (h : SameForm first second boundary one other) (name : String)
    {file : StoredFile} {n : Nat} (hduration : file.duration = first n) :
    SameForm first second boundary
      ((file.fields name).foldl (fun writer (key, value) => writer.writeField key value) one)
      ((StoredFile.fields { file with duration := second n } name).foldl
        (fun writer (key, value) => writer.writeField key value) other) := by
  obtain ⟨entries, entries', hone, hother, hsame⟩ := h
  exact ⟨_, _, same_fields hone name file, same_fields hother name _,
    List.rel_append hsame (retimed_descriptions name hduration)⟩

end Writing

/-! ### Side by side -/

/-- A part that is read in two ways. -/
structure SamePart (part part' : Part) : Prop where
  headers : part.headers = part'.headers
  data : part.data = part'.data
  whole : part.fault = none
  whole' : part'.fault = none

lemma SamePart.deliver {part' : Part} (h : SamePart part part') :
    (dataOf part).deliver = (dataOf part').deliver := by
  rw [deliver_dataOf, deliver_dataOf, h.data, h.whole, h.whole']

variable {boundary : Bytes} {part' : Part} {draft' : Draft}

end Deposit

end Intercept
