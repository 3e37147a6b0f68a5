/-
# The headers of a part, read and written

What is read of a header block is clean: no name occurs twice, names are small letters, values are
trimmed, and there are not too many.  Clean headers that are written, each in a line, are read back
as they are, and the empty line behind them is the first one.
-/
import Intercept.Multipart.HeaderBlock
import Intercept.Multipart.Writer
import Intercept.Proofs.Bytes
import Intercept.Proofs.Http.Header

namespace Intercept

namespace HeaderBlock

variable {header : Header} {headers : Headers} {input rest : Bytes}

/-- A header as it is read. -/
structure Legible (header : Header) : Prop where
  nonempty : header.1 ≠ []
  name : ∀ b ∈ header.1, Header.isNameByte b = true
  small : header.1.map Bytes.lower = header.1
  value : ∀ b ∈ header.2, Header.isValueByte b = true
  trimmed : Bytes.trim isBlank header.2 = header.2

/-- The headers of a part as they are read. -/
structure Clean (headers : Headers) : Prop where
  distinct : headers.names.Nodup
  legible : ∀ header ∈ headers, Legible header
  few : headers.length ≤ maxHeaders

/-! ### Reading -/

/-- A line that is read gives a legible header. -/
lemma line?_legible (hline : line? input = some (header, rest)) : Legible header := by
  simp only [line?] at hline
  split at hline
  · next first more behind hname _ =>
    have hbytes : ∀ b ∈ first :: more, Header.isNameByte b = true := by
      rw [← hname]
      exact fun b hb => List.mem_takeWhile_imp hb
    obtain ⟨_, _, heq⟩ := Option.map_eq_some_iff.1 hline
    obtain ⟨rfl, rfl⟩ := Prod.mk.inj heq
    refine ⟨by rw [hname]; simp, ?_, ?_, ?_, Bytes.trim_trim _ _⟩
    · rintro b hb
      rw [hname] at hb
      obtain ⟨c, hc, rfl⟩ := List.mem_map.1 hb
      exact Header.isNameByte_lower (hbytes c hc)
    · simp
    · intro b hb
      exact List.mem_takeWhile_imp (Bytes.mem_of_mem_trim hb)
  · cases hline

lemma lines?_legible {room : Nat} (hlines : lines? room input = some headers) :
    headers.length ≤ room ∧ ∀ header ∈ headers, Legible header := by
  induction room generalizing input headers with
  | zero =>
    unfold lines? at hlines
    split at hlines
    · obtain rfl := Option.some.inj hlines
      simp
    · cases hlines
  | succ room ih =>
    unfold lines? at hlines
    split at hlines
    · obtain rfl := Option.some.inj hlines
      simp
    · simp only at hlines
      split at hlines
      · next first behind hline =>
        obtain ⟨others, hothers, rfl⟩ := Option.map_eq_some_iff.1 hlines
        obtain ⟨hlength, hlegible⟩ := ih hothers
        refine ⟨Nat.succ_le_succ hlength, fun other hother => ?_⟩
        rcases List.mem_cons.1 hother with rfl | hother
        · exact line?_legible hline
        · exact hlegible other hother
      · cases hlines

lemma merged_eq_foldl (headers : Headers) :
    merged headers
      = headers.foldl (fun (done : Headers) header => done.set header.1 header.2) [] := rfl

/-- Setting legible headers, one after the other, keeps names distinct. -/
lemma foldl_set_clean {done : Headers} {room : Nat} (hdistinct : done.names.Nodup)
    (hdone : ∀ header ∈ done, Legible header) (hheaders : ∀ header ∈ headers, Legible header)
    (hroom : done.length + headers.length ≤ room) :
    let merged := headers.foldl (fun (done : Headers) header => done.set header.1 header.2) done
    merged.names.Nodup ∧ (∀ header ∈ merged, Legible header) ∧ merged.length ≤ room := by
  induction headers generalizing done with
  | nil => exact ⟨hdistinct, hdone, hroom⟩
  | cons first more ih =>
    refine ih (Headers.names_set_nodup hdistinct _ _) (fun header hheader => ?_)
      (fun header hheader => hheaders header (List.mem_cons_of_mem _ hheader)) ?_
    · rcases Headers.mem_set hheader with rfl | hold
      · exact hheaders first List.mem_cons_self
      · exact hdone header hold
    · have hlonger := Headers.length_set_le done first.1 first.2
      rw [List.length_cons] at hroom
      show (done.set first.1 first.2).length + more.length ≤ room
      omega

/-- Whatever is read of a block is clean. -/
lemma parse?_clean (hparse : parse? input = some headers) : Clean headers := by
  obtain ⟨raw, hraw, rfl⟩ := Option.map_eq_some_iff.1 hparse
  obtain ⟨hlength, hlegible⟩ := lines?_legible hraw
  have hempty : (Headers.names []).Nodup := List.nodup_nil
  have hmerged := foldl_set_clean hempty (fun header h => absurd h List.not_mem_nil) hlegible
    (List.length_nil ▸ (Nat.zero_add _).le)
  rw [← merged_eq_foldl] at hmerged
  exact ⟨hmerged.1, hmerged.2.1, hmerged.2.2.trans hlength⟩

lemma foldl_set_of_nodup {done : Headers} (hdistinct : (done ++ headers).names.Nodup) :
    headers.foldl (fun (done : Headers) header => done.set header.1 header.2) done
      = done ++ headers := by
  induction headers generalizing done with
  | nil => simp
  | cons first more ih =>
    have hnew : first.1 ∉ done.names := by
      rw [Headers.names_append, Headers.names_cons, List.nodup_append] at hdistinct
      exact fun hmem => hdistinct.2.2 _ hmem _ List.mem_cons_self rfl
    rw [List.foldl_cons, Headers.set_of_not_mem hnew, ih (by simpa using hdistinct)]
    simp

/-- Headers of distinct names are not changed by merging. -/
lemma merged_of_nodup (hdistinct : headers.names.Nodup) : merged headers = headers := by
  have hfold := foldl_set_of_nodup (show (Headers.names ([] ++ headers)).Nodup from hdistinct)
  rw [merged_eq_foldl, hfold, List.nil_append]

/-! ### Writing -/

/-- Names and values as they may be written in lines. -/
structure Writable (header : Header) : Prop where
  nonempty : header.1 ≠ []
  name : ∀ b ∈ header.1, Header.isNameByte b = true
  value : ∀ b ∈ header.2, Header.isValueByte b = true

/-- What a written header is read as. -/
def seen (header : Header) : Header := (header.1.map Bytes.lower, Bytes.trim isBlank header.2)

lemma Legible.writable (h : Legible header) : Writable header := ⟨h.nonempty, h.name, h.value⟩

lemma Legible.seen (h : Legible header) : seen header = header := by
  rw [HeaderBlock.seen, h.small, h.trimmed]

lemma lineEnd?_of_ne {b : UInt8} (hreturn : b ≠ 13) (hfeed : b ≠ 10) (rest : Bytes) :
    lineEnd? (b :: rest) = none := by
  unfold lineEnd?
  split
  · next h => exact absurd (List.cons.inj h).1 hfeed
  · next h => exact absurd (List.cons.inj h).1 hreturn
  · rfl

/-- A written line is read back. -/
lemma line?_headerLine (h : Writable header) (rest : Bytes) :
    line? (FormWriter.headerLine header ++ rest) = some (seen header, rest) := by
  obtain ⟨name, value⟩ := header
  have hinput : FormWriter.headerLine (name, value) ++ rest
      = name ++ 58 :: ((32 :: value) ++ 13 :: 10 :: rest) := by
    simp [FormWriter.headerLine]
  have hname : (name ++ 58 :: ((32 :: value) ++ 13 :: 10 :: rest)).takeWhile Header.isNameByte
      = name := Bytes.takeWhile_append_cons h.name rfl _
  have hvalue : ((32 :: value) ++ 13 :: 10 :: rest).takeWhile Header.isValueByte = 32 :: value := by
    refine Bytes.takeWhile_append_cons (fun b hb => ?_) rfl _
    rcases List.mem_cons.1 hb with rfl | hb
    · rfl
    · exact h.value b hb
  rw [hinput, line?, hname, List.drop_left]
  obtain ⟨first, more, hcons⟩ := List.exists_cons_of_ne_nil h.nonempty
  simp only at hcons
  simp only [hcons]
  rw [hvalue, List.drop_left, lineEnd?, Option.map_some, Bytes.trim_cons_of_pos rfl, seen]

/-- Written lines are read back, up to the empty line. -/
lemma lines?_written {written : List Header} (hwritten : ∀ header ∈ written, Writable header)
    {room : Nat} (hroom : written.length ≤ room) :
    lines? room (written.flatMap FormWriter.headerLine ++ [13, 10]) = some (written.map seen) := by
  induction written generalizing room with
  | nil => rw [lines?.eq_def]; rfl
  | cons first more ih =>
    obtain ⟨room, rfl⟩ : ∃ n, room = n + 1 := ⟨room - 1, by rw [List.length_cons] at hroom; omega⟩
    have hfirst := hwritten first List.mem_cons_self
    have hstart : lineEnd? ((first :: more).flatMap FormWriter.headerLine ++ [13, 10]) = none := by
      obtain ⟨b, others, hcons⟩ := List.exists_cons_of_ne_nil hfirst.nonempty
      have hb : Header.isNameByte b = true := hfirst.name b (hcons ▸ List.mem_cons_self)
      simp only [List.flatMap_cons, FormWriter.headerLine, hcons, List.cons_append]
      exact lineEnd?_of_ne (Header.ne_of_isNameByte hb rfl) (Header.ne_of_isNameByte hb rfl) _
    rw [lines?, hstart, List.flatMap_cons, List.append_assoc, line?_headerLine hfirst]
    simp only
    rw [ih (fun header hheader => hwritten header (List.mem_cons_of_mem _ hheader))
      (by rw [List.length_cons] at hroom; omega)]
    rfl

/-! ### The empty line -/

/-- The end of a line and an empty line. -/
def blankLine : Bytes := [13, 10, 13, 10]

lemma headerLine_eq (header : Header) :
    FormWriter.headerLine header = (header.1 ++ 58 :: 32 :: header.2) ++ [13, 10] := by
  simp [FormWriter.headerLine]

lemma Writable.ne_return (h : Writable header) :
    ∀ b ∈ header.1 ++ 58 :: 32 :: header.2, b ≠ 13 := by
  intro b hb
  simp only [List.mem_append, List.mem_cons] at hb
  rcases hb with hb | rfl | rfl | hb
  · exact Header.ne_of_isNameByte (h.name b hb) rfl
  · decide
  · decide
  · exact Header.ne_of_isValueByte (h.value b hb) rfl

/-- A line that is not empty is no part of the end of a block. -/
lemma cutBehind?_headerLine (h : Writable header) {b : UInt8} (hb : b ≠ 13) (rest : Bytes) :
    Bytes.cutBehind? blankLine (FormWriter.headerLine header ++ b :: rest)
      = (Bytes.cutBehind? blankLine (b :: rest)).map fun (before, behind) =>
          (FormWriter.headerLine header ++ before, behind) := by
  have hcontent := h.ne_return
  rw [headerLine_eq]
  generalize header.1 ++ 58 :: 32 :: header.2 = content at hcontent
  refine Bytes.cutBehind?_skip fun j hj hocc => ?_
  have hreturn := Bytes.getElem?_of_prefix_drop hocc (k := 0) (by decide)
  have hagain := Bytes.getElem?_of_prefix_drop hocc (k := 2) (by decide)
  rw [List.append_assoc] at hreturn hagain
  rw [List.length_append, List.length_cons, List.length_singleton] at hj
  -- an empty line that begins in the line would have a carriage return where there is none
  by_cases hinside : j < content.length
  · rw [Nat.add_zero, List.getElem?_append_left hinside] at hreturn
    exact hcontent 13 (List.mem_of_getElem? hreturn) rfl
  · rw [List.getElem?_append_right (by omega)] at hreturn hagain
    obtain rfl | rfl : j = content.length ∨ j = content.length + 1 := by omega
    · rw [Nat.add_sub_cancel_left] at hagain
      exact hb (Option.some.inj hagain)
    · rw [Nat.add_zero, Nat.add_sub_cancel_left] at hreturn
      exact absurd (Option.some.inj hreturn) (by decide)

/-- The empty line behind written lines is the first one. -/
lemma cutBehind?_written {written : List Header} (hne : written ≠ [])
    (hwritten : ∀ header ∈ written, Writable header) (rest : Bytes) :
    Bytes.cutBehind? blankLine (written.flatMap FormWriter.headerLine ++ [13, 10] ++ rest)
      = some (written.flatMap FormWriter.headerLine ++ [13, 10], rest) := by
  induction written with
  | nil => exact absurd rfl hne
  | cons first more ih =>
    have hfirst := hwritten first List.mem_cons_self
    have hmore : ∀ header ∈ more, Writable header :=
      fun header hheader => hwritten header (List.mem_cons_of_mem _ hheader)
    cases more with
    | nil =>
      refine Bytes.cutBehind?_eq_some_iff.2 ⟨first.1 ++ 58 :: 32 :: first.2, ?_, ?_, ?_⟩
      · simp [FormWriter.headerLine, blankLine]
      · simp [FormWriter.headerLine, blankLine]
      · intro j hj hocc
        have hreturn := Bytes.getElem?_of_prefix_drop hocc (k := 0) (by decide)
        have hcontent := hfirst.ne_return
        rw [List.flatMap_singleton, headerLine_eq, List.append_assoc, List.append_assoc,
          Nat.add_zero, List.getElem?_append_left hj] at hreturn
        exact hcontent 13 (List.mem_of_getElem? hreturn) rfl
    | cons second others =>
      obtain ⟨b, name, hcons⟩ :=
        List.exists_cons_of_ne_nil (hmore second List.mem_cons_self).nonempty
      have hb : b ≠ 13 := Header.ne_of_isNameByte
        ((hmore second List.mem_cons_self).name b (hcons ▸ List.mem_cons_self)) rfl
      have hrest := ih (List.cons_ne_nil second others) hmore
      obtain ⟨behind, hbehind⟩ : ∃ behind,
          (second :: others).flatMap FormWriter.headerLine ++ [13, 10] ++ rest = b :: behind := by
        simp [FormWriter.headerLine, hcons]
      rw [List.flatMap_cons, List.append_assoc, List.append_assoc, ← List.append_assoc _ [13, 10],
        hbehind, cutBehind?_headerLine hfirst hb, ← hbehind, hrest]
      simp

/-! ### Blocks -/

/-- A block that a reader takes for the headers of a part: it ends with its first empty line. -/
structure Reads (block : Bytes) (headers : Headers) : Prop where
  cut : ∀ rest, Bytes.cutBehind? blankLine (block ++ rest) = some (block, rest)
  parse : parse? block = some headers

/-- Written lines of distinct names are read back. -/
lemma reads_written {written : List Header} (hne : written ≠ [])
    (hwritten : ∀ header ∈ written, Writable header) (hfew : written.length ≤ maxHeaders)
    (hdistinct : (Headers.names (written.map seen)).Nodup) :
    Reads (written.flatMap FormWriter.headerLine ++ [13, 10]) (written.map seen) where
  cut := cutBehind?_written hne hwritten
  parse := by
    rw [parse?, lines?_written hwritten hfew, Option.map_some, merged_of_nodup hdistinct]

/-- Clean headers are read back as they are. -/
lemma Clean.reads (hclean : Clean headers) (hne : headers ≠ []) :
    Reads (headers.grouped.flatMap FormWriter.headerLine ++ [13, 10]) headers := by
  have hseen : headers.map seen = headers := by
    conv_rhs => rw [← List.map_id headers]
    exact List.map_congr_left fun header hheader => (hclean.legible header hheader).seen
  have hreads := reads_written hne (fun header hheader => (hclean.legible header hheader).writable)
    hclean.few (hseen.symm ▸ hclean.distinct)
  rw [hseen] at hreads
  rwa [Headers.grouped_of_nodup hclean.distinct]

end HeaderBlock

end Intercept
