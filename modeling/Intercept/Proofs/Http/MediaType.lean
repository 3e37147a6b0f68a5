/-
# The boundary of a form

The boundary that headers announce consists of bytes that can be read as text; so there is no
carriage return in it.  A written form announces its own boundary.
-/
import Intercept.Http.MediaType
import Intercept.Multipart.Writer
import Intercept.Proofs.Bytes

namespace Intercept

namespace MediaType

variable {input value rest : Bytes}

/-! ### Values stand in the text -/

lemma quotedValue?_subset (h : quotedValue? input = some (value, rest)) :
    (∀ b ∈ value, b ∈ input) ∧ ∀ b ∈ rest, b ∈ input := by
  simp only [quotedValue?] at h
  split at h
  · next behind hbehind =>
    split at h
    · obtain ⟨rfl, rfl⟩ := Prod.mk.inj (Option.some.inj h)
      constructor
      · intro b hb
        rcases List.mem_append.1 hb with hb | hb
        · exact List.mem_of_mem_take hb
        · exact List.mem_of_mem_drop ((List.takeWhile_prefix _).subset hb)
      · intro b hb
        exact List.mem_of_mem_drop (hbehind ▸ List.mem_cons_of_mem _ hb)
    · cases h
  · cases h

lemma afterQuoted?_subset (h : afterQuoted? input = some rest) : ∀ b ∈ rest, b ∈ input := by
  unfold afterQuoted? at h
  split at h
  · obtain rfl := Option.some.inj h
    simp
  · next behind hbehind =>
    obtain rfl := Option.some.inj h
    intro b hb
    exact (List.dropWhile_suffix _).subset (hbehind ▸ List.mem_cons_of_mem _ hb)
  · cases h

lemma value?_subset (h : value? input = some (value, rest)) :
    (∀ b ∈ value, b ∈ input) ∧ ∀ b ∈ rest, b ∈ input := by
  unfold value? at h
  split at h
  · next quoted =>
    obtain ⟨⟨found, behind⟩, hfound, h⟩ := Option.bind_eq_some_iff.1 h
    obtain ⟨after, hafter, h⟩ := Option.bind_eq_some_iff.1 h
    obtain ⟨rfl, rfl⟩ := Prod.mk.inj (Option.some.inj h)
    obtain ⟨hvalue, hbehind⟩ := quotedValue?_subset hfound
    exact ⟨fun b hb => List.mem_cons_of_mem _ (hvalue b hb),
      fun b hb => List.mem_cons_of_mem _ (hbehind b (afterQuoted?_subset hafter b hb))⟩
  · simp only at h
    split at h
    · obtain ⟨rfl, rfl⟩ := Prod.mk.inj (Option.some.inj h)
      exact ⟨fun b hb => (List.takeWhile_prefix _).subset hb, fun b hb => nomatch hb⟩
    · next behind hbehind =>
      split at h
      · cases h
      · obtain ⟨rfl, rfl⟩ := Prod.mk.inj (Option.some.inj h)
        exact ⟨fun b hb => (List.takeWhile_prefix _).subset hb,
          fun b hb => List.mem_of_mem_drop (hbehind ▸ List.mem_cons_of_mem _ hb)⟩
    · cases h

lemma parameters?_subset {fuel : Nat} {parameters : List (Bytes × Bytes)}
    (h : parameters? fuel input = some parameters) :
    ∀ parameter ∈ parameters, ∀ b ∈ parameter.2, b ∈ input := by
  induction fuel generalizing input parameters with
  | zero => cases h
  | succ fuel ih =>
    have hdrop := (List.dropWhile_suffix (l := input) (· == 32)).subset
    rw [parameters?] at h
    split at h
    · obtain rfl := Option.some.inj h
      simp
    · simp only at h
      split at h
      · next behind _ hbehind =>
        obtain ⟨⟨value, after⟩, hvalue, h⟩ := Option.bind_eq_some_iff.1 h
        obtain ⟨more, hmore, h⟩ := Option.bind_eq_some_iff.1 h
        obtain rfl := Option.some.inj h
        obtain ⟨hin, hafter⟩ := value?_subset hvalue
        have hinput : ∀ b ∈ behind, b ∈ input := fun b hb =>
          hdrop (List.mem_of_mem_drop (hbehind ▸ List.mem_cons_of_mem _ hb))
        intro parameter hparameter b hb
        rcases List.mem_cons.1 hparameter with rfl | hparameter
        · exact hinput b (hin b hb)
        · exact hinput b (hafter b (ih hmore parameter hparameter b hb))
      · cases h

lemma parse?_subset {type : MediaType} (h : parse? input = some type) :
    ∀ parameter ∈ type.parameters, ∀ b ∈ parameter.2, b ∈ input := by
  simp only [parse?] at h
  split at h
  · next behind hbehind =>
    split at h
    · obtain rfl := Option.some.inj h
      simp
    · next after hafter =>
      obtain ⟨parameters, hparameters, rfl⟩ := Option.map_eq_some_iff.1 h
      intro parameter hparameter b hb
      have hin := parameters?_subset hparameters parameter hparameter b hb
      have hrest := List.mem_of_mem_drop (hafter ▸ List.mem_cons_of_mem _ hin)
      exact List.mem_of_mem_drop (hbehind ▸ List.mem_cons_of_mem _ hrest)
    · cases h
  · cases h

/-- A word stands for itself. -/
lemma value?_of_word (hword : ∀ b ∈ input, isWordByte b = true) :
    value? input = some (input, []) := by
  unfold value?
  split
  · exact absurd (hword 34 List.mem_cons_self) (by decide)
  · have hall : input.takeWhile isWordByte = input := List.takeWhile_eq_self_iff.2 hword
    simp only [hall, List.drop_length]

lemma isReadableByte_of_isWordByte {b : UInt8} (hb : isWordByte b = true) :
    Header.isReadableByte b = true := by
  have hrange : ∀ {low high : UInt8}, 32 ≤ low.toNat → high.toNat ≤ 126 →
      low ≤ b ∧ b ≤ high → Header.isReadableByte b = true := by
    intro low high hlow hhigh hb
    simp only [UInt8.le_iff_toNat_le] at hb
    simp only [Header.isReadableByte, Bool.or_eq_true, Bool.and_eq_true, decide_eq_true_eq,
      UInt8.le_iff_toNat_le, UInt8.reduceToNat]
    omega
  have hpunctuation : ∀ c ∈ Header.namePunctuation, Header.isReadableByte c = true :=
    List.all_eq_true.1 (by decide)
  simp only [isWordByte, Header.isNameByte, Bool.and_eq_true, Bool.or_eq_true, decide_eq_true_eq,
    List.contains_iff_mem] at hb
  rcases hb.1 with ((hdigit | hcapital) | hletter) | hother
  · exact hrange (by decide) (by decide) hdigit
  · exact hrange (by decide) (by decide) hcapital
  · exact hrange (by decide) (by decide) hletter
  · exact hpunctuation b hother

end MediaType

/-- The boundary that headers announce depends on the content types only. -/
lemma Headers.boundary?_congr {headers other : Headers}
    (h : headers.values Header.contentType = other.values Header.contentType) :
    headers.boundary? = other.boundary? := by
  rw [boundary?, boundary?, first?, first?, h]

/-- A boundary that headers announce has no carriage return. -/
lemma Headers.not_mem_boundary {headers : Headers} {boundary : Bytes}
    (h : headers.boundary? = some boundary) : 13 ∉ boundary := by
  obtain ⟨value, -, h⟩ := Option.bind_eq_some_iff.1 h
  split at h
  · next hreadable =>
    obtain ⟨type, htype, h⟩ := Option.bind_eq_some_iff.1 h
    rw [MediaType.boundary?] at h
    split at h
    · intro hreturn
      obtain ⟨before, behind, hparameters, -⟩ := List.lookup_eq_some_iff.1 h
      have hvalue := MediaType.parse?_subset htype (Utf8.encode "boundary", boundary)
        (hparameters ▸ by simp) 13 hreturn
      exact absurd (List.all_eq_true.1 hreadable 13 hvalue) (by decide)
    · cases h
  · cases h

namespace FormWriter

lemma contentType_eq (writer : FormWriter) : writer.contentType
    = [109, 117, 108, 116, 105, 112, 97, 114, 116] ++ 47 ::
        ([102, 111, 114, 109, 45, 100, 97, 116, 97] ++ 59 :: 32 ::
          ([98, 111, 117, 110, 100, 97, 114, 121] ++ 61 :: writer.boundary)) := by
  have hlead : Utf8.encode "multipart/form-data; boundary="
      = [109, 117, 108, 116, 105, 112, 97, 114, 116, 47, 102, 111, 114, 109, 45, 100, 97, 116, 97,
          59, 32, 98, 111, 117, 110, 100, 97, 114, 121, 61] := by
    decide +kernel
  rw [contentType, hlead]
  rfl

/-- A written form announces its boundary, if that is a word. -/
lemma boundary?_contentType {writer : FormWriter}
    (hboundary : ∀ b ∈ writer.boundary, MediaType.isWordByte b = true) :
    Headers.boundary? [(Header.contentType, writer.contentType)] = some writer.boundary := by
  have htype : Utf8.encode "multipart" = [109, 117, 108, 116, 105, 112, 97, 114, 116] := by
    decide +kernel
  have hsubtype : Utf8.encode "form-data" = [102, 111, 114, 109, 45, 100, 97, 116, 97] := by
    decide +kernel
  have hname : Utf8.encode "boundary" = [98, 111, 117, 110, 100, 97, 114, 121] := by
    decide +kernel
  have hsuffix : MediaType.withoutSuffix [102, 111, 114, 109, 45, 100, 97, 116, 97]
      = [102, 111, 114, 109, 45, 100, 97, 116, 97] := by
    decide
  have hvalue := MediaType.value?_of_word hboundary
  have hparameters : ∀ fuel, MediaType.parameters? (fuel + 2)
      (32 :: ([98, 111, 117, 110, 100, 97, 114, 121] ++ 61 :: writer.boundary))
        = some [([98, 111, 117, 110, 100, 97, 114, 121], writer.boundary)] := by
    intro fuel
    simp [MediaType.parameters?, hvalue, MediaType.isWordByte, Header.isNameByte,
      Header.namePunctuation, Bytes.lower]
  have hparse : MediaType.parse? writer.contentType = some
      ⟨Utf8.encode "multipart", Utf8.encode "form-data",
        [([98, 111, 117, 110, 100, 97, 114, 121], writer.boundary)]⟩ := by
    have hroom := hparameters (writer.boundary.length + 9)
    rw [contentType_eq, htype, hsubtype]
    simp only [List.cons_append, List.nil_append] at hroom
    simp [MediaType.parse?, MediaType.isWordByte, Header.isNameByte, Header.namePunctuation,
      Bytes.lower, hsuffix, hroom]
  have hreadable : writer.contentType.all Header.isReadableByte = true := by
    have hbytes : ∀ b ∈ writer.boundary, Header.isReadableByte b = true := fun b hb =>
      MediaType.isReadableByte_of_isWordByte (hboundary b hb)
    rw [contentType_eq]
    simp only [List.all_append, List.all_cons, List.all_eq_true.2 hbytes]
    decide
  have hfirst : Headers.first? Header.contentType [(Header.contentType, writer.contentType)]
      = some writer.contentType := by
    simp [Headers.first?, Headers.values]
  rw [Headers.boundary?, hfirst]
  show (if writer.contentType.all Header.isReadableByte = true then _ else none) = _
  rw [if_pos hreadable, hparse]
  simp [MediaType.boundary?, hname]

end FormWriter

end Intercept
