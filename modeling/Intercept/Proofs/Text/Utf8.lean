/-
# Text and its bytes

A text and its bytes determine each other, and the bytes of a text are those of its characters one
after the other.  A byte below 128 stands for the character of the same code and nothing else, so
that looking for such a byte is looking for that character.
-/
import Mathlib.Tactic.Common
import Intercept.Text.Utf8

namespace Intercept

namespace Utf8

variable {text other : String} {bytes : Bytes}

@[simp] lemma encode_append (text other : String) :
    encode (text ++ other) = encode text ++ encode other := by
  simp [encode, String.toByteArray_append]

lemma encode_ofList (chars : List Char) :
    encode (String.ofList chars) = chars.flatMap String.utf8EncodeChar := by
  rw [encode, String.toUTF8_eq_toByteArray, String.toByteArray_ofList, List.utf8Encode]
  simp

lemma encode_eq_flatMap (text : String) :
    encode text = text.toList.flatMap String.utf8EncodeChar := by
  rw [← encode_ofList, String.ofList_toList]

/-- A text is read from bytes exactly if they are its own. -/
lemma decode?_eq_some_iff : decode? bytes = some text ↔ encode text = bytes := by
  rw [decode?, encode, String.fromUTF8?]
  constructor
  · intro h
    split at h
    · obtain rfl := Option.some.inj h
      simp [String.fromUTF8]
    · cases h
  · rintro rfl
    have hbytes : (⟨text.toUTF8.data.toList.toArray⟩ : ByteArray) = text.toByteArray := by
      simp
    rw [hbytes, dif_pos text.isValidUTF8]
    simp [String.fromUTF8]

@[simp] lemma decode?_encode (text : String) : decode? (encode text) = some text :=
  decode?_eq_some_iff.2 rfl

lemma encode_inj {other : String} (h : encode text = encode other) : text = other := by
  rw [← Option.some_inj, ← decode?_encode text, h, decode?_encode]

/-- The bytes of a character beyond the first 128 are all above those. -/
lemma mem_utf8EncodeChar_iff {c : Char} {b : UInt8} (hb : b < 128) :
    b ∈ String.utf8EncodeChar c ↔ c.toNat = b.toNat := by
  have hlt : b.toNat < 128 := UInt8.lt_iff_toNat_lt.1 hb
  have hc : c.toNat = c.val.toNat := rfl
  have hvalid : c.val.toNat < 1114112 := by
    rcases c.valid with h | h
    · omega
    · omega
  unfold String.utf8EncodeChar
  simp only
  split
  · simp only [List.mem_singleton, ← UInt8.toNat_inj, UInt8.toNat_ofNat']
    omega
  · split
    · simp only [List.mem_cons, List.not_mem_nil, or_false, ← UInt8.toNat_inj, UInt8.toNat_ofNat']
      omega
    · split
      · simp only [List.mem_cons, List.not_mem_nil, or_false, ← UInt8.toNat_inj, UInt8.toNat_ofNat']
        omega
      · simp only [List.mem_cons, List.not_mem_nil, or_false, ← UInt8.toNat_inj, UInt8.toNat_ofNat']
        omega

/-- A byte below 128 stands in a text exactly where its character does. -/
lemma mem_encode_iff {c : Char} {b : UInt8} (hb : b < 128) (hc : c.toNat = b.toNat) :
    b ∈ encode text ↔ c ∈ text.toList := by
  rw [encode_eq_flatMap, List.mem_flatMap]
  constructor
  · rintro ⟨d, hd, hbd⟩
    have hsame : d = c := by
      rw [← Char.toNat_inj, hc]
      exact (mem_utf8EncodeChar_iff hb).1 hbd
    exact hsame ▸ hd
  · intro h
    exact ⟨c, h, (mem_utf8EncodeChar_iff hb).2 hc⟩

/-- A character of the first 128 is one byte. -/
lemma utf8EncodeChar_of_lt {c : Char} (hc : c.toNat < 128) :
    String.utf8EncodeChar c = [UInt8.ofNat c.toNat] := by
  have hval : c.val.toNat ≤ 127 := Nat.le_of_lt_succ hc
  unfold String.utf8EncodeChar
  simp only [if_pos hval]
  rfl

/-- A text of such characters is spelled by their codes. -/
lemma encode_ofList_ofNat (h : ∀ b ∈ bytes, b < 128) :
    encode (String.ofList (bytes.map fun b => Char.ofNat b.toNat)) = bytes := by
  have hchar : ∀ b < 128, String.utf8EncodeChar (Char.ofNat b.toNat) = [b] := by
    intro b hb
    have hlt : b.toNat < 128 := UInt8.lt_iff_toNat_lt.1 hb
    have hcode : (Char.ofNat b.toNat).toNat = b.toNat := by
      rw [Char.ofNat, dif_pos (.inl (by omega))]
      rfl
    rw [utf8EncodeChar_of_lt (by rw [hcode]; exact hlt), hcode, UInt8.ofNat_toNat]
  rw [encode_ofList]
  induction bytes with
  | nil => rfl
  | cons b rest ih =>
    obtain ⟨hb, hrest⟩ := List.forall_mem_cons.1 h
    rw [List.map_cons, List.flatMap_cons, hchar b hb, ih hrest, List.singleton_append]

end Utf8

end Intercept
