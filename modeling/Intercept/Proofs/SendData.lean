/-
# Directives: what was packed is unpacked

A directive is read by its bytes, which are those of its kind and behind them those of a spelling in
base64.  So what is unpacked from a directive is decided by the value alone that was packed, and it
does not matter whether the characters that fill up the spelling are there.

Whatever stands behind the kind, it is read only if it is such a spelling, with every digit in its
place: no two directives hold the same bytes but for the characters that fill them up.
-/
import Intercept.Proofs.Base64
import Intercept.Proofs.Json.Reader
import Intercept.SendData

namespace Intercept

namespace SendData

variable {kind data : String} {value : Json} {spelling : Bytes}

/-- A directive without the characters that fill up its last group. -/
def unpadded (data : String) : String := String.ofList (data.toList.rdropWhile (· == '='))

/-- A spelling is a text of as many characters. -/
def spelled (spelling : Bytes) : List Char := spelling.map fun b => Char.ofNat b.toNat

lemma pack_eq (kind : String) (value : Json) :
    pack kind value = kind ++ String.ofList (spelled (Base64.encode value.render)) := rfl

lemma encode_spelled (h : ∀ b ∈ spelling, b < 128) :
    Utf8.encode (kind ++ String.ofList (spelled spelling)) = Utf8.encode kind ++ spelling := by
  rw [Utf8.encode_append, spelled, Utf8.encode_ofList_ofNat h]

lemma encode_pack (kind : String) (value : Json) :
    Utf8.encode (pack kind value) = Utf8.encode kind ++ Base64.encode value.render :=
  encode_spelled fun _ => Base64.lt_of_mem_encode value.render

/-- No digit is spelled like the character that fills up a group. -/
lemma ne_of_mem_spelled {bytes : Bytes} {c : Char} (hc : c ∈ spelled (Base64.encodePlain bytes)) :
    c ≠ '=' := by
  have hchar : ∀ n < 128, n ≠ 61 → Char.ofNat n ≠ '=' := by decide
  obtain ⟨b, hb, rfl⟩ := List.mem_map.1 hc
  obtain ⟨n, hn⟩ := Base64.isDigit_of_mem_encodePlain bytes hb
  exact hchar b.toNat (UInt8.lt_iff_toNat_lt.1 hn.low) fun h => hn.ne_pad (UInt8.toNat_inj.1 h)

/-- Without what fills it up a directive holds the plain spelling, if it holds anything. -/
lemma unpadded_pack (kind : String) (hne : value.render ≠ []) :
    unpadded (pack kind value)
      = kind ++ String.ofList (spelled (Base64.encodePlain value.render)) := by
  have hchars : (pack kind value).toList
      = (kind.toList ++ spelled (Base64.encodePlain value.render))
        ++ List.replicate (Base64.padding (Base64.encodePlain value.render).length) '=' := by
    simp [pack_eq, spelled, Base64.encode, Base64.pad]
  have hplain : spelled (Base64.encodePlain value.render) ≠ [] := by
    rw [spelled, Ne, List.map_eq_nil_iff]
    exact Base64.encodePlain_ne_nil hne
  rw [unpadded, hchars, Bytes.rdropWhile_append_replicate (p := (· == '=')) (beq_self_eq_true '=')]
  · rw [← String.toList_inj]
    simp
  · intro c hc
    rw [List.getLast?_append_of_ne_nil _ hplain] at hc
    exact beq_eq_false_iff_ne.2 (ne_of_mem_spelled (List.mem_of_getLast? hc))

lemma encode_unpadded_pack (kind : String) (hne : value.render ≠ []) :
    Utf8.encode (unpadded (pack kind value))
      = Utf8.encode kind ++ Base64.encodePlain value.render := by
  rw [unpadded_pack kind hne]
  refine encode_spelled fun b hb => ?_
  obtain ⟨n, hn⟩ := Base64.isDigit_of_mem_encodePlain _ hb
  exact hn.low

variable {α : Type} {decode : Json → Option α}

/-- What is unpacked from a directive is decided by the value that its spelling holds. -/
lemma unpack_of_spelling (hvalue : value.Written)
    (hdata : Utf8.encode data = Utf8.encode kind ++ spelling)
    (hspelling : Base64.decode? spelling = some value.render) :
    unpack kind decode data = ((decode value).elim (.error .notJson) .ok : Except _ α) := by
  have hkind : isOfKind kind data = true := by
    rw [isOfKind, hdata]
    exact List.isPrefixOf_iff_prefix.2 (List.prefix_append _ _)
  rw [unpack, if_pos hkind, hdata, List.drop_left, hspelling]
  simp only [Json.parse?_render hvalue, Option.bind_some]
  cases decode value <;> rfl

/-- **What was packed is unpacked**, whether or not the directive is filled up. -/
lemma unpack_pack (kind : String) (decode : Json → Option α) (hvalue : value.Written) :
    unpack kind decode (pack kind value) = (decode value).elim (.error .notJson) .ok ∧
    unpack kind decode (unpadded (pack kind value))
      = (decode value).elim (.error .notJson) .ok := by
  obtain ⟨b, more, hrender, -⟩ := Json.exists_render_eq_cons hvalue
  have hne : value.render ≠ [] := hrender ▸ List.cons_ne_nil b more
  exact ⟨unpack_of_spelling hvalue (encode_pack kind value) (Base64.decode?_encode _),
    unpack_of_spelling hvalue (encode_unpadded_pack kind hne) (Base64.decode?_encodePlain _)⟩

section Payload

variable {text other : String} {bytes : Bytes}

/-! ### Payloads -/

/-- The payload of some bytes, filled up. -/
def padded (bytes : Bytes) : String := String.ofList (spelled (Base64.encode bytes))

/-- The payload of some bytes, not filled up. -/
def plain (bytes : Bytes) : String := String.ofList (spelled (Base64.encodePlain bytes))

lemma encode_padded (bytes : Bytes) : Utf8.encode (padded bytes) = Base64.encode bytes :=
  Utf8.encode_ofList_ofNat fun _ => Base64.lt_of_mem_encode bytes

lemma encode_plain (bytes : Bytes) : Utf8.encode (plain bytes) = Base64.encodePlain bytes := by
  refine Utf8.encode_ofList_ofNat fun b hb => ?_
  obtain ⟨n, hn⟩ := Base64.isDigit_of_mem_encodePlain bytes hb
  exact hn.low

/-- A payload that holds some bytes: a spelling of them, filled up or not. -/
def Spells (text : String) (bytes : Bytes) : Prop := text = padded bytes ∨ text = plain bytes

lemma decode?_payload_iff :
    Base64.decode? (Utf8.encode text) = some bytes ↔ Spells text bytes := by
  rw [Base64.decode?_eq_some_iff, ← encode_padded, ← encode_plain]
  exact ⟨Or.imp Utf8.encode_inj Utf8.encode_inj, Or.imp (congrArg Utf8.encode) (congrArg Utf8.encode)⟩

/-- What fills up a payload is dropped, and nothing else. -/
lemma unpadded_append_replicate (bytes : Bytes) (count : Nat) :
    unpadded (String.ofList (spelled (Base64.encodePlain bytes) ++ List.replicate count '='))
      = plain bytes := by
  rw [unpadded, String.toList_ofList,
    Bytes.rdropWhile_append_replicate (p := (· == '=')) (beq_self_eq_true '=')]
  · rfl
  · intro c hc
    exact beq_eq_false_iff_ne.2 (ne_of_mem_spelled (List.mem_of_getLast? hc))

lemma padded_eq (bytes : Bytes) :
    padded bytes = String.ofList (spelled (Base64.encodePlain bytes)
      ++ List.replicate (Base64.padding (Base64.encodePlain bytes).length) '=') := by
  simp [padded, spelled, Base64.encode, Base64.pad]

lemma unpadded_of_spells (h : Spells text bytes) : unpadded text = plain bytes := by
  rcases h with rfl | rfl
  · rw [padded_eq, unpadded_append_replicate]
  · have hnone := unpadded_append_replicate bytes 0
    rwa [List.replicate_zero, List.append_nil] at hnone

lemma plain_inj {others : Bytes} (h : plain bytes = plain others) : bytes = others := by
  have hsame := congrArg (fun text => Base64.decode? (Utf8.encode text)) h
  simp only [encode_plain, Base64.decode?_encodePlain] at hsame
  exact Option.some.inj hsame

/-! ### The form of a payload -/

/-- The alphabet that is safe in addresses, each character at the place of its digit. -/
def alphabet : String := "ABCDEFGHIJKLMNOPQRSTUVWXYZabcdefghijklmnopqrstuvwxyz0123456789-_"

/-- A text in the form of a payload: digits of whole bytes, with no bits left over, and behind them
nothing or what fills up the last group of four. -/
structure IsWhole (text : String) (digits : List Nat) (count : Nat) : Prop where
  chars : text.toList = (unpadded text).toList ++ List.replicate count '='
  letters : (unpadded text).toList.map some = digits.map (alphabet.toList[·]?)
  strict : Base64.Strict digits
  full : count = 0 ∨ (digits.length + count) % 4 = 0 ∧ count < 4

/-- A digit is spelled by its place in the alphabet. -/
lemma letter_eq {n : Nat} (hn : n < 64) :
    alphabet.toList[n]? = some (Char.ofNat (Base64.digit n).toNat) := by
  have hall : ∀ n < 64, alphabet.toList[n]? = some (Char.ofNat (Base64.digit n).toNat) := by
    decide +kernel
  exact hall n hn

lemma map_letter_eq {digits : List Nat} (hlt : ∀ n ∈ digits, n < 64) :
    digits.map (alphabet.toList[·]?) = (spelled (digits.map Base64.digit)).map some := by
  simp only [spelled, List.map_map]
  exact List.map_congr_left fun n hn => letter_eq (hlt n hn)

lemma toList_plain (bytes : Bytes) : (plain bytes).toList = spelled (Base64.encodePlain bytes) :=
  String.toList_ofList

/-- A spelling of some bytes is in the form of a payload. -/
lemma exists_isWhole (h : Spells text bytes) : ∃ count,
    IsWhole text (Base64.toDigits bytes) count := by
  have hplain := unpadded_of_spells h
  have hdigits : (unpadded text).toList.map some
      = (Base64.toDigits bytes).map (alphabet.toList[·]?) := by
    rw [hplain, toList_plain, map_letter_eq Base64.lt_of_mem_toDigits]
    rfl
  have hlength : (Base64.encodePlain bytes).length = (Base64.toDigits bytes).length :=
    List.length_map _
  rcases h with htext | htext
  · refine ⟨Base64.padding (Base64.encodePlain bytes).length, ?_, hdigits,
      Base64.strict_toDigits bytes, .inr ?_⟩
    · rw [hplain, htext, padded_eq, String.toList_ofList, toList_plain]
    · rw [hlength, Base64.padding]
      omega
  · refine ⟨0, ?_, hdigits, Base64.strict_toDigits bytes, .inl rfl⟩
    rw [hplain, htext, List.replicate_zero, List.append_nil]

/-- A text in the form of a payload spells some bytes. -/
lemma IsWhole.exists_spells {digits : List Nat} {count : Nat} (h : IsWhole text digits count) :
    ∃ bytes, Spells text bytes := by
  obtain ⟨bytes, rfl⟩ := h.strict.exists_toDigits
  have hunpadded : (unpadded text).toList = spelled (Base64.encodePlain bytes) :=
    List.map_injective_iff.2 (fun _ _ => Option.some.inj)
      (h.letters.trans (map_letter_eq h.strict.lt))
  have hchars := h.chars
  rw [hunpadded] at hchars
  have htext : text = String.ofList (spelled (Base64.encodePlain bytes)
      ++ List.replicate count '=') := by rw [← hchars, String.ofList_toList]
  have hlength : (Base64.encodePlain bytes).length = (Base64.toDigits bytes).length :=
    List.length_map _
  refine ⟨bytes, ?_⟩
  rcases h.full with hnone | ⟨hfull, hless⟩
  · exact .inr (by rw [htext, hnone, List.replicate_zero, List.append_nil]; rfl)
  · refine .inl ?_
    rw [htext, padded_eq, hlength]
    congr 3
    rw [Base64.padding]
    omega

/-- A directive of its kind is read by what is behind the kind. -/
lemma unpack_append {α : Type} (kind text : String) (decode : Json → Option α) :
    unpack kind decode (kind ++ text) = match Base64.decode? (Utf8.encode text) with
      | none => .error .notBase64
      | some bytes => ((Json.parse? bytes).bind decode).elim (.error .notJson) .ok := by
  have hkind : isOfKind kind (kind ++ text) = true := by
    rw [isOfKind, Utf8.encode_append]
    exact List.isPrefixOf_iff_prefix.2 (List.prefix_append _ _)
  rw [unpack, if_pos hkind, Utf8.encode_append, List.drop_left]
  cases Base64.decode? (Utf8.encode text) with
  | none => rfl
  | some bytes =>
    dsimp only
    cases (Json.parse? bytes).bind decode <;> rfl

/-- **Payloads are canonical.**  What stands behind the kind of a directive is read as some bytes
exactly if it is the padded or the plain spelling of these bytes, whatever value the bytes hold.  Two
payloads hold the same bytes exactly if they differ in nothing but what fills them up; and the texts
that are read at all are those of whole digits, with nothing among them or behind them that would have
to be passed over. -/
theorem unpack_iff_spells (kind text : String) :
    (∀ bytes, Base64.decode? (Utf8.encode text) = some bytes ↔ Spells text bytes) ∧
    (∀ {α : Type} (decode : Json → Option α),
      (unpack kind decode (kind ++ text) = .error .notBase64 ↔ ¬∃ bytes, Spells text bytes) ∧
      ∀ bytes, Spells text bytes → unpack kind decode (kind ++ text)
        = ((Json.parse? bytes).bind decode).elim (.error .notJson) .ok) ∧
    (∀ other bytes others, Spells text bytes → Spells other others →
      (bytes = others ↔ unpadded text = unpadded other)) ∧
    ((∃ bytes, Spells text bytes) ↔ ∃ digits count, IsWhole text digits count) := by
  refine ⟨fun bytes => decode?_payload_iff, fun decode => ⟨?_, fun bytes hbytes => ?_⟩,
    fun other bytes others hbytes hothers => ?_, ?_, ?_⟩
  · rw [unpack_append]
    constructor
    · rintro herror ⟨bytes, hbytes⟩
      rw [decode?_payload_iff.2 hbytes] at herror
      cases hvalue : (Json.parse? bytes).bind decode <;> simp [hvalue] at herror
    · intro hnone
      have hdecode : Base64.decode? (Utf8.encode text) = none :=
        Option.eq_none_iff_forall_ne_some.2 fun bytes hbytes =>
          hnone ⟨bytes, decode?_payload_iff.1 hbytes⟩
      rw [hdecode]
  · rw [unpack_append, decode?_payload_iff.2 hbytes]
  · rw [unpadded_of_spells hbytes, unpadded_of_spells hothers]
    exact ⟨congrArg plain, plain_inj⟩
  · rintro ⟨bytes, hbytes⟩
    exact ⟨_, exists_isWhole hbytes⟩
  · rintro ⟨digits, count, hwhole⟩
    exact hwhole.exists_spells

end Payload

end SendData

end Intercept
