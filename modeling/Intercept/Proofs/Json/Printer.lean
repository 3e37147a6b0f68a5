/-
# JSON in a header

A header holds no control characters but the tab.  In JSON the control characters below the blank are
written as escapes, and the one behind the other characters of ASCII is written as it is.  So JSON may
stand in a header exactly if no string in it holds that one.
-/
import Mathlib.Tactic.Common
import Intercept.Http.Header
import Intercept.Json.Printer
import Intercept.Proofs.Text.Utf8

namespace Intercept

namespace Json

/-- The control character that is written as it is. -/
def bareControl : Char := '\x7f'

/-- A digit of an escape may stand in a header. -/
lemma isValueByte_hexDigit {n : Nat} (hn : n < 16) :
    Header.isValueByte (UInt8.ofNat (Bytes.hexDigit n).toNat) = true := by
  have hall : ∀ n < 16,
      Header.isValueByte (UInt8.ofNat (Bytes.hexDigit n).toNat) = true := by decide
  exact hall n hn

lemma all_escapeByte (b : UInt8) : (escapeByte b).all Header.isValueByte = (b != 127) := by
  unfold escapeByte
  split_ifs with hquote hback hbackspace hfeed hline hreturn htab hcontrol
  · subst hquote; decide
  · subst hback; decide
  · subst hbackspace; decide
  · subst hfeed; decide
  · subst hline; decide
  · subst hreturn; decide
  · subst htab; decide
  · have hlow : b.toNat < 32 := UInt8.lt_iff_toNat_lt.1 hcontrol
    have hne : b ≠ 127 := by
      rintro rfl
      exact absurd hcontrol (by decide)
    have hfirst := isValueByte_hexDigit (show b.toNat / 16 < 16 by omega)
    have hsecond := isValueByte_hexDigit (show b.toNat % 16 < 16 by omega)
    have hopening : ([92, 117, 48, 48] : Bytes).all Header.isValueByte = true := by decide
    rw [List.all_append, hopening, bne_iff_ne.2 hne]
    simp [hfirst, hsecond]
  · have hblank : (32 : UInt8) ≤ b := UInt8.not_lt.1 hcontrol
    have hne : (b == 9) = false := beq_eq_false_iff_ne.2 htab
    simp [Header.isValueByte, hblank, hne]

lemma all_renderString (text : String) :
    (renderString (Utf8.encode text)).all Header.isValueByte = true ↔ bareControl ∉ text.toList := by
  have hquote : Header.isValueByte 34 = true := by decide
  have hbyte : (127 : UInt8) ∈ Utf8.encode text ↔ bareControl ∈ text.toList :=
    Utf8.mem_encode_iff (by decide) rfl
  rw [← hbyte]
  simp only [renderString, List.cons_append, List.all_cons, List.all_append, List.all_flatMap,
    all_escapeByte, hquote, List.all_nil, Bool.and_true, Bool.true_and, List.all_eq_true, bne_iff_ne]
  exact ⟨fun hall hmem => hall 127 hmem rfl, fun hnone b hb hsame => hnone (hsame ▸ hb)⟩

/-- The members of an object whose values are texts. -/
def textMembers (entries : List (String × String)) : List (Bytes × Json) :=
  entries.map fun (key, value) => (Utf8.encode key, .text value)

lemma all_renderMembers (entries : List (String × String)) :
    (renderMembers (textMembers entries)).all Header.isValueByte = true ↔
      ∀ entry ∈ entries, bareControl ∉ entry.1.toList ∧ bareControl ∉ entry.2.toList := by
  have hcomma : Header.isValueByte 44 = true := by decide
  have hcolon : Header.isValueByte 58 = true := by decide
  induction entries with
  | nil => simp [textMembers, renderMembers]
  | cons entry rest ih =>
    obtain ⟨key, value⟩ := entry
    show (44 :: (renderString (Utf8.encode key) ++ 58 :: (renderString (Utf8.encode value)
      ++ renderMembers (textMembers rest)))).all Header.isValueByte = true ↔ _
    simp only [List.all_cons, List.all_append, hcomma, hcolon, Bool.true_and, Bool.and_eq_true,
      all_renderString, ih, List.forall_mem_cons, and_assoc]

/-- An object whose values are texts may stand in a header exactly if none of its keys and values
holds the control character that is written as it is. -/
lemma all_render_textMembers (entries : List (String × String)) :
    (render (.object (textMembers entries))).all Header.isValueByte = true ↔
      ∀ entry ∈ entries, bareControl ∉ entry.1.toList ∧ bareControl ∉ entry.2.toList := by
  cases entries with
  | nil =>
    have hbraces : (render (.object (textMembers []))).all Header.isValueByte = true := by decide
    simp [hbraces]
  | cons entry rest =>
    obtain ⟨key, value⟩ := entry
    have hbrace : Header.isValueByte 123 = true := by decide
    have hend : Header.isValueByte 125 = true := by decide
    have hcolon : Header.isValueByte 58 = true := by decide
    show (123 :: (renderString (Utf8.encode key) ++ 58 :: (renderString (Utf8.encode value)
      ++ (renderMembers (textMembers rest) ++ [125])))).all Header.isValueByte = true ↔ _
    simp only [List.all_cons, List.all_append, hbrace, hcolon, hend, List.all_nil, Bool.true_and,
      Bool.and_true, Bool.and_eq_true, all_renderString, all_renderMembers, List.forall_mem_cons,
      and_assoc]

end Json

end Intercept
