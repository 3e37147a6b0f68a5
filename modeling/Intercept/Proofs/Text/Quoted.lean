/-
# What a quoted text says

A text can be told from its quotation: what stands for a character begins with itself, which is then
no backslash, or with a backslash and a sign that says how to read what follows.  So no two texts
are quoted alike (`quoted_inj`).
-/
import Mathlib.Tactic.Common
import Intercept.Text.Quoted

namespace Intercept.Text

/-! ### Hexadecimal digits -/

lemma digitChar_inj : ∀ m < 16, ∀ n < 16, Nat.digitChar m = Nat.digitChar n → m = n := by decide

lemma digitChar_ne : ∀ n < 16, Nat.digitChar n ≠ '\x7d' := by decide

lemma hexDigits_of_lt {n : Nat} (h : n < 16) : hexDigits n = [Nat.digitChar n] :=
  Nat.toDigits_of_lt_base h

lemma hexDigits_more {n : Nat} (h : 16 ≤ n) :
    hexDigits n = hexDigits (n / 16) ++ [Nat.digitChar (n % 16)] :=
  Nat.toDigits_of_base_le (by decide) h

lemma hexDigits_inj {m n : Nat} (h : hexDigits m = hexDigits n) : m = n := by
  induction m using Nat.strongRecOn generalizing n with
  | ind m ih =>
    by_cases hm : m < 16 <;> by_cases hn : n < 16
    · rw [hexDigits_of_lt hm, hexDigits_of_lt hn] at h
      exact digitChar_inj m hm n hn (List.cons.inj h).1
    · rw [hexDigits_of_lt hm, hexDigits_more (Nat.not_lt.1 hn)] at h
      exact absurd (List.append_eq_singleton_iff.1 h.symm)
        (by simp [hexDigits, Nat.toDigits_ne_nil])
    · rw [hexDigits_of_lt hn, hexDigits_more (Nat.not_lt.1 hm)] at h
      exact absurd (List.append_eq_singleton_iff.1 h) (by simp [hexDigits, Nat.toDigits_ne_nil])
    · rw [hexDigits_more (Nat.not_lt.1 hm), hexDigits_more (Nat.not_lt.1 hn)] at h
      obtain ⟨hfront, hlast⟩ := List.append_inj' h rfl
      have hquotient := ih (m / 16) (by omega) hfront
      have hremainder := digitChar_inj _ (Nat.mod_lt m (by decide)) _ (Nat.mod_lt n (by decide))
        (List.cons.inj hlast).1
      omega

lemma not_mem_hexDigits (n : Nat) : '\x7d' ∉ hexDigits n := by
  induction n using Nat.strongRecOn with
  | ind n ih =>
    by_cases h : n < 16
    · rw [hexDigits_of_lt h, List.mem_singleton]
      exact (digitChar_ne n h).symm
    · rw [hexDigits_more (Nat.not_lt.1 h), List.mem_append, List.mem_singleton, not_or]
      exact ⟨ih _ (by omega), (digitChar_ne _ (Nat.mod_lt n (by decide))).symm⟩

/-! ### Characters -/

/-- What a letter behind a backslash stands for. -/
def unescaped? : Char → Option Char
  | '"' => some '"'
  | '\\' => some '\\'
  | 'n' => some '\n'
  | 'r' => some '\r'
  | 't' => some '\t'
  | '0' => some '\x00'
  | _ => none

/-- The ways in which a character is quoted. -/
inductive Quotes (c : Char) : List Char → Prop where
  | plain (h : c ≠ '\\') : Quotes c [c]
  | letter {letter : Char} (h : unescaped? letter = some c) : Quotes c ['\\', letter]
  | point : Quotes c ('\\' :: 'u' :: '\x7b' :: (hexDigits c.toNat ++ ['\x7d']))

lemma quotes_quotedChar (c : Char) : Quotes c (quotedChar c) := by
  rw [quotedChar]
  split_ifs with hquote hbackslash hline hreturn htab hzero hhidden
  · subst hquote
    exact .letter rfl
  · subst hbackslash
    exact .letter rfl
  · subst hline
    exact .letter rfl
  · subst hreturn
    exact .letter rfl
  · subst htab
    exact .letter rfl
  · obtain rfl : c = '\x00' := Char.toNat_inj.1 hzero
    exact .letter rfl
  · exact .point
  · exact .plain hbackslash

/-- Two texts that end where a sign stands for the first time are the same if they are so with what
follows. -/
lemma append_cons_inj {front other rest behind : List Char} {c : Char} (hfront : c ∉ front)
    (hother : c ∉ other) (h : front ++ c :: rest = other ++ c :: behind) :
    front = other ∧ rest = behind := by
  rcases List.append_eq_append_iff.1 h with ⟨middle, rfl, hmiddle⟩ | ⟨middle, rfl, hmiddle⟩
  · cases middle with
    | nil => exact ⟨(List.append_nil _).symm, (List.cons.inj hmiddle).2⟩
    | cons first middle =>
      obtain ⟨rfl, -⟩ := List.cons.inj hmiddle
      exact absurd (List.mem_append_right _ List.mem_cons_self) hother
  · cases middle with
    | nil => exact ⟨List.append_nil _, (List.cons.inj hmiddle).2.symm⟩
    | cons first middle =>
      obtain ⟨rfl, -⟩ := List.cons.inj hmiddle
      exact absurd (List.mem_append_right _ List.mem_cons_self) hfront

/-- What stands behind a quoted character does not change how it is read. -/
lemma Quotes.inj {c d : Char} {text other rest behind : List Char} (hc : Quotes c text)
    (hd : Quotes d other) (h : text ++ rest = other ++ behind) : c = d ∧ rest = behind := by
  cases hc with
  | plain hplain =>
    cases hd with
    | plain => exact List.cons.inj h
    | letter => exact absurd (List.cons.inj h).1 hplain
    | point => exact absurd (List.cons.inj h).1 hplain
  | letter hletter =>
    cases hd with
    | plain hplain => exact absurd (List.cons.inj h).1.symm hplain
    | letter hother =>
      obtain ⟨-, h⟩ := List.cons.inj h
      obtain ⟨rfl, rfl⟩ := List.cons.inj h
      exact ⟨Option.some.inj (hletter.symm.trans hother), rfl⟩
    | point =>
      obtain ⟨-, h⟩ := List.cons.inj h
      obtain ⟨rfl, -⟩ := List.cons.inj h
      cases hletter
  | point =>
    cases hd with
    | plain hplain => exact absurd (List.cons.inj h).1.symm hplain
    | letter hletter =>
      obtain ⟨-, h⟩ := List.cons.inj h
      obtain ⟨rfl, -⟩ := List.cons.inj h
      cases hletter
    | point =>
      simp only [List.cons_append, List.append_assoc, List.nil_append, List.cons.injEq,
        true_and] at h
      obtain ⟨hdigits, rfl⟩ := append_cons_inj (not_mem_hexDigits _) (not_mem_hexDigits _) h
      exact ⟨Char.toNat_inj.1 (hexDigits_inj hdigits), rfl⟩

lemma Quotes.ne_nil {c : Char} {text : List Char} (h : Quotes c text) : text ≠ [] := by
  cases h <;> simp

/-! ### Texts -/

lemma flatMap_quotedChar_inj {text other : List Char}
    (h : text.flatMap quotedChar = other.flatMap quotedChar) : text = other := by
  induction text generalizing other with
  | nil =>
    cases other with
    | nil => rfl
    | cons d other =>
      rw [List.flatMap_nil, List.flatMap_cons] at h
      exact absurd (List.append_eq_nil_iff.1 h.symm).1 (quotes_quotedChar d).ne_nil
  | cons c text ih =>
    cases other with
    | nil =>
      rw [List.flatMap_nil, List.flatMap_cons] at h
      exact absurd (List.append_eq_nil_iff.1 h).1 (quotes_quotedChar c).ne_nil
    | cons d other =>
      rw [List.flatMap_cons, List.flatMap_cons] at h
      obtain ⟨rfl, hrest⟩ := (quotes_quotedChar c).inj (quotes_quotedChar d) h
      rw [ih hrest]

/-- **Quoted texts.**  No two texts are quoted alike. -/
theorem quoted_inj {text other : String} : quoted text = quoted other ↔ text = other := by
  constructor
  · intro h
    rw [quoted, quoted, String.ofList_inj, List.cons_append, List.cons_append] at h
    have hchars := List.append_cancel_right (List.cons.inj h).2
    exact String.toList_inj.1 (flatMap_quotedChar_inj hchars)
  · rintro rfl
    rfl

end Intercept.Text
