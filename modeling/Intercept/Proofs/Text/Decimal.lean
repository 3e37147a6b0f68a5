/-
# Whole numbers in decimal

A whole number is written as its digits, of which the first is a zero only if the number is zero, and
the digits are read as the number.  The proofs are by induction on the number: it is a digit, or it
is made of a number other than zero by one more digit.
-/
import Mathlib.Tactic.Common
import Intercept.Proofs.Text.Utf8

namespace Intercept

namespace Decimal

variable {n d : Nat}

/-! ### Digits -/

/-- Whether a byte is a decimal digit. -/
def IsDigit (b : UInt8) : Prop := 48 ≤ b ∧ b ≤ 57
deriving Decidable

/-- The byte of a digit. -/
def digit (d : Nat) : UInt8 := UInt8.ofNat (48 + d)

lemma isDigit_digit (hd : d < 10) : IsDigit (digit d) := by
  have hall : ∀ d < 10, 48 ≤ digit d ∧ digit d ≤ 57 := by decide
  exact hall d hd

lemma encode_toString_of_lt (hd : d < 10) : Utf8.encode (toString d) = [digit d] := by
  have hall : ∀ d < 10, Utf8.encode (toString d) = [digit d] := by decide +kernel
  exact hall d hd

lemma encode_toString_more (hd : d < 10) (hn : 0 < n) :
    Utf8.encode (toString (10 * n + d)) = Utf8.encode (toString n) ++ [digit d] := by
  have htenth : (10 * n + d) / 10 = n := by omega
  have hlast : (10 * n + d) % 10 = d := by omega
  rw [← encode_toString_of_lt hd, ← Utf8.encode_append, Nat.toString_eq_repr,
    Nat.repr_eq_repr_append_repr (by omega), htenth, hlast]
  rfl

/-- A number is written in digits. -/
lemma isDigit_of_mem (n : Nat) : ∀ b ∈ Utf8.encode (toString n), IsDigit b := by
  induction n using Nat.base_induction 10 (by decide) with
  | single d hd =>
    rw [encode_toString_of_lt hd]
    exact List.forall_mem_singleton.2 (isDigit_digit hd)
  | digit n d hd hn ih =>
    rw [encode_toString_more hd hn]
    intro b hb
    rcases List.mem_append.1 hb with hb | hb
    · exact ih b hb
    · rw [List.mem_singleton.1 hb]
      exact isDigit_digit hd

/-- A number has a first digit, which is a zero only if the number is. -/
lemma exists_eq_cons (n : Nat) :
    ∃ first rest, Utf8.encode (toString n) = first :: rest ∧ IsDigit first ∧
      (first = 48 → n = 0) := by
  induction n using Nat.base_induction 10 (by decide) with
  | single d hd =>
    have hall : ∀ d < 10, digit d = 48 → d = 0 := by decide
    exact ⟨digit d, [], encode_toString_of_lt hd, isDigit_digit hd, hall d hd⟩
  | digit n d hd hn ih =>
    obtain ⟨first, rest, hfirst, hdigit, hzero⟩ := ih
    refine ⟨first, rest ++ [digit d], ?_, hdigit, fun h => absurd (hzero h) (Nat.ne_of_gt hn)⟩
    rw [encode_toString_more hd hn, hfirst, List.cons_append]

/-! ### Reading digits -/

/-- What one more byte makes of a number, if it is a digit. -/
def more (n : Nat) (b : UInt8) : Option Nat :=
  if 48 ≤ b ∧ b ≤ 57 then some (10 * n + (b.toNat - 48)) else none

lemma more_digit (n : Nat) (hd : d < 10) : more n (digit d) = some (10 * n + d) := by
  have hvalue : ∀ d < 10, (digit d).toNat - 48 = d := by decide
  obtain ⟨hlow, hhigh⟩ := isDigit_digit hd
  rw [more, if_pos ⟨hlow, hhigh⟩, hvalue d hd]

lemma foldlM_more (n : Nat) : (Utf8.encode (toString n)).foldlM more 0 = some n := by
  induction n using Nat.base_induction 10 (by decide) with
  | single d hd =>
    rw [encode_toString_of_lt hd, List.foldlM_cons, more_digit 0 hd, Nat.mul_zero, Nat.zero_add]
    rfl
  | digit n d hd hn ih =>
    rw [encode_toString_more hd hn, List.foldlM_append, ih]
    show [digit d].foldlM more n = some (10 * n + d)
    rw [List.foldlM_cons, more_digit n hd]
    rfl

/-- A number is read from its digits. -/
lemma decimal?_encode_toString (n : Nat) :
    Bytes.decimal? (Utf8.encode (toString n)) = some n := by
  obtain ⟨first, rest, hfirst, -, -⟩ := exists_eq_cons n
  have hsome : (Utf8.encode (toString n)).isEmpty = false := by
    rw [hfirst]
    rfl
  rw [Bytes.decimal?, hsome, if_neg Bool.false_ne_true]
  exact foldlM_more n

end Decimal

end Intercept
