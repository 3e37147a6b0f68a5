/-
# Searching bytes

A search finds the first place where a pattern occurs.  This file says so without the loop: an
occurrence at `i` is a pattern that `text.drop i` begins with, and the first one is an occurrence
with none before it.  From this come the two facts that readers of delimited data rely on.  What
was found is found again when more bytes follow, and bytes in which no occurrence begins can be
left out of the search.

One section is about patterns whose first byte does not come again in them, as is the case with a
delimiter that starts with a carriage return.  Two occurrences of such a pattern do not overlap.
The last sections are about words, about pieces of a text and about trimming.
-/
import Mathlib.Data.List.DropRight
import Mathlib.Tactic.Common
import Intercept.Bytes

namespace Intercept

namespace Bytes

variable {pattern text more before behind : Bytes}

/-! ### The first occurrence -/

lemma indexFrom_add (start k : Nat) :
    indexFrom pattern (start + k) text = (indexFrom pattern start text).map (· + k) := by
  induction text generalizing start with
  | nil => by_cases h : pattern.isEmpty <;> simp [indexFrom, h]
  | cons b rest ih =>
    by_cases h : pattern.isPrefixOf (b :: rest)
    · simp [indexFrom, h]
    · have hnext : start + k + 1 = start + 1 + k := by omega
      simp only [indexFrom, h, Bool.false_eq_true, if_false]
      rw [hnext, ih]

lemma indexOf?_nil : indexOf? pattern [] = if pattern.isEmpty then some 0 else none := rfl

lemma indexOf?_cons (b : UInt8) (rest : Bytes) :
    indexOf? pattern (b :: rest)
      = if pattern.isPrefixOf (b :: rest) then some 0 else (indexOf? pattern rest).map (· + 1) := by
  rw [indexOf?, indexFrom, indexFrom_add]
  rfl

/-- A search finds an occurrence that no other one precedes. -/
lemma indexOf?_eq_some_iff {i : Nat} :
    indexOf? pattern text = some i ↔
      pattern <+: text.drop i ∧ ∀ j < i, ¬ pattern <+: text.drop j := by
  induction text generalizing i with
  | nil =>
    rw [indexOf?_nil]
    cases pattern with
    | nil =>
      cases i with
      | zero => simp
      | succ i =>
        refine ⟨fun h => absurd h (by simp), fun h => ?_⟩
        exact absurd List.nil_prefix (h.2 0 i.succ_pos)
    | cons c pattern => simp
  | cons b rest ih =>
    rw [indexOf?_cons]
    by_cases h : pattern <+: b :: rest
    · -- the first occurrence is here, and any other one comes later
      rw [if_pos (List.isPrefixOf_iff_prefix.2 h)]
      constructor
      · intro hi
        obtain rfl := Option.some.inj hi
        exact ⟨h, by simp⟩
      · rintro ⟨-, hfirst⟩
        cases i with
        | zero => rfl
        | succ i => exact absurd h (hfirst 0 i.succ_pos)
    · rw [if_neg (fun hb => h (List.isPrefixOf_iff_prefix.1 hb))]
      cases i with
      | zero => simp [h]
      | succ i =>
        simp only [Option.map_eq_some_iff, Nat.add_right_cancel_iff, exists_eq_right, ih,
          List.drop_succ_cons]
        -- places behind the first byte are places of the rest, shifted by one
        refine and_congr_right fun _ => ⟨fun hfirst j hj => ?_, fun hfirst j hj => ?_⟩
        · cases j with
          | zero => exact h
          | succ j => exact hfirst j (by omega)
        · exact hfirst (j + 1) (by omega)

/-- A search finds nothing if there is no occurrence. -/
lemma indexOf?_eq_none_iff : indexOf? pattern text = none ↔ ∀ i, ¬ pattern <+: text.drop i := by
  induction text with
  | nil =>
    rw [indexOf?_nil]
    cases pattern <;> simp
  | cons b rest ih =>
    rw [indexOf?_cons]
    by_cases h : pattern <+: b :: rest
    · rw [if_pos (List.isPrefixOf_iff_prefix.2 h)]
      constructor
      · intro hnone
        cases hnone
      · intro hnone
        exact absurd h (hnone 0)
    · rw [if_neg (fun hb => h (List.isPrefixOf_iff_prefix.1 hb)), Option.map_eq_none_iff, ih]
      constructor
      · intro hnone i
        cases i with
        | zero => exact h
        | succ i => exact hnone i
      · intro hnone i
        exact hnone (i + 1)

lemma occursIn_eq_false_iff :
    occursIn pattern text = false ↔ ∀ i, ¬ pattern <+: text.drop i := by
  rw [occursIn, Option.isSome_eq_false_iff, Option.isNone_iff_eq_none, indexOf?_eq_none_iff]

/-- Two lists of bytes begin with the same occurrence if it fits into the shorter one. -/
lemma prefix_drop_append_iff {i : Nat} (hfits : i + pattern.length ≤ text.length) (more : Bytes) :
    pattern <+: (text ++ more).drop i ↔ pattern <+: text.drop i := by
  rw [List.drop_append_of_le_length (by omega)]
  constructor
  · intro h
    refine List.prefix_of_prefix_length_le h (List.prefix_append _ _) ?_
    rw [List.length_drop]
    omega
  · intro h
    exact h.trans (List.prefix_append _ _)

/-- The bytes of an occurrence are those of the pattern. -/
lemma getElem?_of_prefix_drop {i k : Nat} (hocc : pattern <+: text.drop i)
    (hk : k < pattern.length) : text[i + k]? = pattern[k]? := by
  obtain ⟨rest, hrest⟩ := hocc
  rw [← List.getElem?_drop, ← hrest, List.getElem?_append_left hk]

/-! ### Cutting at the first occurrence -/

lemma cutBefore?_eq_some_iff :
    cutBefore? pattern text = some (before, behind) ↔
      text = before ++ behind ∧ pattern <+: behind ∧
        ∀ j < before.length, ¬ pattern <+: text.drop j := by
  rw [cutBefore?, Option.map_eq_some_iff]
  constructor
  · rintro ⟨i, hi, hcut⟩
    obtain ⟨rfl, rfl⟩ := Prod.mk.inj hcut
    obtain ⟨hocc, hfirst⟩ := indexOf?_eq_some_iff.1 hi
    refine ⟨(List.take_append_drop i text).symm, hocc, fun j hj => hfirst j ?_⟩
    rw [List.length_take] at hj
    omega
  · rintro ⟨rfl, hocc, hfirst⟩
    refine ⟨before.length, indexOf?_eq_some_iff.2 ⟨?_, hfirst⟩, ?_⟩
    · rwa [List.drop_left]
    · rw [List.take_left, List.drop_left]

lemma cutBefore?_eq_none_iff :
    cutBefore? pattern text = none ↔ ∀ i, ¬ pattern <+: text.drop i := by
  rw [cutBefore?, Option.map_eq_none_iff, indexOf?_eq_none_iff]

lemma cutBehind?_eq_some_iff :
    cutBehind? pattern text = some (before, behind) ↔
      ∃ start, before = start ++ pattern ∧ text = start ++ pattern ++ behind ∧
        ∀ j < start.length, ¬ pattern <+: text.drop j := by
  rw [cutBehind?, Option.map_eq_some_iff]
  constructor
  · rintro ⟨i, hi, hcut⟩
    obtain ⟨rfl, rfl⟩ := Prod.mk.inj hcut
    obtain ⟨hocc, hfirst⟩ := indexOf?_eq_some_iff.1 hi
    obtain ⟨tail, htail⟩ := hocc
    have htake : text.take (i + pattern.length) = text.take i ++ pattern := by
      rw [List.take_add, ← htail, List.take_left]
    refine ⟨text.take i, htake, ?_, fun j hj => hfirst j ?_⟩
    · rw [← htake, List.take_append_drop]
    · rw [List.length_take] at hj
      omega
  · rintro ⟨start, rfl, rfl, hfirst⟩
    refine ⟨start.length, indexOf?_eq_some_iff.2 ⟨?_, hfirst⟩, ?_⟩
    · rw [List.append_assoc, List.drop_left]
      exact List.prefix_append _ _
    · rw [← List.length_append, List.take_left, List.drop_left]

/-- What was found is found again when more bytes follow. -/
lemma cutBefore?_append (hfound : cutBefore? pattern text = some (before, behind)) (more : Bytes) :
    cutBefore? pattern (text ++ more) = some (before, behind ++ more) := by
  obtain ⟨rfl, hocc, hfirst⟩ := cutBefore?_eq_some_iff.1 hfound
  refine cutBefore?_eq_some_iff.2
    ⟨List.append_assoc _ _ _, hocc.trans (List.prefix_append _ _), fun j hj hearly => ?_⟩
  -- an earlier occurrence would end before the one that was found
  have hfits : j + pattern.length ≤ (before ++ behind).length := by
    have := hocc.length_le
    rw [List.length_append]
    omega
  exact hfirst j hj ((prefix_drop_append_iff hfits more).1 hearly)

lemma cutBehind?_append (hfound : cutBehind? pattern text = some (before, behind)) (more : Bytes) :
    cutBehind? pattern (text ++ more) = some (before, behind ++ more) := by
  obtain ⟨start, rfl, rfl, hfirst⟩ := cutBehind?_eq_some_iff.1 hfound
  refine cutBehind?_eq_some_iff.2 ⟨start, rfl, List.append_assoc _ _ _, fun j hj hearly => ?_⟩
  have hfits : j + pattern.length ≤ (start ++ pattern ++ behind).length := by
    simp only [List.length_append]
    omega
  exact hfirst j hj ((prefix_drop_append_iff hfits more).1 hearly)

/-- Bytes in which no occurrence begins can be left out of a search. -/
lemma indexOf?_skip {skipped : Bytes}
    (hnone : ∀ j < skipped.length, ¬ pattern <+: (skipped ++ text).drop j) :
    indexOf? pattern (skipped ++ text) = (indexOf? pattern text).map (skipped.length + ·) := by
  have hdrop : ∀ j, (skipped ++ text).drop (skipped.length + j) = text.drop j := by
    intro j
    rw [List.drop_append, List.drop_eq_nil_of_le (by omega), List.nil_append,
      Nat.add_sub_cancel_left]
  cases hcut : indexOf? pattern text with
  | none =>
    rw [Option.map_none, indexOf?_eq_none_iff]
    intro i hocc
    by_cases hi : i < skipped.length
    · exact hnone i hi hocc
    · obtain ⟨k, rfl⟩ := Nat.exists_eq_add_of_le (Nat.le_of_not_lt hi)
      rw [hdrop] at hocc
      exact indexOf?_eq_none_iff.1 hcut k hocc
  | some place =>
    obtain ⟨hocc, hfirst⟩ := indexOf?_eq_some_iff.1 hcut
    refine indexOf?_eq_some_iff.2 ⟨by rwa [hdrop], fun j hj hearly => ?_⟩
    by_cases hskipped : j < skipped.length
    · exact hnone j hskipped hearly
    · obtain ⟨k, rfl⟩ := Nat.exists_eq_add_of_le (Nat.le_of_not_lt hskipped)
      rw [hdrop] at hearly
      exact hfirst k (Nat.lt_of_add_lt_add_left hj) hearly

lemma cutBefore?_skip {skipped : Bytes}
    (hnone : ∀ j < skipped.length, ¬ pattern <+: (skipped ++ text).drop j) :
    cutBefore? pattern (skipped ++ text)
      = (cutBefore? pattern text).map fun (before, behind) => (skipped ++ before, behind) := by
  rw [cutBefore?, cutBefore?, indexOf?_skip hnone, Option.map_map, Option.map_map]
  refine congrArg (fun f => Option.map f _) (funext fun i => ?_)
  simp [List.take_append, List.drop_append, List.take_of_length_le]

lemma cutBehind?_skip {skipped : Bytes}
    (hnone : ∀ j < skipped.length, ¬ pattern <+: (skipped ++ text).drop j) :
    cutBehind? pattern (skipped ++ text)
      = (cutBehind? pattern text).map fun (before, behind) => (skipped ++ before, behind) := by
  rw [cutBehind?, cutBehind?, indexOf?_skip hnone, Option.map_map, Option.map_map]
  refine congrArg (fun f => Option.map f _) (funext fun i => ?_)
  simp [List.take_append, List.drop_append, List.take_of_length_le, Nat.add_assoc]

/-! ### Patterns led by a byte of their own -/

section Lead

variable {lead : UInt8} {tail : Bytes}

/-- No other occurrence begins inside of an occurrence. -/
lemma ne_lead_of_prefix (hlead : lead ∉ tail) {i k : Nat} (hocc : lead :: tail <+: text.drop i)
    (hk : 0 < k) (hinside : k < (lead :: tail).length) : text[i + k]? ≠ some lead := by
  have hget := getElem?_of_prefix_drop hocc hinside
  obtain ⟨k, rfl⟩ : ∃ n, k = n + 1 := ⟨k - 1, by omega⟩
  rw [hget, List.getElem?_cons_succ]
  intro hsame
  exact hlead (List.mem_of_getElem? hsame)

/-- A delimiter behind data that it does not occur in is the first one. -/
lemma cutBefore?_of_lead (hlead : lead ∉ tail) (hdata : occursIn (lead :: tail) before = false) :
    cutBefore? (lead :: tail) (before ++ (lead :: tail) ++ more)
      = some (before, (lead :: tail) ++ more) := by
  refine cutBefore?_eq_some_iff.2
    ⟨List.append_assoc _ _ _, List.prefix_append _ _, fun j hj hearly => ?_⟩
  -- an earlier occurrence is in the data, or the delimiter's first byte stands inside of it
  by_cases hfits : j + (lead :: tail).length ≤ before.length
  · rw [List.append_assoc] at hearly
    exact occursIn_eq_false_iff.1 hdata j ((prefix_drop_append_iff hfits _).1 hearly)
  · refine ne_lead_of_prefix hlead hearly (k := before.length - j) (by omega) (by omega) ?_
    have hplace : j + (before.length - j) = before.length := by omega
    rw [hplace, List.append_assoc, List.getElem?_append_right (by omega)]
    simp

end Lead

/-! ### Words -/

/-- A word ends before the first byte that cannot stand in it. -/
lemma takeWhile_append_cons {p : UInt8 → Bool} {front : Bytes} {b : UInt8}
    (hfront : ∀ c ∈ front, p c = true) (hb : p b = false) (rest : Bytes) :
    (front ++ b :: rest).takeWhile p = front := by
  rw [List.takeWhile_append_of_pos hfront, List.takeWhile_cons_of_neg (by rw [hb]; simp),
    List.append_nil]

/-! ### Pieces -/

/-- Of pieces that are not empty there are no more than there are bytes in them. -/
lemma length_le_flatMap {α : Type} {text : α → Bytes} (htext : ∀ piece, text piece ≠ [])
    (pieces : List α) : pieces.length ≤ (pieces.flatMap text).length := by
  induction pieces with
  | nil => exact Nat.le_refl 0
  | cons piece more ih =>
    have hfirst := List.length_pos_iff.2 (htext piece)
    rw [List.flatMap_cons, List.length_append, List.length_cons]
    omega

/-! ### Trimming -/

/-- What fills up a list at its end is dropped, and nothing else. -/
lemma rdropWhile_append_replicate {α : Type} {p : α → Bool} {x : α} (hx : p x = true)
    {front : List α} (hfront : ∀ y ∈ front.getLast?, p y = false) (count : Nat) :
    (front ++ List.replicate count x).rdropWhile p = front := by
  induction count with
  | zero =>
    rw [List.replicate_zero, List.append_nil]
    refine List.rdropWhile_eq_self_iff.2 fun hne => ?_
    rw [hfront _ (List.getLast?_eq_some_getLast hne)]
    exact Bool.false_ne_true
  | succ count ih =>
    rw [List.replicate_succ', ← List.append_assoc, List.rdropWhile_concat_pos p _ x hx, ih]

/-- What is dropped at the end of a list is what fills it up. -/
lemma exists_append_replicate {α : Type} {p : α → Bool} {x : α} (hp : ∀ y, p y = true → y = x)
    (items : List α) : ∃ count, items = items.rdropWhile p ++ List.replicate count x := by
  induction items using List.reverseRecOn with
  | nil => exact ⟨0, rfl⟩
  | append_singleton front y ih =>
    by_cases hy : p y = true
    · obtain ⟨count, hfront⟩ := ih
      obtain rfl := hp y hy
      rw [List.rdropWhile_concat_pos p _ _ hy]
      exact ⟨count + 1, by rw [List.replicate_succ', ← List.append_assoc, ← hfront]⟩
    · rw [List.rdropWhile_concat_neg p _ _ hy]
      exact ⟨0, by simp⟩

section Trim

variable {p : UInt8 → Bool}

lemma trim_isPrefix (p : UInt8 → Bool) (text : Bytes) : trim p text <+: text.dropWhile p :=
  List.rdropWhile_prefix p _

lemma mem_of_mem_trim {b : UInt8} (hb : b ∈ trim p text) : b ∈ text :=
  (List.dropWhile_suffix p).subset ((trim_isPrefix p text).subset hb)

/-- Bytes that have none to be trimmed at either end stay as they are. -/
lemma trim_eq_self (hfirst : ∀ b ∈ text.head?, p b = false)
    (hlast : ∀ b ∈ text.getLast?, p b = false) : trim p text = text := by
  have hstart : text.dropWhile p = text := by
    cases text with
    | nil => rfl
    | cons b rest => exact List.dropWhile_cons_of_neg (Bool.eq_false_iff.1 (hfirst b rfl))
  rw [trim, hstart]
  refine List.rdropWhile_eq_self_iff.2 fun hne => ?_
  rw [hlast _ (List.getLast?_eq_some_getLast hne)]
  exact Bool.false_ne_true

lemma head?_trim {b : UInt8} (hb : b ∈ (trim p text).head?) : p b = false := by
  obtain ⟨rest, hrest⟩ := trim_isPrefix p text
  have hstart : b ∈ (text.dropWhile p).head? := by
    rw [← hrest, List.head?_append, Option.mem_def.1 hb]
    rfl
  have hnot := List.head?_dropWhile_not p text
  rw [Option.mem_def.1 hstart] at hnot
  exact hnot

lemma getLast?_trim {b : UInt8} (hb : b ∈ (trim p text).getLast?) : p b = false := by
  have hne : trim p text ≠ [] := by
    intro hnil
    rw [hnil] at hb
    cases hb
  have hnot := List.rdropWhile_last_not p (text.dropWhile p) hne
  rw [Option.mem_def, List.getLast?_eq_some_getLast hne] at hb
  rw [← Option.some.inj hb]
  exact Bool.eq_false_iff.2 hnot

/-- Trimming twice is trimming once. -/
@[simp] lemma trim_trim (p : UInt8 → Bool) (text : Bytes) : trim p (trim p text) = trim p text :=
  trim_eq_self (fun _ => head?_trim) (fun _ => getLast?_trim)

lemma trim_cons_of_pos {b : UInt8} (hb : p b = true) (text : Bytes) :
    trim p (b :: text) = trim p text := by
  rw [trim, List.dropWhile_cons_of_pos hb, trim]

end Trim

end Bytes

end Intercept
