/-
# Lists in which one item is replaced

What is known of a list when one of its items was replaced: where its entries are looked up by a
key, and where its items are counted.
-/
import Mathlib.Tactic.Common

namespace Intercept

/-- Where a list is looked through for a key, and the key's value is replaced there or added at the
end, the key has the new value, and all others have theirs. -/
lemma lookup_upsert {κ ν : Type} [DecidableEq κ] [BEq κ] [LawfulBEq κ] {key other : κ} {value : ν}
    (put : List (κ × ν) → List (κ × ν)) (hnil : put [] = [(key, value)])
    (hcons : ∀ k v rest, put ((k, v) :: rest)
      = if k = key then (key, value) :: rest else (k, v) :: put rest)
    (entries : List (κ × ν)) :
    (put entries).lookup other = if other = key then some value else entries.lookup other := by
  induction entries with
  | nil =>
    by_cases heq : other = key
    · simp [hnil, heq]
    · have hne : (other == key) = false := beq_eq_false_iff_ne.2 heq
      simp [hnil, heq, hne, List.lookup_cons]
  | cons entry rest ih =>
    obtain ⟨first, old⟩ := entry
    rw [hcons]
    by_cases hfirst : first = key
    · rw [if_pos hfirst, hfirst]
      by_cases heq : other = key
      · simp [heq]
      · have hne : (other == key) = false := beq_eq_false_iff_ne.2 heq
        simp [heq, hne, List.lookup_cons]
    · rw [if_neg hfirst, List.lookup_cons, List.lookup_cons, ih]
      by_cases heq : other = key
      · have hne : (other == first) = false := beq_eq_false_iff_ne.2 (heq ▸ Ne.symm hfirst)
        rw [hne, if_pos heq]
      · rw [if_neg heq, if_neg heq]

/-- If one item of a list is replaced, the number of those with a property changes as for it. -/
lemma countP_set_add {α : Type} {p : α → Bool} {items : List α} {i : Nat} {item : α}
    (hitem : items[i]? = some item) (next : α) :
    (items.set i next).countP p + (p item).toNat = items.countP p + (p next).toNat := by
  obtain ⟨hlt, rfl⟩ := List.getElem?_eq_some_iff.1 hitem
  have hpos : p items[i] = true → 0 < items.countP p :=
    fun hholds => List.countP_pos_iff.2 ⟨_, List.getElem_mem hlt, hholds⟩
  rw [List.countP_set hlt]
  cases hbefore : p items[i] with
  | false =>
    cases p next with
    | false => simp
    | true => simp
  | true =>
    have := hpos hbefore
    cases p next with
    | false => simp; omega
    | true => simp; omega

end Intercept
