/-
# Headers of distinct names

Headers in which no name occurs twice are not changed by grouping the values of one name, and are
built by setting one header after the other.  The bytes of a name and of a value are none of those
that end a name or a line.
-/
import Mathlib.Tactic.Common
import Intercept.Http.Header

namespace Intercept

namespace Header

/-! ### Bytes of names and values -/

lemma ne_of_isNameByte {b c : UInt8} (hb : isNameByte b = true) (hc : isNameByte c = false) :
    b ≠ c := by
  rintro rfl
  rw [hb] at hc
  cases hc

lemma ne_of_isValueByte {b c : UInt8} (hb : isValueByte b = true) (hc : isValueByte c = false) :
    b ≠ c := by
  rintro rfl
  rw [hb] at hc
  cases hc

/-- Small letters stay small. -/
@[simp] lemma lower_lower (b : UInt8) : Bytes.lower (Bytes.lower b) = Bytes.lower b := by
  unfold Bytes.lower
  by_cases h : 65 ≤ b ∧ b ≤ 90
  · have hsmall : ¬ (65 ≤ b + 32 ∧ b + 32 ≤ 90) := by
      simp only [UInt8.le_iff_toNat_le, UInt8.toNat_add, UInt8.reduceToNat] at h ⊢
      omega
    rw [if_pos h, if_neg hsmall]
  · rw [if_neg h, if_neg h]

/-- The small letter of a byte that may stand in a name may stand there too. -/
lemma isNameByte_lower {b : UInt8} (hb : isNameByte b = true) :
    isNameByte (Bytes.lower b) = true := by
  unfold Bytes.lower
  by_cases h : 65 ≤ b ∧ b ≤ 90
  · have hsmall : 97 ≤ b + 32 ∧ b + 32 ≤ 122 := by
      simp only [UInt8.le_iff_toNat_le, UInt8.toNat_add, UInt8.reduceToNat] at h ⊢
      omega
    rw [if_pos h, isNameByte]
    simp [hsmall]
  · rwa [if_neg h]

end Header

namespace Headers

variable {headers : Headers} {name other value : Bytes}

/-- The names of headers. -/
def names (headers : Headers) : List Bytes := headers.map Prod.fst

@[simp] lemma names_nil : names [] = [] := rfl

@[simp] lemma names_cons (header : Header) (rest : Headers) :
    names (header :: rest) = header.1 :: names rest := rfl

@[simp] lemma names_append (front rest : Headers) :
    names (front ++ rest) = names front ++ names rest := List.map_append

/-! ### Finding and removing headers -/

lemma first?_eq_none_iff : headers.first? name = none ↔ name ∉ headers.names := by
  rw [first?, values, List.head?_eq_none_iff, List.map_eq_nil_iff, List.filter_eq_nil_iff, names,
    List.mem_map, not_exists]
  constructor
  · rintro h header ⟨hmem, rfl⟩
    exact h header hmem (beq_self_eq_true _)
  · intro h header hmem hname
    exact h header ⟨hmem, eq_of_beq hname⟩

lemma mem_names_without (h : other ∈ (headers.without name).names) :
    other ∈ headers.names ∧ other ≠ name := by
  obtain ⟨header, hmem, rfl⟩ := List.mem_map.1 h
  obtain ⟨hheader, hkept⟩ := List.mem_filter.1 hmem
  refine ⟨List.mem_map_of_mem hheader, fun hname => ?_⟩
  simp [hname] at hkept

/-! ### Setting a header -/

lemma without_of_not_mem (hname : name ∉ headers.names) : headers.without name = headers := by
  rw [without, List.filter_eq_self]
  intro header hheader
  have hne : header.1 ≠ name := fun heq => hname (heq ▸ List.mem_map_of_mem hheader)
  simpa using hne

lemma set_of_not_mem (hname : name ∉ headers.names) :
    headers.set name value = headers ++ [(name, value)] := by
  induction headers with
  | nil => rfl
  | cons header rest ih =>
    rw [names_cons, List.mem_cons, not_or] at hname
    rw [set, if_neg (Ne.symm hname.1), ih hname.2, List.cons_append]

/-- A name that is there keeps its place. -/
lemma names_set_of_mem (hdistinct : headers.names.Nodup) (hname : name ∈ headers.names) :
    (headers.set name value).names = headers.names := by
  induction headers with
  | nil => cases hname
  | cons header rest ih =>
    rw [names_cons, List.nodup_cons] at hdistinct
    by_cases heq : header.1 = name
    · rw [set, if_pos heq, without_of_not_mem (heq ▸ hdistinct.1), names_cons, names_cons, heq]
    · rw [names_cons, List.mem_cons] at hname
      rw [set, if_neg heq, names_cons, names_cons,
        ih hdistinct.2 (hname.resolve_left (Ne.symm heq))]

lemma names_set_nodup (hdistinct : headers.names.Nodup) (name value : Bytes) :
    (headers.set name value).names.Nodup := by
  by_cases hname : name ∈ headers.names
  · rwa [names_set_of_mem hdistinct hname]
  · rw [set_of_not_mem hname, names_append, List.nodup_append]
    refine ⟨hdistinct, by simp, fun other hother found hfound hsame => ?_⟩
    rw [names_cons, names_nil, List.mem_singleton] at hfound
    rw [hsame, hfound] at hother
    exact hname hother

lemma mem_set {header : Header} (h : header ∈ headers.set name value) :
    header = (name, value) ∨ header ∈ headers := by
  induction headers with
  | nil => exact .inl (List.mem_singleton.1 h)
  | cons first rest ih =>
    by_cases heq : first.1 = name
    · rw [set, if_pos heq] at h
      rcases List.mem_cons.1 h with rfl | hrest
      · exact .inl rfl
      · exact .inr (List.mem_cons_of_mem _ (List.mem_filter.1 hrest).1)
    · rw [set, if_neg heq] at h
      rcases List.mem_cons.1 h with rfl | hrest
      · exact .inr List.mem_cons_self
      · exact (ih hrest).imp_right (List.mem_cons_of_mem _)

lemma length_set_le (headers : Headers) (name value : Bytes) :
    (headers.set name value).length ≤ headers.length + 1 := by
  induction headers with
  | nil => simp [set]
  | cons first rest ih =>
    by_cases heq : first.1 = name
    · rw [set, if_pos heq, List.length_cons, List.length_cons]
      have := List.length_filter_le (fun h => !(h.1 == name)) rest
      rw [without]
      omega
    · rw [set, if_neg heq, List.length_cons, List.length_cons]
      omega

/-! ### The values of a name -/

@[simp] lemma values_cons (header : Header) (rest : Headers) :
    values name (header :: rest)
      = (if header.1 = name then [header.2] else []) ++ values name rest := by
  rw [values, List.filter_cons]
  by_cases h : header.1 = name
  · simp [values, h]
  · simp [values, h]

@[simp] lemma values_without_self (name : Bytes) (headers : Headers) :
    (headers.without name).values name = [] := by
  rw [values, without, List.map_eq_nil_iff, List.filter_filter, List.filter_eq_nil_iff]
  simp

lemma values_without_of_ne (hne : other ≠ name) :
    (headers.without name).values other = headers.values other := by
  rw [values, without, List.filter_filter, values]
  congr 1
  refine List.filter_congr fun header _ => ?_
  by_cases h : header.1 = other
  · simp [h, hne]
  · simp [h]

/-- A header that was set has one value. -/
@[simp] lemma values_set_self (name value : Bytes) (headers : Headers) :
    (headers.set name value).values name = [value] := by
  induction headers with
  | nil => simp [set, values]
  | cons header rest ih =>
    by_cases h : header.1 = name
    · rw [set, if_pos h, values_cons, if_pos rfl, values_without_self, List.append_nil]
    · rw [set, if_neg h, values_cons, if_neg h, ih, List.nil_append]

/-- Setting a header leaves the others alone. -/
lemma values_set_of_ne (hne : other ≠ name) :
    (headers.set name value).values other = headers.values other := by
  induction headers with
  | nil => simp [set, values, Ne.symm hne]
  | cons header rest ih =>
    by_cases h : header.1 = name
    · have hother : header.1 ≠ other := fun hsame => hne (hsame ▸ h)
      rw [set, if_pos h, values_cons, values_cons, if_neg (Ne.symm hne), if_neg hother,
        values_without_of_ne hne]
    · rw [set, if_neg h, values_cons, values_cons, ih]

/-! ### Grouping -/

lemma groupLoop_of_nodup (fuel : Nat) (hdistinct : headers.names.Nodup) :
    groupLoop fuel headers = headers := by
  induction fuel generalizing headers with
  | zero => rfl
  | succ fuel ih =>
    cases headers with
    | nil => rfl
    | cons header rest =>
      rw [names_cons, List.nodup_cons] at hdistinct
      have hnone : (rest.filter fun other => other.1 == header.1) = [] := by
        rw [List.filter_eq_nil_iff]
        intro other hother hsame
        exact hdistinct.1 (beq_iff_eq.1 hsame ▸ List.mem_map_of_mem hother)
      rw [groupLoop, hnone, without_of_not_mem hdistinct.1, ih hdistinct.2, List.singleton_append]

/-- Where no name occurs twice there is nothing to group. -/
lemma grouped_of_nodup (hdistinct : headers.names.Nodup) : headers.grouped = headers :=
  groupLoop_of_nodup _ hdistinct

end Headers

end Intercept
