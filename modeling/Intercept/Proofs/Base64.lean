/-
# Base64: what was written is read

The digits of a group of three bytes determine the group, and so do the fewer digits of a shorter last
group, whose left-over bits are zero.  So either spelling of some bytes is read as these bytes.  The
character that fills a last group is none of the digits, so that the padded spelling without it is the
plain one.

The other way round, no bit and no character is passed over in reading: what is read as some bytes is
one of their two spellings.  The digits of a spelling are told from others by their number and by the
last of them.
-/
import Intercept.Base64
import Intercept.Proofs.Bytes

namespace Intercept

namespace Base64

variable {n : Nat}

/-! ### Digits -/

/-- What the character of a digit is: it stands for the digit, it is not the filling character, and it
is one of the first 128. -/
structure IsDigit (n : Nat) (c : UInt8) : Prop where
  value : value? c = some n
  ne_pad : c ≠ pad
  low : c < 128

lemma isDigit_digit (hn : n < 64) : IsDigit n (digit n) := by
  have hvalue : ∀ n < 64, value? (digit n) = some n := by decide
  have hpad : ∀ n < 64, digit n ≠ pad := by decide
  have hlow : ∀ n < 64, digit n < 128 := by decide
  exact ⟨hvalue n hn, hpad n hn, hlow n hn⟩

lemma lt_of_mem_toDigits {bytes : Bytes} : ∀ n ∈ toDigits bytes, n < 64 := by
  fun_induction toDigits bytes with
  | case1 a b c rest _ _ _ hbytes ih =>
    cases hbytes
    have ha := a.toNat_lt
    have hb := b.toNat_lt
    have hc := c.toNat_lt
    intro n hn
    simp only [List.mem_cons] at hn
    rcases hn with rfl | rfl | rfl | rfl | hn
    · omega
    · omega
    · omega
    · omega
    · exact ih n hn
  | case2 a b =>
    have ha := a.toNat_lt
    have hb := b.toNat_lt
    intro n hn
    simp only [List.mem_cons, List.not_mem_nil, or_false] at hn
    rcases hn with rfl | rfl | rfl <;> omega
  | case3 a =>
    have ha := a.toNat_lt
    intro n hn
    simp only [List.mem_cons, List.not_mem_nil, or_false] at hn
    rcases hn with rfl | rfl <;> omega
  | case4 => exact List.forall_mem_nil _

/-- Bytes are spelled by their digits. -/
lemma ofDigits?_toDigits (bytes : Bytes) : ofDigits? (toDigits bytes) = some bytes := by
  have hbyte : ∀ {b : UInt8} {m : Nat}, m = b.toNat → UInt8.ofNat m = b := by
    rintro b _ rfl
    exact UInt8.ofNat_toNat
  fun_induction toDigits bytes with
  | case1 a b c rest _ _ _ hbytes ih =>
    cases hbytes
    have ha := a.toNat_lt
    have hb := b.toNat_lt
    have hc := c.toNat_lt
    rw [ofDigits?, ih, hbyte (b := a) (by omega), hbyte (b := b) (by omega),
      hbyte (b := c) (by omega)]
    rfl
  | case2 a b =>
    have ha := a.toNat_lt
    have hb := b.toNat_lt
    rw [ofDigits?, if_pos (by omega), hbyte (b := a) (by omega), hbyte (b := b) (by omega)]
  | case3 a =>
    have ha := a.toNat_lt
    rw [ofDigits?, if_pos (by omega), hbyte (b := a) (by omega)]
  | case4 => rfl

lemma mapM_value?_digit {digits : List Nat} (h : ∀ n ∈ digits, n < 64) :
    (digits.map digit).mapM value? = some digits := by
  induction digits with
  | nil => rfl
  | cons n rest ih =>
    obtain ⟨hn, hrest⟩ := List.forall_mem_cons.1 h
    rw [List.map_cons, List.mapM_cons, (isDigit_digit hn).value, ih hrest]
    rfl

/-! ### Spellings -/

variable (bytes : Bytes)

/-- What stands in a plain spelling. -/
lemma isDigit_of_mem_encodePlain {c : UInt8} (hc : c ∈ encodePlain bytes) : ∃ n, IsDigit n c := by
  obtain ⟨n, hn, rfl⟩ := List.mem_map.1 hc
  exact ⟨n, isDigit_digit (lt_of_mem_toDigits n hn)⟩

lemma encodePlain_ne_nil {bytes : Bytes} (hne : bytes ≠ []) : encodePlain bytes ≠ [] := by
  rw [encodePlain, Ne, List.map_eq_nil_iff]
  fun_cases toDigits bytes with
  | case4 => exact absurd rfl hne
  | _ => exact List.cons_ne_nil _ _

/-- A spelling is one of characters among the first 128. -/
lemma lt_of_mem_encode {c : UInt8} (hc : c ∈ encode bytes) : c < 128 := by
  rcases List.mem_append.1 hc with hc | hc
  · obtain ⟨n, hn⟩ := isDigit_of_mem_encodePlain bytes hc
    exact hn.low
  · rw [List.eq_of_mem_replicate hc]
    decide

/-- Without the characters that fill it up, a spelling is plain. -/
lemma dropEndWhile_encodePlain (count : Nat) :
    Bytes.dropEndWhile (· == pad) (encodePlain bytes ++ List.replicate count pad)
      = encodePlain bytes := by
  refine Bytes.rdropWhile_append_replicate (p := (· == pad)) (beq_self_eq_true pad)
    (fun c hc => ?_) count
  obtain ⟨n, hn⟩ := isDigit_of_mem_encodePlain bytes (List.mem_of_getLast? hc)
  exact beq_eq_false_iff_ne.2 hn.ne_pad

lemma decodePlain?_encodePlain : decodePlain? (encodePlain bytes) = some bytes := by
  rw [decodePlain?, encodePlain, mapM_value?_digit lt_of_mem_toDigits]
  exact ofDigits?_toDigits bytes

lemma decodePadded?_encode : decodePadded? (encode bytes) = some bytes := by
  have hplain := dropEndWhile_encodePlain bytes (padding (encodePlain bytes).length)
  rw [decodePadded?, encode]
  simp only [hplain, List.length_append, List.length_replicate, Nat.add_sub_cancel_left, if_true]
  exact decodePlain?_encodePlain bytes

/-- The padded spelling of bytes is read as these bytes. -/
lemma decode?_encode : decode? (encode bytes) = some bytes := by
  rw [decode?, decodePadded?_encode]

/-- The plain spelling of bytes is read as these bytes, whether or not it is a padded one as well. -/
lemma decode?_encodePlain : decode? (encodePlain bytes) = some bytes := by
  have hplain := dropEndWhile_encodePlain bytes 0
  rw [List.replicate_zero, List.append_nil] at hplain
  rw [decode?, decodePadded?, hplain]
  split
  · next found hfound =>
    split at hfound
    · rwa [decodePlain?_encodePlain, eq_comm] at hfound
    · cases hfound
  · exact decodePlain?_encodePlain bytes

section Canonical

variable {text bytes : Bytes} {digits : List Nat}

/-! ### What is read was written -/

/-- A character is read as the digit that it is written for. -/
lemma digit_of_value? {c : UInt8} (h : value? c = some n) : digit n = c ∧ n < 64 := by
  have hall : ∀ m < 256, ∀ k, value? (UInt8.ofNat m) = some k →
      digit k = UInt8.ofNat m ∧ k < 64 := by
    have hchecked : ∀ m < 256, (value? (UInt8.ofNat m)).all
        (fun k => decide (digit k = UInt8.ofNat m ∧ k < 64)) = true := by decide +kernel
    intro m hm k hk
    have hsome := hchecked m hm
    rw [hk] at hsome
    exact of_decide_eq_true hsome
  have hcode := hall c.toNat c.toNat_lt
  rw [UInt8.ofNat_toNat] at hcode
  exact hcode n h

lemma mapM_value?_eq_some (h : text.mapM value? = some digits) :
    text = digits.map digit ∧ ∀ n ∈ digits, n < 64 := by
  induction text generalizing digits with
  | nil =>
    obtain rfl := Option.some.inj h
    exact ⟨rfl, List.forall_mem_nil _⟩
  | cons c rest ih =>
    rw [List.mapM_cons] at h
    obtain ⟨n, hn, h⟩ := Option.bind_eq_some_iff.1 h
    obtain ⟨others, hothers, h⟩ := Option.bind_eq_some_iff.1 h
    obtain rfl := Option.some.inj h
    obtain ⟨hdigit, hlt⟩ := digit_of_value? hn
    obtain ⟨hrest, hall⟩ := ih hothers
    exact ⟨by rw [List.map_cons, hdigit, ← hrest], List.forall_mem_cons.2 ⟨hlt, hall⟩⟩

/-- Digits that spell some bytes are the digits of these bytes, since no bit is left over. -/
lemma toDigits_of_ofDigits? (hlt : ∀ n ∈ digits, n < 64) (h : ofDigits? digits = some bytes) :
    toDigits bytes = digits := by
  fun_induction ofDigits? digits generalizing bytes with
  | case1 a b c d rest ih =>
    obtain ⟨others, hothers, h⟩ := Option.bind_eq_some_iff.1 h
    obtain rfl := Option.some.inj h
    simp only [List.forall_mem_cons] at hlt
    obtain ⟨ha, hb, hc, hd, hrest⟩ := hlt
    rw [toDigits, ih hrest hothers]
    simp only [UInt8.toNat_ofNat', List.cons.injEq, and_true]
    omega
  | case2 a b c hzero =>
    obtain rfl := Option.some.inj h
    simp only [List.forall_mem_cons] at hlt
    obtain ⟨ha, hb, hc, -⟩ := hlt
    simp only [toDigits, UInt8.toNat_ofNat', List.cons.injEq, and_true]
    omega
  | case3 a b c hzero => cases h
  | case4 a b hzero =>
    obtain rfl := Option.some.inj h
    simp only [List.forall_mem_cons] at hlt
    obtain ⟨ha, hb, -⟩ := hlt
    simp only [toDigits, UInt8.toNat_ofNat', List.cons.injEq, and_true]
    omega
  | case5 a b hzero => cases h
  | case6 a => cases h
  | case7 =>
    obtain rfl := Option.some.inj h
    rfl

/-- Without padding only the plain spelling of some bytes is read. -/
lemma decodePlain?_eq_some_iff : decodePlain? text = some bytes ↔ text = encodePlain bytes := by
  constructor
  · intro h
    obtain ⟨digits, hdigits, h⟩ := Option.bind_eq_some_iff.1 h
    obtain ⟨htext, hlt⟩ := mapM_value?_eq_some hdigits
    rw [htext, encodePlain, toDigits_of_ofDigits? hlt h]
  · rintro rfl
    exact decodePlain?_encodePlain bytes

/-- With padding only the padded spelling of some bytes is read. -/
lemma decodePadded?_eq_some_iff : decodePadded? text = some bytes ↔ text = encode bytes := by
  constructor
  · intro h
    have hend : ∃ count, text
        = Bytes.dropEndWhile (· == pad) text ++ List.replicate count pad :=
      Bytes.exists_append_replicate (fun c => eq_of_beq) text
    obtain ⟨count, hcount⟩ := hend
    rw [decodePadded?] at h
    split at h
    · next hfull =>
      have hplain := decodePlain?_eq_some_iff.1 h
      have hlength := congrArg List.length hcount
      rw [List.length_append, List.length_replicate] at hlength
      rw [hcount, encode, ← hplain, ← hfull]
      congr 2
      omega
    · cases h
  · rintro rfl
    exact decodePadded?_encode bytes

/-- **What is read was written.**  A text is read as some bytes only if it is one of the two
spellings of these bytes. -/
lemma decode?_eq_some_iff :
    decode? text = some bytes ↔ text = encode bytes ∨ text = encodePlain bytes := by
  constructor
  · intro h
    rw [decode?] at h
    split at h
    · next found hfound =>
      obtain rfl := Option.some.inj h
      exact .inl (decodePadded?_eq_some_iff.1 hfound)
    · exact .inr (decodePlain?_eq_some_iff.1 h)
  · rintro (rfl | rfl)
    · exact decode?_encode bytes
    · exact decode?_encodePlain bytes

/-! ### What a spelling looks like -/

/-- The digits are those of whole bytes: they have six bits, a last group is not one digit alone, and
the bits that it leaves over are zero. -/
structure Strict (digits : List Nat) : Prop where
  lt : ∀ n ∈ digits, n < 64
  group : digits.length % 4 ≠ 1
  two : digits.length % 4 = 2 → ∀ n ∈ digits.getLast?, n % 16 = 0
  three : digits.length % 4 = 3 → ∀ n ∈ digits.getLast?, n % 4 = 0

/-- A group of four digits in front leaves nothing over. -/
lemma strict_group_append_iff {a b c d : Nat} : Strict (a :: b :: c :: d :: digits) ↔
    (a < 64 ∧ b < 64 ∧ c < 64 ∧ d < 64) ∧ Strict digits := by
  have hlength : (a :: b :: c :: d :: digits).length % 4 = digits.length % 4 := by
    simp only [List.length_cons]
    omega
  have hlast : digits.length % 4 ≠ 0 →
      (a :: b :: c :: d :: digits).getLast? = digits.getLast? := fun hne =>
    List.getLast?_append_of_ne_nil [a, b, c, d] fun hnil => hne (by rw [hnil]; rfl)
  constructor
  · rintro ⟨hlt, hgroup, htwo, hthree⟩
    simp only [List.forall_mem_cons] at hlt
    obtain ⟨ha, hb, hc, hd, hrest⟩ := hlt
    rw [hlength] at hgroup htwo hthree
    exact ⟨⟨ha, hb, hc, hd⟩, hrest, hgroup, fun h => hlast (by omega) ▸ htwo h,
      fun h => hlast (by omega) ▸ hthree h⟩
  · rintro ⟨⟨ha, hb, hc, hd⟩, hrest, hgroup, htwo, hthree⟩
    refine ⟨?_, ?_, ?_, ?_⟩
    · simp only [List.forall_mem_cons]
      exact ⟨ha, hb, hc, hd, hrest⟩
    · rwa [hlength]
    · rw [hlength]
      exact fun h => (hlast (by omega)).symm ▸ htwo h
    · rw [hlength]
      exact fun h => (hlast (by omega)).symm ▸ hthree h

lemma strict_toDigits (bytes : Bytes) : Strict (toDigits bytes) := by
  have hlt : ∀ n ∈ toDigits bytes, n < 64 := lt_of_mem_toDigits
  fun_induction toDigits bytes with
  | case1 a b c rest _ _ _ hbytes ih =>
    simp only [List.forall_mem_cons] at hlt
    obtain ⟨ha, hb, hc, hd, hrest⟩ := hlt
    exact strict_group_append_iff.2 ⟨⟨ha, hb, hc, hd⟩, ih hrest⟩
  | case2 a b =>
    refine ⟨hlt, by simp, by simp, fun _ n hn => ?_⟩
    have hlast : b.toNat % 16 * 4 = n := Option.some.inj hn
    omega
  | case3 a =>
    refine ⟨hlt, by simp, fun _ n hn => ?_, by simp⟩
    have hlast : a.toNat % 4 * 16 = n := Option.some.inj hn
    omega
  | case4 => exact ⟨hlt, by simp, by simp, by simp⟩

/-- Digits of whole bytes spell some bytes, and are the digits of these bytes. -/
lemma Strict.exists_toDigits (h : Strict digits) : ∃ bytes, toDigits bytes = digits := by
  suffices hsome : (ofDigits? digits).isSome by
    obtain ⟨bytes, hbytes⟩ := Option.isSome_iff_exists.1 hsome
    exact ⟨bytes, toDigits_of_ofDigits? h.lt hbytes⟩
  fun_induction ofDigits? digits with
  | case1 a b c d rest ih =>
    have hsome := ih (strict_group_append_iff.1 h).2
    obtain ⟨bytes, hbytes⟩ := Option.isSome_iff_exists.1 hsome
    rw [hbytes]
    rfl
  | case2 => rfl
  | case3 a b c hne => exact absurd (h.three rfl c rfl) hne
  | case4 => rfl
  | case5 a b hne => exact absurd (h.two rfl b rfl) hne
  | case6 => exact absurd rfl h.group
  | case7 => rfl

end Canonical

end Base64

end Intercept
