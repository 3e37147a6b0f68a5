/-
# JSON: what was written is read

Every byte of a string is written by itself, and its escape is read as the byte, so strings are read
back whatever they hold.  A number ends where something stands behind it that no number has, and
that is so behind every value that is written.  From this the whole document is read back
(`parse?_render`), by induction on its value.
-/
import Mathlib.Tactic.Common
import Intercept.Json.Printer
import Intercept.Json.Reader
import Intercept.Proofs.Bytes
import Intercept.Proofs.Json.Printer
import Intercept.Proofs.Text.Decimal

namespace Intercept

namespace Json

variable {fuel : Nat} {done rest : Bytes}

/-! ### Strings -/

lemma hex4?_control {n : Nat} (hn : n < 32) :
    hex4? 48 48 (UInt8.ofNat (Bytes.hexDigit (n / 16)).toNat)
      (UInt8.ofNat (Bytes.hexDigit (n % 16)).toNat) = some n := by
  have hall : ∀ n < 32, hex4? 48 48 (UInt8.ofNat (Bytes.hexDigit (n / 16)).toNat)
      (UInt8.ofNat (Bytes.hexDigit (n % 16)).toNat) = some n := by decide
  exact hall n hn

/-- A byte is read from what is written for it. -/
lemma stringLoop_escapeByte (b : UInt8) (input : Bytes) :
    stringLoop (fuel + 1) done none (escapeByte b ++ input)
      = stringLoop fuel (b :: done) none input := by
  unfold escapeByte
  split_ifs with hquote hback hbackspace hfeed hline hreturn htab hcontrol
  · subst hquote; rfl
  · subst hback; rfl
  · subst hbackspace; rfl
  · subst hfeed; rfl
  · subst hline; rfl
  · subst hreturn; rfl
  · subst htab; rfl
  · have hlow : b.toNat < 32 := UInt8.lt_iff_toNat_lt.1 hcontrol
    have hbytes : unitBytes b.toNat = [b] := by
      rw [unitBytes, if_pos (by omega), UInt8.ofNat_toNat]
    have hhigh : ¬ (0xd800 ≤ b.toNat ∧ b.toNat < 0xdc00) := by omega
    simp only [List.map_cons, List.map_nil, List.cons_append, List.nil_append, stringLoop,
      hex4?_control hlow, if_neg hhigh, hbytes, List.reverse_singleton]
  · simp [stringLoop, hback, hcontrol]

lemma stringLoop_escaped (content : Bytes) (hfuel : content.length < fuel) :
    stringLoop fuel done none (content.flatMap escapeByte ++ 34 :: rest)
      = some (done.reverse ++ content, rest) := by
  induction content generalizing fuel done with
  | nil =>
    obtain ⟨fuel, rfl⟩ := Nat.exists_eq_add_one.2 hfuel
    simp [stringLoop]
  | cons b more ih =>
    obtain ⟨fuel, rfl⟩ := Nat.exists_eq_add_one.2 (Nat.zero_lt_of_lt hfuel)
    have hmore : more.length < fuel := Nat.lt_of_succ_lt_succ hfuel
    rw [List.flatMap_cons, List.append_assoc, stringLoop_escapeByte, ih hmore, List.reverse_cons,
      List.append_assoc, List.singleton_append]

lemma escapeByte_ne_nil (b : UInt8) : escapeByte b ≠ [] := by
  grind [escapeByte]

/-- A string is read from what is written for it. -/
lemma stringRest?_escaped (content rest : Bytes) :
    stringRest? (content.flatMap escapeByte ++ 34 :: rest) = some (content, rest) := by
  have hlength := Bytes.length_le_flatMap escapeByte_ne_nil content
  refine stringLoop_escaped content ?_
  rw [List.length_append]
  omega

/-! ### What stands before and behind a value -/

/-- No digit is one of the bytes that are none. -/
lemma ne_of_isDigit {b c : UInt8} (hb : Decimal.IsDigit b) (hc : ¬ Decimal.IsDigit c) : b ≠ c :=
  fun hsame => hc (hsame ▸ hb)

lemma isSpace_of_isDigit {b : UInt8} (hb : Decimal.IsDigit b) : isSpace b = false := by
  simp [isSpace, ne_of_isDigit hb (c := 32) (by decide), ne_of_isDigit hb (c := 10) (by decide),
    ne_of_isDigit hb (c := 13) (by decide), ne_of_isDigit hb (c := 9) (by decide)]

lemma skipSpace_cons {b : UInt8} (hb : isSpace b = false) : skipSpace (b :: rest) = b :: rest :=
  List.dropWhile_cons_of_neg (Bool.eq_false_iff.1 hb)

/-- The bytes stop a value: they are none, or begin with a comma or a closing bracket. -/
def Stops (rest : Bytes) : Prop := ∀ b ∈ rest.head?, b = 44 ∨ b = 93 ∨ b = 125

lemma stops_nil : Stops [] := fun _ h => nomatch h

lemma stops_comma (rest : Bytes) : Stops (44 :: rest) := fun _ h => .inl (Option.some.inj h).symm

lemma stops_bracket (rest : Bytes) : Stops (93 :: rest) :=
  fun _ h => .inr (.inl (Option.some.inj h).symm)

lemma stops_brace (rest : Bytes) : Stops (125 :: rest) :=
  fun _ h => .inr (.inr (Option.some.inj h).symm)

/-! ### Numbers -/

lemma digits?_of_stops {digits : Bytes} (hne : digits ≠ [])
    (hdigits : ∀ b ∈ digits, Decimal.IsDigit b) (hrest : Stops rest) :
    digits? (digits ++ rest) = some (digits, rest) := by
  have hall : ∀ b ∈ digits, isDigit b = true := by
    intro b hb
    obtain ⟨hlow, hhigh⟩ := hdigits b hb
    simp [isDigit, hlow, hhigh]
  have hstop : rest.takeWhile isDigit = [] ∧ rest.dropWhile isDigit = rest := by
    cases rest with
    | nil => exact ⟨rfl, rfl⟩
    | cons b more => rcases hrest b rfl with rfl | rfl | rfl <;> exact ⟨rfl, rfl⟩
  rw [digits?, List.takeWhile_append_of_pos hall, List.dropWhile_append_of_pos hall, hstop.1,
    hstop.2, List.append_nil]
  cases digits with
  | nil => exact absurd rfl hne
  | cons b more => rfl

lemma wholePart?_nat (n : Nat) (hrest : Stops rest) :
    wholePart? (Utf8.encode (toString n) ++ rest) = some (Utf8.encode (toString n), rest) := by
  obtain ⟨first, more, hfirst, -, hzero⟩ := Decimal.exists_eq_cons n
  have hdigits := digits?_of_stops (hfirst ▸ List.cons_ne_nil first more)
    (Decimal.isDigit_of_mem n) hrest
  by_cases hsame : first = 48
  · -- the number is zero, and its one digit is all that is read
    obtain rfl := hzero hsame
    rfl
  · rw [hfirst] at hdigits ⊢
    rw [List.cons_append] at hdigits ⊢
    rw [wholePart?]
    · exact hdigits
    · rintro _ heq
      exact hsame (List.cons.inj heq).1

lemma fraction?_of_stops (hrest : Stops rest) : fraction? rest = some ([], rest) := by
  cases rest with
  | nil => rfl
  | cons b more => rcases hrest b rfl with rfl | rfl | rfl <;> rfl

lemma exponent?_of_stops (hrest : Stops rest) : exponent? rest = some ([], rest) := by
  cases rest with
  | nil => rfl
  | cons b more => rcases hrest b rfl with rfl | rfl | rfl <;> rfl

lemma number?_nat (n : Nat) (hrest : Stops rest) :
    number? (Utf8.encode (toString n) ++ rest) = some (Utf8.encode (toString n), rest) := by
  obtain ⟨first, more, hfirst, hdigit, -⟩ := Decimal.exists_eq_cons n
  have hsign : first ≠ 45 := by
    rintro rfl
    exact absurd hdigit.1 (by decide)
  have hwhole := wholePart?_nat n hrest
  rw [hfirst] at hwhole ⊢
  rw [List.cons_append] at hwhole ⊢
  simp [number?, hsign, hwhole, fraction?_of_stops hrest, exponent?_of_stops hrest]

/-! ### Values -/

/-- The values that can be written: their numbers are whole. -/
inductive Written : Json → Prop where
  | null : Written .null
  | bool (value : Bool) : Written (.bool value)
  | nat (n : Nat) : Written (.nat n)
  | string (content : Bytes) : Written (.string content)
  | array {items : List Json} (hitems : ∀ item ∈ items, Written item) : Written (.array items)
  | object {members : List (Bytes × Json)} (hmembers : ∀ member ∈ members, Written member.2) :
    Written (.object members)

/-- A text is a value of text. -/
lemma written_text (s : String) : Written (.text s) := .string (Utf8.encode s)

lemma written_textMembers (entries : List (String × String)) :
    Written (.object (textMembers entries)) := by
  refine .object fun member hmember => ?_
  obtain ⟨⟨key, value⟩, -, rfl⟩ := List.mem_map.1 hmember
  exact written_text value

/-- What may begin a value: no blank, and nothing that closes a list. -/
def Opens (b : UInt8) : Prop := isSpace b = false ∧ b ≠ 93

lemma exists_render_eq_cons {value : Json} (h : Written value) :
    ∃ b more, render value = b :: more ∧ Opens b := by
  cases h with
  | null => exact ⟨_, _, rfl, rfl, by decide⟩
  | bool value => cases value <;> exact ⟨_, _, rfl, rfl, by decide⟩
  | nat n =>
    obtain ⟨first, more, hfirst, hdigit, -⟩ := Decimal.exists_eq_cons n
    exact ⟨first, more, hfirst, isSpace_of_isDigit hdigit, ne_of_isDigit hdigit (by decide)⟩
  | string content => exact ⟨_, _, rfl, rfl, by decide⟩
  | @array items hitems => cases items <;> exact ⟨_, _, rfl, rfl, by decide⟩
  | @object members hmembers => cases members <;> exact ⟨_, _, rfl, rfl, by decide⟩

/-- A value is read where it stands before something that stops it. -/
def IsRead (value : Json) : Prop :=
  ∀ fuel rest, (render value).length < fuel → Stops rest →
    value? fuel (render value ++ rest) = some (value, rest)

lemma value?_nat (n : Nat) (hrest : Stops rest) :
    value? (fuel + 1) (render (.nat n) ++ rest) = some (.nat n, rest) := by
  have hnumber := number?_nat n hrest
  obtain ⟨first, more, hfirst, hdigit, -⟩ := Decimal.exists_eq_cons n
  -- a digit begins no value but a number
  have hne : ∀ b, ¬ Decimal.IsDigit b → first ≠ b := fun b => ne_of_isDigit hdigit
  show value? (fuel + 1) (Utf8.encode (toString n) ++ rest)
    = some (.number (Utf8.encode (toString n)), rest)
  rw [hfirst, List.cons_append] at hnumber ⊢
  simp [value?, skipSpace, isSpace_of_isDigit hdigit, hne 123 (by decide), hne 91 (by decide),
    hne 34 (by decide), hne 116 (by decide), hne 102 (by decide), hne 110 (by decide), hnumber]

lemma value?_string (content rest : Bytes) :
    value? (fuel + 1) (render (.string content) ++ rest) = some (.string content, rest) := by
  have hstring := stringRest?_escaped content rest
  simp [render, renderString, value?, skipSpace, isSpace, hstring]

/-! ### Lists of values -/

variable {first : Json}

/-- The last item of an array is read with the bracket behind it. -/
lemma items?_last (hfirst : IsRead first) (hfuel : (render first).length < fuel) (rest : Bytes) :
    items? (fuel + 1) (render first ++ 93 :: rest) = some ([first], rest) := by
  rw [items?, hfirst _ _ hfuel (stops_bracket rest)]
  rfl

/-- Any other item is read with the comma behind it. -/
lemma items?_next (hfirst : IsRead first) (hfuel : (render first).length < fuel) (rest : Bytes) :
    items? (fuel + 1) (render first ++ 44 :: rest)
      = (items? fuel rest).map fun (found, rest) => (first :: found, rest) := by
  rw [items?, hfirst _ _ hfuel (stops_comma rest)]
  rfl

lemma items?_render {more : List Json} (hfirst : IsRead first) (hmore : ∀ item ∈ more, IsRead item)
    (hfuel : (render first).length + (renderItems more).length + 1 < fuel) :
    items? fuel (render first ++ (renderItems more ++ 93 :: rest))
      = some (first :: more, rest) := by
  obtain ⟨fuel, rfl⟩ := Nat.exists_eq_add_one.2 (Nat.zero_lt_of_lt hfuel)
  induction more generalizing first fuel with
  | nil => exact items?_last hfirst (by omega) rest
  | cons second more ih =>
    rw [renderItems, List.length_cons, List.length_append] at hfuel
    obtain ⟨hsecond, hmore⟩ := List.forall_mem_cons.1 hmore
    obtain ⟨fuel, rfl⟩ : ∃ less, fuel = less + 1 := ⟨fuel - 1, by omega⟩
    rw [renderItems, List.cons_append, List.append_assoc, items?_next hfirst (by omega),
      ih hsecond hmore fuel (by omega)]
    rfl

/-- The last member of an object is read with the brace behind it. -/
lemma members?_last (key : Bytes) (hfirst : IsRead first) (hfuel : (render first).length < fuel)
    (rest : Bytes) :
    members? (fuel + 1) (renderString key ++ 58 :: (render first ++ 125 :: rest))
      = some ([(key, first)], rest) := by
  have hkey := stringRest?_escaped key (58 :: (render first ++ 125 :: rest))
  have hvalue := hfirst _ _ hfuel (stops_brace rest)
  simp [members?, renderString, skipSpace, isSpace, hkey, hvalue]

/-- Any other member is read with the comma behind it. -/
lemma members?_next (key : Bytes) (hfirst : IsRead first) (hfuel : (render first).length < fuel)
    (rest : Bytes) :
    members? (fuel + 1) (renderString key ++ 58 :: (render first ++ 44 :: rest))
      = (members? fuel rest).map fun (found, rest) => ((key, first) :: found, rest) := by
  have hkey := stringRest?_escaped key (58 :: (render first ++ 44 :: rest))
  have hvalue := hfirst _ _ hfuel (stops_comma rest)
  simp [members?, renderString, skipSpace, isSpace, hkey, hvalue]

lemma members?_render {key : Bytes} {more : List (Bytes × Json)} (hfirst : IsRead first)
    (hmore : ∀ member ∈ more, IsRead member.2)
    (hfuel : (render first).length + (renderMembers more).length + 1 < fuel) :
    members? fuel (renderString key ++ 58 :: (render first ++ (renderMembers more ++ 125 :: rest)))
      = some ((key, first) :: more, rest) := by
  obtain ⟨fuel, rfl⟩ := Nat.exists_eq_add_one.2 (Nat.zero_lt_of_lt hfuel)
  induction more generalizing key first fuel with
  | nil => exact members?_last key hfirst (by omega) rest
  | cons member more ih =>
    obtain ⟨other, second⟩ := member
    simp only [renderMembers, List.length_cons, List.length_append] at hfuel
    have hsecond : IsRead second := hmore (other, second) List.mem_cons_self
    have hmore : ∀ member ∈ more, IsRead member.2 :=
      fun member hmember => hmore member (List.mem_cons_of_mem _ hmember)
    obtain ⟨fuel, rfl⟩ : ∃ less, fuel = less + 1 := ⟨fuel - 1, by omega⟩
    rw [renderMembers, List.cons_append, List.append_assoc, List.cons_append, List.append_assoc,
      members?_next key hfirst (by omega), ih hsecond hmore fuel (by omega)]
    rfl

/-! ### Documents -/

/-- The reader goes at least one step into a value, as a value is not empty. -/
lemma IsRead.of_succ {value : Json}
    (h : ∀ fuel rest, (render value).length ≤ fuel → Stops rest →
      value? (fuel + 1) (render value ++ rest) = some (value, rest)) : IsRead value := by
  intro fuel rest hfuel hrest
  obtain ⟨fuel, rfl⟩ := Nat.exists_eq_add_one.2 (Nat.zero_lt_of_lt hfuel)
  exact h fuel rest (Nat.le_of_lt_succ hfuel) hrest

lemma isRead_array {items : List Json} (hitems : ∀ item ∈ items, Written item)
    (hread : ∀ item ∈ items, IsRead item) : IsRead (.array items) := by
  refine .of_succ fun fuel rest hfuel _ => ?_
  cases items with
  | nil => rfl
  | cons first more =>
    obtain ⟨hfirst, hmore⟩ := List.forall_mem_cons.1 hread
    obtain ⟨b, text, htext, hspace, hclose⟩ :=
      exists_render_eq_cons (hitems first List.mem_cons_self)
    simp only [render, List.length_cons, List.length_append, List.length_nil] at hfuel
    have hall : items? fuel (render first ++ (renderItems more ++ 93 :: rest))
        = some (first :: more, rest) := items?_render hfirst hmore (by omega)
    rw [htext, List.cons_append] at hall
    simp [render, value?, skipSpace_cons (b := 91) rfl, skipSpace_cons hspace, htext, hclose, hall]

lemma isRead_object {members : List (Bytes × Json)} (hread : ∀ member ∈ members, IsRead member.2) :
    IsRead (.object members) := by
  refine .of_succ fun fuel rest hfuel _ => ?_
  cases members with
  | nil => rfl
  | cons member more =>
    obtain ⟨key, first⟩ := member
    have hfirst : IsRead first := hread (key, first) List.mem_cons_self
    have hmore : ∀ member ∈ more, IsRead member.2 :=
      fun member hmember => hread member (List.mem_cons_of_mem _ hmember)
    simp only [render, List.length_cons, List.length_append, List.length_nil] at hfuel
    have hall : members? fuel
        (renderString key ++ 58 :: (render first ++ (renderMembers more ++ 125 :: rest)))
          = some ((key, first) :: more, rest) := members?_render hfirst hmore (by omega)
    rw [renderString, List.cons_append, List.cons_append, List.append_assoc,
      List.singleton_append] at hall
    simp [render, renderString, value?, skipSpace, isSpace, hall]

/-- A value that can be written is read wherever it stands. -/
lemma isRead_of_written {value : Json} (h : Written value) : IsRead value := by
  induction h with
  | null => exact .of_succ fun _ _ _ _ => rfl
  | bool value => cases value <;> exact .of_succ fun _ _ _ _ => rfl
  | nat n => exact .of_succ fun _ _ _ hrest => value?_nat n hrest
  | string content => exact .of_succ fun _ rest _ _ => value?_string content rest
  | array hitems ih => exact isRead_array hitems ih
  | object hmembers ih => exact isRead_object ih

/-- **A document is read back.**  What is written for a value is read as this value. -/
theorem parse?_render {value : Json} (h : Written value) : parse? (render value) = some value := by
  have hread := isRead_of_written h _ _ (Nat.lt_succ_self _) stops_nil
  rw [List.append_nil] at hread
  rw [parse?, hread]
  rfl

end Json

end Intercept
