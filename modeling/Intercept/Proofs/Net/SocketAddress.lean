/-
# How socket addresses are written

`SocketAddress.Written` is the grammar of socket addresses: four decimal numbers with dots between
them, or groups of hexadecimal digits between brackets, and the number of a port.  Reading accepts
exactly the texts of this grammar (`isWritten_iff`).

Every reader takes as much as it can.  That nothing else can be meant is shown by what stands
behind: a number ends where no digit follows, and a row of groups ends in front of a bracket, of the
sign of a zone, or of two colons (`Stops`).
-/
import Mathlib.Data.List.TakeWhile
import Mathlib.Tactic.Common
import Intercept.Net.SocketAddress

namespace Intercept.SocketAddress

/-! ### The grammar -/

/-- The number that digits write. -/
def value (base : Nat) (text : List Char) : Nat :=
  text.foldl (fun n c => base * n + (digit? base c).getD 0) 0

/-- Digits that write a number up to a limit, with zeros in front of it or without. -/
structure Numeral (base limit : Nat) (text : List Char) : Prop where
  ne_nil : text ≠ []
  digits : ∀ c ∈ text, (digit? base c).isSome = true
  le : value base text ≤ limit

/-- A part of an IPv4 address, in which no zero stands in front of other digits. -/
structure Part (text : List Char) : Prop extends Numeral 10 255 text where
  length_le : text.length ≤ 3
  alone : text.head? = some '0' → text.length = 1

/-- An IPv4 address. -/
inductive Four : List Char → Prop where
  | parts {a b c d : List Char} (ha : Part a) (hb : Part b) (hc : Part c) (hd : Part d) :
    Four (a ++ '.' :: (b ++ '.' :: (c ++ '.' :: d)))

/-- A group of an IPv6 address. -/
structure Group (text : List Char) : Prop extends Numeral 16 0xffff text where
  length_le : text.length ≤ 4

/-- A row of so many groups with colons between them.  The flag says whether an IPv4 address stands
for the last two. -/
inductive Groups : Bool → Nat → List Char → Prop where
  | single {text : List Char} (h : Group text) : Groups false 1 text
  | embedded {text : List Char} (h : Four text) : Groups true 2 text
  | cons {text rest : List Char} {four : Bool} {n : Nat} (h : Group text)
    (hrest : Groups four n rest) : Groups four (n + 1) (text ++ ':' :: rest)

/-- What may stand at either side of two colons. -/
inductive Side : Bool → Nat → List Char → Prop where
  | empty : Side false 0 []
  | groups {four : Bool} {n : Nat} {text : List Char} (h : Groups four n text) : Side four n text

/-- An IPv6 address: eight groups, or fewer with two colons where groups of zeros are left out. -/
inductive Six : List Char → Prop where
  | whole {four : Bool} {text : List Char} (h : Groups four 8 text) : Six text
  | short {four : Bool} {m n : Nat} {front back : List Char} (hfront : Side false m front)
    (hback : Side four n back) (hroom : m + n ≤ 7) : Six (front ++ ':' :: ':' :: back)

/-- The zone of an IPv6 address, which may be missing. -/
inductive Zone : List Char → Prop where
  | none : Zone []
  | number {text : List Char} (h : Numeral 10 0xffffffff text) : Zone ('%' :: text)

/-- A socket address. -/
inductive Written : List Char → Prop where
  | four {host port : List Char} (hhost : Four host) (hport : Numeral 10 0xffff port) :
    Written (host ++ ':' :: port)
  | six {host zone port : List Char} (hhost : Six host) (hzone : Zone zone)
    (hport : Numeral 10 0xffff port) : Written ('[' :: (host ++ (zone ++ ']' :: ':' :: port)))

/-! ### Numbers -/

section Numbers

variable {base limit n : Nat} {text rest input : List Char}

/-- What is read is all that satisfies a condition, if what follows does not. -/
lemma takeWhile_append {p : Char → Bool} (htext : ∀ c ∈ text, p c = true)
    (hrest : ∀ c ∈ rest.head?, p c = false) : (text ++ rest).takeWhile p = text := by
  rw [List.takeWhile_append_of_pos htext]
  cases rest with
  | nil => simp
  | cons c more => rw [List.takeWhile_cons_of_neg (by simp [hrest c rfl]), List.append_nil]

lemma number?_sound (h : number? base limit input = some (n, rest)) :
    input = input.takeWhile (fun c => (digit? base c).isSome) ++ rest ∧
      Numeral base limit (input.takeWhile fun c => (digit? base c).isSome) := by
  rw [number?] at h
  split at h
  · cases h
  · next hnot =>
    obtain ⟨-, rfl⟩ := Prod.mk.inj (Option.some.inj h)
    rw [not_or, List.isEmpty_iff, Nat.not_lt] at hnot
    refine ⟨(List.prefix_iff_eq_append.1 (List.takeWhile_prefix _)).symm, hnot.1, ?_, hnot.2⟩
    intro c hc
    exact List.mem_takeWhile_imp (p := fun c => (digit? base c).isSome) hc

lemma number?_of_numeral (h : Numeral base limit text)
    (hrest : ∀ c ∈ rest.head?, digit? base c = none) :
    number? base limit (text ++ rest) = some (value base text, rest) := by
  have htake : (text ++ rest).takeWhile (fun c => (digit? base c).isSome) = text :=
    takeWhile_append h.digits fun c hc => by rw [hrest c hc]; rfl
  have hfits : ¬ (text.isEmpty = true ∨ limit < value base text) := by
    rw [List.isEmpty_iff]
    exact not_or.2 ⟨h.ne_nil, Nat.not_lt.2 h.le⟩
  rw [number?, htake]
  rw [List.drop_left]
  exact if_neg hfits

/-- Where no digit stands, no number is read. -/
lemma number?_eq_none (h : ∀ c ∈ input.head?, digit? base c = none) :
    number? base limit input = none := by
  have htake : input.takeWhile (fun c => (digit? base c).isSome) = [] := by
    cases input with
    | nil => rfl
    | cons c more => exact List.takeWhile_cons_of_neg (by simp [h c rfl])
  rw [number?, htake]
  exact if_pos (.inl rfl)

lemma isDigit_iff (c : Char) : c.isDigit = true ↔ 48 ≤ c.toNat ∧ c.toNat ≤ 57 := by
  simp [Char.isDigit, UInt32.le_iff_toNat_le]

lemma digit?_ten_isSome (c : Char) : (digit? 10 c).isSome = c.isDigit := by
  rw [Bool.eq_iff_iff, isDigit_iff, digit?]
  split_ifs <;> simp <;> omega

/-- What is no hexadecimal digit is no decimal digit. -/
lemma digit?_ten_eq_none {c : Char} (h : digit? 16 c = none) : digit? 10 c = none := by
  simp only [digit?, Option.filter_eq_none_iff, decide_eq_true_eq] at h ⊢
  intro v hv
  have hlt := h v hv
  omega

end Numbers

/-! ### IPv4 addresses -/

section Parts

variable {text rest input : List Char}

lemma part?_sound {n : Nat} (h : part? input = some (n, rest)) :
    ∃ text, input = text ++ rest ∧ Part text := by
  rw [part?] at h
  split at h
  · cases h
  · next hnot =>
    obtain ⟨hinput, hnumeral⟩ := number?_sound h
    simp only [digit?_ten_isSome] at hinput hnumeral
    rw [not_or, Nat.not_lt, not_and, not_not] at hnot
    exact ⟨_, hinput, hnumeral, hnot.1, hnot.2⟩

lemma part?_of_part (h : Part text) (hrest : ∀ c ∈ rest.head?, digit? 10 c = none) :
    part? (text ++ rest) = some (value 10 text, rest) := by
  have htake : (text ++ rest).takeWhile Char.isDigit = text := by
    refine takeWhile_append (fun c hc => ?_) fun c hc => ?_
    · rw [← digit?_ten_isSome]
      exact h.digits c hc
    · rw [← digit?_ten_isSome, hrest c hc]
      rfl
  rw [part?, htake]
  have hfits : ¬ (3 < text.length ∨ (text.head? = some '0' ∧ text.length ≠ 1)) := by
    rintro (hlong | ⟨hzero, hmore⟩)
    · exact absurd h.length_le (Nat.not_le.2 hlong)
    · exact hmore (h.alone hzero)
  exact (if_neg hfits).trans (number?_of_numeral h.toNumeral hrest)

lemma moreParts?_succ_sound {n : Nat} {parts : List Nat}
    (h : moreParts? (n + 1) input = some (parts, rest)) :
    ∃ text behind more, input = '.' :: (text ++ behind) ∧ Part text ∧
      moreParts? n behind = some (more, rest) := by
  cases input with
  | nil => cases h
  | cons c input =>
    by_cases hc : c = '.'
    · subst hc
      rw [moreParts?] at h
      obtain ⟨⟨part, behind⟩, hpart, h⟩ := Option.bind_eq_some_iff.1 h
      obtain ⟨⟨more, rest'⟩, hmore, h⟩ := Option.bind_eq_some_iff.1 h
      cases h
      obtain ⟨text, rfl, htext⟩ := part?_sound hpart
      exact ⟨text, behind, more, rfl, htext, hmore⟩
    · simp [moreParts?, hc] at h

lemma moreParts?_succ_of_part {n : Nat} {parts : List Nat} {behind : List Char} (h : Part text)
    (hbehind : ∀ c ∈ behind.head?, digit? 10 c = none)
    (hmore : moreParts? n behind = some (parts, rest)) :
    moreParts? (n + 1) ('.' :: (text ++ behind)) = some (value 10 text :: parts, rest) := by
  simp only [moreParts?, part?_of_part h hbehind, hmore, Option.bind_eq_bind, Option.bind_some,
    Option.pure_def]

lemma four?_sound {parts : List Nat} (h : four? input = some (parts, rest)) :
    ∃ text, input = text ++ rest ∧ Four text := by
  obtain ⟨⟨part, behind⟩, hpart, h⟩ := Option.bind_eq_some_iff.1 h
  obtain ⟨⟨more, rest'⟩, hmore, h⟩ := Option.bind_eq_some_iff.1 h
  cases h
  obtain ⟨a, rfl, ha⟩ := part?_sound hpart
  obtain ⟨b, behind, more, rfl, hb, hmore⟩ := moreParts?_succ_sound hmore
  obtain ⟨c, behind, more, rfl, hc, hmore⟩ := moreParts?_succ_sound hmore
  obtain ⟨d, behind, more, rfl, hd, hmore⟩ := moreParts?_succ_sound hmore
  cases hmore
  exact ⟨_, by simp, .parts ha hb hc hd⟩

lemma four?_of_four (h : Four text) (hrest : ∀ c ∈ rest.head?, digit? 10 c = none) :
    ∃ a b c d, four? (text ++ rest) = some ([a, b, c, d], rest) := by
  cases h with
  | @parts a b c d ha hb hc hd =>
    have hdot : ∀ (more : List Char), ∀ c ∈ ('.' :: more).head?, digit? 10 c = none := by
      rintro more _ ⟨⟩
      decide
    have hlast : moreParts? 1 ('.' :: (d ++ rest)) = some ([value 10 d], rest) :=
      moreParts?_succ_of_part hd hrest rfl
    have hthird := moreParts?_succ_of_part hc (hdot _) hlast
    have hsecond := moreParts?_succ_of_part hb (hdot _) hthird
    have hfirst := part?_of_part ha (hdot (b ++ '.' :: (c ++ '.' :: (d ++ rest))))
    refine ⟨value 10 a, value 10 b, value 10 c, value 10 d, ?_⟩
    simp only [List.append_assoc, List.cons_append]
    simp only [four?, hfirst, Option.bind_eq_bind, Option.bind_some, Option.pure_def]
    exact Option.bind_eq_some_iff.2 ⟨_, hsecond, rfl⟩

/-- Where no digit stands, no IPv4 address is read. -/
lemma four?_eq_none (h : ∀ c ∈ input.head?, digit? 10 c = none) : four? input = none := by
  have hpart : part? input = none := by
    rw [part?, number?_eq_none h, ite_self]
  rw [four?, hpart]
  rfl

end Parts

/-! ### IPv6 addresses -/

section Groups

variable {text rest input : List Char} {first four : Bool} {room n : Nat}

lemma group?_sound {n : Nat} (h : group? input = some (n, rest)) :
    ∃ text, input = text ++ rest ∧ Group text := by
  rw [group?] at h
  split at h
  · cases h
  · next hnot =>
    obtain ⟨hinput, hnumeral⟩ := number?_sound h
    exact ⟨_, hinput, hnumeral, Nat.not_lt.1 hnot⟩

lemma group?_of_group (h : Group text) (hrest : ∀ c ∈ rest.head?, digit? 16 c = none) :
    group? (text ++ rest) = some (value 16 text, rest) := by
  have htake : (text ++ rest).takeWhile (fun c => (digit? 16 c).isSome) = text :=
    takeWhile_append h.digits fun c hc => by rw [hrest c hc]; rfl
  rw [group?, htake]
  exact (if_neg (Nat.not_lt.2 h.length_le)).trans (number?_of_numeral h.toNumeral hrest)

lemma group?_eq_none (h : ∀ c ∈ input.head?, digit? 16 c = none) : group? input = none := by
  rw [group?, number?_eq_none h, ite_self]

/-- A group is no beginning of an IPv4 address, unless a dot follows. -/
lemma four?_of_group (h : Group text) (hrest : ∀ c ∈ rest.head?, digit? 16 c = none ∧ c ≠ '.') :
    four? (text ++ rest) = none := by
  cases hfour : four? (text ++ rest) with
  | none => rfl
  | some found =>
    obtain ⟨address, hread, haddress⟩ := four?_sound hfour
    cases haddress with
    | @parts a b c d ha hb hc hd =>
      -- the first part of the address would be all of the group, and a dot follows it
      have hgroup : (text ++ rest).takeWhile (fun c => (digit? 16 c).isSome) = text :=
        takeWhile_append h.digits fun c hc => by rw [(hrest c hc).1]; rfl
      have hpart : (text ++ rest).takeWhile (fun c => (digit? 16 c).isSome) = a := by
        rw [hread, List.append_assoc, List.cons_append]
        refine takeWhile_append (fun c hc => ?_) (by rintro _ ⟨⟩; decide)
        rw [Option.isSome_iff_ne_none]
        intro hnone
        have hdigit := ha.digits c hc
        rw [digit?_ten_eq_none hnone] at hdigit
        cases hdigit
      obtain rfl := hgroup.symm.trans hpart
      rw [List.append_assoc, List.append_cancel_left_eq, List.cons_append] at hread
      exact absurd rfl (hrest '.' (by rw [hread]; rfl)).2

lemma separated?_true (input : List Char) : separated? true input = some input := by
  cases input with
  | nil => rfl
  | cons c more =>
    by_cases hc : c = ':'
    · subst hc; rfl
    · simp [separated?, hc]

lemma separated?_false_eq_some : separated? false input = some rest ↔ input = ':' :: rest := by
  cases input with
  | nil => simp [separated?]
  | cons c more =>
    by_cases hc : c = ':'
    · subst hc; simp [separated?]
    · simp [separated?, hc]

/-- Where a row of groups ends: no digit and no dot follow, nor does a colon with a digit behind. -/
structure Stops (rest : List Char) : Prop where
  head : ∀ c ∈ rest.head?, digit? 16 c = none ∧ c ≠ '.'
  behind : ∀ more, rest = ':' :: more → ∀ c ∈ more.head?, digit? 16 c = none

lemma stops_colons (more : List Char) : Stops (':' :: ':' :: more) where
  head := by rintro _ ⟨⟩; decide
  behind := by rintro _ ⟨⟩ _ ⟨⟩; decide

/-- Where no digit stands, the row of groups is empty. -/
lemma groups_eq_nil (h : ∀ separated, separated? first input = some separated →
    ∀ c ∈ separated.head?, digit? 16 c = none) : groups first room input = ([], false, input) := by
  have hgroup : (separated? first input).bind group? = none :=
    Option.bind_eq_none_iff.2 fun separated hseparated => group?_eq_none (h separated hseparated)
  have hfour : (separated? first input).bind four? = none :=
    Option.bind_eq_none_iff.2 fun separated hseparated =>
      four?_eq_none fun c hc => digit?_ten_eq_none (h separated hseparated c hc)
  cases room with
  | zero => rfl
  | succ room =>
    rw [groups]
    simp only [hgroup, hfour, ite_self]

lemma Stops.groups_eq_nil (h : Stops rest) : groups false room rest = ([], false, rest) :=
  SocketAddress.groups_eq_nil fun more hmore => h.behind more (separated?_false_eq_some.1 hmore)

lemma groups_sound : ∀ {room : Nat} {first : Bool} {input found rest},
    groups first room input = (found, four, rest) →
    (found = [] ∧ four = false ∧ rest = input) ∨
      ∃ text, separated? first input = some (text ++ rest) ∧ Groups four found.length text ∧
        found.length ≤ room := by
  intro room
  induction room with
  | zero =>
    intro first input found rest h
    cases h
    exact .inl ⟨rfl, rfl, rfl⟩
  | succ room ih =>
    intro first input found rest h
    rw [groups] at h
    -- an IPv4 address is tried first, since its first part could also be a group
    split at h
    · next a b c d behind hembedded =>
      cases h
      split at hembedded
      · cases hembedded
      · next hroom =>
        obtain ⟨separated, hseparated, hfour⟩ := Option.bind_eq_some_iff.1 hembedded
        obtain ⟨text, rfl, htext⟩ := four?_sound hfour
        exact .inr ⟨text, hseparated, .embedded htext, by simp; omega⟩
    · split at h
      · next group behind hgroup =>
        obtain ⟨separated, hseparated, hgroup⟩ := Option.bind_eq_some_iff.1 hgroup
        obtain ⟨text, rfl, htext⟩ := group?_sound hgroup
        rcases hmore : groups false room behind with ⟨more, embedded, last⟩
        rw [hmore] at h
        cases h
        rcases ih hmore with ⟨rfl, rfl, rfl⟩ | ⟨row, hrow, hgroups, hlength⟩
        · exact .inr ⟨text, hseparated, .single htext, by simp⟩
        · obtain rfl := separated?_false_eq_some.1 hrow
          refine .inr ⟨text ++ ':' :: row, ?_, .cons htext hgroups, by simpa using hlength⟩
          rw [hseparated, List.append_assoc, List.cons_append]
      · cases h
        exact .inl ⟨rfl, rfl, rfl⟩

/-- A group that is read, with what is read behind it. -/
lemma groups_succ (h : Group text) (hrest : ∀ c ∈ rest.head?, digit? 16 c = none ∧ c ≠ '.')
    (hinput : separated? first input = some (text ++ rest)) :
    groups first (room + 1) input = (value 16 text :: (groups false room rest).1,
      (groups false room rest).2.1, (groups false room rest).2.2) := by
  have hfour : (if room = 0 then none else (separated? first input).bind four?) = none := by
    rw [hinput, Option.bind_some, four?_of_group h hrest, ite_self]
  have hgroup : (separated? first input).bind group? = some (value 16 text, rest) := by
    rw [hinput, Option.bind_some, group?_of_group h fun c hc => (hrest c hc).1]
  rw [groups]
  simp only [hfour, hgroup]

lemma groups_of_groups (h : Groups four n text) : ∀ {room : Nat} {first : Bool} {input : List Char},
    n ≤ room → Stops rest → separated? first input = some (text ++ rest) →
    ∃ found, groups first room input = (found, four, rest) ∧ found.length = n := by
  -- behind the first group the row goes on with a colon, which `separated?` takes off
  induction h with
  | single hgroup =>
    intro room first input hroom hrest hinput
    obtain ⟨room, rfl⟩ := Nat.exists_eq_add_one.2 hroom
    rw [groups_succ hgroup hrest.head hinput, hrest.groups_eq_nil]
    exact ⟨_, rfl, rfl⟩
  | embedded hfour =>
    intro room first input hroom hrest hinput
    obtain ⟨room, rfl⟩ := Nat.exists_eq_add_of_le' (Nat.le_of_succ_le hroom)
    obtain ⟨a, b, c, d, hread⟩ :=
      four?_of_four hfour (fun c hc => digit?_ten_eq_none (hrest.head c hc).1)
    have hembedded : (if room = 0 then none else (separated? first input).bind four?)
        = some ([a, b, c, d], rest) := by
      rw [if_neg (by omega), hinput, Option.bind_some, hread]
    rw [groups]
    simp only [hembedded]
    exact ⟨_, rfl, rfl⟩
  | @cons text behind four n hgroup _ ih =>
    intro room first input hroom hrest hinput
    obtain ⟨room, rfl⟩ := Nat.exists_eq_add_of_le' (Nat.le_trans (Nat.le_add_left 1 n) hroom)
    rw [List.append_assoc, List.cons_append] at hinput
    have hcolon : separated? false (':' :: (behind ++ rest)) = some (behind ++ rest) := rfl
    obtain ⟨found, hfound, hlength⟩ := ih (by omega : n ≤ room) hrest hcolon
    rw [groups_succ hgroup (by rintro _ ⟨⟩; decide) hinput, hfound]
    exact ⟨_, rfl, by rw [List.length_cons, hlength]⟩

/-- What is read in front of two colons, or behind them. -/
lemma groups_of_side (h : Side four n text) (hroom : n ≤ room) (hrest : Stops rest) :
    ∃ found, groups true room (text ++ rest) = (found, four, rest) ∧ found.length = n := by
  cases h with
  | empty =>
    refine ⟨[], groups_eq_nil fun separated hseparated => ?_, rfl⟩
    obtain rfl := Option.some.inj ((separated?_true _).symm.trans hseparated)
    exact fun c hc => (hrest.head c hc).1
  | groups h => exact groups_of_groups h hroom hrest (separated?_true _)

lemma side_of_groups {found : List Nat} (h : groups true room input = (found, four, rest)) :
    ∃ text, input = text ++ rest ∧ Side four found.length text ∧ found.length ≤ room := by
  rcases groups_sound h with ⟨rfl, rfl, rfl⟩ | ⟨text, hinput, hgroups, hlength⟩
  · exact ⟨[], rfl, .empty, Nat.zero_le _⟩
  · rw [separated?_true] at hinput
    exact ⟨text, Option.some.inj hinput, .groups hgroups, hlength⟩

lemma six?_sound {found : List Nat} (h : six? input = some (found, rest)) :
    ∃ text, input = text ++ rest ∧ Six text := by
  rw [six?] at h
  rcases hhead : groups true 8 input with ⟨head, embedded, behind⟩
  obtain ⟨front, rfl, hfront, hroom⟩ := side_of_groups hhead
  rw [hhead] at h
  dsimp only at h
  split at h
  · next hlength =>
    cases h
    rw [hlength] at hfront
    cases hfront with
    | groups hfront => exact ⟨front, rfl, .whole hfront⟩
  · next hlength =>
    cases embedded with
    | true => cases h
    | false =>
      simp only [Bool.false_eq_true, if_false] at h
      split at h
      · next behind =>
        rcases htail : groups true (7 - head.length) behind with ⟨tail, embedded, last⟩
        obtain ⟨back, rfl, hback, hshort⟩ := side_of_groups htail
        rw [htail] at h
        cases h
        exact ⟨front ++ ':' :: ':' :: back, by simp, .short hfront hback (by omega)⟩
      · cases h

lemma six?_of_six (h : Six text) (hrest : Stops rest) :
    ∃ found, six? (text ++ rest) = some (found, rest) := by
  cases h with
  | whole h =>
    obtain ⟨found, hfound, hlength⟩ :=
      groups_of_groups h (Nat.le_refl 8) hrest (separated?_true (text ++ rest))
    rw [six?, hfound]
    exact ⟨found, if_pos hlength⟩
  | @short four m n front back hfront hback hroom =>
    obtain ⟨head, hhead, hlength⟩ := groups_of_side hfront (by omega : m ≤ 8)
      (stops_colons (back ++ rest))
    obtain ⟨tail, htail, -⟩ := groups_of_side hback (by omega : n ≤ 7 - head.length) hrest
    rw [List.append_assoc, List.cons_append, List.cons_append, six?, hhead]
    simp only [htail, if_neg (by omega : ¬ head.length = 8)]
    exact ⟨_, rfl⟩

end Groups

/-! ### Socket addresses -/

section Endings

variable {text rest input : List Char}

lemma zone?_sound {n : Nat} (h : zone? input = some (n, rest)) :
    ∃ text, input = text ++ rest ∧ Zone text := by
  rw [zone?.eq_def] at h
  split at h
  · obtain ⟨hinput, hnumeral⟩ := number?_sound h
    exact ⟨_, congrArg _ hinput, .number hnumeral⟩
  · cases h
    exact ⟨[], rfl, .none⟩

lemma zone?_of_zone (h : Zone text) (rest : List Char) :
    ∃ n, zone? (text ++ ']' :: rest) = some (n, ']' :: rest) := by
  cases h with
  | none => exact ⟨0, rfl⟩
  | number h => exact ⟨_, number?_of_numeral h (by rintro _ ⟨⟩; decide)⟩

/-- A zone, or a bracket, ends a row of groups. -/
lemma stops_of_zone (h : Zone text) (rest : List Char) : Stops (text ++ ']' :: rest) := by
  cases h with
  | none => exact ⟨by rintro _ ⟨⟩; decide, nofun⟩
  | number h => exact ⟨by rintro _ ⟨⟩; decide, nofun⟩

lemma ending?_sound {n : Nat} (h : ending? input = some n) :
    ∃ port, input = ':' :: port ∧ Numeral 10 0xffff port := by
  rw [ending?.eq_def] at h
  split at h
  · next port =>
    split at h
    · next hnumber =>
      obtain ⟨hport, hnumeral⟩ := number?_sound hnumber
      rw [List.append_nil] at hport
      rw [← hport] at hnumeral
      exact ⟨port, rfl, hnumeral⟩
    · cases h
  · cases h

lemma ending?_of_numeral (h : Numeral 10 0xffff text) : ∃ n, ending? (':' :: text) = some n := by
  have hnumber : number? 10 0xffff (text ++ []) = some (value 10 text, []) :=
    number?_of_numeral h (by rintro _ ⟨⟩)
  rw [List.append_nil] at hnumber
  rw [ending?, hnumber]
  exact ⟨_, rfl⟩

end Endings

lemma written_of_parse? {text : String} {address : SocketAddress}
    (h : parse? text = some address) : Written text.toList := by
  rw [parse?] at h
  split at h
  · next rest htext =>
    obtain ⟨⟨groups, behind⟩, hsix, hbehind⟩ := Option.bind_eq_some_iff.1 h
    obtain ⟨⟨zone, last⟩, hzone, hlast⟩ := Option.bind_eq_some_iff.1 hbehind
    obtain ⟨host, rfl, hhost⟩ := six?_sound hsix
    obtain ⟨sign, rfl, hsign⟩ := zone?_sound hzone
    dsimp only at hlast
    split at hlast
    · next last =>
      obtain ⟨number, hending, -⟩ := Option.map_eq_some_iff.1 hlast
      obtain ⟨port, rfl, hport⟩ := ending?_sound hending
      rw [htext]
      exact .six hhost hsign hport
    · cases hlast
  · obtain ⟨⟨parts, behind⟩, hfour, hbehind⟩ := Option.bind_eq_some_iff.1 h
    obtain ⟨number, hending, -⟩ := Option.bind_eq_some_iff.1 hbehind
    obtain ⟨host, htext, hhost⟩ := four?_sound hfour
    obtain ⟨port, rfl, hport⟩ := ending?_sound hending
    rw [htext]
    exact .four hhost hport

/-- An IPv4 address does not begin with a bracket. -/
lemma Four.head_ne {text rest : List Char} (h : Four text) (more : List Char) :
    text ++ rest ≠ '[' :: more := by
  cases h with
  | @parts a b c d ha hb hc hd =>
    intro heq
    cases a with
    | nil => exact ha.ne_nil rfl
    | cons first behind =>
      obtain rfl : first = '[' := (List.cons.inj heq).1
      exact absurd (ha.digits '[' List.mem_cons_self) (by decide)

lemma parse?_of_written {text : String} (h : Written text.toList) :
    ∃ address, parse? text = some address := by
  rw [parse?]
  generalize text.toList = input at h
  cases h with
  | @four host port hhost hport =>
    have hcolon : ∀ c ∈ (':' :: port).head?, digit? 10 c = none := by
      rintro _ ⟨⟩
      decide
    obtain ⟨a, b, c, d, hread⟩ := four?_of_four hhost hcolon
    obtain ⟨number, hending⟩ := ending?_of_numeral hport
    split
    · next hbracket => exact absurd hbracket (hhost.head_ne _)
    · exact ⟨_, Option.bind_eq_some_iff.2 ⟨_, hread, Option.bind_eq_some_iff.2 ⟨_, hending, rfl⟩⟩⟩
  | @six host zone port hhost hzone hport =>
    obtain ⟨groups, hread⟩ := six?_of_six hhost (stops_of_zone hzone (':' :: port))
    obtain ⟨n, hnumber⟩ := zone?_of_zone hzone (':' :: port)
    obtain ⟨number, hending⟩ := ending?_of_numeral hport
    refine ⟨⟨.six groups n, number⟩, Option.bind_eq_some_iff.2 ⟨_, hread,
      Option.bind_eq_some_iff.2 ⟨_, hnumber, ?_⟩⟩⟩
    exact Option.map_eq_some_iff.2 ⟨_, hending, rfl⟩

/-- **Socket addresses.**  A text is read as a socket address exactly if the grammar has it. -/
theorem isWritten_iff {text : String} : isWritten text = true ↔ Written text.toList := by
  rw [isWritten, Option.isSome_iff_exists]
  constructor
  · rintro ⟨address, haddress⟩
    exact written_of_parse? haddress
  · exact parse?_of_written

instance (text : String) : Decidable (Written text.toList) := decidable_of_iff _ isWritten_iff

/-- A port may be written with zeros in front of it, a part of an IPv4 address may not. -/
example : Written "[::127.0.0.1%2]:080".toList ∧ ¬ Written "127.0.0.01:80".toList := by
  decide +kernel

end Intercept.SocketAddress
