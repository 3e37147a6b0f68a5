/-
# The bound on unpacking

An entry of an archive is unpacked to no more than some number of bytes.  The bound does not shape
what is unpacked, it only cuts it off: whoever finds less output than the bound would have found the
same with any other bound above it.  So the whole content is a matter of the entry alone
(`Archive.Unpacks`): it is read as a whole with a bound above its length (`Archive.unpack_of_lt`),
and up to the bound with any other (`Archive.unpack_of_le`).
-/
import Mathlib.Tactic.Common
import Intercept.Archive.Zip

namespace Intercept

namespace Inflate

variable {bound more : Nat} {position : Position} {output : Array UInt8} {bits : Bits}

/-! ### One step -/

@[simp] lemma size_repeated (distance n : Nat) (output : Array UInt8) :
    (repeated distance n output).size = output.size + n := by
  induction n generalizing output with
  | zero => rfl
  | succ n ih =>
    rw [repeated, ih, Array.size_push]
    omega

/-- How many bytes there are after a step. -/
def Step.size : Step → Nat
  | .more _ output _ => output.size
  | .done inflated => inflated.output.size

lemma size_le_symbolStep (codes : Codes) (last : Bool) :
    output.size ≤ (symbolStep bound codes last output bits).size := by
  rw [symbolStep]
  split
  · exact Nat.le_refl _
  · split
    · simp [Step.size]
    · split
      · split <;> exact Nat.le_refl _
      · split
        · exact Nat.le_refl _
        · simp [Step.size]

lemma size_le_plainStep (last : Bool) (bytes : Bytes) :
    output.size ≤ (plainStep bound last output bytes).size := by
  rw [plainStep.eq_def]
  split
  · simp only
    split
    · exact Nat.le_refl _
    · split
      · simp [Step.size]
      · split
        · simp [Step.size]
        · split <;> simp [Step.size]
  · exact Nat.le_refl _

/-- No step takes output back. -/
lemma size_le_step : output.size ≤ (step bound position output bits).size := by
  cases position with
  | within codes last =>
    rw [step]
    exact size_le_symbolStep codes last
  | between =>
    rw [step, blockStep]
    split
    · exact Nat.le_refl _
    · split
      · exact Nat.le_refl _
      · split
        · exact size_le_plainStep _ _
        · split
          · exact Nat.le_refl _
          · split
            · split <;> exact Nat.le_refl _
            · exact Nat.le_refl _

lemma symbolStep_size_le (codes : Codes) (last : Bool) (hroom : output.size < bound) :
    (symbolStep bound codes last output bits).size ≤ bound := by
  have hbelow := Nat.le_of_lt hroom
  rw [symbolStep]
  split
  · exact hbelow
  · split
    · simp only [Step.size, Array.size_push]
      exact hroom
    · split
      · split <;> exact hbelow
      · split
        · exact hbelow
        · simp only [Step.size, size_repeated]
          omega

lemma plainStep_size_le (last : Bool) (bytes : Bytes) (hroom : output.size < bound) :
    (plainStep bound last output bytes).size ≤ bound := by
  have hbelow := Nat.le_of_lt hroom
  -- whatever is copied, it fills the output up to the bound at most
  have hcopied : ∀ plain : Bytes,
      (output ++ (plain.take (bound - output.size)).toArray).size ≤ bound := by
    intro plain
    simp only [Array.size_append, List.size_toArray, List.length_take]
    omega
  rw [plainStep.eq_def]
  split
  · simp only
    split
    · exact hbelow
    · split
      · exact hcopied _
      · split
        · exact hcopied _
        · split <;> exact hcopied _
  · exact hbelow

/-- A step that begins below the bound does not go above it. -/
lemma step_size_le (hroom : output.size < bound) :
    (step bound position output bits).size ≤ bound := by
  have hbelow := Nat.le_of_lt hroom
  cases position with
  | within codes last =>
    rw [step]
    exact symbolStep_size_le codes last hroom
  | between =>
    rw [step, blockStep]
    split
    · exact hbelow
    · split
      · exact hbelow
      · split
        · exact plainStep_size_le _ _ hroom
        · split
          · exact hbelow
          · split
            · split <;> exact hbelow
            · exact hbelow

/-- A stretch that does not reach the bound is repeated as a whole. -/
lemma symbolStep_eq (codes : Codes) (last : Bool)
    (hbound : (symbolStep bound codes last output bits).size < bound)
    (hmore : (symbolStep bound codes last output bits).size < more) :
    symbolStep more codes last output bits = symbolStep bound codes last output bits := by
  rw [symbolStep] at hbound hmore ⊢
  rw [symbolStep]
  cases hsymbol : codes.literals.symbol? bits with
  | none => rfl
  | some found =>
    obtain ⟨symbol, bits⟩ := found
    simp only [hsymbol] at hbound hmore ⊢
    by_cases hliteral : symbol < 256
    · rw [if_pos hliteral, if_pos hliteral]
    · rw [if_neg hliteral] at hbound hmore ⊢
      rw [if_neg hliteral]
      by_cases hend : symbol = 256
      · rw [if_pos hend, if_pos hend]
      · rw [if_neg hend] at hbound hmore ⊢
        rw [if_neg hend]
        cases hstretch : stretch? codes symbol bits with
        | none => rfl
        | some stretch =>
          obtain ⟨length, distance, bits⟩ := stretch
          simp only [hstretch, Step.size, size_repeated] at hbound hmore ⊢
          have hsame : min length (more - output.size) = min length (bound - output.size) := by
            omega
          rw [hsame]

/-- Bytes that do not reach the bound are copied as a whole. -/
lemma plainStep_eq (last : Bool) (bytes : Bytes)
    (hbound : (plainStep bound last output bytes).size < bound)
    (hmore : (plainStep bound last output bytes).size < more) :
    plainStep more last output bytes = plainStep bound last output bytes := by
  match bytes with
  | [] | [_] | [_, _] | [_, _, _] => rfl
  | a :: b :: c :: d :: rest =>
    rw [plainStep] at hbound hmore ⊢
    rw [plainStep]
    by_cases hlength : a.toNat + 256 * b.toNat + (c.toNat + 256 * d.toNat) ≠ 65535
    · rw [if_pos hlength, if_pos hlength]
    · rw [if_neg hlength] at hbound hmore ⊢
      rw [if_neg hlength]
      generalize a.toNat + 256 * b.toNat = length at hbound hmore ⊢
      generalize rest.take length = plain at hbound hmore ⊢
      -- however the step ends, what it copies is in its output
      have hsize : ∀ (grown : Array UInt8) (next : Step), next.size = grown.size →
          (if bound ≤ grown.size ∧ 0 < length then Step.done ⟨grown, .bounded⟩ else next).size
            = grown.size := by
        intro grown next hnext
        split
        · rfl
        · exact hnext
      have hnext : ∀ grown : Array UInt8,
          (if plain.length < length then Step.done ⟨grown, .broken⟩
            else if last then .done ⟨grown, .complete⟩
            else .more .between grown ⟨0, 0, rest.drop length⟩).size = grown.size := by
        intro grown
        split
        · rfl
        · split <;> rfl
      simp only at hbound hmore ⊢
      rw [hsize _ _ (hnext _)] at hbound hmore
      simp only [Array.size_append, List.size_toArray, List.length_take] at hbound hmore
      have hcopied : plain.take (bound - output.size) = plain :=
        List.take_of_length_le (by omega)
      have hsame : plain.take (more - output.size) = plain := List.take_of_length_le (by omega)
      have hroom : ∀ room, output.size + plain.length < room →
          ¬ (room ≤ (output ++ plain.toArray).size ∧ 0 < length) := by
        intro room hroom h
        simp only [Array.size_append, List.size_toArray] at h
        omega
      rw [hcopied, hsame, if_neg (hroom more (by omega)), if_neg (hroom bound (by omega))]

lemma blockStep_eq (hbound : (blockStep bound output bits).size < bound)
    (hmore : (blockStep bound output bits).size < more) :
    blockStep more output bits = blockStep bound output bits := by
  rw [blockStep] at hbound hmore ⊢
  rw [blockStep]
  cases hlast : bits.bit? with
  | none => rfl
  | some found =>
    obtain ⟨last, bits⟩ := found
    simp only [hlast] at hbound hmore ⊢
    cases hkind : bits.number? 2 with
    | none => rfl
    | some found =>
      obtain ⟨kind, bits⟩ := found
      simp only [hkind] at hbound hmore ⊢
      by_cases hplain : kind = 0
      · rw [if_pos hplain] at hbound hmore ⊢
        rw [if_pos hplain]
        exact plainStep_eq _ _ hbound hmore
      · rw [if_neg hplain, if_neg hplain]

/-- A step that stays below two bounds is the same with either of them. -/
lemma step_eq (hbound : (step bound position output bits).size < bound)
    (hmore : (step bound position output bits).size < more) :
    step more position output bits = step bound position output bits := by
  cases position with
  | within codes last =>
    simp only [step] at hbound hmore ⊢
    exact symbolStep_eq codes last hbound hmore
  | between =>
    simp only [step] at hbound hmore ⊢
    exact blockStep_eq hbound hmore

/-! ### All steps -/

/-- Nothing of the output so far is taken back. -/
lemma size_le_steps (bound fuel : Nat) (position : Position) (output : Array UInt8) (bits : Bits) :
    output.size ≤ (steps bound fuel position output bits).output.size := by
  induction fuel generalizing position output bits with
  | zero => exact Nat.le_refl _
  | succ fuel ih =>
    have hstep : output.size ≤ (step bound position output bits).size := size_le_step
    rw [steps]
    split
    · exact Nat.le_refl _
    · split
      · next hmore =>
        rw [hmore] at hstep
        exact Nat.le_trans hstep (ih _ _ _)
      · next hdone =>
        rw [hdone] at hstep
        exact hstep

/-- The output does not go above the bound. -/
lemma steps_size_le (fuel : Nat) (position : Position) (bits : Bits)
    (hsize : output.size ≤ bound) :
    (steps bound fuel position output bits).output.size ≤ bound := by
  induction fuel generalizing position output bits with
  | zero => exact hsize
  | succ fuel ih =>
    rw [steps]
    split
    · exact hsize
    · next hroom =>
      have hstep : (step bound position output bits).size ≤ bound :=
        step_size_le (Nat.not_le.1 hroom)
      split
      · next hmore =>
        rw [hmore] at hstep
        exact ih _ _ hstep
      · next hdone =>
        rw [hdone] at hstep
        exact hstep

lemma inflate_size_le (bound : Nat) (data : Bytes) :
    (inflate bound data).output.size ≤ bound :=
  steps_size_le _ _ _ (Nat.zero_le _)

/-- Output that stays below two bounds is the same with either of them. -/
lemma steps_eq {fuel : Nat}
    (hbound : (steps bound fuel position output bits).output.size < bound)
    (hmore : (steps bound fuel position output bits).output.size < more) :
    steps more fuel position output bits = steps bound fuel position output bits := by
  induction fuel generalizing position output bits with
  | zero => rfl
  | succ fuel ih =>
    have hstart := size_le_steps bound (fuel + 1) position output bits
    rw [steps, if_neg (Nat.not_le.2 (Nat.lt_of_le_of_lt hstart hmore))]
    have hbelow := Nat.not_le.2 (Nat.lt_of_le_of_lt hstart hbound)
    rw [steps, if_neg hbelow] at hbound hmore ⊢
    have hstep : (step bound position output bits).size < bound →
        (step bound position output bits).size < more →
        step more position output bits = step bound position output bits := step_eq
    cases hnext : step bound position output bits with
    | done inflated =>
      simp only [hnext] at hbound hmore hstep ⊢
      rw [hstep hbound hmore]
    | more next grown rest =>
      simp only [hnext] at hbound hmore hstep ⊢
      -- what comes of the step is the beginning of all output
      have hgrown := size_le_steps bound fuel next grown rest
      rw [hstep (Nat.lt_of_le_of_lt hgrown hbound) (Nat.lt_of_le_of_lt hgrown hmore)]
      exact ih hbound hmore

end Inflate

namespace Archive

/-- The whole content of an entry is found with every bound above its length. -/
lemma unpack_eq_whole {entry : Entry} {bound more : Nat} {packing : Packing} {packed bytes : Bytes}
    (h : unpack entry bound packing packed = .whole bytes) (hmore : bytes.length < more) :
    unpack entry more packing packed = .whole bytes := by
  have hchecked : ∀ {content : Bytes},
      (if (Crc32.checksum content).toNat = entry.checksum then Content.whole content
        else .damaged content) = .whole bytes → content = bytes := by
    intro content hcontent
    split at hcontent
    · exact Content.whole.inj hcontent
    · cases hcontent
  cases packing with
  | stored =>
    rw [unpack] at h ⊢
    simp only at h ⊢
    split at h
    · cases h
    · obtain rfl := hchecked h
      rw [if_neg (Nat.not_le.2 hmore), h]
  | deflated =>
    rw [unpack] at h ⊢
    simp only at h ⊢
    cases hending : (Inflate.inflate bound packed).ending with
    | bounded =>
      rw [hending] at h
      cases h
    | broken =>
      simp only [hending] at h
      split at h <;> cases h
    | complete =>
      simp only [hending] at h
      split at h
      · cases h
      · next hbound =>
        obtain rfl := hchecked h
        rw [Array.length_toList] at hmore
        have hsame : Inflate.inflate more packed = Inflate.inflate bound packed :=
          Inflate.steps_eq (Nat.not_le.1 hbound) hmore
        simp only [hsame, hending]
        rw [if_neg (Nat.not_le.2 hmore), h]

/-- What is read of an entry is not longer than the bound. -/
lemma unpack_length_le (entry : Entry) (bound : Nat) (packing : Packing) (packed : Bytes) :
    (unpack entry bound packing packed).bytes.length ≤ bound := by
  have hchecked : ∀ {content : Bytes}, content.length ≤ bound →
      (if (Crc32.checksum content).toNat = entry.checksum then Content.whole content
        else .damaged content).bytes.length ≤ bound := by
    intro content hcontent
    split <;> exact hcontent
  cases packing with
  | stored =>
    rw [unpack]
    simp only
    split
    · exact (List.length_take_le _ _)
    · next hbound => exact hchecked (Nat.le_of_lt (Nat.not_le.1 hbound))
  | deflated =>
    have hsize : (Inflate.inflate bound packed).output.toList.length ≤ bound := by
      rw [Array.length_toList]
      exact Inflate.inflate_size_le bound packed
    rw [unpack]
    simp only
    split
    · split
      · exact hsize
      · exact hchecked hsize
    · exact hsize
    · split <;> exact hsize

/-- Packed bytes are unpacked to some content, if nothing bounds it. -/
inductive Unpacks : Packing → Bytes → Bytes → Prop where
  | stored (content : Bytes) : Unpacks .stored content content
  | deflated {bound : Nat} {packed content : Bytes} (hbound : content.length < bound)
    (hending : (Inflate.inflate bound packed).ending = .complete)
    (houtput : (Inflate.inflate bound packed).output.toList = content) :
    Unpacks .deflated packed content

variable {entry : Entry} {bound : Nat} {packing : Packing} {packed content : Bytes}

/-- Below the bound all content is read, and the checksum is compared. -/
lemma unpack_of_lt (h : Unpacks packing packed content) (hroom : content.length < bound) :
    unpack entry bound packing packed
      = if (Crc32.checksum content).toNat = entry.checksum then .whole content
        else .damaged content := by
  cases h with
  | stored => rw [unpack, if_neg (Nat.not_le.2 hroom)]
  | @deflated wide _ _ hbound hending houtput =>
    have hsize : (Inflate.inflate wide packed).output.size = content.length := by
      rw [← houtput, Array.length_toList]
    have hsame : Inflate.inflate bound packed = Inflate.inflate wide packed :=
      Inflate.steps_eq (hsize ▸ hbound) (hsize ▸ hroom)
    rw [unpack]
    simp only [hsame, hending, houtput]
    rw [if_neg (by rw [hsize]; exact Nat.not_le.2 hroom)]

/-- Of content that reaches the bound as much is read as the bound says, and nothing is compared. -/
lemma unpack_of_le (h : Unpacks packing packed content) (hlong : bound ≤ content.length) :
    ∃ bytes, unpack entry bound packing packed = .bounded bytes ∧ bytes.length = bound := by
  cases h with
  | stored =>
    refine ⟨packed.take bound, by rw [unpack, if_pos hlong], ?_⟩
    rw [List.length_take, Nat.min_eq_left hlong]
  | @deflated wide _ _ hbound hending houtput =>
    have hsize : (Inflate.inflate wide packed).output.size = content.length := by
      rw [← houtput, Array.length_toList]
    -- less output would be all output, and that reaches the bound
    have hreached : bound ≤ (Inflate.inflate bound packed).output.size := by
      by_contra hbelow
      rw [Nat.not_le] at hbelow
      have hwide : (Inflate.inflate bound packed).output.size < wide := by omega
      have hsame : Inflate.inflate wide packed = Inflate.inflate bound packed :=
        Inflate.steps_eq hbelow hwide
      rw [hsame] at hsize
      omega
    refine ⟨(Inflate.inflate bound packed).output.toList, ?_, ?_⟩
    · rw [unpack]
      simp only [hreached, if_true]
      split <;> rfl
    · rw [Array.length_toList]
      exact Nat.le_antisymm (Inflate.inflate_size_le bound packed) hreached

end Archive

end Intercept
