/-
# A digest piece by piece

Blocks that are complete are folded in by themselves, whatever comes behind them, and what is left
over waits for the next piece.  So a hasher that was given some pieces is in the same state as one
that was given all of them at once (`update_append`), and its digest is that of the message
(`hex_update`).
-/
import Mathlib.Tactic.Common
import Intercept.Digest.Sha256

namespace Intercept.Sha256

/-- Blocks are folded in one after the other. -/
lemma absorbAll_add (m n : Nat) (s : State) (bytes : Bytes) :
    absorbAll (m + n) s bytes = absorbAll n (absorbAll m s bytes) (bytes.drop (64 * m)) := by
  induction m generalizing s bytes with
  | zero => simp [absorbAll]
  | succ m ih =>
    rw [Nat.succ_add, absorbAll, absorbAll, ih, List.drop_drop, Nat.mul_succ, Nat.add_comm 64]

/-- Only the blocks that are folded in are read. -/
lemma absorbAll_append {n : Nat} {bytes : Bytes} (h : 64 * n ≤ bytes.length) (s : State)
    (more : Bytes) : absorbAll n s (bytes ++ more) = absorbAll n s bytes := by
  induction n generalizing s bytes with
  | zero => rfl
  | succ n ih =>
    rw [absorbAll, absorbAll, List.take_append_of_le_length (by omega),
      List.drop_append_of_le_length (by omega), ih (by rw [List.length_drop]; omega)]

namespace Hasher

/-- Two pieces are taken like one. -/
lemma update_append (hasher : Hasher) (first second : Bytes) :
    (hasher.update first).update second = hasher.update (first ++ second) := by
  generalize hbytes : hasher.pending ++ first = bytes
  have hblocks : 64 * (bytes.length / 64) ≤ bytes.length := Nat.mul_div_le _ _
  -- what is left over of the first piece comes before the second one
  have hleft : bytes.drop (64 * (bytes.length / 64)) ++ second
      = (bytes ++ second).drop (64 * (bytes.length / 64)) :=
    (List.drop_append_of_le_length hblocks).symm
  have hcount : (bytes ++ second).length / 64 = bytes.length / 64
      + ((bytes ++ second).drop (64 * (bytes.length / 64))).length / 64 := by
    rw [List.length_drop, List.length_append]
    omega
  rw [update, update, update, ← List.append_assoc, hbytes]
  simp only [hleft]
  rw [hcount, absorbAll_add, absorbAll_append hblocks, List.drop_drop, Nat.mul_add,
    List.length_append, Nat.add_assoc]

/-- A hasher computes the digest of what it was given. -/
theorem hex_update (message : Bytes) : (({} : Hasher).update message).hex = Sha256.hex message := by
  have hblocks : 64 * (message.length / 64) ≤ message.length := Nat.mul_div_le _ _
  have hcount : (message.length + 72) / 64
      = message.length / 64 + ((message.drop (64 * (message.length / 64))).length + 72) / 64 := by
    rw [List.length_drop]
    omega
  have hleft : message.drop (64 * (message.length / 64)) ++ filling message.length
      = (message ++ filling message.length).drop (64 * (message.length / 64)) :=
    (List.drop_append_of_le_length hblocks).symm
  rw [hex, finish, update, Sha256.hex, digest]
  simp only [List.nil_append, Nat.zero_add]
  rw [hcount, absorbAll_add, absorbAll_append hblocks, hleft]

end Hasher

end Intercept.Sha256
