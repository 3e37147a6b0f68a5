/-
# What a stream delivers

A reader that stops at the first fault sees of a stream only the bytes before that fault, and the
fault.  The lemmas of this file compute `Stream.deliver` along a stream, and show that cutting a
stream into pieces, or joining a part that has no fault with the rest, leaves no byte out.
-/
import Mathlib.Tactic.Common
import Intercept.Stream

namespace Intercept

namespace Stream

variable {φ : Type}

@[simp] lemma deliver_nil : deliver ([] : Stream φ) = ⟨[], none⟩ := rfl

@[simp] lemma deliver_pause (rest : Stream φ) : deliver (.pause :: rest) = deliver rest := rfl

@[simp] lemma deliver_fault (cause : φ) (rest : Stream φ) :
    deliver (.fault cause :: rest) = ⟨[], some cause⟩ := rfl

@[simp] lemma deliver_piece (bytes : Bytes) (rest : Stream φ) :
    deliver (.piece bytes :: rest) = ⟨bytes ++ (deliver rest).bytes, (deliver rest).fault⟩ := by
  simp [deliver, pieces]

@[simp] lemma deliver_once (bytes : Bytes) : deliver (once bytes : Stream φ) = ⟨bytes, none⟩ := by
  cases bytes <;> simp [once]

/-- A part without a fault delivers all its bytes, and then the rest is met. -/
lemma deliver_append {read : Stream φ} {bytes : Bytes} (hread : read.deliver = ⟨bytes, none⟩)
    (rest : Stream φ) :
    (read ++ rest).deliver = ⟨bytes ++ rest.deliver.bytes, rest.deliver.fault⟩ := by
  induction read generalizing bytes with
  | nil =>
    obtain rfl : [] = bytes := congrArg Delivered.bytes hread
    simp
  | cons item read ih =>
    cases item with
    | pause => exact ih hread
    | fault cause => exact absurd (congrArg Delivered.fault hread) (by simp)
    | piece first =>
      rw [deliver_piece] at hread
      have hbytes := congrArg Delivered.bytes hread
      have hfault := congrArg Delivered.fault hread
      simp only at hbytes hfault
      have htail : deliver read = ⟨(deliver read).bytes, none⟩ := by rw [← hfault]
      rw [List.cons_append, deliver_piece, ih htail, ← hbytes]
      simp

/-- A stream is a part without a fault, and behind it nothing, or the fault that it delivers. -/
lemma exists_front (stream : Stream φ) :
    ∃ front back, stream = front ++ back ∧ front.deliver = ⟨stream.deliver.bytes, none⟩ ∧
      ((back = [] ∧ stream.deliver.fault = none) ∨
        ∃ cause rest, back = .fault cause :: rest ∧ stream.deliver.fault = some cause) := by
  induction stream with
  | nil => exact ⟨[], [], rfl, rfl, .inl ⟨rfl, rfl⟩⟩
  | cons item rest ih =>
    obtain ⟨front, back, hrest, hfront, hback⟩ := ih
    cases item with
    | pause => exact ⟨.pause :: front, back, by rw [hrest]; rfl, hfront, hback⟩
    | fault cause => exact ⟨[], .fault cause :: rest, rfl, rfl, .inr ⟨cause, rest, rfl, rfl⟩⟩
    | piece bytes =>
      refine ⟨.piece bytes :: front, back, by rw [hrest]; rfl, ?_, ?_⟩
      · rw [deliver_piece, deliver_piece, hfront]
      · rw [deliver_piece]
        exact hback

/-- Behind bytes that are at hand a stream goes on as before. -/
lemma deliver_once_append (bytes : Bytes) (rest : Stream φ) :
    (once bytes ++ rest).deliver = ⟨bytes ++ rest.deliver.bytes, rest.deliver.fault⟩ :=
  deliver_append (deliver_once bytes) rest

/-- Pieces with a fault behind them, or with none. -/
lemma deliver_ended (pieces : List Bytes) (fault : Option φ) :
    deliver (pieces.map .piece ++ (fault.map Item.fault).toList) = ⟨pieces.flatten, fault⟩ := by
  induction pieces with
  | nil => cases fault <;> simp
  | cons first rest ih => simp [ih]

/-- Where the causes of its faults are changed, a stream delivers the same bytes. -/
lemma deliver_mapFault {ψ : Type} (f : φ → ψ) (stream : Stream φ) :
    (stream.mapFault f).deliver = ⟨stream.deliver.bytes, stream.deliver.fault.map f⟩ := by
  induction stream with
  | nil => rfl
  | cons item rest ih =>
    cases item with
    | pause => exact ih
    | fault cause => rfl
    | piece bytes =>
      have hrest : (mapFault f (.piece bytes :: rest)).deliver
          = deliver (.piece bytes :: mapFault f rest) := rfl
      rw [hrest, deliver_piece, deliver_piece, ih]

end Stream

end Intercept
