/-
# How the feeding of a scaler ends

The loop that copies an image into a scaler goes on as long as what was read fits: it is not too
large, and the scaler takes all of it (`Feed.Fits`).  So it either reads the image to its end or its
fault, or it stops behind the first piece with which the image does not fit; there is an equation
for each way to stop.  `Feed.Account` says what follows for what was kept, what is left, what the
scaler got and which error is reported, whichever way the loop stopped.

`Feed.Outcome` lists the four ways without the program that takes the image; in particular the image
can be put together again from what was kept and what was not read, wherever the loop stopped,
unless the image itself cannot be read (`Feed.Outcome.deliver_unscaled`).
-/
import Intercept.Proofs.Stream
import Intercept.Image.Feed

namespace Intercept

namespace Intake

variable {intake : Intake} {before bytes : Bytes}

/-- Bytes are taken as a whole behind others if both are taken as a whole at once. -/
lemma write_eq_whole_iff :
    intake.write before.length bytes = .whole ↔ intake.write 0 (before ++ bytes) = .whole := by
  cases intake <;> simp [write]

lemma whole_of_append (h : intake.write 0 (before ++ bytes) = .whole) :
    intake.write 0 before = .whole := by
  cases intake with
  | all => rfl
  | closesAfter room =>
    simp only [write, List.length_append, ite_eq_left_iff, reduceCtorEq, imp_false, not_not] at h ⊢
    omega
  | failsAfter room cause =>
    simp only [write, List.length_append, ite_eq_left_iff, reduceCtorEq, imp_false, not_not] at h ⊢
    omega

/-- Of bytes that are not taken as a whole behind others as much is taken as of both at once. -/
lemma write_refused (hbefore : intake.write 0 before = .whole)
    (hrefused : intake.write 0 (before ++ bytes) ≠ .whole) :
    (∃ n, intake.write before.length bytes = .closed (bytes.take n) ∧
        intake.write 0 (before ++ bytes) = .closed (before ++ bytes.take n)) ∨
      ∃ n cause, intake.write before.length bytes = .failed (bytes.take n) cause ∧
        intake.write 0 (before ++ bytes) = .failed (before ++ bytes.take n) cause := by
  have htake : ∀ room, before.length ≤ room →
      (before ++ bytes).take (room - 0) = before ++ bytes.take (room - before.length) := by
    intro room hroom
    rw [Nat.sub_zero, List.take_append, List.take_of_length_le hroom]
  cases intake with
  | all => exact absurd rfl hrefused
  | closesAfter room =>
    simp only [write, ite_eq_left_iff, reduceCtorEq, imp_false, not_not, ne_eq, Nat.zero_add,
      List.length_append] at hbefore hrefused
    refine .inl ⟨_, if_neg hrefused, ?_⟩
    rw [write, if_neg (by simpa using hrefused), htake room hbefore]
  | failsAfter room cause =>
    simp only [write, ite_eq_left_iff, reduceCtorEq, imp_false, not_not, ne_eq, Nat.zero_add,
      List.length_append] at hbefore hrefused
    refine .inr ⟨_, _, if_neg hrefused, ?_⟩
    rw [write, if_neg (by simpa using hrefused), htake room hbefore]

end Intake

namespace Feed

/-- So much of an image can be read and fed: it is not too large, and the scaler takes all of it. -/
def Fits (limit : Nat) (intake : Intake) (bytes : Bytes) : Prop :=
  bytes.length ≤ limit ∧ intake.write 0 bytes = .whole

variable {limit : Nat} {intake : Intake}

lemma fits_nil : Fits limit intake [] := ⟨Nat.zero_le _, by cases intake <;> simp [Intake.write]⟩

/-- What fits does so up to every place in it. -/
lemma Fits.of_append {bytes more : Bytes} (h : Fits limit intake (bytes ++ more)) :
    Fits limit intake bytes := by
  obtain ⟨hlimit, hwrite⟩ := h
  rw [List.length_append] at hlimit
  exact ⟨by omega, Intake.whole_of_append hwrite⟩

/-- A part of the image that fits is copied, and the loop goes on behind it. -/
lemma loop_append {read : Stream String} (rest : Stream String) :
    ∀ {bytes : Bytes} (done : List Bytes), read.deliver = ⟨bytes, none⟩ →
      Fits limit intake (done.reverse.flatten ++ bytes) →
      ∃ next, next.reverse.flatten = done.reverse.flatten ++ bytes ∧
        loop limit intake done done.reverse.flatten.length (read ++ rest)
          = loop limit intake next next.reverse.flatten.length rest := by
  induction read with
  | nil =>
    rintro bytes done hread -
    obtain rfl : [] = bytes := congrArg Delivered.bytes hread
    exact ⟨done, by simp, rfl⟩
  | cons item read ih =>
    intro bytes done hread hfits
    cases item with
    | pause => exact ih done hread hfits
    | fault cause => exact absurd (congrArg Delivered.fault hread) (by simp)
    | piece first =>
      rw [Stream.deliver_piece] at hread
      obtain ⟨rfl, hfault⟩ := Delivered.mk.inj hread
      have hnext : (first :: done).reverse.flatten = done.reverse.flatten ++ first := by simp
      rw [← List.append_assoc, ← hnext] at hfits
      obtain ⟨hlimit, hwrite⟩ := hfits.of_append
      rw [hnext] at hlimit hwrite
      have hwhole := Intake.write_eq_whole_iff.2 hwrite
      rw [List.length_append] at hlimit
      obtain ⟨next, hflat, hloop⟩ := ih (first :: done) (by rw [← hfault]) hfits
      refine ⟨next, by rw [hflat, hnext, List.append_assoc], ?_⟩
      rw [List.cons_append, loop, if_neg (Nat.not_lt.2 hlimit), hwhole, ← hloop, hnext,
        List.length_append]

/-- A part of the image that fits is copied, and the loop goes on behind it. -/
lemma run_append {read : Stream String} {bytes : Bytes} (hread : read.deliver = ⟨bytes, none⟩)
    (hfits : Fits limit intake bytes) (rest : Stream String) :
    ∃ done, done.reverse.flatten = bytes ∧
      run limit intake (read ++ rest) = loop limit intake done bytes.length rest := by
  obtain ⟨done, rfl, hrun⟩ := loop_append rest [] hread hfits
  exact ⟨done, rfl, hrun⟩

/-- An image that fits is read to its end or its fault, and the scaler takes all of it. -/
lemma run_of_fits {source : Stream String} (hfits : Fits limit intake source.deliver.bytes) :
    run limit intake source
      = ⟨⟨source.deliver.bytes, none, source.deliver.fault.map .source⟩,
          ⟨source.deliver.bytes, false⟩⟩ := by
  obtain ⟨front, back, hsource, hfront, hback⟩ := source.exists_front
  obtain ⟨done, hdone, hrun⟩ := run_append hfront hfits back
  rw [← hsource] at hrun
  obtain ⟨rfl, hfault⟩ | ⟨cause, rest, rfl, hfault⟩ := hback
  · rw [hrun, loop, hdone, hfault]
    rfl
  · rw [hrun, loop, hdone, hfault]
    rfl

section Refused

variable {read : Stream String} {bytes last : Bytes} (hread : read.deliver = ⟨bytes, none⟩)
  (hfits : Fits limit intake bytes)
include hread hfits

/-- The piece that makes the image too large is not written any more. -/
lemma run_of_outgrown (hgrown : limit < (bytes ++ last).length) (rest : Stream String) :
    run limit intake (read ++ .piece last :: rest)
      = ⟨⟨bytes ++ last, some rest, some (.tooLarge (bytes ++ last).length limit)⟩,
          ⟨bytes, true⟩⟩ := by
  obtain ⟨done, hdone, hrun⟩ := run_append hread hfits (.piece last :: rest)
  rw [List.length_append] at hgrown
  have hnext : (last :: done).reverse.flatten = bytes ++ last := by simp [← hdone]
  rw [hrun, loop, if_pos hgrown, hnext, hdone, List.length_append]

/-- A piece of which the scaler does not take all is the last one that is read. -/
lemma run_of_refused (hlimit : (bytes ++ last).length ≤ limit)
    (hrefused : intake.write 0 (bytes ++ last) ≠ .whole) (rest : Stream String) :
    ∃ taken, taken <+: bytes ++ last ∧
      ((intake.write 0 (bytes ++ last) = .closed taken ∧
        run limit intake (read ++ .piece last :: rest)
          = ⟨⟨bytes ++ last, some rest, none⟩, ⟨taken, false⟩⟩) ∨
      ∃ cause, intake.write 0 (bytes ++ last) = .failed taken cause ∧
        run limit intake (read ++ .piece last :: rest)
          = ⟨⟨bytes ++ last, some rest, some (.feeding cause)⟩, ⟨taken, false⟩⟩) := by
  obtain ⟨done, hdone, hrun⟩ := run_append hread hfits (.piece last :: rest)
  rw [List.length_append] at hlimit
  have hnext : ∀ taken, (taken :: done).reverse.flatten = bytes ++ taken := by
    intro taken
    simp [← hdone]
  have htaken : ∀ n, bytes ++ last.take n <+: bytes ++ last := fun n =>
    (List.prefix_append_right_inj bytes).2 (List.take_prefix n last)
  obtain ⟨n, hpiece, hall⟩ | ⟨n, cause, hpiece, hall⟩ := Intake.write_refused hfits.2 hrefused
  · refine ⟨_, htaken n, .inl ⟨hall, ?_⟩⟩
    rw [hrun, loop, if_neg (Nat.not_lt.2 hlimit), hpiece]
    simp only [hnext]
  · refine ⟨_, htaken n, .inr ⟨cause, hall, ?_⟩⟩
    rw [hrun, loop, if_neg (Nat.not_lt.2 hlimit), hpiece]
    simp only [hnext]

end Refused

/-- An image that does not fit has a first piece with which it does not. -/
lemma exists_first_unfit {source : Stream String} : ∀ {before : Bytes}, Fits limit intake before →
    ¬ Fits limit intake (before ++ source.deliver.bytes) →
    ∃ (read : Stream String) (last : Bytes) (rest : Stream String) (bytes : Bytes),
      source = read ++ .piece last :: rest ∧ read.deliver = ⟨bytes, none⟩ ∧
        Fits limit intake (before ++ bytes) ∧ ¬ Fits limit intake (before ++ bytes ++ last) := by
  -- on the way through the image, what was read moves from it to `before`
  induction source with
  | nil =>
    intro before hbefore hnot
    exact absurd (by simpa using hbefore) hnot
  | cons item source ih =>
    intro before hbefore hnot
    cases item with
    | pause =>
      obtain ⟨read, last, rest, bytes, rfl, hread, hfits, hlast⟩ := ih hbefore hnot
      exact ⟨.pause :: read, last, rest, bytes, rfl, hread, hfits, hlast⟩
    | fault cause => exact absurd (by simpa using hbefore) hnot
    | piece first =>
      rw [Stream.deliver_piece, ← List.append_assoc] at hnot
      by_cases hfirst : Fits limit intake (before ++ first)
      · obtain ⟨read, last, rest, bytes, rfl, hread, hfits, hlast⟩ := ih hfirst hnot
        refine ⟨.piece first :: read, last, rest, first ++ bytes, rfl, ?_, ?_, ?_⟩
        · rw [Stream.deliver_piece, hread]
        · rwa [← List.append_assoc]
        · rwa [← List.append_assoc]
      · exact ⟨[], first, source, [], rfl, rfl, by simpa using hbefore, by simpa using hfirst⟩

/-! ### The ways to end -/

/-- The ways in which the feeding of an image can end. -/
inductive Outcome (limit : Nat) (source : Stream String) : Result → Prop where
  /-- The scaler took the whole image. -/
  | whole {bytes : Bytes} (hdeliver : source.deliver = ⟨bytes, none⟩)
      (hlimit : bytes.length ≤ limit) :
      Outcome limit source ⟨⟨bytes, none, none⟩, ⟨bytes, false⟩⟩
  /-- The image cannot be read on. -/
  | broken {bytes : Bytes} {cause : String} (hdeliver : source.deliver = ⟨bytes, some cause⟩)
      (hlimit : bytes.length ≤ limit) :
      Outcome limit source ⟨⟨bytes, none, some (.source cause)⟩, ⟨bytes, false⟩⟩
  /-- More was read than the limit allows, and the scaler was killed. -/
  | outgrown {read rest : Stream String} {bytes taken : Bytes} (hsource : source = read ++ rest)
      (hread : read.deliver = ⟨bytes, none⟩) (hlimit : limit < bytes.length)
      (htaken : taken <+: bytes) (hroom : taken.length ≤ limit) :
      Outcome limit source
        ⟨⟨bytes, some rest, some (.tooLarge bytes.length limit)⟩, ⟨taken, true⟩⟩
  /-- The scaler took no more; an error is only noted if it did not just close its input. -/
  | stopped (error : Option SystemError) {read rest : Stream String} {bytes taken : Bytes}
      (hsource : source = read ++ rest) (hread : read.deliver = ⟨bytes, none⟩)
      (hlimit : bytes.length ≤ limit) (htaken : taken <+: bytes) :
      Outcome limit source ⟨⟨bytes, some rest, error.map .feeding⟩, ⟨taken, false⟩⟩

/-- Feeding an image ends in one of the ways listed. -/
theorem run_outcome (limit : Nat) (intake : Intake) (source : Stream String) :
    Outcome limit source (run limit intake source) := by
  by_cases hfits : Fits limit intake source.deliver.bytes
  · rw [run_of_fits hfits]
    rcases hdeliver : source.deliver with ⟨bytes, fault⟩
    rw [hdeliver] at hfits
    cases fault with
    | none => exact .whole hdeliver hfits.1
    | some cause => exact .broken hdeliver hfits.1
  · obtain ⟨read, last, rest, bytes, rfl, hread, hbefore, hlast⟩ :=
      exists_first_unfit fits_nil hfits
    rw [List.nil_append] at hbefore hlast
    have hsource : read ++ .piece last :: rest = (read ++ [.piece last]) ++ rest := by simp
    have hdeliver : (read ++ [Item.piece last]).deliver = ⟨bytes ++ last, none⟩ := by
      rw [Stream.deliver_append hread]
      simp
    by_cases hlimit : (bytes ++ last).length ≤ limit
    · obtain ⟨taken, htaken, ⟨-, hrun⟩ | ⟨cause, -, hrun⟩⟩ :=
        run_of_refused hread hbefore hlimit (fun hwhole => hlast ⟨hlimit, hwhole⟩) rest
      · rw [hrun]
        exact .stopped none hsource hdeliver hlimit htaken
      · rw [hrun]
        exact .stopped (some cause) hsource hdeliver hlimit htaken
    · rw [run_of_outgrown hread hbefore (Nat.not_le.1 hlimit)]
      exact .outgrown hsource hdeliver (Nat.not_le.1 hlimit) (List.prefix_append _ _) hbefore.1

namespace Outcome

variable {source : Stream String} {result : Result}

/-- A read error is only reported if the image has one. -/
lemma fault_of_error {cause : String} (h : Outcome limit source result)
    (herror : result.feed.error = some (.source cause)) : source.deliver.fault = some cause := by
  cases h with
  | whole => cases herror
  | broken hdeliver =>
    cases herror
    rw [hdeliver]
  | outgrown => cases herror
  | stopped error => cases error <;> cases herror

/-- The image is reported as too large exactly if more of it was read than the limit allows. -/
lemma tooLarge_iff (h : Outcome limit source result) :
    (∃ size ceiling, result.feed.error = some (.tooLarge size ceiling)) ↔
      limit < result.feed.replay.length := by
  cases h with
  | whole _ hlimit => simpa using hlimit
  | broken _ hlimit => simpa using hlimit
  | outgrown _ _ hlimit => simpa using hlimit
  | stopped error _ _ hlimit => cases error <;> simpa using hlimit

/-- Unless the image itself cannot be read, what was kept is what a part of it without a fault
delivers. -/
lemma exists_read (h : Outcome limit source result)
    (herror : ∀ cause, result.feed.error ≠ some (.source cause)) :
    ∃ read rest, source = read ++ rest ∧ read.deliver = ⟨result.feed.replay, none⟩ := by
  cases h with
  | whole hdeliver => exact ⟨source, [], (List.append_nil _).symm, hdeliver⟩
  | broken => exact absurd rfl (herror _)
  | outgrown hsource hread => exact ⟨_, _, hsource, hread⟩
  | stopped _ hsource hread => exact ⟨_, _, hsource, hread⟩

/-- **The image put together again.**  Unless the image itself cannot be read, what was kept of it
and what was not read deliver the same as the image. -/
theorem deliver_unscaled (h : Outcome limit source result)
    (herror : ∀ cause, result.feed.error ≠ some (.source cause)) :
    ∃ stream, result.feed.unscaled? = some stream ∧ stream.deliver = source.deliver := by
  have hjoin : ∀ {read rest : Stream String} {bytes : Bytes}, source = read ++ rest →
      read.deliver = ⟨bytes, none⟩ → (Stream.once bytes ++ rest).deliver = source.deliver := by
    intro read rest bytes hsource hread
    rw [hsource, Stream.deliver_append hread, Stream.deliver_once_append]
  cases h with
  | whole hdeliver => exact ⟨_, rfl, by simp [hdeliver]⟩
  | broken => exact absurd rfl (herror _)
  | outgrown hsource hread => exact ⟨_, rfl, hjoin hsource hread⟩
  | stopped error hsource hread =>
    cases error <;> exact ⟨_, rfl, hjoin hsource hread⟩

end Outcome

/-! ### What follows from either way -/

/-- What is known of the feeding of an image, whichever way it ended. -/
structure Account (limit : Nat) (intake : Intake) (source : Stream String) (result : Result) :
    Prop where
  /-- What is left is what stands behind the last piece that was read; all pieces up to that one
  were kept, and no other can have made the image too large. -/
  left : ∀ rest, result.feed.rest = some rest → ∃ read last,
    source = read ++ .piece last :: rest ∧ read.deliver.fault = none ∧
      result.feed.replay = read.deliver.bytes ++ last ∧
      result.feed.replay.length ≤ limit + last.length
  /-- If nothing is left, the image was read to its end or to its fault. -/
  ended : result.feed.rest = none → result.feed.replay = source.deliver.bytes ∧
    result.feed.replay.length ≤ limit ∧ result.feed.error = source.deliver.fault.map .source
  /-- What was kept and what is left make up the image, unless the image cannot be read on. -/
  joined : match result.feed.unscaled? with
    | some stream => stream.deliver = source.deliver
    | none => ∃ cause, result.feed.error = some (.source cause) ∧
        source.deliver = ⟨result.feed.replay, some cause⟩
  /-- The scaler got a beginning of the image. -/
  fed : result.input.bytes <+: source.deliver.bytes
  fed_le : result.input.bytes.length ≤ limit
  /-- The image cannot be read on: this is met only if all bytes before the fault fit. -/
  source_iff : ∀ cause, result.feed.error = some (.source cause) ↔
    source.deliver.fault = some cause ∧ Fits limit intake source.deliver.bytes
  tooLarge_iff : ∀ size ceiling, result.feed.error = some (.tooLarge size ceiling) ↔
    limit < result.feed.replay.length ∧ size = result.feed.replay.length ∧ ceiling = limit
  feeding_iff : ∀ cause, result.feed.error = some (.feeding cause) ↔
    result.feed.replay.length ≤ limit ∧
      ∃ taken, intake.write 0 result.feed.replay = .failed taken cause
  /-- There is no error if the whole image was taken, and if the scaler closed its input. -/
  none_iff : result.feed.error = none ↔
    (source.deliver.fault = none ∧ Fits limit intake source.deliver.bytes) ∨
      (result.feed.replay.length ≤ limit ∧
        ∃ taken, intake.write 0 result.feed.replay = .closed taken)
  /-- A scaler that got a part of an image that is too large does not see an end of it. -/
  killed_iff : result.input.killed = true ↔ limit < result.feed.replay.length

/-- What is known if the image fits. -/
lemma account_of_fits {source : Stream String} (hfits : Fits limit intake source.deliver.bytes) :
    Account limit intake source (run limit intake source) := by
  have hlimit := Nat.not_lt.2 hfits.1
  rw [run_of_fits hfits]
  exact {
    left := nofun
    ended := fun _ => ⟨rfl, hfits.1, rfl⟩
    joined := by
      rcases hdeliver : source.deliver with ⟨bytes, fault⟩
      cases fault <;> simp [unscaled?]
    fed := List.prefix_rfl
    fed_le := hfits.1
    source_iff := by simp [hfits]
    tooLarge_iff := by simp [hlimit]
    feeding_iff := by simp [hfits.2]
    none_iff := by simp [hfits, hfits.2]
    killed_iff := by simp [hlimit] }

/-- What is known if there is a first piece with which the image does not fit. -/
lemma account_of_last {read : Stream String} {bytes last taken : Bytes} {error : Option ResizeError}
    {killed : Bool} (rest : Stream String) (hread : read.deliver = ⟨bytes, none⟩)
    (hfits : Fits limit intake bytes) (hlast : ¬ Fits limit intake (bytes ++ last))
    (htaken : taken <+: bytes ++ last) (hroom : taken.length ≤ limit)
    (hsource : ∀ cause, error ≠ some (.source cause))
    (htooLarge : ∀ size ceiling, error = some (.tooLarge size ceiling) ↔
      limit < (bytes ++ last).length ∧ size = (bytes ++ last).length ∧ ceiling = limit)
    (hfeeding : ∀ cause, error = some (.feeding cause) ↔
      (bytes ++ last).length ≤ limit ∧
        ∃ taken, intake.write 0 (bytes ++ last) = .failed taken cause)
    (hnone : error = none ↔
      (bytes ++ last).length ≤ limit ∧ ∃ taken, intake.write 0 (bytes ++ last) = .closed taken)
    (hkilled : killed = true ↔ limit < (bytes ++ last).length) :
    Account limit intake (read ++ .piece last :: rest)
      ⟨⟨bytes ++ last, some rest, error⟩, ⟨taken, killed⟩⟩ := by
  have hdeliver : (read ++ .piece last :: rest).deliver
      = ⟨bytes ++ last ++ rest.deliver.bytes, rest.deliver.fault⟩ := by
    rw [Stream.deliver_append hread, Stream.deliver_piece, List.append_assoc]
  have hnot : ¬ Fits limit intake (read ++ .piece last :: rest).deliver.bytes := by
    rw [hdeliver]
    exact fun h => hlast h.of_append
  have hunscaled : unscaled? ⟨bytes ++ last, some rest, error⟩
      = some (Stream.once (bytes ++ last) ++ rest) := by
    rw [unscaled?]
    split
    · next cause herror => exact absurd herror (hsource cause)
    · rfl
  exact {
    left := by
      rintro _ ⟨⟩
      refine ⟨read, last, rfl, by rw [hread], by rw [hread], ?_⟩
      rw [List.length_append]
      exact Nat.add_le_add_right hfits.1 _
    ended := nofun
    joined := by
      simp only [hunscaled]
      rw [Stream.deliver_once_append, hdeliver]
    fed := by
      rw [hdeliver]
      exact htaken.trans (List.prefix_append _ _)
    fed_le := hroom
    source_iff := fun cause => iff_of_false (hsource cause) fun h => hnot h.2
    tooLarge_iff := htooLarge
    feeding_iff := hfeeding
    none_iff := hnone.trans (or_iff_right fun h => hnot h.2).symm
    killed_iff := hkilled }

/-- **The account of a feeding.**  Whichever pieces and faults an image has, however large it may be
and wherever the scaler refuses to take more, the loop has kept exactly what it read and left
exactly what it did not read; the scaler got a beginning of the image that is not too large; and the
error tells why the loop stopped. -/
theorem run_account (limit : Nat) (intake : Intake) (source : Stream String) :
    Account limit intake source (run limit intake source) := by
  by_cases hfits : Fits limit intake source.deliver.bytes
  · exact account_of_fits hfits
  · obtain ⟨read, last, rest, bytes, rfl, hread, hbefore, hlast⟩ :=
      exists_first_unfit fits_nil hfits
    rw [List.nil_append] at hbefore hlast
    by_cases hlimit : (bytes ++ last).length ≤ limit
    · have hgrown := Nat.not_lt.2 hlimit
      obtain ⟨taken, htaken, ⟨hwrite, hrun⟩ | ⟨cause, hwrite, hrun⟩⟩ :=
        run_of_refused hread hbefore hlimit (fun hwhole => hlast ⟨hlimit, hwhole⟩) rest
      · rw [hrun]
        exact account_of_last rest hread hbefore hlast htaken
          (Nat.le_trans htaken.length_le hlimit) (by simp) (by simp [-List.length_append, hgrown])
          (by simp [hwrite]) (by simp [-List.length_append, hlimit, hwrite])
          (by simp [-List.length_append, hgrown])
      · rw [hrun]
        exact account_of_last rest hread hbefore hlast htaken
          (Nat.le_trans htaken.length_le hlimit) (by simp) (by simp [-List.length_append, hgrown])
          (by simp [-List.length_append, hlimit, hwrite]) (by simp [hwrite])
          (by simp [-List.length_append, hgrown])
    · have hgrown := Nat.not_le.1 hlimit
      rw [run_of_outgrown hread hbefore hgrown]
      exact account_of_last rest hread hbefore hlast (List.prefix_append _ _) hbefore.1 (by simp)
        (by simp [-List.length_append, hgrown, eq_comm]) (by simp [-List.length_append, hlimit])
        (by simp [-List.length_append, hlimit]) (by simp [-List.length_append, hgrown])

/-- A piece across the limit is kept, but the scaler does not get it. -/
example : run 4 .all [.piece [1, 2, 3], .pause, .piece [4, 5], .piece [6], .fault "torn"]
    = ⟨⟨[1, 2, 3, 4, 5], some [.piece [6], .fault "torn"], some (.tooLarge 5 4)⟩,
        ⟨[1, 2, 3], true⟩⟩ := by
  decide

end Feed

end Intercept
