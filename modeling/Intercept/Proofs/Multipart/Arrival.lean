/-
# A form does not depend on how it arrives

A form that is read while it arrives is compared with the same bytes when all of them are at hand.
At every point of the reading, `Reader.Whole` relates the reader to one that has taken in the whole
rest of the stream.  Each step of the reading keeps the relation: a step that succeeds succeeds in
the same way with all bytes at hand, a step that waits for more data leaves something from which all
bytes at hand lead to the same end, and a step that fails, if not because of the stream, fails with
all bytes at hand too.

What makes this work is that data which is passed on while a delimiter may still arrive never holds
the beginning of one.  That rests on the delimiter having a carriage return at its start only, so
the boundary must have none.
-/
import Intercept.Multipart.Reader
import Intercept.Proofs.Multipart.HeaderBlock
import Intercept.Proofs.Stream

namespace Intercept

/-- Whether an error says something of the stream that a form arrives in, and nothing of its
bytes. -/
def FormError.isOfStream : FormError → Bool
  | .tooLarge _ | .broken => true
  | _ => false

namespace Form

variable {settings : Settings} {reader next whole : Reader} {stage : Stage}

/-! ### Taking in data -/

/-- A reader and one that has taken in all that the first one may still take in. -/
structure Reader.Whole (reader whole : Reader) : Prop where
  buffer : whole.buffer = reader.buffer ++ reader.rest.deliver.bytes
  ended : whole.ended = true
  settled : reader.ended = true → reader.rest = []

/-- What is ready is the beginning of what the stream delivers. -/
lemma ready_deliver {limit size taken : Nat} {done pieces : List Bytes} {stream : Stream String}
    {rest : Option (Stream String)}
    (hready : ready limit done size stream = .ok (pieces, taken, rest)) :
    pieces.flatten ++ (rest.getD []).deliver.bytes
      = done.reverse.flatten ++ stream.deliver.bytes := by
  induction stream generalizing done size with
  | nil =>
    obtain ⟨rfl, -, rfl⟩ : done.reverse = pieces ∧ size = taken ∧ none = rest := by
      simpa [ready] using hready
    rfl
  | cons item more ih =>
    cases item with
    | pause =>
      obtain ⟨rfl, -, rfl⟩ : done.reverse = pieces ∧ size = taken ∧ some more = rest := by
        simpa [ready] using hready
      rfl
    | fault cause => cases hready
    | piece bytes =>
      rw [ready] at hready
      split at hready
      · cases hready
      · rw [ih hready, Stream.deliver_piece]
        simp

lemma fill_of_ended (hended : reader.ended = true) (limit : Nat) :
    reader.fill limit = .ok reader := by
  rw [Reader.fill, if_pos hended]

/-- Only the stream can hinder data from being taken in. -/
lemma isOfStream_of_ready {limit size : Nat} {done : List Bytes} {stream : Stream String}
    {error : FormError} (hready : ready limit done size stream = .error error) :
    error.isOfStream = true := by
  induction stream generalizing done size with
  | nil => cases hready
  | cons item more ih =>
    cases item with
    | pause => cases hready
    | fault cause =>
      obtain rfl : FormError.broken = error := Except.error.inj hready
      rfl
    | piece bytes =>
      rw [ready] at hready
      split at hready
      · obtain rfl := Except.error.inj hready
        rfl
      · exact ih hready

lemma isOfStream_of_fill {limit : Nat} {error : FormError}
    (hfill : reader.fill limit = .error error) : error.isOfStream = true := by
  rw [Reader.fill] at hfill
  split at hfill
  · cases hfill
  · cases hready : ready limit [] reader.size reader.rest with
    | ok found =>
      rw [hready] at hfill
      cases hfill
    | error other =>
      rw [hready] at hfill
      obtain rfl := Except.error.inj hfill
      exact isOfStream_of_ready hready

/-- Behind the end nothing is taken in, and before it what is ready. -/
lemma fill_cases {limit : Nat} (hfill : reader.fill limit = .ok next) :
    (reader.ended = true ∧ next = reader) ∨
    ∃ pieces size rest, ¬ reader.ended = true ∧
      ready limit [] reader.size reader.rest = .ok (pieces, size, rest) ∧
      next = ⟨reader.buffer ++ pieces.flatten, rest.getD [], rest.isNone, size⟩ := by
  rw [Reader.fill] at hfill
  split at hfill
  · next hended => exact .inl ⟨hended, (Except.ok.inj hfill).symm⟩
  · next hopen =>
    cases hready : ready limit [] reader.size reader.rest with
    | error error =>
      rw [hready] at hfill
      cases hfill
    | ok found =>
      obtain ⟨pieces, size, rest⟩ := found
      rw [hready] at hfill
      exact .inr ⟨pieces, size, rest, hopen, rfl, (Except.ok.inj hfill).symm⟩

/-- Taking in data leaves nothing out. -/
lemma Reader.Whole.fill (h : Reader.Whole reader whole) {limit : Nat}
    (hfill : reader.fill limit = .ok next) : Reader.Whole next whole := by
  obtain ⟨-, rfl⟩ | ⟨pieces, size, rest, -, hready, rfl⟩ := fill_cases hfill
  · exact h
  · refine ⟨?_, h.ended, fun hended => ?_⟩
    · simp only
      rw [h.buffer, List.append_assoc, ready_deliver hready]
      rfl
    · rw [Option.isNone_iff_eq_none.1 hended]
      rfl

/-- Behind the end of the stream nothing is missing. -/
lemma Reader.Whole.buffer_of_ended (h : Reader.Whole reader whole) (hended : reader.ended = true) :
    whole.buffer = reader.buffer := by
  rw [h.buffer, h.settled hended]
  exact List.append_nil _

/-- The bytes of the buffer may be used up in the same way on both sides. -/
lemma Reader.Whole.with (h : Reader.Whole reader whole) (buffer : Bytes) :
    Reader.Whole (reader.with buffer) (whole.with (buffer ++ reader.rest.deliver.bytes)) :=
  ⟨rfl, h.ended, h.settled⟩

/-! ### Passing on data -/

lemma dataEnd_eq (settings : Settings) :
    settings.dataEnd = 13 :: ([10, 45, 45] ++ settings.boundary) := rfl

lemma not_mem_tail (hboundary : 13 ∉ settings.boundary) :
    (13 : UInt8) ∉ [10, 45, 45] ++ settings.boundary := by
  rw [List.mem_append, not_or]
  exact ⟨by decide, hboundary⟩

lemma singleton_prefix_drop_iff {b : UInt8} {text : Bytes} {i : Nat} :
    [b] <+: text.drop i ↔ text[i]? = some b := by
  rw [← List.head?_drop]
  constructor
  · rintro ⟨rest, hrest⟩
    rw [← hrest]
    rfl
  · intro h
    obtain ⟨rest, hrest⟩ := List.head?_eq_some_iff.1 h
    exact ⟨rest, hrest.symm⟩

/-- A carriage return that none follows, near enough to the end, is the last one. -/
lemma lastReturn?_eq_some {n place : Nat} {buffer : Bytes} (hreturn : buffer[place]? = some 13)
    (hnear : buffer.length ≤ place + n)
    (hlast : ∀ k, place < k → buffer[k]? ≠ some 13) : lastReturn? n buffer = some place := by
  have hplace : place < buffer.length := (List.getElem?_eq_some_iff.1 hreturn).1
  have hreverse : ∀ i, i < buffer.length - (buffer.length - n) →
      (buffer.drop (buffer.length - n)).reverse[i]? = buffer[buffer.length - 1 - i]? := by
    intro i hi
    rw [List.getElem?_reverse (by rw [List.length_drop]; exact hi), List.length_drop,
      List.getElem?_drop]
    congr 1
    omega
  rw [lastReturn?, Option.map_eq_some_iff]
  refine ⟨buffer.length - 1 - place, Bytes.indexOf?_eq_some_iff.2 ⟨?_, fun j hj => ?_⟩, by omega⟩
  · rw [singleton_prefix_drop_iff, hreverse _ (by omega), ← hreturn]
    congr 1
    omega
  · rw [singleton_prefix_drop_iff, hreverse _ (by omega)]
    exact hlast _ (by omega)

/-- A delimiter that begins in the buffer and is not all there begins with the last carriage
return. -/
lemma lastReturn?_of_overlap (hboundary : 13 ∉ settings.boundary) {buffer more : Bytes} {j : Nat}
    (hnone : Bytes.cutBefore? settings.dataEnd buffer = none) (hj : j < buffer.length)
    (hocc : settings.dataEnd <+: (buffer ++ more).drop j) :
    lastReturn? (settings.dataEnd.length - 1) buffer = some j ∧
      Bytes.occursIn (buffer.drop j) settings.dataEnd = true := by
  -- the occurrence is cut by the end of the buffer, for all of it would have been found
  have hcut : buffer.length < j + settings.dataEnd.length := by
    by_contra hfits
    exact Bytes.cutBefore?_eq_none_iff.1 hnone j
      ((Bytes.prefix_drop_append_iff (Nat.le_of_not_lt hfits) more).1 hocc)
  constructor
  · refine lastReturn?_eq_some ?_ (by omega) fun k hk hreturn => ?_
    · have hfirst := Bytes.getElem?_of_prefix_drop hocc (k := 0) (by simp [dataEnd_eq])
      rwa [Nat.add_zero, List.getElem?_append_left hj] at hfirst
    · -- a later carriage return would stand inside of the delimiter
      have hkend : k < buffer.length := (List.getElem?_eq_some_iff.1 hreturn).1
      refine Bytes.ne_lead_of_prefix (not_mem_tail hboundary) hocc (k := k - j) (by omega)
        (by rw [← dataEnd_eq]; omega) ?_
      have hplace : j + (k - j) = k := by omega
      rw [hplace, List.getElem?_append_left hkend]
      exact hreturn
  · rw [List.drop_append_of_le_length hj.le] at hocc
    have hlead : buffer.drop j <+: settings.dataEnd :=
      List.prefix_of_prefix_length_le (List.prefix_append _ _) hocc
        (by rw [List.length_drop]; omega)
    by_contra hnot
    rw [Bool.not_eq_true] at hnot
    exact Bytes.occursIn_eq_false_iff.1 hnot 0 hlead

/-- With all bytes at hand either the rest of the data is found, or it does not end. -/
lemma pass_of_ended (hended : reader.ended = true) :
    pass settings reader = match Bytes.cutBefore? settings.dataEnd reader.buffer with
      | some (data, rest) => .last data (reader.with (rest.drop lineBreak.length))
      | none => .failed := by
  rw [pass]
  by_cases hempty : reader.buffer = []
  · simp [hempty, hended, Bytes.cutBefore?, Bytes.indexOf?_nil, dataEnd_eq]
  · simp only [List.isEmpty_iff, hempty, if_false]
    cases Bytes.cutBefore? settings.dataEnd reader.buffer with
    | none => exact if_pos hended
    | some found => rfl

/-- Data with more data before it. -/
def Passing.after (bytes : Bytes) : Passing → Passing
  | .last data reader => .last (bytes ++ data) reader
  | passing => passing

/-- What was passed on while more data may arrive agrees with what all bytes at hand allow. -/
def Passing.Follows (settings : Settings) (whole : Passing) : Passing → Prop
  | .last bytes next => ∃ after, whole = .last bytes after ∧ Reader.Whole next after
  | .more bytes next =>
    ∃ after, Reader.Whole next after ∧ whole = (pass settings after).after bytes
  | .wait next => ∃ after, Reader.Whole next after ∧ whole = pass settings after
  | .failed => whole = .failed

/-- Data that is passed on early is not searched for a delimiter again, and need not be. -/
lemma pass_more (h : Reader.Whole reader whole) {bytes rest : Bytes}
    (hbuffer : reader.buffer = bytes ++ rest)
    (hnone : ∀ j < bytes.length,
      ¬ settings.dataEnd <+: (bytes ++ (rest ++ reader.rest.deliver.bytes)).drop j) :
    Passing.Follows settings (pass settings whole) (.more bytes (reader.with rest)) := by
  refine ⟨_, h.with rest, ?_⟩
  rw [pass_of_ended h.ended, pass_of_ended (by exact h.ended), h.buffer, hbuffer,
    List.append_assoc, Bytes.cutBefore?_skip hnone]
  show _ = Passing.after bytes (match Bytes.cutBefore? settings.dataEnd
    (rest ++ reader.rest.deliver.bytes) with | some (data, rest) => _ | none => _)
  cases Bytes.cutBefore? settings.dataEnd (rest ++ reader.rest.deliver.bytes) <;> rfl

/-- All of the buffer may be passed on if a delimiter that begins in it would have been noticed. -/
lemma pass_all (hboundary : 13 ∉ settings.boundary) (h : Reader.Whole reader whole)
    (hnone : Bytes.cutBefore? settings.dataEnd reader.buffer = none)
    (hfree : ∀ j, lastReturn? (settings.dataEnd.length - 1) reader.buffer = some j →
      ¬ Bytes.occursIn (reader.buffer.drop j) settings.dataEnd = true) :
    Passing.Follows settings (pass settings whole) (.more reader.buffer (reader.with [])) := by
  refine pass_more h (List.append_nil _).symm fun j hj hocc => ?_
  obtain ⟨hlast, hbegins⟩ := lastReturn?_of_overlap hboundary hnone hj hocc
  exact hfree j hlast hbegins

/-- What stands before the last carriage return may be passed on. -/
lemma pass_upTo (hboundary : 13 ∉ settings.boundary) (h : Reader.Whole reader whole)
    (hnone : Bytes.cutBefore? settings.dataEnd reader.buffer = none) {place : Nat}
    (hplace : lastReturn? (settings.dataEnd.length - 1) reader.buffer = some place) :
    Passing.Follows settings (pass settings whole)
      (.more (reader.buffer.take place) (reader.with (reader.buffer.drop place))) := by
  refine pass_more h (List.take_append_drop _ _).symm fun j hj hocc => ?_
  rw [← List.append_assoc, List.take_append_drop] at hocc
  rw [List.length_take] at hj
  obtain ⟨hlast, -⟩ := lastReturn?_of_overlap hboundary hnone (by omega) hocc
  rw [hplace] at hlast
  have := Option.some.inj hlast
  omega

/-- The end of the data that is found early is found with all bytes at hand. -/
lemma pass_last (h : Reader.Whole reader whole) {data rest : Bytes}
    (hcut : Bytes.cutBefore? settings.dataEnd reader.buffer = some (data, rest)) :
    Passing.Follows settings (pass settings whole)
      (.last data (reader.with (rest.drop lineBreak.length))) := by
  refine ⟨_, ?_, h.with _⟩
  have hlong : lineBreak.length ≤ rest.length := by
    have hlead := (Bytes.cutBefore?_eq_some_iff.1 hcut).2.1.length_le
    have hlength : settings.dataEnd.length = settings.boundary.length + 4 := by
      simp [dataEnd_eq]
    have hbreak : lineBreak.length = 2 := rfl
    omega
  rw [pass_of_ended h.ended, h.buffer, Bytes.cutBefore?_append hcut]
  simp only
  rw [List.drop_append_of_le_length hlong]

/-- Passing on data early gives what all bytes at hand give. -/
lemma pass_follows (hboundary : 13 ∉ settings.boundary) (h : Reader.Whole reader whole) :
    Passing.Follows settings (pass settings whole) (pass settings reader) := by
  have hwait : Passing.Follows settings (pass settings whole) (.wait reader) := ⟨whole, h, rfl⟩
  have hfail : reader.ended = true → Bytes.cutBefore? settings.dataEnd reader.buffer = none →
      pass settings whole = .failed := by
    intro hended hnone
    rw [pass_of_ended h.ended, h.buffer_of_ended hended, hnone]
  rw [pass.eq_def settings reader]
  simp only
  split
  · next hempty =>
    split
    · next hended =>
      refine hfail hended ?_
      rw [List.isEmpty_iff.1 hempty]
      rfl
    · exact hwait
  · split
    · next data rest hcut => exact pass_last h hcut
    · next hnone =>
      split
      · next hended => exact hfail hended hnone
      · split
        · next place hplace =>
          split
          · split
            · exact hwait
            · exact pass_upTo hboundary h hnone hplace
          · -- no delimiter begins like what stands behind the last carriage return
            next hfree =>
            refine pass_all hboundary h hnone fun j hlast => ?_
            obtain rfl := Option.some.inj (hplace.symm.trans hlast)
            exact hfree
        · next hplace =>
          refine pass_all hboundary h hnone fun j hlast => ?_
          cases hplace.symm.trans hlast

/-! ### From one part to the next -/

/-- What came of reading on while more data may arrive agrees with what comes of all bytes at
hand. -/
def Progress.Follows (settings : Settings) (whole : Progress) : Progress → Prop
  | .part headers next => ∃ after, whole = .part headers after ∧ Reader.Whole next after
  | .finished => whole = .finished
  | .wait stage next => ∃ after, Reader.Whole next after ∧ whole = resume settings stage after
  | .failed error => error.isOfStream = true ∨ ∃ other, whole = .failed other

/-- More data is needed if it is with all bytes at hand, where it does not come. -/
lemma need_follows (h : Reader.Whole reader whole) (stage : Stage)
    (hneed : whole.buffer = reader.buffer → ∃ other, resume settings stage whole = .failed other) :
    Progress.Follows settings (resume settings stage whole) (.need stage reader) := by
  rw [Progress.need]
  split
  · next hended => exact .inr (hneed (h.buffer_of_ended hended))
  · exact ⟨whole, h, rfl⟩

lemma need_of_ended (hended : reader.ended = true) (stage : Stage) :
    Progress.need stage reader = .failed .incomplete := if_pos hended

lemma readHeaders_follows (h : Reader.Whole reader whole) :
    Progress.Follows settings (readHeaders whole) (readHeaders reader) := by
  rw [readHeaders.eq_def reader]
  split
  · next hcut =>
    refine need_follows h .headers fun hsame => ⟨.incomplete, ?_⟩
    rw [resume, readHeaders, hsame, hcut]
    exact need_of_ended h.ended _
  · next block rest hcut =>
    have hwhole := Bytes.cutBehind?_append hcut reader.rest.deliver.bytes
    rw [← h.buffer] at hwhole
    split
    · next headers hparse =>
      refine ⟨_, ?_, h.with rest⟩
      rw [readHeaders, hwhole]
      simp only [hparse]
    · next hparse =>
      refine .inr ⟨.badHeaders, ?_⟩
      rw [readHeaders, hwhole]
      simp only [hparse]

/-- Blanks behind a delimiter can be skipped before the rest arrives. -/
lemma readPadding_skip (h : Reader.Whole reader whole) :
    readPadding whole = readPadding
      (whole.with (reader.buffer.dropWhile HeaderBlock.isBlank ++ reader.rest.deliver.bytes)) := by
  have hdrop : ∀ front behind : Bytes,
      (front ++ behind).dropWhile HeaderBlock.isBlank
        = (front.dropWhile HeaderBlock.isBlank ++ behind).dropWhile HeaderBlock.isBlank := by
    intro front behind
    induction front with
    | nil => rfl
    | cons b more ih =>
      by_cases hb : HeaderBlock.isBlank b = true
      · rw [List.cons_append, List.dropWhile_cons_of_pos hb, List.dropWhile_cons_of_pos hb, ih]
      · rw [List.dropWhile_cons_of_neg hb]
  rw [readPadding, readPadding, h.buffer, hdrop]
  rfl

/-- A single byte is not enough for a line break. -/
lemma readPadding_of_short (hended : reader.ended = true) (hshort : reader.buffer.length ≤ 1) :
    readPadding reader = .failed .incomplete := by
  have hdrop := (List.dropWhile_suffix (l := reader.buffer) HeaderBlock.isBlank).length_le
  rw [readPadding]
  split
  · exact need_of_ended (by exact hended) _
  · exact need_of_ended (by exact hended) _
  · next a b rest hbuffer =>
    have hlength : (reader.buffer.dropWhile HeaderBlock.isBlank).length = rest.length + 2 :=
      congrArg List.length hbuffer
    omega

lemma readPadding_follows (h : Reader.Whole reader whole) :
    Progress.Follows settings (readPadding whole) (readPadding reader) := by
  have hskip := h.with (reader.buffer.dropWhile HeaderBlock.isBlank)
  rw [readPadding_skip h, readPadding.eq_def reader]
  simp only
  have hshort : (reader.buffer.dropWhile HeaderBlock.isBlank).length ≤ 1 →
      Progress.Follows settings (readPadding (whole.with _))
        (.need .padding (reader.with (reader.buffer.dropWhile HeaderBlock.isBlank))) :=
    fun hshort => need_follows hskip .padding fun hsame =>
      ⟨_, readPadding_of_short h.ended (hsame ▸ hshort)⟩
  split
  · next hbuffer => exact hshort (by exact (congrArg List.length hbuffer).trans_le (Nat.zero_le 1))
  · next b hbuffer => exact hshort (by exact (congrArg List.length hbuffer).le)
  · next a b rest hbuffer =>
    have hdrop : reader.buffer.dropWhile HeaderBlock.isBlank = a :: b :: rest := hbuffer
    -- the blanks that can still arrive come too late to be skipped
    have hfirst : HeaderBlock.isBlank a = false := by
      have hnot := List.head?_dropWhile_not HeaderBlock.isBlank reader.buffer
      rwa [hdrop] at hnot
    have hwhole : (a :: b :: rest ++ reader.rest.deliver.bytes).dropWhile HeaderBlock.isBlank
        = a :: b :: (rest ++ reader.rest.deliver.bytes) :=
      List.dropWhile_cons_of_neg (by rw [hfirst]; simp)
    rw [readPadding.eq_def (whole.with _)]
    simp only [Reader.with, hdrop, hwhole]
    split
    · exact readHeaders_follows (h.with rest)
    · exact .inr ⟨_, rfl⟩

lemma readEnding_follows (h : Reader.Whole reader whole) :
    Progress.Follows settings (readEnding whole) (readEnding reader) := by
  rw [readEnding.eq_def reader]
  split
  · next hbuffer =>
    refine need_follows h .ending fun hsame => ⟨.incomplete, ?_⟩
    rw [resume, readEnding, hsame, hbuffer]
    exact need_of_ended h.ended _
  · next b hbuffer =>
    refine need_follows h .ending fun hsame => ⟨.incomplete, ?_⟩
    rw [resume, readEnding, hsame, hbuffer]
    exact need_of_ended h.ended _
  · next a b rest hbuffer =>
    have hwhole : whole.buffer = a :: b :: (rest ++ reader.rest.deliver.bytes) := by
      rw [h.buffer, hbuffer]
      rfl
    rw [readEnding.eq_def whole, hwhole]
    simp only
    split
    · rfl
    · exact readPadding_follows h

lemma readDelimiter_follows (h : Reader.Whole reader whole) :
    Progress.Follows settings (readDelimiter settings whole) (readDelimiter settings reader) := by
  rw [readDelimiter.eq_def settings reader]
  simp only
  split
  · next hshort =>
    refine need_follows h .delimiter fun hsame => ⟨.incomplete, ?_⟩
    rw [resume, readDelimiter, hsame]
    simp only [hshort, if_true]
    exact need_of_ended h.ended _
  · next hlong =>
    rw [List.length_take] at hlong
    have htake : whole.buffer.take settings.delimiter.length
        = reader.buffer.take settings.delimiter.length := by
      rw [h.buffer, List.take_append_of_le_length (by omega)]
    have hdrop : whole.buffer.drop settings.delimiter.length
        = reader.buffer.drop settings.delimiter.length ++ reader.rest.deliver.bytes := by
      rw [h.buffer, List.drop_append_of_le_length (by omega)]
    have hlength : (reader.buffer.take settings.delimiter.length).length
        = settings.delimiter.length := by
      rw [List.length_take]
      omega
    split
    · next hfound =>
      rw [readDelimiter, htake]
      simp only [Nat.lt_irrefl, if_false, hfound, if_true, hdrop]
      exact readEnding_follows (h.with _)
    · next hother =>
      refine .inr ⟨.incomplete, ?_⟩
      rw [readDelimiter, htake]
      simp only [hlength, Nat.lt_irrefl, if_false, hother]

/-- With all bytes at hand the first delimiter is searched once. -/
lemma readPreamble_of_ended (hended : reader.ended = true) :
    readPreamble settings reader = search settings reader := by
  rw [readPreamble, fill_of_ended hended]
  simp [hended]

lemma search_follows (h : Reader.Whole reader whole) :
    Progress.Follows settings (search settings whole) (search settings reader) := by
  rw [search.eq_def settings reader]
  split
  · next before rest hcut =>
    have hwhole := Bytes.cutBefore?_append hcut reader.rest.deliver.bytes
    rw [← h.buffer] at hwhole
    rw [search, hwhole]
    exact readDelimiter_follows (h.with rest)
  · next hcut =>
    rw [← readPreamble_of_ended h.ended]
    refine need_follows h .preamble fun hsame => ⟨.incomplete, ?_⟩
    rw [resume, readPreamble_of_ended h.ended, search, hsame, hcut]
    exact need_of_ended h.ended _

lemma readPreamble_follows (h : Reader.Whole reader whole) :
    Progress.Follows settings (readPreamble settings whole) (readPreamble settings reader) := by
  have hwhole : readPreamble settings whole = search settings whole := readPreamble_of_ended h.ended
  rw [hwhole, readPreamble]
  split
  · exact search_follows h
  · split
    · next error hfill => exact .inl (isOfStream_of_fill hfill)
    · next filled hfill =>
      split
      · exact search_follows (h.fill hfill)
      · exact ⟨whole, h.fill hfill, hwhole.symm⟩

lemma skip_follows (hboundary : 13 ∉ settings.boundary) (h : Reader.Whole reader whole)
    (name : Option String) :
    Progress.Follows settings (skip settings name whole) (skip settings name reader) := by
  have hpass := pass_follows hboundary h
  rw [skip.eq_def settings name reader]
  cases hcase : pass settings reader with
  | last bytes next =>
    rw [hcase] at hpass
    obtain ⟨after, hwhole, hafter⟩ := hpass
    rw [skip, hwhole]
    exact readDelimiter_follows hafter
  | more bytes next =>
    rw [hcase] at hpass
    obtain ⟨after, hafter, hwhole⟩ := hpass
    refine ⟨after, hafter, ?_⟩
    rw [resume, skip, skip, hwhole]
    cases pass settings after <;> rfl
  | wait next =>
    rw [hcase] at hpass
    obtain ⟨after, hafter, hwhole⟩ := hpass
    refine ⟨after, hafter, ?_⟩
    rw [resume, skip, skip, hwhole]
  | failed =>
    rw [hcase] at hpass
    refine .inr ⟨.incompleteData name, ?_⟩
    rw [skip, hpass]

/-- Each step gives what all bytes at hand give. -/
lemma resume_follows (hboundary : 13 ∉ settings.boundary) (h : Reader.Whole reader whole)
    (stage : Stage) :
    Progress.Follows settings (resume settings stage whole) (resume settings stage reader) := by
  cases stage with
  | preamble => exact readPreamble_follows h
  | delimiter => exact readDelimiter_follows h
  | ending => exact readEnding_follows h
  | padding => exact readPadding_follows h
  | headers => exact readHeaders_follows h
  | unwanted name => exact skip_follows hboundary h name

/-- What was found as the next part, or the end of the form. -/
def Progress.ofFound : Option (Headers × Reader) → Progress
  | some (headers, next) => .part headers next
  | none => .finished

/-- The next part, or the end of the form, is the one that all bytes at hand give. -/
lemma nextPart_follows (hboundary : 13 ∉ settings.boundary) {fuel : Nat}
    {found : Option (Headers × Reader)} (h : Reader.Whole reader whole)
    (hfound : nextPart settings fuel stage reader = .ok found) :
    Progress.Follows settings (resume settings stage whole) (.ofFound found) := by
  induction fuel generalizing stage reader whole with
  | zero => cases hfound
  | succ fuel ih =>
    rw [nextPart] at hfound
    cases hfill : reader.fill settings.limit with
    | error error =>
      rw [hfill] at hfound
      cases hfound
    | ok filled =>
      have hfollows := resume_follows hboundary (h.fill hfill) stage
      simp only [hfill] at hfound
      cases hresume : resume settings stage filled with
      | part headers reader =>
        simp only [hresume, Except.ok.injEq] at hfound
        rw [hresume] at hfollows
        exact hfound ▸ hfollows
      | finished =>
        simp only [hresume, Except.ok.injEq] at hfound
        rw [hresume] at hfollows
        exact hfound ▸ hfollows
      | wait later reader =>
        simp only [hresume] at hfound
        rw [hresume] at hfollows
        obtain ⟨after, hafter, hwhole⟩ := hfollows
        rw [hwhole]
        exact ih hafter hfound
      | failed error => simp [hresume] at hfound

/-- The data of a part, however it was cut, is the one that all bytes at hand give. -/
lemma readData_follows (hboundary : 13 ∉ settings.boundary) {name : Option String} {fuel : Nat}
    {pieces : List Bytes} (h : Reader.Whole reader whole)
    (hdata : readData settings name fuel reader = (pieces, .ok next)) :
    ∃ after, pass settings whole = .last pieces.flatten after ∧ Reader.Whole next after := by
  induction fuel generalizing reader whole pieces with
  | zero => cases hdata
  | succ fuel ih =>
    rw [readData] at hdata
    cases hfill : reader.fill settings.limit with
    | error error =>
      rw [hfill] at hdata
      cases hdata
    | ok filled =>
      have hfollows := pass_follows hboundary (h.fill hfill)
      simp only [hfill] at hdata
      cases hpass : pass settings filled with
      | last bytes reader =>
        simp only [hpass, Prod.mk.injEq, Except.ok.injEq] at hdata
        obtain ⟨rfl, rfl⟩ := hdata
        rw [hpass] at hfollows
        rwa [List.flatten_singleton]
      | more bytes reader =>
        simp only [hpass] at hdata
        rw [hpass] at hfollows
        obtain ⟨after, hafter, hwhole⟩ := hfollows
        obtain ⟨rfl, hfound⟩ := Prod.mk.inj hdata
        obtain ⟨last, hlast, hnext⟩ := ih hafter (Prod.ext rfl hfound)
        refine ⟨last, ?_, hnext⟩
        rw [hwhole, hlast, List.flatten_cons]
        rfl
      | wait reader =>
        simp only [hpass] at hdata
        rw [hpass] at hfollows
        obtain ⟨after, hafter, hwhole⟩ := hfollows
        rw [hwhole]
        exact ih hafter hdata
      | failed => simp [hpass] at hdata

/-! ### All bytes at hand -/

/-- Where all bytes are at hand the limit does not count any more. -/
lemma resume_limit (hended : reader.ended = true) (boundary : Bytes) (limit other : Nat) :
    resume ⟨boundary, limit⟩ stage reader = resume ⟨boundary, other⟩ stage reader := by
  cases stage with
  | preamble =>
    rw [resume, resume, readPreamble_of_ended hended, readPreamble_of_ended hended]
    rfl
  | delimiter => rfl
  | ending => rfl
  | padding => rfl
  | headers => rfl
  | unwanted name => rfl

/-- A reader with all bytes at hand that has used some of another one's bytes to come to a part. -/
structure Reader.Found (reader next : Reader) (headers : Headers) : Prop where
  clean : HeaderBlock.Clean headers
  ended : next.ended = true
  shorter : next.buffer.length < reader.buffer.length

/-- With all bytes at hand nothing is waited for, and what is found is found for good. -/
def Progress.Sound (reader : Reader) : Progress → Prop
  | .part headers next => Reader.Found reader next headers
  | .wait _ _ => False
  | _ => True

lemma Progress.Sound.trans {progress : Progress} (h : Progress.Sound next progress)
    (hshorter : next.buffer.length ≤ reader.buffer.length) : Progress.Sound reader progress := by
  cases progress with
  | part headers last => exact ⟨h.clean, h.ended, Nat.lt_of_lt_of_le h.shorter hshorter⟩
  | finished => trivial
  | wait stage last => exact h
  | failed error => trivial

lemma need_sound (hended : next.ended = true) (stage : Stage) :
    Progress.Sound reader (.need stage next) := by
  rw [Progress.need, if_pos hended]
  trivial

lemma readHeaders_sound (hended : reader.ended = true) :
    Progress.Sound reader (readHeaders reader) := by
  rw [readHeaders.eq_def]
  split
  · exact need_sound hended _
  · next block rest hcut =>
    split
    · next headers hparse =>
      obtain ⟨start, rfl, hbuffer, -⟩ := Bytes.cutBehind?_eq_some_iff.1 hcut
      refine ⟨HeaderBlock.parse?_clean hparse, hended, ?_⟩
      rw [hbuffer]
      simp only [Reader.with, List.length_append]
      have hlong : lineBreak.length = 2 := rfl
      omega
    · trivial

lemma readPadding_sound (hended : reader.ended = true) :
    Progress.Sound reader (readPadding reader) := by
  have hdrop := (List.dropWhile_suffix (l := reader.buffer) HeaderBlock.isBlank).length_le
  rw [readPadding.eq_def]
  simp only
  split
  · exact need_sound (by exact hended) _
  · exact need_sound (by exact hended) _
  · next a b rest hbuffer =>
    have hlength : (reader.buffer.dropWhile HeaderBlock.isBlank).length = rest.length + 2 :=
      congrArg List.length hbuffer
    split
    · refine (readHeaders_sound (by exact hended)).trans ?_
      simp only [Reader.with]
      omega
    · trivial

lemma readEnding_sound (hended : reader.ended = true) :
    Progress.Sound reader (readEnding reader) := by
  rw [readEnding.eq_def]
  split
  · exact need_sound hended _
  · exact need_sound hended _
  · split
    · trivial
    · exact readPadding_sound hended

lemma readDelimiter_sound (hended : reader.ended = true) :
    Progress.Sound reader (readDelimiter settings reader) := by
  rw [readDelimiter.eq_def]
  simp only
  split
  · exact need_sound hended _
  · split
    · refine (readEnding_sound (by exact hended)).trans ?_
      simp only [Reader.with, List.length_drop]
      omega
    · trivial

lemma readPreamble_sound (hended : reader.ended = true) :
    Progress.Sound reader (readPreamble settings reader) := by
  rw [readPreamble_of_ended hended, search]
  split
  · next before rest hcut =>
    obtain ⟨hbuffer, -, -⟩ := Bytes.cutBefore?_eq_some_iff.1 hcut
    refine (readDelimiter_sound (by exact hended)).trans ?_
    rw [hbuffer]
    simp [Reader.with]
  · exact need_sound hended _

/-- The data of a part takes bytes away, or none if it is empty. -/
lemma pass_shrinks (hended : reader.ended = true) {bytes : Bytes}
    (hpass : pass settings reader = .last bytes next) :
    next.ended = true ∧ next.buffer.length ≤ reader.buffer.length := by
  rw [pass_of_ended hended] at hpass
  cases hcut : Bytes.cutBefore? settings.dataEnd reader.buffer with
  | none =>
    rw [hcut] at hpass
    cases hpass
  | some found =>
    rw [hcut] at hpass
    obtain ⟨data, rest⟩ := found
    obtain ⟨hbuffer, -, -⟩ := Bytes.cutBefore?_eq_some_iff.1 hcut
    simp only [Passing.last.injEq] at hpass
    obtain ⟨-, rfl⟩ := hpass
    refine ⟨hended, ?_⟩
    rw [hbuffer]
    simp only [Reader.with, List.length_drop, List.length_append]
    omega

lemma skip_sound (hended : reader.ended = true) (name : Option String) :
    Progress.Sound reader (skip settings name reader) := by
  rw [skip.eq_def]
  cases hpass : pass settings reader with
  | last bytes next =>
    obtain ⟨hnext, hshorter⟩ := pass_shrinks hended hpass
    exact (readDelimiter_sound hnext).trans hshorter
  | more bytes next =>
    rw [pass_of_ended hended] at hpass
    split at hpass <;> cases hpass
  | wait next =>
    rw [pass_of_ended hended] at hpass
    split at hpass <;> cases hpass
  | failed => trivial

lemma resume_sound (hended : reader.ended = true) (stage : Stage) :
    Progress.Sound reader (resume settings stage reader) := by
  cases stage with
  | preamble => exact readPreamble_sound hended
  | delimiter => exact readDelimiter_sound hended
  | ending => exact readEnding_sound hended
  | padding => exact readPadding_sound hended
  | headers => exact readHeaders_sound hended
  | unwanted name => exact skip_sound hended name

end Form

end Intercept
