/-
# Whether a form can be read does not depend on how it arrives

A form that is read to its end while it arrives is also read to its end with all its bytes at hand.
Here is the converse, for a stream that has no fault and keeps the limit.  A step fails because of
the stream or because of the bytes.  The stream gives no cause, and where the bytes do, they make
the form fail with all of them at hand too.  So the reading goes on, and every round of it takes
something in until the end is seen; this is why the rounds suffice.

Two such streams with the same bytes are compared through these bytes.

Data that comes with the end is searched for the first delimiter like all other.  A parser that
gives up instead, when it sees the end and has found no delimiter, reads the same of every stream
without a pause, and of every other one whose end comes apart from its last bytes
(`nextPart_eq_firstPart`).
-/
import Intercept.Proofs.Multipart.Reader

namespace Intercept

namespace Form

variable {settings : Settings} {reader next whole : Reader} {stage : Stage} {limit n : Nat}
variable {isWanted : Headers → Bool}

/-! ### Taking in a stream without a fault -/

/-- What is still to be taken in has no fault and keeps the limit. -/
structure Reader.Smooth (limit : Nat) (reader : Reader) : Prop where
  faultless : reader.rest.deliver.fault = none
  fits : reader.size + reader.rest.deliver.bytes.length ≤ limit

lemma ready_of_smooth {stream : Stream String} {done : List Bytes} {size : Nat}
    (hfault : stream.deliver.fault = none) (hfits : size + stream.deliver.bytes.length ≤ limit) :
    ∃ pieces taken rest, ready limit done size stream = .ok (pieces, taken, rest) ∧
      (rest.getD []).deliver.fault = none ∧
      taken + (rest.getD []).deliver.bytes.length ≤ limit ∧
      ∀ more, rest = some more → more.length < stream.length := by
  induction stream generalizing done size with
  | nil => exact ⟨_, _, _, rfl, rfl, hfits, by simp⟩
  | cons item more ih =>
    cases item with
    | pause =>
      refine ⟨_, _, _, rfl, hfault, hfits, fun later hlater => ?_⟩
      obtain rfl := Option.some.inj hlater
      exact Nat.lt_succ_self _
    | fault cause => cases hfault
    | piece bytes =>
      rw [Stream.deliver_piece] at hfault hfits
      simp only [List.length_append] at hfits
      have hkept : ¬ limit < size + bytes.length := by omega
      obtain ⟨pieces, taken, rest, hready, hnone, hlast, hless⟩ :=
        ih hfault (show size + bytes.length + (Stream.deliver more).bytes.length ≤ limit by omega)
      refine ⟨pieces, taken, rest, ?_, hnone, hlast, fun later hlater => ?_⟩
      · rw [ready, if_neg hkept, hready]
      · exact Nat.lt_succ_of_lt (hless later hlater)

/-- Data can be taken in, and unless it is the last there is less of it left. -/
lemma Reader.Smooth.fill (h : reader.Smooth limit) :
    ∃ next, reader.fill limit = .ok next ∧ next.Smooth limit ∧
      next.rest.length ≤ reader.rest.length ∧
      (next.ended = true ∨ next.rest.length < reader.rest.length) := by
  by_cases hended : reader.ended = true
  · exact ⟨reader, fill_of_ended hended limit, h, le_rfl, .inl hended⟩
  · obtain ⟨pieces, taken, rest, hready, hnone, hlast, hless⟩ :=
      ready_of_smooth h.faultless h.fits
    refine ⟨⟨reader.buffer ++ pieces.flatten, rest.getD [], rest.isNone, taken⟩, ?_, ⟨hnone, hlast⟩,
      ?_⟩
    · rw [Reader.fill, if_neg hended, hready]
      rfl
    · cases rest with
      | none => exact ⟨Nat.zero_le _, .inl rfl⟩
      | some more => exact ⟨(hless more rfl).le, .inr (hless more rfl)⟩

/-! ### One step -/

/-- A step takes nothing in. -/
def Progress.Keeps (reader : Reader) : Progress → Prop
  | .part _ next | .wait _ next => next.rest = reader.rest ∧ next.size = reader.size
  | .finished => True
  | .failed error => error.isOfStream = false

lemma need_keeps (stage : Stage) (reader : Reader) :
    Progress.Keeps reader (.need stage reader) := by
  rw [Progress.need]
  split
  · rfl
  · exact ⟨rfl, rfl⟩

lemma readHeaders_keeps (reader : Reader) : Progress.Keeps reader (readHeaders reader) := by
  rw [readHeaders.eq_def]
  split
  · exact need_keeps _ reader
  · split
    · exact ⟨rfl, rfl⟩
    · rfl

lemma readPadding_keeps (reader : Reader) : Progress.Keeps reader (readPadding reader) := by
  rw [readPadding.eq_def]
  simp only
  split
  · exact need_keeps _ (reader.with _)
  · exact need_keeps _ (reader.with _)
  · next a b rest hbuffer =>
    split
    · exact readHeaders_keeps (reader.with rest)
    · rfl

lemma readEnding_keeps (reader : Reader) : Progress.Keeps reader (readEnding reader) := by
  rw [readEnding.eq_def]
  split
  · exact need_keeps _ reader
  · exact need_keeps _ reader
  · split
    · trivial
    · exact readPadding_keeps reader

lemma readDelimiter_keeps (settings : Settings) (reader : Reader) :
    Progress.Keeps reader (readDelimiter settings reader) := by
  rw [readDelimiter.eq_def]
  simp only
  split
  · exact need_keeps _ reader
  · split
    · exact readEnding_keeps (reader.with _)
    · rfl

lemma search_keeps (settings : Settings) (reader : Reader) :
    Progress.Keeps reader (search settings reader) := by
  rw [search.eq_def]
  split
  · next before rest hcut => exact readDelimiter_keeps settings (reader.with rest)
  · exact need_keeps _ reader

/-- Passing on data takes nothing in. -/
def Passing.Keeps (reader : Reader) : Passing → Prop
  | .last _ next | .more _ next | .wait next =>
    next.rest = reader.rest ∧ next.size = reader.size
  | .failed => True

lemma pass_keeps (settings : Settings) (reader : Reader) :
    Passing.Keeps reader (pass settings reader) := by
  rw [pass.eq_def]
  simp only
  split
  · split
    · trivial
    · exact ⟨rfl, rfl⟩
  · split
    · exact ⟨rfl, rfl⟩
    · split
      · trivial
      · split
        · split
          · split
            · exact ⟨rfl, rfl⟩
            · exact ⟨rfl, rfl⟩
          · exact ⟨rfl, rfl⟩
        · exact ⟨rfl, rfl⟩

/-- What a step on a smooth stream comes to: at most `n` items are left to be taken in, and the
stream gives no cause to fail. -/
def Progress.Runs (limit n : Nat) : Progress → Prop
  | .part _ next | .wait _ next => next.Smooth limit ∧ next.rest.length ≤ n
  | .finished => True
  | .failed error => error.isOfStream = false

lemma Reader.Smooth.of_eq (h : reader.Smooth limit)
    (hsame : next.rest = reader.rest ∧ next.size = reader.size) : next.Smooth limit :=
  ⟨by rw [hsame.1, h.faultless], by rw [hsame.1, hsame.2]; exact h.fits⟩

lemma Progress.Keeps.runs {progress : Progress} (h : progress.Keeps reader)
    (hsmooth : reader.Smooth limit) (hless : reader.rest.length ≤ n) : progress.Runs limit n := by
  cases progress with
  | part headers next => exact ⟨hsmooth.of_eq h, h.1 ▸ hless⟩
  | finished => trivial
  | wait stage next => exact ⟨hsmooth.of_eq h, h.1 ▸ hless⟩
  | failed error => exact h

lemma readPreamble_runs (hsmooth : reader.Smooth settings.limit) :
    (readPreamble settings reader).Runs settings.limit reader.rest.length := by
  rw [readPreamble]
  split
  · exact (search_keeps settings reader).runs hsmooth le_rfl
  · obtain ⟨filled, hfill, hfilled, hless, -⟩ := hsmooth.fill
    rw [hfill]
    simp only
    split
    · exact (search_keeps settings filled).runs hfilled hless
    · exact ⟨hfilled, hless⟩

/-- A step from a reader that has taken nothing in takes nothing in. -/
lemma Progress.Keeps.trans {progress : Progress} (h : progress.Keeps next)
    (hsame : next.rest = reader.rest ∧ next.size = reader.size) : progress.Keeps reader := by
  cases progress with
  | part headers last => exact ⟨h.1.trans hsame.1, h.2.trans hsame.2⟩
  | finished => trivial
  | wait stage last => exact ⟨h.1.trans hsame.1, h.2.trans hsame.2⟩
  | failed error => exact h

lemma skip_keeps (settings : Settings) (name : Option String) (reader : Reader) :
    (skip settings name reader).Keeps reader := by
  have hpass := pass_keeps settings reader
  rw [skip.eq_def]
  cases hcase : pass settings reader with
  | last bytes next =>
    rw [hcase] at hpass
    exact (readDelimiter_keeps settings next).trans hpass
  | more bytes next =>
    rw [hcase] at hpass
    exact hpass
  | wait next =>
    rw [hcase] at hpass
    exact hpass
  | failed => rfl

lemma resume_runs (hsmooth : reader.Smooth settings.limit) (stage : Stage) :
    (resume settings stage reader).Runs settings.limit reader.rest.length := by
  cases stage with
  | preamble => exact readPreamble_runs hsmooth
  | delimiter => exact (readDelimiter_keeps settings reader).runs hsmooth le_rfl
  | ending => exact (readEnding_keeps reader).runs hsmooth le_rfl
  | padding => exact (readPadding_keeps reader).runs hsmooth le_rfl
  | headers => exact (readHeaders_keeps reader).runs hsmooth le_rfl
  | unwanted name => exact (skip_keeps settings name reader).runs hsmooth le_rfl

/-! ### From one part to the next -/

/-- Unless all bytes at hand fail, the next part or the end of the form is found. -/
lemma nextPart_of_smooth (hboundary : 13 ∉ settings.boundary) {fuel : Nat}
    (h : Reader.Whole reader whole) (hsmooth : reader.Smooth settings.limit)
    (hfuel : reader.rest.length + 1 < fuel)
    (hwhole : ∀ error, resume settings stage whole ≠ .failed error) :
    ∃ found, nextPart settings fuel stage reader = .ok found ∧
      ∀ headers next, found = some (headers, next) → next.Smooth settings.limit := by
  induction fuel generalizing stage reader whole with
  | zero => omega
  | succ fuel ih =>
    obtain ⟨filled, hfill, hfilled, hless, hend⟩ := hsmooth.fill
    have hruns := resume_runs hfilled stage
    have hfollows := resume_follows hboundary (h.fill hfill) stage
    rw [nextPart, hfill]
    simp only
    cases hresume : resume settings stage filled with
    | part headers next =>
      rw [hresume] at hruns
      refine ⟨_, rfl, fun found last hfound => ?_⟩
      obtain ⟨-, rfl⟩ := Prod.mk.inj (Option.some.inj hfound)
      exact hruns.1
    | finished => exact ⟨_, rfl, by simp⟩
    | wait later next =>
      rw [hresume] at hruns hfollows
      obtain ⟨after, hafter, hsame⟩ := hfollows
      -- nothing is waited for behind the end, so something was taken in
      have hopen : ¬ filled.ended = true := by
        intro hended
        have hsound : Progress.Sound filled (resume settings stage filled) :=
          resume_sound hended stage
        rw [hresume] at hsound
        exact hsound
      have htaken := hend.resolve_left hopen
      exact ih hafter hruns.1 (by have := hruns.2; omega) (hsame ▸ hwhole)
    | failed error =>
      rw [hresume] at hruns hfollows
      rcases hfollows with hstream | ⟨other, hother⟩
      · rw [hruns] at hstream
        cases hstream
      · exact absurd hother (hwhole other)

/-- Unless all bytes at hand fail, the data of a part is read to its end. -/
lemma readData_of_smooth (hboundary : 13 ∉ settings.boundary) {name : Option String} {fuel : Nat}
    (h : Reader.Whole reader whole) (hsmooth : reader.Smooth settings.limit)
    (hfuel : reader.rest.length + 1 < fuel) (hwhole : pass settings whole ≠ .failed) :
    ∃ pieces next, readData settings name fuel reader = (pieces, .ok next) ∧
      next.Smooth settings.limit := by
  induction fuel generalizing reader whole with
  | zero => omega
  | succ fuel ih =>
    obtain ⟨filled, hfill, hfilled, hless, hend⟩ := hsmooth.fill
    have hkeeps := pass_keeps settings filled
    have hfollows := pass_follows hboundary (h.fill hfill)
    -- behind the end all the rest is passed on at once, or the reading fails
    have hopen : (∀ bytes next, pass settings filled ≠ .last bytes next) →
        pass settings filled ≠ .failed → filled.rest.length < reader.rest.length := by
      intro hlast hfailed
      refine hend.resolve_left fun hended => ?_
      have hpass : pass settings filled = _ := pass_of_ended hended
      split at hpass
      · exact hlast _ _ hpass
      · exact hfailed hpass
    rw [readData, hfill]
    simp only
    cases hpass : pass settings filled with
    | last bytes next =>
      rw [hpass] at hkeeps
      exact ⟨_, next, rfl, hfilled.of_eq hkeeps⟩
    | more bytes next =>
      rw [hpass] at hkeeps hfollows hopen
      obtain ⟨after, hafter, hsame⟩ := hfollows
      have htaken := hopen (by simp) (by simp)
      obtain ⟨pieces, last, hdata, hlast⟩ := ih hafter
        (hfilled.of_eq hkeeps) (by rw [hkeeps.1]; omega)
        (fun hfailed => hwhole (by rw [hsame, hfailed]; rfl))
      refine ⟨bytes :: pieces, last, ?_, hlast⟩
      simp only [hdata]
    | wait next =>
      rw [hpass] at hkeeps hfollows hopen
      obtain ⟨after, hafter, hsame⟩ := hfollows
      have htaken := hopen (by simp) (by simp)
      exact ih hafter (hfilled.of_eq hkeeps) (by rw [hkeeps.1]; omega) (hsame ▸ hwhole)
    | failed =>
      rw [hpass] at hfollows
      exact absurd hfollows hwhole

/-! ### The whole form -/

/-- Where all bytes at hand are read to the end, no step of the reading fails. -/
lemma resume_ne_failed (hended : reader.ended = true) {fuel : Nat}
    (hfault : (readParts settings isWanted fuel stage reader).fault = none) (error : FormError) :
    resume settings stage reader ≠ .failed error := by
  intro hresume
  cases fuel with
  | zero => cases hfault
  | succ fuel =>
    rw [readParts, nextPart_of_ended hended, hresume] at hfault
    cases hfault

/-- What all bytes at hand say can be read while it arrives. -/
lemma readParts_of_smooth (hboundary : 13 ∉ settings.boundary) {fuel room : Nat}
    (h : Reader.Whole reader whole) (hsmooth : reader.Smooth settings.limit)
    (hfuel : whole.buffer.length < fuel)
    (hfault : (readParts settings isWanted room stage whole).fault = none) :
    (readParts settings isWanted fuel stage reader).fault = none := by
  induction fuel generalizing stage reader whole room with
  | zero => omega
  | succ fuel ih =>
    have hsound : Progress.Sound whole (resume settings stage whole) := resume_sound h.ended stage
    obtain ⟨found, hnext, hfound⟩ := nextPart_of_smooth hboundary h hsmooth
      (Nat.lt_succ_self _) (resume_ne_failed h.ended hfault)
    have hfollows := nextPart_follows hboundary h hnext
    obtain ⟨room, rfl⟩ : ∃ m, room = m + 1 := by
      cases room with
      | zero => cases hfault
      | succ room => exact ⟨room, rfl⟩
    rw [readParts, hnext]
    cases found with
    | none => rfl
    | some found =>
      obtain ⟨headers, next⟩ := found
      obtain ⟨after, hresume, hafter⟩ := hfollows
      rw [hresume] at hsound
      have hshorter := hsound.shorter
      have hsmoothNext := hfound headers next rfl
      simp only
      split
      · next hwanted =>
        -- a part that is wanted
        obtain ⟨data, last, hpass⟩ := pass_of_wanted h.ended hresume hwanted hfault
        obtain ⟨pieces, later, hdata, hlater⟩ := readData_of_smooth hboundary hafter hsmoothNext
          (Nat.lt_succ_self _) (by rw [hpass]; simp)
        obtain ⟨final, hsame, hfinal⟩ := readData_follows hboundary hafter hdata
        have hless := (pass_shrinks hafter.ended hsame).2
        rw [readParts_of_wanted h.ended hresume hwanted hsame] at hfault
        rw [hdata]
        exact ih hfinal hlater (by omega) hfault
      · next hunwanted =>
        -- a part that is skipped
        rw [readParts_of_unwanted h.ended hresume (Bool.eq_false_iff.2 hunwanted)] at hfault
        exact ih hafter hsmoothNext (by omega) hfault

lemma length_deliver_le (stream : Stream String) :
    stream.deliver.bytes.length ≤ streamSize stream := by
  induction stream with
  | nil => exact Nat.zero_le _
  | cons item rest ih =>
    cases item with
    | pause => exact ih
    | fault cause => exact Nat.zero_le _
    | piece bytes =>
      rw [Stream.deliver_piece, List.length_append]
      exact Nat.add_le_add_left ih _

/-- A form in a stream without a fault is read to its end just if all its bytes at hand are, and
then says the same. -/
lemma readWhere_of_smooth (hboundary : 13 ∉ settings.boundary) {stream : Stream String}
    {bytes : Bytes} (hstream : stream.deliver = ⟨bytes, none⟩)
    (hlimit : bytes.length ≤ settings.limit) :
    ((readWhere settings isWanted stream).fault = none ↔
      (readWhere settings isWanted (Stream.once bytes)).fault = none) ∧
    ((readWhere settings isWanted stream).fault = none →
      (readWhere settings isWanted stream).contents
        = (readWhere settings isWanted (Stream.once bytes)).contents) := by
  have hwhole : Reader.Whole ⟨[], stream, false, 0⟩ ⟨bytes, [], true, bytes.length⟩ :=
    ⟨by rw [hstream]; rfl, rfl, fun h => nomatch h⟩
  have hsmooth : Reader.Smooth settings.limit ⟨[], stream, false, 0⟩ :=
    ⟨by rw [hstream], by rw [hstream, Nat.zero_add]; exact hlimit⟩
  have honce : readWhere settings isWanted (Stream.once bytes)
      = readParts settings isWanted (bytes.length + 2) .preamble ⟨bytes, [], true, bytes.length⟩ :=
    readWhere_once hlimit
  have hsize : bytes.length ≤ streamSize stream := by
    have hlength := length_deliver_le stream
    rwa [hstream] at hlength
  rw [honce]
  have hfollows : (readWhere settings isWanted stream).fault = none → _ := fun hfault =>
    readParts_follows hboundary hwhole hfault settings.limit
      (show bytes.length < bytes.length + 2 by omega)
  exact ⟨⟨fun hfault => (hfollows hfault).1, readParts_of_smooth hboundary hwhole hsmooth
      (show bytes.length < streamSize stream + 2 by omega)⟩,
    fun hfault => (hfollows hfault).2.symm⟩

/-- The end of a stream comes apart from its last bytes: there is no piece right before it. -/
def EndsApart (stream : Stream String) : Prop := ∀ bytes, stream.getLast? ≠ some (.piece bytes)

lemma EndsApart.tail {item : Item String} {rest : Stream String} (h : EndsApart (item :: rest)) :
    EndsApart rest := by
  intro bytes hlast
  refine h bytes ?_
  rw [List.getLast?_cons, hlast, Option.getD_some]

/-- If all the rest is ready, the end comes with the last bytes, or there are none. -/
lemma eq_nil_of_ready {done pieces : List Bytes} {size taken : Nat} {stream : Stream String}
    (hready : ready limit done size stream = .ok (pieces, taken, none))
    (h : EndsApart stream) : stream = [] := by
  induction stream generalizing done size with
  | nil => rfl
  | cons item rest ih =>
    cases item with
    | pause => cases hready
    | fault cause => cases hready
    | piece bytes =>
      rw [ready] at hready
      split at hready
      · cases hready
      · obtain rfl := ih hready h.tail
        exact absurd rfl (h bytes)

/-- Behind a pause the end still comes apart. -/
lemma endsApart_of_ready {done pieces : List Bytes} {size taken : Nat} {stream : Stream String}
    {rest : Option (Stream String)}
    (hready : ready limit done size stream = .ok (pieces, taken, rest))
    (h : .pause ∈ stream → EndsApart stream) : EndsApart (rest.getD []) := by
  induction stream generalizing done size with
  | nil =>
    obtain ⟨-, -, rfl⟩ : done.reverse = pieces ∧ size = taken ∧ none = rest := by
      simpa [ready] using hready
    intro bytes hlast
    cases hlast
  | cons item more ih =>
    cases item with
    | pause =>
      obtain ⟨-, -, rfl⟩ : done.reverse = pieces ∧ size = taken ∧ some more = rest := by
        simpa [ready] using hready
      exact (h List.mem_cons_self).tail
    | fault cause => cases hready
    | piece bytes =>
      rw [ready] at hready
      split at hready
      · cases hready
      · exact ih hready fun hpause => (h (List.mem_cons_of_mem _ hpause)).tail

lemma endsApart_of_fill (hfill : reader.fill limit = .ok next)
    (h : .pause ∈ reader.rest → EndsApart reader.rest) :
    next.ended = true ∨ EndsApart next.rest := by
  obtain ⟨hended, rfl⟩ | ⟨pieces, size, rest, -, hready, rfl⟩ := fill_cases hfill
  · exact .inl hended
  · exact .inr (endsApart_of_ready hready h)

/-- No bytes come together with the end. -/
lemma buffer_of_fill (h : reader.ended = true ∨ EndsApart reader.rest)
    (hfill : reader.fill limit = .ok next) (hended : next.ended = true) :
    next.buffer = reader.buffer := by
  obtain ⟨-, rfl⟩ | ⟨pieces, size, rest, hopen, hready, rfl⟩ := fill_cases hfill
  · rfl
  · obtain rfl := Option.isNone_iff_eq_none.1 hended
    rw [eq_nil_of_ready hready (h.resolve_left hopen)] at hready
    obtain ⟨rfl, -⟩ : [] = pieces ∧ reader.size = size := by simpa [ready] using hready
    exact List.append_nil _

/-- A form is incomplete without its first delimiter. -/
lemma search_of_not_occurs (hended : reader.ended = true)
    (hoccurs : Bytes.occursIn settings.delimiter reader.buffer = false) :
    search settings reader = .failed .incomplete := by
  have hnone : Bytes.indexOf? settings.delimiter reader.buffer = none :=
    Option.isNone_iff_eq_none.1 (Option.isSome_eq_false_iff.1 hoccurs)
  rw [search, Bytes.cutBefore?, hnone]
  exact need_of_ended hended _

/-- The next part, or the end of the form, behind a step. -/
def Progress.onwards (settings : Settings) (fuel : Nat) :
    Progress → Except FormError (Option (Headers × Reader))
  | .part headers reader => .ok (some (headers, reader))
  | .finished => .ok none
  | .wait stage reader => nextPart settings fuel stage reader
  | .failed error => .error error

/-- Reads up to the data of the first part, but gives up when the end is seen and no delimiter is
found. -/
def firstPart (settings : Settings) : Nat → Reader → Except FormError (Option (Headers × Reader))
  | 0, _ => .error .incomplete
  | fuel + 1, reader =>
    match reader.fill settings.limit with
    | .error error => .error error
    | .ok reader =>
      if Bytes.occursIn settings.delimiter reader.buffer then
        (search settings reader).onwards settings fuel
      else
        match reader.fill settings.limit with
        | .error error => .error error
        | .ok reader => if reader.ended then .error .incomplete else firstPart settings fuel reader

lemma nextPart_succ (settings : Settings) (fuel : Nat) (stage : Stage) (reader : Reader) :
    nextPart settings (fuel + 1) stage reader
      = (match reader.fill settings.limit with
        | .error error => .error error
        | .ok reader => (resume settings stage reader).onwards settings fuel) := by
  rw [nextPart]
  cases reader.fill settings.limit with
  | error error => rfl
  | ok filled => cases resume settings stage filled <;> rfl

/-- **Giving up at the end.**  Where the end of a form comes apart from its last bytes, or no pause
comes before it, the first part is also found by a parser that gives up when it sees the end. -/
theorem nextPart_eq_firstPart (h : .pause ∈ reader.rest → EndsApart reader.rest) (fuel : Nat) :
    nextPart settings fuel .preamble reader = firstPart settings fuel reader := by
  induction fuel generalizing reader with
  | zero => rfl
  | succ fuel ih =>
    rw [nextPart_succ, firstPart]
    cases hfill : reader.fill settings.limit with
    | error error => rfl
    | ok filled =>
      have hfilled := endsApart_of_fill hfill h
      simp only [resume]
      rw [readPreamble]
      cases hoccurs : Bytes.occursIn settings.delimiter filled.buffer with
      | true => rfl
      | false =>
        simp only [Bool.false_eq_true, if_false]
        cases hagain : filled.fill settings.limit with
        | error error => rfl
        | ok later =>
          simp only
          split
          · next hended =>
            -- nothing came with the end that could be searched
            rw [← buffer_of_fill hfilled hagain hended] at hoccurs
            rw [search_of_not_occurs hended hoccurs]
            rfl
          · next hopen =>
            have hapart := hfilled.resolve_left fun hended => hopen (by
              obtain rfl := Except.ok.inj ((fill_of_ended hended _).symm.trans hagain)
              exact hended)
            have hlater := endsApart_of_fill hagain fun _ => hapart
            exact ih fun _ => hlater.resolve_left hopen

end Form

end Intercept
