/-
# Forms that are read to their end

A form that is read to its end while it arrives says the same as when all its bytes are at hand, and
the parts that are wanted are those among all its parts.
-/
import Intercept.Proofs.Multipart.Arrival

namespace Intercept

namespace Form

variable {settings : Settings} {reader next whole : Reader} {stage : Stage}
variable {isWanted : Headers → Bool} {headers : Headers}

/-- What a form says: the headers and the data of its parts. -/
def contents (form : Form) : List (Headers × Bytes) :=
  form.parts.map fun part => (part.headers, part.data)

/-- A form that is read to its end ends at once, or goes on with a part that is read to its end, or
with one that is skipped. -/
lemma readParts_cases {fuel : Nat}
    (hfault : (readParts settings isWanted (fuel + 1) stage reader).fault = none) :
    (nextPart settings (reader.rest.length + 2) stage reader = .ok none ∧
      readParts settings isWanted (fuel + 1) stage reader = ⟨[], none⟩) ∨
    ∃ headers next, nextPart settings (reader.rest.length + 2) stage reader
        = .ok (some (headers, next)) ∧
      ((isWanted headers = true ∧ ∃ pieces last,
        readData settings (Disposition.fieldName? headers) (next.rest.length + 2) next
          = (pieces, .ok last) ∧
        readParts settings isWanted (fuel + 1) stage reader
          = ⟨⟨headers, pieces, none⟩ :: (readParts settings isWanted fuel .delimiter last).parts,
              (readParts settings isWanted fuel .delimiter last).fault⟩) ∨
      (isWanted headers = false ∧
        readParts settings isWanted (fuel + 1) stage reader
          = readParts settings isWanted fuel (.unwanted (Disposition.fieldName? headers))
              next)) := by
  rw [readParts] at hfault ⊢
  cases hnext : nextPart settings (reader.rest.length + 2) stage reader with
  | error error => simp [hnext] at hfault
  | ok found =>
    cases found with
    | none => exact .inl ⟨rfl, rfl⟩
    | some found =>
      obtain ⟨headers, next⟩ := found
      refine .inr ⟨headers, next, rfl, ?_⟩
      simp only [hnext] at hfault ⊢
      by_cases hwanted : isWanted headers = true
      · simp only [hwanted, if_true, true_and, Bool.true_eq_false, false_and, or_false] at hfault ⊢
        cases hdata : readData settings (Disposition.fieldName? headers) (next.rest.length + 2)
            next with
        | mk pieces ending =>
          cases ending with
          | error error => simp [hdata] at hfault
          | ok last => exact ⟨pieces, last, rfl, rfl⟩
      · rw [if_neg hwanted]
        exact .inr ⟨Bool.eq_false_iff.2 hwanted, rfl⟩

/-! ### All bytes at hand -/

/-- Once all bytes are at hand the next part is found in one step. -/
lemma nextPart_of_fill (hfill : reader.fill settings.limit = .ok next) (hended : next.ended = true)
    (fuel : Nat) :
    nextPart settings (fuel + 1) stage reader = match resume settings stage next with
      | .part headers last => .ok (some (headers, last))
      | .finished => .ok none
      | .wait _ _ => .error .incomplete
      | .failed error => .error error := by
  have hsound : Progress.Sound next (resume settings stage next) := resume_sound hended stage
  rw [nextPart, hfill]
  simp only
  cases hresume : resume settings stage next with
  | part headers last => rfl
  | finished => rfl
  | wait later last =>
    rw [hresume] at hsound
    exact hsound.elim
  | failed error => rfl

lemma nextPart_of_ended (hended : reader.ended = true) (fuel : Nat) :
    nextPart settings (fuel + 1) stage reader = match resume settings stage reader with
      | .part headers next => .ok (some (headers, next))
      | .finished => .ok none
      | .wait _ _ => .error .incomplete
      | .failed error => .error error := by
  rw [nextPart_of_fill (fill_of_ended hended _) hended]

/-- With all bytes at hand the form depends on the next step only. -/
lemma readParts_congr {other : Reader} {later : Stage} (hended : reader.ended = true)
    (hother : other.ended = true)
    (hresume : resume settings stage reader = resume settings later other) (fuel : Nat) :
    readParts settings isWanted fuel stage reader
      = readParts settings isWanted fuel later other := by
  cases fuel with
  | zero => rfl
  | succ fuel =>
    rw [readParts, readParts, nextPart_of_ended hended, nextPart_of_ended hother, hresume]

lemma ended_of_part (hended : reader.ended = true)
    (hresume : resume settings stage reader = .part headers next) : next.ended = true := by
  have hsound : Progress.Sound reader (resume settings stage reader) := resume_sound hended stage
  rw [hresume] at hsound
  exact hsound.ended

lemma readParts_of_finished (hended : reader.ended = true)
    (hresume : resume settings stage reader = .finished) (fuel : Nat) :
    readParts settings isWanted (fuel + 1) stage reader = ⟨[], none⟩ := by
  rw [readParts, nextPart_of_ended hended, hresume]

lemma readParts_of_wanted {last : Reader} {data : Bytes} (hended : reader.ended = true)
    (hresume : resume settings stage reader = .part headers next)
    (hwanted : isWanted headers = true) (hdata : pass settings next = .last data last)
    (fuel : Nat) :
    readParts settings isWanted (fuel + 1) stage reader
      = ⟨⟨headers, [data], none⟩ :: (readParts settings isWanted fuel .delimiter last).parts,
          (readParts settings isWanted fuel .delimiter last).fault⟩ := by
  have hnext : next.ended = true := ended_of_part hended hresume
  rw [readParts, nextPart_of_ended hended, hresume]
  simp only
  rw [if_pos hwanted, readData, fill_of_ended hnext]
  simp only [hdata]

lemma readParts_of_unwanted (hended : reader.ended = true)
    (hresume : resume settings stage reader = .part headers next)
    (hwanted : isWanted headers = false) (fuel : Nat) :
    readParts settings isWanted (fuel + 1) stage reader
      = readParts settings isWanted fuel (.unwanted (Disposition.fieldName? headers)) next := by
  rw [readParts, nextPart_of_ended hended, hresume]
  simp only [hwanted, Bool.false_eq_true, if_false]

/-- What is read while it arrives is what is read with all bytes at hand. -/
lemma readParts_follows (hboundary : 13 ∉ settings.boundary) {fuel : Nat}
    (h : Reader.Whole reader whole)
    (hfault : (readParts settings isWanted fuel stage reader).fault = none)
    (limit : Nat) {room : Nat} (hroom : whole.buffer.length < room) :
    (readParts ⟨settings.boundary, limit⟩ isWanted room stage whole).fault = none ∧
      (readParts ⟨settings.boundary, limit⟩ isWanted room stage whole).contents
        = (readParts settings isWanted fuel stage reader).contents := by
  induction fuel generalizing stage reader whole room with
  | zero => cases hfault
  | succ fuel ih =>
    obtain ⟨room, rfl⟩ : ∃ n, room = n + 1 := ⟨room - 1, by omega⟩
    have hlimit : resume settings stage whole = resume ⟨settings.boundary, limit⟩ stage whole :=
      resume_limit h.ended settings.boundary settings.limit limit
    have hsound : Progress.Sound whole (resume settings stage whole) :=
      resume_sound h.ended stage
    obtain ⟨hend, hform⟩ | ⟨headers, next, hpart, ⟨hwanted, pieces, last, hdata, hform⟩ |
      ⟨hwanted, hform⟩⟩ := readParts_cases hfault
    · -- the form ends
      have hresume : resume settings stage whole = .finished := nextPart_follows hboundary h hend
      rw [readParts_of_finished h.ended (hlimit.symm.trans hresume), hform]
      exact ⟨rfl, rfl⟩
    · -- a part that is wanted
      obtain ⟨after, hresume, hafter⟩ := nextPart_follows hboundary h hpart
      obtain ⟨final, hpass, hfinal⟩ := readData_follows hboundary hafter hdata
      rw [hresume] at hsound
      have hshorter := (pass_shrinks hafter.ended hpass).2
      rw [hform] at hfault
      obtain ⟨hnone, hsame⟩ := ih hfinal hfault
        (show final.buffer.length < room by have := hsound.shorter; omega)
      rw [readParts_of_wanted h.ended (hlimit.symm.trans hresume) hwanted hpass, hform]
      refine ⟨hnone, ?_⟩
      rw [contents, contents] at hsame ⊢
      simp only [List.map_cons, hsame]
      simp [Part.data]
    · -- a part that is skipped
      obtain ⟨after, hresume, hafter⟩ := nextPart_follows hboundary h hpart
      rw [hresume] at hsound
      rw [hform] at hfault ⊢
      rw [readParts_of_unwanted h.ended (hlimit.symm.trans hresume) hwanted]
      exact ih hafter hfault (by have := hsound.shorter; omega)

/-- Skipping data that nobody wants is reading it. -/
lemma readParts_skip (hended : reader.ended = true) {name : Option String} {fuel : Nat}
    (hfault : (readParts settings isWanted fuel (.unwanted name) reader).fault = none) :
    ∃ data last, pass settings reader = .last data last ∧
      readParts settings isWanted fuel (.unwanted name) reader
        = readParts settings isWanted fuel .delimiter last := by
  cases hcut : Bytes.cutBefore? settings.dataEnd reader.buffer with
  | none =>
    exfalso
    have hresume : resume settings (.unwanted name) reader = .failed (.incompleteData name) := by
      rw [resume, skip, pass_of_ended hended, hcut]
    cases fuel with
    | zero => cases hfault
    | succ fuel =>
      rw [readParts, nextPart_of_ended hended, hresume] at hfault
      cases hfault
  | some found =>
    obtain ⟨data, rest⟩ := found
    have hpass : pass settings reader = .last data (reader.with (rest.drop lineBreak.length)) := by
      rw [pass_of_ended hended, hcut]
    refine ⟨data, _, hpass, readParts_congr hended (by exact hended) ?_ fuel⟩
    show skip settings name reader = readDelimiter settings _
    rw [skip, hpass]

/-- With all bytes at hand the data of a part is found in one step. -/
lemma pass_of_readData {name : Option String} {fuel : Nat} {pieces : List Bytes}
    (hended : reader.ended = true)
    (hdata : readData settings name (fuel + 1) reader = (pieces, .ok next)) :
    pass settings reader = .last pieces.flatten next := by
  rw [readData, fill_of_ended hended] at hdata
  simp only [pass_of_ended hended] at hdata
  rw [pass_of_ended hended]
  cases hcut : Bytes.cutBefore? settings.dataEnd reader.buffer with
  | none => simp [hcut] at hdata
  | some found =>
    obtain ⟨data, rest⟩ := found
    simp only [hcut, Prod.mk.injEq, Except.ok.injEq] at hdata
    obtain ⟨rfl, rfl⟩ := hdata
    simp

/-- With all bytes at hand the data of a part that is wanted ends, if the form does. -/
lemma pass_of_wanted (hended : reader.ended = true)
    (hresume : resume settings stage reader = .part headers next)
    (hwanted : isWanted headers = true) {fuel : Nat}
    (hfault : (readParts settings isWanted (fuel + 1) stage reader).fault = none) :
    ∃ data last, pass settings next = .last data last := by
  have hnext : next.ended = true := ended_of_part hended hresume
  obtain ⟨hnone, -⟩ | ⟨found, after, hpart, hcases⟩ := readParts_cases hfault
  · simp [nextPart_of_ended hended, hresume] at hnone
  · simp only [nextPart_of_ended hended, hresume, Except.ok.injEq, Option.some.injEq,
      Prod.mk.injEq] at hpart
    obtain ⟨rfl, rfl⟩ := hpart
    rcases hcases with ⟨-, pieces, last, hdata, -⟩ | ⟨hnot, -⟩
    · exact ⟨_, _, pass_of_readData hnext hdata⟩
    · rw [hwanted] at hnot
      cases hnot

/-- The parts that are wanted are those among all parts. -/
lemma readParts_filter (hended : reader.ended = true) {fuel : Nat}
    (hfault : (readParts settings isWanted fuel stage reader).fault = none)
    {room : Nat} (hroom : reader.buffer.length < room) :
    (readParts settings (fun _ => true) room stage reader).fault = none ∧
      (readParts settings isWanted fuel stage reader).contents
        = (readParts settings (fun _ => true) room stage reader).contents.filter
            fun (headers, _) => isWanted headers := by
  induction fuel generalizing stage reader room with
  | zero => cases hfault
  | succ fuel ih =>
    obtain ⟨room, rfl⟩ : ∃ n, room = n + 1 := ⟨room - 1, by omega⟩
    have hsound : Progress.Sound reader (resume settings stage reader) :=
      resume_sound hended stage
    -- both readings find the same next part, since that does not depend on what is wanted
    cases hresume : resume settings stage reader with
    | finished =>
      rw [readParts_of_finished hended hresume, readParts_of_finished hended hresume]
      exact ⟨rfl, rfl⟩
    | failed error =>
      rw [readParts, nextPart_of_ended hended, hresume] at hfault
      cases hfault
    | wait later next =>
      rw [hresume] at hsound
      exact hsound.elim
    | part headers next =>
      rw [hresume] at hsound
      obtain ⟨-, hnext, hshorter⟩ := hsound
      cases hwanted : isWanted headers with
      | true =>
        obtain ⟨data, last, hpass⟩ := pass_of_wanted hended hresume hwanted hfault
        obtain ⟨hlast, hless⟩ := pass_shrinks hnext hpass
        rw [readParts_of_wanted hended hresume hwanted hpass] at hfault ⊢
        rw [readParts_of_wanted hended hresume rfl hpass]
        obtain ⟨hnone, hsame⟩ := ih hlast hfault
          (show last.buffer.length < room by omega)
        refine ⟨hnone, ?_⟩
        rw [contents, contents] at hsame ⊢
        simp only [List.map_cons, List.filter_cons, hwanted, if_true, hsame]
      | false =>
        rw [readParts_of_unwanted hended hresume hwanted] at hfault ⊢
        -- where one reading skips the data, the other one reads it, and both go on behind it
        obtain ⟨data, last, hpass, hskip⟩ := readParts_skip hnext hfault
        obtain ⟨hlast, hless⟩ := pass_shrinks hnext hpass
        rw [hskip] at hfault ⊢
        rw [readParts_of_wanted hended hresume rfl hpass]
        obtain ⟨hnone, hsame⟩ := ih hlast hfault
          (show last.buffer.length < room by omega)
        refine ⟨hnone, ?_⟩
        rw [hsame]
        simp only [contents, List.map_cons, List.filter_cons, hwanted, Bool.false_eq_true, if_false]

/-- What is found as the next part has clean headers. -/
lemma found_of_nextPart (hended : reader.ended = true) {fuel : Nat}
    (hpart : nextPart settings (fuel + 1) stage reader = .ok (some (headers, next))) :
    Reader.Found reader next headers := by
  have hsound : Progress.Sound reader (resume settings stage reader) := resume_sound hended stage
  rw [nextPart_of_ended hended] at hpart
  cases hresume : resume settings stage reader with
  | part found after =>
    rw [hresume] at hsound
    simp only [hresume, Except.ok.injEq, Option.some.injEq, Prod.mk.injEq] at hpart
    obtain ⟨rfl, rfl⟩ := hpart
    exact hsound
  | finished => simp [hresume] at hpart
  | wait later after => simp [hresume] at hpart
  | failed error => simp [hresume] at hpart

/-- The parts of a form have clean headers. -/
lemma clean_of_mem_readParts (hended : reader.ended = true) {fuel : Nat}
    (hfault : (readParts settings isWanted fuel stage reader).fault = none) :
    ∀ part ∈ (readParts settings isWanted fuel stage reader).parts,
      HeaderBlock.Clean part.headers := by
  induction fuel generalizing stage reader with
  | zero => cases hfault
  | succ fuel ih =>
    obtain ⟨-, hform⟩ | ⟨headers, next, hpart, ⟨-, pieces, last, hdata, hform⟩ | ⟨-, hform⟩⟩ :=
      readParts_cases hfault
    · rw [hform]
      simp
    · have hfound := found_of_nextPart hended hpart
      have hlast := pass_shrinks hfound.ended (pass_of_readData hfound.ended hdata)
      rw [hform] at hfault ⊢
      intro part hmem
      rcases List.mem_cons.1 hmem with rfl | hmem
      · exact hfound.clean
      · exact ih hlast.1 hfault part hmem
    · rw [hform] at hfault ⊢
      exact ih (found_of_nextPart hended hpart).ended hfault

/-! ### A form in one piece -/

lemma fill_once {body : Bytes} {limit : Nat} (hlimit : body.length ≤ limit) :
    Reader.fill limit ⟨[], Stream.once body, false, 0⟩ = .ok ⟨body, [], true, body.length⟩ := by
  cases body with
  | nil => rfl
  | cons b rest =>
    have hfits : ¬ limit < 0 + (b :: rest).length := by omega
    simp only [Reader.fill, Stream.once, List.isEmpty_cons, Bool.false_eq_true, if_false, ready,
      hfits]
    simp [Except.map]

lemma streamSize_once (body : Bytes) : streamSize (Stream.once body) = body.length := by
  cases body <;> rfl

/-- A form in one piece is read with all its bytes at hand. -/
lemma readWhere_once {boundary body : Bytes} {limit : Nat} (hlimit : body.length ≤ limit) :
    readWhere ⟨boundary, limit⟩ isWanted (Stream.once body)
      = readParts ⟨boundary, limit⟩ isWanted (body.length + 2) .preamble
          ⟨body, [], true, body.length⟩ := by
  rw [readWhere, streamSize_once, readParts, readParts, nextPart_of_fill (fill_once hlimit) rfl,
    nextPart_of_ended rfl]

/-- **A form does not depend on how it arrives.**  If the wanted parts of a form are read to its
end, however the stream is cut and wherever it pauses, then all its parts are read from the same
bytes in one piece, and the wanted ones are those among them. -/
theorem readWhere_contents (hboundary : 13 ∉ settings.boundary) {stream : Stream String}
    (hfault : (readWhere settings isWanted stream).fault = none) {limit : Nat}
    (hlimit : stream.deliver.bytes.length ≤ limit) :
    (read ⟨settings.boundary, limit⟩ (Stream.once stream.deliver.bytes)).fault = none ∧
      (readWhere settings isWanted stream).contents
        = (read ⟨settings.boundary, limit⟩ (Stream.once stream.deliver.bytes)).contents.filter
            fun (headers, _) => isWanted headers := by
  have hwhole : Reader.Whole ⟨[], stream, false, 0⟩
      ⟨stream.deliver.bytes, [], true, stream.deliver.bytes.length⟩ :=
    ⟨rfl, rfl, fun h => nomatch h⟩
  obtain ⟨hnone, hsame⟩ := readParts_follows hboundary hwhole hfault limit (Nat.lt_succ_self _)
  rw [read, readWhere_once hlimit]
  obtain ⟨hall, hfilter⟩ := readParts_filter rfl hnone (Nat.lt_succ_of_lt (Nat.lt_succ_self _))
  exact ⟨hall, hsame.symm.trans hfilter⟩

/-- The headers of every part are clean. -/
lemma clean_of_mem_contents (hboundary : 13 ∉ settings.boundary) {stream : Stream String}
    (hfault : (readWhere settings isWanted stream).fault = none) :
    ∀ content ∈ (readWhere settings isWanted stream).contents, HeaderBlock.Clean content.1 := by
  obtain ⟨hnone, hsame⟩ := readWhere_contents hboundary hfault le_rfl
  rw [read, readWhere_once le_rfl] at hnone hsame
  intro content hcontent
  rw [hsame] at hcontent
  obtain ⟨part, hpart, rfl⟩ := List.mem_map.1 (List.mem_filter.1 hcontent).1
  exact clean_of_mem_readParts rfl hnone part hpart

end Form

end Intercept
