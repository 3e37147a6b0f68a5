/-
# What the gauge shows

A call that takes a slot or gives one back changes the number of slots that are taken, and records
the new number afterwards, so that other calls may come in between.  Each change is recorded once,
but not always in the order of the changes.  So when nothing is left to be recorded, the gauge shows
the number of slots that are taken just if the change that was recorded last came to the same number
as the change that was made last (`gauge?_of_isQuiet`).

Two calls are enough to make the gauge wrong, and it stays wrong until the next change
(`not_value_of_isQuiet`).
-/
import Intercept.Proofs.Image.Turnstile

namespace Intercept

/-- What a call has left to record. -/
def Call.due : Call → List Nat
  | taken live => [live.toNat]
  | returned live => [live.toNat - 1]
  | _ => []

namespace Turnstile

open scoped List

variable {ceiling : UInt32} {turnstile : Turnstile} {turns : List Turn} {i : Nat}

/-- What all calls have left to record. -/
def due (turnstile : Turnstile) : List Nat := turnstile.calls.flatMap Call.due

/-- No call has anything left to record. -/
def IsQuiet (turnstile : Turnstile) : Prop := turnstile.due = []

instance (turnstile : Turnstile) : Decidable turnstile.IsQuiet :=
  inferInstanceAs (Decidable (_ = _))

/-- What the gauge shows; nothing if it was never set. -/
def gauge? (turnstile : Turnstile) : Option Nat :=
  turnstile.counters.journal.values.lookup .scalersAlive

/-! ### One turn -/

/-- The number of slots that are taken after a turn, if the turn changes it. -/
def changed (turnstile : Turnstile) (turn : Turn) : List Nat :=
  if (turnstile.step turn).counters.live = turnstile.counters.live then []
  else [(turnstile.step turn).counters.live.toNat]

/-- What a turn records. -/
def recorded (turnstile : Turnstile) : Turn → List Nat
  | .arrive => []
  | .advance i _ => (turnstile.calls[i]?).elim [] Call.due

/-- What a turn does to the number of slots that are taken and to the gauge. -/
inductive Books (turnstile after : Turnstile) : List Nat → List Nat → Prop where
  /-- Nothing. -/
  | nothing (hlive : after.counters.live = turnstile.counters.live)
      (hgauge : after.gauge? = turnstile.gauge?) (hdue : after.due ~ turnstile.due) :
    Books turnstile after [] []
  /-- It changes the number, which is to be recorded. -/
  | changes {n : Nat} (hlive : after.counters.live.toNat = n)
      (hgauge : after.gauge? = turnstile.gauge?) (hdue : after.due ~ n :: turnstile.due) :
    Books turnstile after [n] []
  /-- It records a number. -/
  | records {n : Nat} (hlive : after.counters.live = turnstile.counters.live)
      (hgauge : after.gauge? = some n) (hdue : n :: after.due ~ turnstile.due) :
    Books turnstile after [] [n]

/-- If a call goes on, what all calls have left to record changes as for it. -/
lemma due_set {calls : List Call} {call : Call} (hcall : calls[i]? = some call) (next : Call) :
    call.due ++ (calls.set i next).flatMap Call.due ~ next.due ++ calls.flatMap Call.due := by
  induction calls generalizing i with
  | nil => cases hcall
  | cons first rest ih =>
    cases i with
    | zero =>
      obtain rfl := Option.some.inj hcall
      rw [List.set_cons_zero, List.flatMap_cons, List.flatMap_cons]
      exact List.perm_append_comm_assoc _ _ _
    | succ i =>
      rw [List.set_cons_succ, List.flatMap_cons, List.flatMap_cons]
      calc call.due ++ (first.due ++ (rest.set i next).flatMap Call.due)
        _ ~ first.due ++ (call.due ++ (rest.set i next).flatMap Call.due) :=
          List.perm_append_comm_assoc _ _ _
        _ ~ first.due ++ (next.due ++ rest.flatMap Call.due) := (ih hcall).append_left _
        _ ~ next.due ++ (first.due ++ rest.flatMap Call.due) := List.perm_append_comm_assoc _ _ _

/-- Recording another metric does not change what the gauge shows. -/
lemma lookup_count {metric : Metric} (hother : Metric.scalersAlive ≠ metric) (journal : Journal)
    (n : Nat) : (journal.count metric n).values.lookup .scalersAlive
      = journal.values.lookup .scalersAlive := by
  rw [Journal.count, Journal.set, Journal.lookup_put, if_neg hother]

lemma lookup_set (journal : Journal) (n : Nat) :
    (journal.set .scalersAlive n).values.lookup .scalersAlive = some n := by
  rw [Journal.set, Journal.lookup_put, if_pos rfl]

/-- A turn after which as many slots are taken changes nothing. -/
lemma changed_of_eq {turn : Turn} {after : Turnstile} (hstep : turnstile.step turn = after)
    (hlive : after.counters.live = turnstile.counters.live) : turnstile.changed turn = [] := by
  rw [changed, hstep, if_pos hlive]

lemma changed_of_ne {turn : Turn} {after : Turnstile} (hstep : turnstile.step turn = after)
    (hlive : after.counters.live.toNat ≠ turnstile.counters.live.toNat) :
    turnstile.changed turn = [after.counters.live.toNat] := by
  rw [changed, hstep, if_neg fun hsame => hlive (congrArg UInt32.toNat hsame)]

/-- A call that goes on changes the number of slots that are taken, or records a number, or
neither. -/
lemma Kept.books_advance (h : Kept ceiling turnstile) {call : Call}
    (hcall : turnstile.calls[i]? = some call) (weak : Bool) :
    Books turnstile (turnstile.step (.advance i weak)) (turnstile.changed (.advance i weak))
      call.due := by
  have hstep : ∀ {counters : Counters} {next : Call},
      call.advance weak turnstile.counters = (counters, next) →
      turnstile.step (.advance i weak) = ⟨counters, turnstile.calls.set i next⟩ := by
    intro counters next hadvance
    rw [Turnstile.step, hcall]
    simp only [hadvance]
  have hidle : ∀ {counters : Counters} {next : Call},
      call.advance weak turnstile.counters = (counters, next) → call.due = [] → next.due = [] →
      counters.live = turnstile.counters.live →
      counters.journal.values.lookup .scalersAlive = turnstile.gauge? →
      Books turnstile (turnstile.step (.advance i weak)) (turnstile.changed (.advance i weak))
        call.due := by
    intro counters next hadvance hcallDue hnextDue hlive hgauge
    have hdue := due_set hcall next
    rw [hcallDue, hnextDue] at hdue
    rw [changed_of_eq (hstep hadvance) hlive, hstep hadvance, hcallDue]
    exact .nothing hlive hgauge hdue
  cases call with
  | arrived => exact hidle rfl rfl rfl rfl rfl
  | seen live =>
    have hdue := due_set hcall (.taken (live + 1))
    by_cases hfull : turnstile.counters.ceiling ≤ live
    · exact hidle (if_pos hfull) rfl rfl rfl rfl
    · by_cases htaken : turnstile.counters.live = live ∧ weak = false
      · have hadvance := hstep (by rw [Call.advance, if_neg hfull, if_pos htaken])
        obtain ⟨rfl, rfl⟩ := htaken
        have hlive := toNat_succ (UInt32.not_le.1 hfull)
        rw [changed_of_ne hadvance (by rw [hlive]; exact Nat.succ_ne_self _), hadvance]
        exact .changes rfl rfl hdue
      · exact hidle (by rw [Call.advance, if_neg hfull, if_neg htaken]) rfl rfl rfl rfl
  | taken live =>
    rw [changed_of_eq (hstep rfl) rfl, hstep rfl]
    exact .records rfl (lookup_set _ _) (due_set hcall .admitted)
  | admitted =>
    -- the slot of the call is among those that are taken
    have hheld : 0 < turnstile.counters.live.toNat := by
      rw [h.live]
      exact List.countP_pos_iff.2 ⟨_, List.mem_of_getElem? hcall, rfl⟩
    have hlive := toNat_pred hheld
    have hdue := due_set hcall (.returned turnstile.counters.live)
    rw [changed_of_ne (hstep rfl) (by rw [← hlive]; exact (Nat.succ_ne_self _).symm), hstep rfl]
    refine .changes rfl rfl ?_
    rwa [Call.due, ← hlive] at hdue
  | returned live =>
    rw [changed_of_eq (hstep rfl) rfl, hstep rfl]
    exact .records rfl (lookup_set _ _) (due_set hcall .left)
  | left => exact hidle rfl rfl rfl rfl rfl
  | rejected => exact hidle rfl rfl rfl rfl (lookup_count (by decide) _ _)
  | refused => exact hidle rfl rfl rfl rfl rfl

/-- A turn changes the number of slots that are taken, or records a number, or neither. -/
lemma Kept.books (h : Kept ceiling turnstile) (turn : Turn) :
    Books turnstile (turnstile.step turn) (turnstile.changed turn) (turnstile.recorded turn) := by
  cases turn with
  | arrive =>
    have hdue : due { turnstile with calls := turnstile.calls ++ [.arrived] } = turnstile.due := by
      simp [due, Call.due]
    rw [changed_of_eq rfl rfl]
    exact .nothing rfl rfl (.of_eq hdue)
  | advance i weak =>
    cases hcall : turnstile.calls[i]? with
    | none =>
      have hstep : turnstile.step (.advance i weak) = turnstile := by rw [Turnstile.step, hcall]
      rw [changed_of_eq hstep rfl, hstep, recorded, hcall]
      exact .nothing rfl rfl (.refl _)
    | some call =>
      rw [recorded, hcall]
      exact h.books_advance hcall weak

/-! ### Whole runs -/

/-- What turns do one after the other, where `entry` says what one of them does. -/
def trail (entry : Turnstile → Turn → List Nat) : Turnstile → List Turn → List Nat
  | _, [] => []
  | turnstile, turn :: rest => entry turnstile turn ++ trail entry (turnstile.step turn) rest

/-- The numbers of slots that the changes in a run have come to, in the order of the changes. -/
def changes (ceiling : UInt32) (turns : List Turn) : List Nat :=
  trail changed (run ceiling []) turns

/-- The numbers of slots that were recorded in a run, in the order of the records. -/
def records (ceiling : UInt32) (turns : List Turn) : List Nat :=
  trail recorded (run ceiling []) turns

lemma trail_concat (entry : Turnstile → Turn → List Nat) (turnstile : Turnstile)
    (turns : List Turn) (turn : Turn) :
    trail entry turnstile (turns ++ [turn])
      = trail entry turnstile turns ++ entry (turns.foldl step turnstile) turn := by
  induction turns generalizing turnstile with
  | nil => exact List.append_nil _
  | cons first rest ih =>
    rw [List.cons_append, trail, trail, ih, List.append_assoc]
    rfl

lemma changes_concat (ceiling : UInt32) (turns : List Turn) (turn : Turn) :
    changes ceiling (turns ++ [turn]) = changes ceiling turns ++ (run ceiling turns).changed turn :=
  trail_concat changed _ turns turn

lemma records_concat (ceiling : UInt32) (turns : List Turn) (turn : Turn) :
    records ceiling (turns ++ [turn])
      = records ceiling turns ++ (run ceiling turns).recorded turn :=
  trail_concat recorded _ turns turn

/-- What every run keeps: as many slots are taken as the last change has come to, the gauge shows
what was recorded last, and every change was recorded or is to be recorded. -/
structure Booked (ceiling : UInt32) (turns : List Turn) : Prop where
  live : (run ceiling turns).counters.live.toNat = (changes ceiling turns).getLast?.getD 0
  gauge : (run ceiling turns).gauge? = (records ceiling turns).getLast?
  due : records ceiling turns ++ (run ceiling turns).due ~ changes ceiling turns

lemma booked_run (ceiling : UInt32) (turns : List Turn) : Booked ceiling turns := by
  induction turns using List.reverseRecOn with
  | nil => exact ⟨rfl, rfl, .refl _⟩
  | append_singleton turns turn ih =>
    have hbooks := (kept_run ceiling turns).books turn
    rw [← run_concat] at hbooks
    generalize hchanged : (run ceiling turns).changed turn = changed at hbooks
    generalize hrecorded : (run ceiling turns).recorded turn = recorded at hbooks
    have hchanges := changes_concat ceiling turns turn
    have hrecords := records_concat ceiling turns turn
    rw [hchanged] at hchanges
    rw [hrecorded] at hrecords
    cases hbooks with
    | nothing hlive hgauge hdue =>
      rw [List.append_nil] at hchanges hrecords
      refine ⟨?_, ?_, ?_⟩
      · rw [hlive, hchanges, ih.live]
      · rw [hgauge, hrecords, ih.gauge]
      · rw [hchanges, hrecords]
        exact (hdue.append_left _).trans ih.due
    | @changes n hlive hgauge hdue =>
      rw [List.append_nil] at hrecords
      refine ⟨?_, ?_, ?_⟩
      · rw [hlive, hchanges, List.getLast?_concat, Option.getD_some]
      · rw [hgauge, hrecords, ih.gauge]
      · rw [hchanges, hrecords]
        calc records ceiling turns ++ (run ceiling (turns ++ [turn])).due
          _ ~ records ceiling turns ++ n :: (run ceiling turns).due := hdue.append_left _
          _ ~ n :: (records ceiling turns ++ (run ceiling turns).due) := List.perm_middle
          _ ~ n :: changes ceiling turns := ih.due.cons n
          _ ~ changes ceiling turns ++ [n] := (List.perm_append_singleton n _).symm
    | @records n hlive hgauge hdue =>
      rw [List.append_nil] at hchanges
      refine ⟨?_, ?_, ?_⟩
      · rw [hlive, hchanges, ih.live]
      · rw [hgauge, hrecords, List.getLast?_concat]
      · rw [hchanges, hrecords, List.append_assoc]
        exact (hdue.append_left _).trans ih.due

/-- No call changes the number of slots that are taken before the one that changed it last has
recorded that. -/
def TakesTurns (ceiling : UInt32) (turns : List Turn) : Prop :=
  ∀ before rest, turns = before ++ rest → (run ceiling before).due.length ≤ 1

lemma TakesTurns.of_concat {turn : Turn} (h : TakesTurns ceiling (turns ++ [turn])) :
    TakesTurns ceiling turns := by
  rintro before rest rfl
  exact h before (rest ++ [turn]) (List.append_assoc _ _ _)

lemma eq_of_perm {front back : List Nat} (hperm : front ~ back) (hshort : front.length ≤ 1) :
    front = back := by
  match front with
  | [] => exact (List.nil_perm.1 hperm).symm
  | [n] => exact List.singleton_perm.1 hperm
  | _ :: _ :: _ => simp at hshort

/-- Calls that take turns record the changes in their order. -/
lemma records_append_due (h : TakesTurns ceiling turns) :
    records ceiling turns ++ (run ceiling turns).due = changes ceiling turns := by
  induction turns using List.reverseRecOn with
  | nil => rfl
  | append_singleton turns turn ih =>
    have hbefore := h turns [turn] rfl
    have hafter := h (turns ++ [turn]) [] (List.append_nil _).symm
    have hbooks := (kept_run ceiling turns).books turn
    rw [changes_concat, records_concat, ← ih h.of_concat]
    rw [← run_concat] at hbooks
    generalize (run ceiling turns).changed turn = changed at hbooks ⊢
    generalize (run ceiling turns).recorded turn = recorded at hbooks ⊢
    cases hbooks with
    | nothing hlive hgauge hdue =>
      rw [eq_of_perm hdue hafter, List.append_nil, List.append_nil]
    | changes hlive hgauge hdue =>
      have hsame := eq_of_perm hdue hafter
      have hnone : (run ceiling turns).due = [] := by
        rw [hsame, List.length_cons] at hafter
        exact List.eq_nil_of_length_eq_zero (Nat.le_zero.1 (Nat.le_of_succ_le_succ hafter))
      rw [hsame, hnone, List.append_nil]
    | records hlive hgauge hdue =>
      have hsame := eq_of_perm hdue.symm hbefore
      have hnone : (run ceiling (turns ++ [turn])).due = [] := by
        rw [hsame, List.length_cons] at hbefore
        exact List.eq_nil_of_length_eq_zero (Nat.le_zero.1 (Nat.le_of_succ_le_succ hbefore))
      rw [hsame, hnone, List.append_nil]

/-- **What the gauge shows.**  Any number of calls go on by single accesses in any order, until
nothing is left to be recorded.  Then every change of the number of slots that are taken was
recorded once, as many slots are taken as the last change came to, and the gauge shows what was
recorded last, if anything was.  So the gauge shows how many slots are taken exactly if there was a
change, and the last record came to the same number as the last change.  It does so whenever the
calls take turns. -/
theorem gauge?_of_isQuiet (ceiling : UInt32) (turns : List Turn)
    (hquiet : (run ceiling turns).IsQuiet) :
    records ceiling turns ~ changes ceiling turns ∧
    (run ceiling turns).counters.live.toNat = (changes ceiling turns).getLast?.getD 0 ∧
    (run ceiling turns).gauge? = (records ceiling turns).getLast? ∧
    ((run ceiling turns).gauge? = some (run ceiling turns).counters.live.toNat ↔
      changes ceiling turns ≠ [] ∧
        (records ceiling turns).getLast? = (changes ceiling turns).getLast?) ∧
    (TakesTurns ceiling turns → changes ceiling turns ≠ [] →
      (run ceiling turns).gauge? = some (run ceiling turns).counters.live.toNat) := by
  obtain ⟨hlive, hgauge, hdue⟩ := booked_run ceiling turns
  have hrecorded : records ceiling turns ~ changes ceiling turns := by
    rwa [hquiet, List.append_nil] at hdue
  have hexact : (run ceiling turns).gauge? = some (run ceiling turns).counters.live.toNat ↔
      changes ceiling turns ≠ [] ∧
        (records ceiling turns).getLast? = (changes ceiling turns).getLast? := by
    rw [hgauge, hlive]
    cases hlast : (changes ceiling turns).getLast? with
    | none =>
      -- without a change there is no record
      rw [List.getLast?_eq_none_iff] at hlast
      rw [hlast, List.perm_nil] at hrecorded
      simp [hlast, hrecorded]
    | some n =>
      have hne : changes ceiling turns ≠ [] := by
        intro hnone
        rw [hnone] at hlast
        cases hlast
      simp [hne]
  refine ⟨hrecorded, hlive, hgauge, hexact, fun hturns hne => hexact.2 ⟨hne, ?_⟩⟩
  rw [← records_append_due hturns, hquiet, List.append_nil]

/-- Two calls take a slot, and the one that took it last is the first to record it. -/
def overtakingTurns : List Turn := [.arrive, .advance 0 false, .advance 0 false, .arrive,
  .advance 1 false, .advance 1 false, .advance 1 false, .advance 0 false]

/-- When one call has overtaken the other, two slots are taken, and the gauge shows one. -/
theorem gauge?_of_isQuiet_overtaking :
    (run 2 overtakingTurns).calls = [.admitted, .admitted] ∧
      (run 2 overtakingTurns).gauge? = some 1 ∧
      (run 2 overtakingTurns).counters.live.toNat = 2 := by
  have hquiet : (run 2 overtakingTurns).IsQuiet := by decide
  obtain ⟨-, hlive, hgauge, -⟩ := gauge?_of_isQuiet 2 overtakingTurns hquiet
  have hchanges : changes 2 overtakingTurns = [1, 2] := by decide
  have hrecords : records 2 overtakingTurns = [2, 1] := by decide
  refine ⟨by decide, ?_, ?_⟩
  · rw [hgauge, hrecords]
    rfl
  · rw [hlive, hchanges]
    rfl

/-- The gauge may be wrong when nothing is left to be recorded, also where a gauge that was never
set is taken to show zero. -/
theorem not_value_of_isQuiet :
    ¬ ∀ (ceiling : UInt32) (turns : List Turn), (run ceiling turns).IsQuiet →
      (run ceiling turns).counters.journal.value .scalersAlive
        = (run ceiling turns).counters.live.toNat := by
  intro htrue
  have hwrong := htrue 2 overtakingTurns (by decide)
  revert hwrong
  decide

end Turnstile

end Intercept
