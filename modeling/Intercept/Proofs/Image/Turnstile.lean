/-
# A gate that many calls share

Whatever the order in which any number of calls go on at a gate, as many slots are taken as calls
have one, and these are no more than there are.  What carries the proof is that a call which takes a
slot has just seen how many are taken (`Call.advance_access`), so that between seeing a number and
replacing it nothing needs to be known of the other calls.

What a turn does to the gate is what `Gate.acquire` and `Gate.release` say (`Turnstile.Kept.step`),
and a call during which no other goes on is `Site.acquire` (`Turnstile.acquire_alone`).
-/
import Mathlib.Data.List.Induction
import Intercept.Image.Turnstile
import Intercept.Proofs.Image.Slots

namespace Intercept

/-! ### One access -/

/-- What an access comes to, with the counters and the call before and after it. -/
inductive Call.Access (counters : Counters) : Call → Counters → Call → Prop where
  /-- The call sees how many slots are taken. -/
  | reads {call : Call} (hholds : call.holds = false) (hturned : call.isTurnedAway = false) :
    Access counters call counters (.seen counters.live)
  /-- It takes a slot. -/
  | takes (hroom : counters.live < counters.ceiling) :
    Access counters (.seen counters.live) { counters with live := counters.live + 1 }
      (.taken (counters.live + 1))
  /-- It counts itself as turned away, as it has seen no slot that is free. -/
  | refuses {live : UInt32} (hfull : counters.ceiling ≤ live) :
    Access counters (.seen live) { counters with rejected := counters.rejected + 1 } .rejected
  /-- It gives its slot back. -/
  | returns :
    Access counters .admitted { counters with live := counters.live - 1 } (.returned counters.live)
  /-- It records what it did, or it is over. -/
  | records {call next : Call} {journal : Journal} (hholds : next.holds = call.holds)
      (hturned : next.isTurnedAway = call.isTurnedAway) (hblind : ∀ live, next ≠ .seen live) :
    Access counters call { counters with journal } next

lemma Call.advance_access (weak : Bool) (counters : Counters) (call : Call) :
    Access counters call (call.advance weak counters).1 (call.advance weak counters).2 := by
  cases call with
  | arrived => exact .reads rfl rfl
  | seen live =>
    rw [advance]
    split
    · next hfull => exact .refuses hfull
    · next hroom =>
      split
      · next htaken =>
        obtain ⟨rfl, -⟩ := htaken
        exact .takes (UInt32.not_le.1 hroom)
      · exact .reads rfl rfl
  | taken live => exact .records rfl rfl nofun
  | admitted => exact .returns
  | returned live => exact .records rfl rfl nofun
  | rejected => exact .records rfl rfl nofun
  | left => exact .records rfl rfl nofun
  | refused => exact .records rfl rfl nofun

namespace Turnstile

variable {ceiling : UInt32} {turnstile : Turnstile} {turns : List Turn} {i : Nat}

/-- The gate as the counters and the calls say it is. -/
def gate (turnstile : Turnstile) : Gate :=
  ⟨turnstile.counters.ceiling.toNat, turnstile.counters.live.toNat, turnstile.refusals⟩

/-- What every turn keeps: as many slots are taken as calls have one, which are no more than there
are, and as many calls are counted as were turned away. -/
structure Kept (ceiling : UInt32) (turnstile : Turnstile) : Prop where
  slots : turnstile.counters.ceiling = ceiling
  live : turnstile.counters.live.toNat = turnstile.held
  bound : turnstile.counters.live ≤ ceiling
  rejected : turnstile.counters.rejected = UInt64.ofNat turnstile.refusals

/-- What one turn does to a gate.  No counter of slots goes beyond its limits. -/
inductive Changes (before after : Turnstile) : Prop where
  /-- Nothing. -/
  | nothing (hgate : after.gate = before.gate)
      (hlive : after.counters.live = before.counters.live)
      (hrejected : after.counters.rejected = before.counters.rejected)
  /-- A slot is taken, as by `Gate.acquire`. -/
  | grants (hgate : before.gate.acquire = (true, after.gate))
      (hlive : after.counters.live.toNat = before.counters.live.toNat + 1)
      (hrejected : after.counters.rejected = before.counters.rejected)
  /-- A slot is given back, as by `Gate.release`. -/
  | returns (hgate : after.gate = before.gate.release)
      (hlive : after.counters.live.toNat + 1 = before.counters.live.toNat)
      (hrejected : after.counters.rejected = before.counters.rejected)
  /-- A call is counted as turned away. -/
  | refuses (hgate : after.gate = { before.gate with rejected := before.gate.rejected + 1 })
      (hlive : after.counters.live = before.counters.live)
      (hrejected : after.counters.rejected = before.counters.rejected + 1)

/-- A turn is a new call, or an access of one call, or nothing. -/
lemma step_cases (turnstile : Turnstile) (turn : Turn) :
    turnstile.step turn = { turnstile with calls := turnstile.calls ++ [.arrived] } ∨
    turnstile.step turn = turnstile ∨
    ∃ i weak call counters next, turn = .advance i weak ∧ turnstile.calls[i]? = some call ∧
      Call.Access turnstile.counters call counters next ∧
      turnstile.step turn = ⟨counters, turnstile.calls.set i next⟩ := by
  cases turn with
  | arrive => exact .inl rfl
  | advance i weak =>
    cases hcall : turnstile.calls[i]? with
    | none => exact .inr (.inl (by rw [step, hcall]))
    | some call =>
      refine .inr (.inr ⟨i, weak, call, _, _, rfl, hcall, call.advance_access weak _, ?_⟩)
      rw [step, hcall]

lemma kept_start (ceiling : UInt32) : Kept ceiling (run ceiling []) :=
  ⟨rfl, rfl, UInt32.le_iff_toNat_le.2 (Nat.zero_le _), rfl⟩

/-- Below the ceiling one more slot does not exceed what can be counted. -/
lemma toNat_succ {live ceiling : UInt32} (hroom : live < ceiling) :
    (live + 1).toNat = live.toNat + 1 := by
  have hlimit := ceiling.toNat_lt
  rw [UInt32.lt_iff_toNat_lt] at hroom
  rw [UInt32.toNat_add, UInt32.toNat_one]
  omega

/-- Where slots are taken, one can be given back. -/
lemma toNat_pred {live : UInt32} (htaken : 0 < live.toNat) :
    (live - 1).toNat + 1 = live.toNat := by
  have hone : 1 ≤ live := UInt32.le_iff_toNat_le.2 htaken
  rw [UInt32.toNat_sub_of_le _ _ hone, UInt32.toNat_one]
  exact Nat.sub_add_cancel htaken

section Access

variable {call next : Call}

/-- A call that sees or records something leaves the gate as it is. -/
lemma Kept.idle (h : Kept ceiling turnstile) (hcall : turnstile.calls[i]? = some call)
    (hholds : next.holds = call.holds) (hturned : next.isTurnedAway = call.isTurnedAway)
    (journal : Journal) :
    Kept ceiling ⟨{ turnstile.counters with journal }, turnstile.calls.set i next⟩ ∧
      Changes turnstile
        ⟨{ turnstile.counters with journal }, turnstile.calls.set i next⟩ := by
  have hheld : (turnstile.calls.set i next).countP Call.holds = turnstile.held := by
    have hcount := countP_set_add (p := Call.holds) hcall next
    rw [hholds] at hcount
    exact Nat.add_right_cancel hcount
  have hrefusals : (turnstile.calls.set i next).countP Call.isTurnedAway = turnstile.refusals := by
    have hcount := countP_set_add (p := Call.isTurnedAway) hcall next
    rw [hturned] at hcount
    exact Nat.add_right_cancel hcount
  exact ⟨⟨h.slots, h.live.trans hheld.symm, h.bound,
    h.rejected.trans (congrArg UInt64.ofNat hrefusals.symm)⟩,
    .nothing (congrArg (Gate.mk _ _) hrefusals) rfl rfl⟩

/-- A call that has just seen a free slot takes it. -/
lemma Kept.take (h : Kept ceiling turnstile) (live : UInt32)
    (hcall : turnstile.calls[i]? = some (.seen turnstile.counters.live))
    (hroom : turnstile.counters.live < turnstile.counters.ceiling) :
    let after : Turnstile :=
      ⟨{ turnstile.counters with live := turnstile.counters.live + 1 },
        turnstile.calls.set i (.taken live)⟩
    Kept ceiling after ∧ Changes turnstile after := by
  intro after
  have hheld : after.held = turnstile.held + 1 := countP_set_add (p := Call.holds) hcall _
  have hrefusals : after.refusals = turnstile.refusals :=
    countP_set_add (p := Call.isTurnedAway) hcall _
  have hlive : after.counters.live.toNat = turnstile.counters.live.toNat + 1 := toNat_succ hroom
  have hfree : turnstile.gate.live < turnstile.gate.ceiling := UInt32.lt_iff_toNat_lt.1 hroom
  refine ⟨⟨h.slots, ?_, ?_, h.rejected.trans (congrArg UInt64.ofNat hrefusals.symm)⟩,
    .grants ?_ hlive rfl⟩
  · rw [hlive, hheld, h.live]
  · rw [UInt32.le_iff_toNat_le, hlive, ← h.slots]
    exact hfree
  · rw [Gate.acquire, if_pos hfree, gate, gate, hlive, hrefusals]

/-- A call that has a slot gives it back. -/
lemma Kept.giveBack (h : Kept ceiling turnstile) (live : UInt32)
    (hcall : turnstile.calls[i]? = some .admitted) :
    let after : Turnstile :=
      ⟨{ turnstile.counters with live := turnstile.counters.live - 1 },
        turnstile.calls.set i (.returned live)⟩
    Kept ceiling after ∧ Changes turnstile after := by
  intro after
  have hheld : after.held + 1 = turnstile.held := countP_set_add (p := Call.holds) hcall _
  have hrefusals : after.refusals = turnstile.refusals :=
    countP_set_add (p := Call.isTurnedAway) hcall _
  -- the slot of the call is among those that are taken
  have hlive : after.counters.live.toNat + 1 = turnstile.counters.live.toNat := by
    refine toNat_pred ?_
    rw [h.live, ← hheld]
    exact Nat.succ_pos _
  have hpred : after.counters.live.toNat = turnstile.counters.live.toNat - 1 :=
    Nat.eq_sub_of_add_eq hlive
  refine ⟨⟨h.slots, ?_, ?_, h.rejected.trans (congrArg UInt64.ofNat hrefusals.symm)⟩,
    .returns ?_ hlive rfl⟩
  · rw [← Nat.add_right_cancel_iff, hlive, hheld, h.live]
  · rw [UInt32.le_iff_toNat_le, hpred]
    exact Nat.le_trans (Nat.sub_le _ _) (UInt32.le_iff_toNat_le.1 h.bound)
  · rw [gate, hpred, hrefusals]
    rfl

/-- A call that has seen no free slot is turned away. -/
lemma Kept.refuse (h : Kept ceiling turnstile) {live : UInt32}
    (hcall : turnstile.calls[i]? = some (.seen live)) :
    let after : Turnstile :=
      ⟨{ turnstile.counters with rejected := turnstile.counters.rejected + 1 },
        turnstile.calls.set i .rejected⟩
    Kept ceiling after ∧ Changes turnstile after := by
  intro after
  have hheld : after.held = turnstile.held := countP_set_add (p := Call.holds) hcall _
  have hrefusals : after.refusals = turnstile.refusals + 1 :=
    countP_set_add (p := Call.isTurnedAway) hcall _
  refine ⟨⟨h.slots, h.live.trans hheld.symm, h.bound, ?_⟩, .refuses ?_ rfl rfl⟩
  · rw [hrefusals, UInt64.ofNat_add, ← h.rejected]
    rfl
  · rw [gate, hrefusals]
    rfl

/-- What an access of one call does to the gate. -/
lemma Kept.access (h : Kept ceiling turnstile) {counters : Counters}
    (hcall : turnstile.calls[i]? = some call)
    (haccess : Call.Access turnstile.counters call counters next) :
    Kept ceiling ⟨counters, turnstile.calls.set i next⟩ ∧
      Changes turnstile ⟨counters, turnstile.calls.set i next⟩ := by
  cases haccess with
  | reads hholds hturned =>
    exact h.idle hcall (by rw [hholds]; rfl) (by rw [hturned]; rfl) turnstile.counters.journal
  | takes hroom => exact h.take _ hcall hroom
  | refuses hfull => exact h.refuse hcall
  | returns => exact h.giveBack _ hcall
  | records hholds hturned hblind => exact h.idle hcall hholds hturned _

end Access

/-- What one turn does to a gate. -/
lemma Kept.step (h : Kept ceiling turnstile) (turn : Turn) :
    Kept ceiling (turnstile.step turn) ∧ Changes turnstile (turnstile.step turn) := by
  rcases step_cases turnstile turn with hstep | hstep |
    ⟨i, weak, call, counters, next, -, hcall, haccess, hstep⟩
  · have hheld : held { turnstile with calls := turnstile.calls ++ [.arrived] } = turnstile.held :=
      List.countP_append
    have hrefusals : refusals { turnstile with calls := turnstile.calls ++ [.arrived] }
        = turnstile.refusals := List.countP_append
    rw [hstep]
    exact ⟨⟨h.slots, h.live.trans hheld.symm, h.bound,
      h.rejected.trans (congrArg UInt64.ofNat hrefusals.symm)⟩,
      .nothing (congrArg (Gate.mk _ _) hrefusals) rfl rfl⟩
  · rw [hstep]
    exact ⟨h, .nothing rfl rfl rfl⟩
  · rw [hstep]
    exact h.access hcall haccess

/-! ### Whole runs -/

lemma run_concat (ceiling : UInt32) (turns : List Turn) (turn : Turn) :
    run ceiling (turns ++ [turn]) = (run ceiling turns).step turn := by
  rw [run, List.foldl_append]
  rfl

lemma kept_run (ceiling : UInt32) (turns : List Turn) : Kept ceiling (run ceiling turns) := by
  induction turns using List.reverseRecOn with
  | nil => exact kept_start ceiling
  | append_singleton turns turn ih =>
    rw [run_concat]
    exact (ih.step turn).1

/-- In one of its turns a call has seen that this many slots were taken, and so it was then. -/
def Saw (ceiling : UInt32) (turns : List Turn) (i : Nat) (live : UInt32) : Prop :=
  ∃ before weak rest, turns = before ++ .advance i weak :: rest ∧
    (run ceiling before).counters.live = live ∧
    (run ceiling (before ++ [.advance i weak])).calls[i]? = some (.seen live)

lemma Saw.concat {live : UInt32} (h : Saw ceiling turns i live) (turn : Turn) :
    Saw ceiling (turns ++ [turn]) i live := by
  obtain ⟨before, weak, rest, rfl, hlive, hseen⟩ := h
  exact ⟨before, weak, rest ++ [turn], by simp, hlive, hseen⟩

/-- How a call has come to where it is: it has seen what it goes on with, and it was turned away
only when it had seen that no slot was free. -/
structure Explained (ceiling : UInt32) (turns : List Turn) (i : Nat) (call : Call) : Prop where
  seen : ∀ live, call = .seen live → Saw ceiling turns i live
  turnedAway : call.isTurnedAway = true → ∃ live, ceiling ≤ live ∧ Saw ceiling turns i live

lemma Explained.concat {call : Call} (h : Explained ceiling turns i call) (turn : Turn) :
    Explained ceiling (turns ++ [turn]) i call where
  seen live hcall := (h.seen live hcall).concat turn
  turnedAway hturned := by
    obtain ⟨live, hfull, hsaw⟩ := h.turnedAway hturned
    exact ⟨live, hfull, hsaw.concat turn⟩

/-- An access explains where it takes a call. -/
lemma Explained.access {call next : Call} {counters : Counters} {weak : Bool}
    (h : Explained ceiling turns i call) (hcall : (run ceiling turns).calls[i]? = some call)
    (haccess : Call.Access (run ceiling turns).counters call counters next)
    (hstep : (run ceiling turns).step (.advance i weak)
      = ⟨counters, (run ceiling turns).calls.set i next⟩) :
    Explained ceiling (turns ++ [.advance i weak]) i next := by
  cases haccess with
  | reads hholds hturned =>
    refine ⟨fun live hseen => ?_, nofun⟩
    obtain rfl := Call.seen.inj hseen
    refine ⟨turns, weak, [], rfl, rfl, ?_⟩
    obtain ⟨hlt, -⟩ := List.getElem?_eq_some_iff.1 hcall
    rw [run_concat, hstep, List.getElem?_set_self hlt]
  | takes hroom => exact ⟨nofun, nofun⟩
  | @refuses live hfull =>
    refine ⟨nofun, fun _ => ⟨live, ?_, (h.seen live rfl).concat _⟩⟩
    exact (kept_run ceiling turns).slots ▸ hfull
  | returns => exact ⟨nofun, nofun⟩
  | records hholds hturned hblind =>
    exact ⟨fun live hseen => absurd hseen (hblind live),
      fun haway => (h.concat _).turnedAway (hturned ▸ haway)⟩

/-- Every call is explained. -/
lemma explained_run (ceiling : UInt32) (turns : List Turn) :
    ∀ i call, (run ceiling turns).calls[i]? = some call → Explained ceiling turns i call := by
  induction turns using List.reverseRecOn with
  | nil =>
    intro i call hcall
    cases hcall
  | append_singleton turns turn ih =>
    intro j other hother
    rcases step_cases (run ceiling turns) turn with hstep | hstep |
      ⟨i, weak, call, counters, next, rfl, hcall, haccess, hstep⟩
    · rw [run_concat, hstep, List.getElem?_append] at hother
      split at hother
      · exact (ih j other hother).concat turn
      · rw [List.getElem?_singleton] at hother
        split at hother
        · obtain rfl := Option.some.inj hother
          exact ⟨nofun, nofun⟩
        · cases hother
    · rw [run_concat, hstep] at hother
      exact (ih j other hother).concat turn
    · rw [run_concat, hstep, List.getElem?_set] at hother
      obtain ⟨hlt, -⟩ := List.getElem?_eq_some_iff.1 hcall
      by_cases hsame : i = j
      · subst hsame
        rw [if_pos rfl, if_pos hlt] at hother
        obtain rfl := Option.some.inj hother
        exact (ih i call hcall).access hcall haccess hstep
      · rw [if_neg hsame] at hother
        exact (ih j other hother).concat _

/-- **The gate is safe.**  At a new gate with any number of slots, any number of calls go on by single
accesses in any order, and an attempt to take a slot may fail for no reason.  At any moment as many
slots are taken as calls have one, and no more than there are.  A turn takes one slot, gives one
back, turns one call away and leaves the slots alone, or does nothing, and no slot is counted beyond
what can be counted.  A call was only turned away when it had seen that no slot was free, which was
so when it saw it. -/
theorem safe_run (ceiling : UInt32) (turns : List Turn) :
    Kept ceiling (run ceiling turns) ∧
    (∀ turn, Changes (run ceiling turns) (run ceiling (turns ++ [turn]))) ∧
    ∀ i call, (run ceiling turns).calls[i]? = some call → call.isTurnedAway = true →
      ∃ live, ceiling ≤ live ∧ Saw ceiling turns i live := by
  refine ⟨kept_run ceiling turns, fun turn => ?_, fun i call hcall => ?_⟩
  · rw [run_concat]
    exact ((kept_run ceiling turns).step turn).2
  · exact (explained_run ceiling turns i call hcall).turnedAway

/-- Two calls have seen that the one slot is free.  The first one fails to take it for no reason, and
the second one takes it.  A third call is turned away. -/
def crowdedTurns : List Turn := [.arrive, .advance 0 false, .arrive, .advance 1 false,
  .advance 0 true, .advance 1 false, .arrive, .advance 2 false, .advance 2 false]

theorem safe_run_crowded :
    (run 1 crowdedTurns).calls = [.seen 0, .taken 1, .rejected] ∧
      (run 1 crowdedTurns).counters.live.toNat = 1 ∧
      ∃ live, 1 ≤ live ∧ Saw 1 crowdedTurns 2 live := by
  obtain ⟨hkept, -, hturned⟩ := safe_run 1 crowdedTurns
  have hcalls : (run 1 crowdedTurns).calls = [.seen 0, .taken 1, .rejected] := by
    decide
  have hcall : (run 1 crowdedTurns).calls[2]? = some .rejected := by
    rw [hcalls]
    rfl
  exact ⟨hcalls, by rw [hkept.live, held, hcalls]; rfl, hturned 2 .rejected hcall rfl⟩

/-! ### A call alone -/

lemma step_arrive (counters : Counters) (calls : List Call) :
    step ⟨counters, calls⟩ .arrive = ⟨counters, calls ++ [.arrived]⟩ := rfl

/-- The call that came last goes on. -/
lemma step_last (counters : Counters) (calls : List Call) (call : Call) (weak : Bool) :
    step ⟨counters, calls ++ [call]⟩ (.advance calls.length weak)
      = ⟨(call.advance weak counters).1, calls ++ [(call.advance weak counters).2]⟩ := by
  simp [step]

/-- **A call alone.**  What a call comes to during which no other goes on is `Site.acquire`. -/
theorem acquire_alone {site : Site} (hgate : site.gate = turnstile.gate)
    (hjournal : site.journal = turnstile.counters.journal) :
    let i := turnstile.calls.length
    let after := [Turn.arrive, .advance i false, .advance i false, .advance i false].foldl step
      turnstile
    Site.acquire.run site
      = (decide (after.calls[i]? = some .admitted),
        { site with gate := after.gate, journal := after.counters.journal }) := by
  obtain ⟨counters, calls⟩ := turnstile
  intro i after
  have hcall : ∀ call : Call, (calls ++ [call])[i]? = some call := fun call => by simp [i]
  have hacquire : Site.acquire.run site
      = (site.gate.acquire.1, { site with
          gate := site.gate.acquire.2
          journal :=
            if site.gate.acquire.1 then site.journal.set .scalersAlive site.gate.acquire.2.live
            else site.journal.count .scalersRefused 1 }) := rfl
  rw [hacquire, hgate, hjournal]
  by_cases hfull : counters.ceiling ≤ counters.live
  · have hafter : after = ⟨{ counters with
        rejected := counters.rejected + 1
        journal := counters.journal.count .scalersRefused 1 }, calls ++ [.refused]⟩ := by
      simp only [after, i, List.foldl_cons, List.foldl_nil, step_arrive, step_last, Call.advance,
        hfull, if_true]
    have hnot : ¬ (gate ⟨counters, calls⟩).live < (gate ⟨counters, calls⟩).ceiling :=
      Nat.not_lt.2 (UInt32.le_iff_toNat_le.1 hfull)
    rw [Gate.acquire, if_neg hnot, hafter, hcall]
    simp [gate, refusals, List.countP_append, Call.isTurnedAway]
  · have hroom := UInt32.not_le.1 hfull
    have hafter : after = ⟨{ counters with
        live := counters.live + 1
        journal := counters.journal.set .scalersAlive (counters.live + 1).toNat },
          calls ++ [.admitted]⟩ := by
      simp only [after, i, List.foldl_cons, List.foldl_nil, step_arrive, step_last, Call.advance,
        hfull, if_false, and_self, if_true]
    have hfree : (gate ⟨counters, calls⟩).live < (gate ⟨counters, calls⟩).ceiling :=
      UInt32.lt_iff_toNat_lt.1 hroom
    rw [Gate.acquire, if_pos hfree, hafter, hcall]
    simp [gate, refusals, List.countP_append, Call.isTurnedAway, toNat_succ hroom]

/-- Giving back a slot while no other call goes on is `Site.release`. -/
theorem release_alone (h : Kept ceiling turnstile) (hcall : turnstile.calls[i]? = some .admitted)
    {site : Site} (hgate : site.gate = turnstile.gate)
    (hjournal : site.journal = turnstile.counters.journal) :
    let after := [Turn.advance i false, .advance i false].foldl step turnstile
    Site.release.run site
      = ((), { site with gate := after.gate, journal := after.counters.journal }) := by
  intro after
  obtain ⟨hlt, -⟩ := List.getElem?_eq_some_iff.1 hcall
  have hafter : after = ⟨{ turnstile.counters with
      live := turnstile.counters.live - 1
      journal := turnstile.counters.journal.set .scalersAlive (turnstile.counters.live.toNat - 1) },
        turnstile.calls.set i .left⟩ := by
    simp only [after, List.foldl_cons, List.foldl_nil, step, hcall, Call.advance,
      List.getElem?_set_self hlt, List.set_set]
  have hheld : (turnstile.calls.set i .left).countP Call.holds + 1 = turnstile.held :=
    countP_set_add (p := Call.holds) hcall .left
  have hrefusals : (turnstile.calls.set i .left).countP Call.isTurnedAway = turnstile.refusals :=
    countP_set_add (p := Call.isTurnedAway) hcall .left
  have hlive : (turnstile.counters.live - 1).toNat = turnstile.counters.live.toNat - 1 := by
    refine Nat.eq_sub_of_add_eq (toNat_pred ?_)
    rw [h.live, ← hheld]
    exact Nat.succ_pos _
  have hrelease : after.gate = turnstile.gate.release := by
    rw [hafter, gate, refusals, hrefusals, hlive]
    rfl
  have hrun : Site.release.run site = ((), { site with
      gate := site.gate.release
      journal := site.journal.set .scalersAlive site.gate.release.live }) := rfl
  rw [hrun, hrelease, hgate, hjournal, hafter]
  rfl

end Turnstile

end Intercept
