/-
# Slots over whole runs

Any number of requests for scaled images share one gate, and each of them goes on by itself.  A run
is any interleaving of their steps (`Crowd.Runs`).  What one step does to the gate is known; by
induction on the run, the slots that are taken are those of the scalers in existence, and each
scaler gives back one (`slots_of_runs`).
-/
import Intercept.Proofs.Image.Resizing
import Intercept.Proofs.Lists

namespace Intercept

/-! ### Any number of requests -/

/-- Requests for scaled images that share the gate of one site. -/
structure Crowd where
  requests : List Resize
  site : Site

namespace Crowd

/-- How many scaler processes are in existence. -/
def held (crowd : Crowd) : Nat := crowd.requests.countP Resize.holds

/-- A run of requests in any order, with the moves of the gate and the requests that they are for.
What else happens at the site leaves the gate alone. -/
inductive Runs (start : Crowd) : List (Nat × GateMove) → Crowd → Prop where
  | start : Runs start [] start
  | step {moves : List (Nat × GateMove)} {requests : List Resize} {site after : Site} {i : Nat}
      {phase next : Resize} {move : GateMove} (hruns : Runs start moves ⟨requests, site⟩)
      (hphase : requests[i]? = some phase) (hstep : Resize.Step phase site move next after) :
      Runs start (moves ++ [(i, move)]) ⟨requests.set i next, after⟩
  | elsewhere {moves : List (Nat × GateMove)} {requests : List Resize} {site other : Site}
      (hruns : Runs start moves ⟨requests, site⟩) (hgate : other.gate = site.gate) :
      Runs start moves ⟨requests, other⟩

/-- The moves for one request that change the gate. -/
def changes (i : Nat) (moves : List (Nat × GateMove)) : List GateMove :=
  ((moves.filter fun entry => entry.1 == i).map Prod.snd).filter fun move => move != .stay

/-- What one request has done to the gate so far: nothing before it was tried; it took a slot if it
holds a scaler; and otherwise it did nothing, was turned away, or gave back the slot that it
took. -/
def Accounts (phase : Resize) (moves : List GateMove) : Prop :=
  if phase.isAsked then moves = []
  else if phase.holds then moves = [.take]
  else moves = [] ∨ moves = [.reject] ∨ moves = [.take, .giveBack]

lemma changes_concat_self (i : Nat) (moves : List (Nat × GateMove)) (move : GateMove) :
    changes i (moves ++ [(i, move)])
      = changes i moves ++ if move = .stay then [] else [move] := by
  cases move <;> simp [changes]

lemma changes_concat_of_ne {i j : Nat} (hne : i ≠ j) (moves : List (Nat × GateMove))
    (move : GateMove) : changes i (moves ++ [(j, move)]) = changes i moves := by
  simp [changes, Ne.symm hne]

/-- A step keeps the account of its request. -/
lemma accounts_step {phase next : Resize} {site after : Site} {move : GateMove}
    {moves : List GateMove} (haccounts : Accounts phase moves)
    (hstep : Resize.Step phase site move next after) :
    Accounts next (moves ++ if move = .stay then [] else [move]) := by
  obtain ⟨hnext, -, htried⟩ := hstep.tried
  have hturns := hstep.turns
  have hasked : phase.isAsked = true → phase.holds = false := by
    cases phase <;> simp [Resize.isAsked, Resize.holds]
  rw [Accounts] at haccounts ⊢
  rw [hnext, if_neg Bool.false_ne_true]
  cases move with
  | take =>
    obtain ⟨-, hheld⟩ := hturns
    rw [if_pos (htried (.inl rfl))] at haccounts
    rw [if_pos hheld, haccounts]
    rfl
  | reject =>
    obtain ⟨-, hheld⟩ := hturns
    rw [if_pos (htried (.inr rfl))] at haccounts
    rw [hheld, if_neg Bool.false_ne_true, haccounts]
    exact .inr (.inl rfl)
  | giveBack =>
    obtain ⟨hbefore, hheld⟩ := hturns
    have hnot : phase.isAsked ≠ true := fun h => by simp [hasked h] at hbefore
    rw [if_neg hnot, if_pos hbefore] at haccounts
    rw [hheld, if_neg Bool.false_ne_true, haccounts]
    exact .inr (.inr rfl)
  | stay =>
    have hsame : phase.holds = next.holds := hturns
    rw [if_pos rfl, List.append_nil, ← hsame]
    by_cases hphase : phase.isAsked = true
    · rw [if_pos hphase] at haccounts
      rw [hasked hphase, if_neg Bool.false_ne_true]
      exact .inl haccounts
    · rwa [if_neg hphase] at haccounts

/-- What every run keeps: the slots that are taken are those of the scalers in existence, which are
no more than there are slots, and each request accounts for what it took. -/
structure Settled (start : Gate) (moves : List (Nat × GateMove)) (crowd : Crowd) : Prop where
  gate : crowd.site.gate = (moves.map Prod.snd).foldl GateMove.apply start
  ceiling : crowd.site.gate.ceiling = start.ceiling
  live : crowd.site.gate.live = crowd.held
  bound : crowd.held ≤ start.ceiling
  accounts : ∀ i phase, crowd.requests[i]? = some phase → Accounts phase (changes i moves)

lemma settled_step {start : Gate} {moves : List (Nat × GateMove)} {requests : List Resize}
    {site after : Site} {i : Nat} {phase next : Resize} {move : GateMove}
    (hsettled : Settled start moves ⟨requests, site⟩) (hphase : requests[i]? = some phase)
    (hstep : Resize.Step phase site move next after) :
    Settled start (moves ++ [(i, move)]) ⟨requests.set i next, after⟩ := by
  have hgate : after.gate = move.apply site.gate := hstep.gate
  have hceiling : after.gate.ceiling = start.ceiling := by
    rw [hgate, GateMove.ceiling_apply]
    exact hsettled.ceiling
  have hlive : after.gate.live = held ⟨requests.set i next, after⟩ := by
    rw [hgate]
    exact GateMove.live_apply hstep.turns hsettled.live (countP_set_add hphase next)
  refine ⟨?_, hceiling, hlive, ?_, fun j other hother => ?_⟩
  · rw [List.map_append, List.foldl_append, ← hsettled.gate]
    exact hgate
  · have hbound : site.gate.live ≤ site.gate.ceiling := by
      rw [hsettled.live, hsettled.ceiling]
      exact hsettled.bound
    rw [← hlive, hgate, ← hsettled.ceiling]
    exact GateMove.live_apply_le hbound hstep.tried.2.1
  · rw [List.getElem?_set] at hother
    by_cases hij : i = j
    · subst hij
      obtain ⟨hlt, -⟩ := List.getElem?_eq_some_iff.1 hphase
      rw [if_pos rfl, if_pos hlt, Option.some_inj] at hother
      rw [changes_concat_self, ← hother]
      exact accounts_step (hsettled.accounts i phase hphase) hstep
    · rw [if_neg hij] at hother
      rw [changes_concat_of_ne (Ne.symm hij)]
      exact hsettled.accounts j other hother

/-- **Slots over whole runs.**  Requests for scaled images go on in any order, at a gate of which no
slot was taken.  In every state that they reach, the gate is what the moves so far made of it; as
many slots are taken as there are scaler processes, and no more than there are slots; and each
request took a slot only if its scaler was started, and gave it back just once when it ended. -/
theorem slots_of_runs {jobs : List ResizeJob} {site : Site} {moves : List (Nat × GateMove)}
    {crowd : Crowd} (hfree : site.gate.live = 0)
    (hruns : Runs ⟨jobs.map .asked, site⟩ moves crowd) : Settled site.gate moves crowd := by
  induction hruns with
  | start =>
    have hnone : held ⟨jobs.map .asked, site⟩ = 0 := by
      simp [held, List.countP_map, Function.comp_def, Resize.holds]
    refine ⟨rfl, rfl, hfree.trans hnone.symm, hnone ▸ Nat.zero_le _, fun i phase hphase => ?_⟩
    rw [List.getElem?_map, Option.map_eq_some_iff] at hphase
    obtain ⟨job, -, rfl⟩ := hphase
    exact rfl
  | step hruns hphase hstep ih => exact settled_step ih hphase hstep
  | elsewhere hruns hgate ih =>
    exact ⟨hgate.trans ih.gate, hgate ▸ ih.ceiling, hgate ▸ ih.live, ih.bound, ih.accounts⟩

/-- A request for an image of one byte, with a scaler that copies it. -/
def copyingJob : ResizeJob where
  surroundings := { (default : Surroundings) with
    program := fun _ => .runs .all fun _ input => ⟨[.piece input.bytes], [], .exits (.code 0)⟩ }
  settings := {}
  head := ⟨200, []⟩
  source := ⟨Stream.once [1], some 1⟩
  request := ⟨"/a", "image/png", 10⟩
  headers := []

/-- Two such requests at a gate with one slot: the second is turned away while the first, which is
given up then, holds the slot. -/
theorem slots_of_runs_turnedAway :
    ∃ moves crowd, Runs ⟨[.asked copyingJob, .asked copyingJob], { gate := ⟨1, 0, 0⟩ }⟩ moves crowd ∧
      changes 0 moves = [.take, .giveBack] ∧ changes 1 moves = [.reject] ∧
      crowd.site.gate = ⟨1, 0, 1⟩ ∧ crowd.held = 0 := by
  have hfirst : Runs ⟨[copyingJob, copyingJob].map .asked, { gate := ⟨1, 0, 0⟩ }⟩ _ _ :=
    .step .start (i := 0) rfl (.choose rfl)
  have hboth := Runs.step hfirst (i := 1) rfl (.choose rfl)
  have hruns := Runs.step hboth (i := 0) rfl (.drop rfl)
  have hsettled := slots_of_runs rfl hruns
  have hgate : Site.gate (Crowd.site _) = ⟨1, 0, 1⟩ := hsettled.gate.trans (by decide +kernel)
  refine ⟨_, _, hruns, by decide +kernel, by decide +kernel, hgate, ?_⟩
  rw [← hsettled.live, hgate]

end Crowd

end Intercept
