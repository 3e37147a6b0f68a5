/-
# No shutdown is missed, and none is made up

Handles and listeners go on by single accesses in any order.  A trigger sets the flag before it
sends the message, and a listener subscribes, or looks at the flag, at any moment between.  What
carries the proof is that no message is sent before the flag is set.  So a listener that has seen
the flag unset had subscribed before the message was sent, and has the message still before it;
every other listener finds the flag set.

A single operation during which nothing else goes on is what `Shutdown` says (`Alarm.trigger_alone`,
`Alarm.wait_alone`).
-/
import Mathlib.Data.List.Induction
import Intercept.Alarm
import Intercept.Proofs.Lists

namespace Intercept

/-- Whether a trigger is the one that has set the flag. -/
def Pull.latches : Pull → Bool
  | latched => true
  | ended first => first
  | begun => false

/-- Whether a trigger has sent the message. -/
def Pull.sends : Pull → Bool
  | ended first => first
  | _ => false

/-- What an access of a trigger comes to, with the shutdown and the trigger after it. -/
inductive Pull.Access (alarm : Alarm) : Pull → Alarm → Pull → Prop where
  /-- The trigger finds the flag set, or it has ended. -/
  | idle {pull next : Pull} (hlatches : next.latches = pull.latches)
      (hsends : next.sends = pull.sends) : Access alarm pull alarm next
  /-- It sets the flag. -/
  | sets (hunset : alarm.triggered = false) :
    Access alarm .begun { alarm with triggered := true } .latched
  /-- It sends the message. -/
  | sends : Access alarm .latched { alarm with sent := alarm.sent + 1 } (.ended true)

lemma Alarm.advance_access (alarm : Alarm) (pull : Pull) :
    pull.Access alarm (alarm.advance pull).1 (alarm.advance pull).2 := by
  cases pull with
  | begun =>
    rw [advance]
    split
    · exact .idle rfl rfl
    · next hunset => exact .sets (Bool.eq_false_iff.2 hunset)
  | latched => exact .sends
  | ended first => exact .idle rfl rfl

lemma Pull.latches_of_sends {pull : Pull} (h : pull.sends = true) : pull.latches = true := by
  cases pull with
  | begun => cases h
  | latched => rfl
  | ended first => exact h

/-- Whether a listener that waits is released if it goes on alone, as far as it can. -/
def Listener.isReady (alarm : Alarm) (listener : Listener) : Bool :=
  listener.released < ((listener.goOn alarm).goOn alarm).released

lemma Pull.Access.sent {alarm after : Alarm} {pull next : Pull}
    (h : pull.Access alarm after next) :
    after.sent = alarm.sent ∨ pull = .latched ∧ after.sent = alarm.sent + 1 := by
  cases h with
  | idle hlatches hsends => exact .inl rfl
  | sets hunset => exact .inl rfl
  | sends => exact .inr ⟨rfl, rfl⟩

namespace Alarm

variable {alarm after : Alarm} {listener : Listener} {moves : List Move}

/-- What is known of a listener at any time: it has nothing behind it that was not sent, it has
every message before it if it has seen the flag unset, and it was not released for no reason. -/
structure Listening (alarm : Alarm) (listener : Listener) : Prop where
  taken : listener.taken ≤ alarm.sent
  pending : listener.wait = some .pending → listener.taken = 0
  released : listener.released ≠ 0 → alarm.triggers ≠ [] ∨ alarm.shutdown.isOpen = false

/-- What every move keeps: the flag was set by one trigger, or by none, the one trigger has sent the
message when it has ended, and so much is known of all listeners. -/
structure Kept (alarm : Alarm) : Prop where
  flag : alarm.triggers.countP (·.pull.latches) = alarm.triggered.toNat
  sent : alarm.triggers.countP (·.pull.sends) = alarm.sent
  listeners : ∀ listener ∈ alarm.listeners, Listening alarm listener

/-! ### The flag and the message -/

/-- No message is sent before the flag is set, and no second one. -/
lemma Kept.sent_le (h : Kept alarm) : alarm.sent ≤ alarm.triggered.toNat := by
  rw [← h.flag, ← h.sent]
  exact List.countP_mono_left fun trigger _ => Pull.latches_of_sends

lemma Kept.sent_le_one (h : Kept alarm) : alarm.sent ≤ 1 :=
  Nat.le_trans h.sent_le (Bool.toNat_le _)

lemma Kept.sent_eq_zero (h : Kept alarm) (hunset : alarm.triggered = false) : alarm.sent = 0 := by
  have hle := h.sent_le
  rw [hunset] at hle
  exact Nat.le_zero.1 hle

/-- The flag is only set by a trigger. -/
lemma Kept.triggers_ne_nil (h : Kept alarm) (hset : alarm.triggered = true) :
    alarm.triggers ≠ [] := by
  intro hnone
  have hflag := h.flag
  rw [hnone, hset] at hflag
  cases hflag

/-- A message is only sent by a trigger. -/
lemma Kept.triggers_ne_nil_of_sent (h : Kept alarm) (hsent : 0 < alarm.sent) :
    alarm.triggers ≠ [] := by
  intro hnone
  have hcount := h.sent
  rw [hnone] at hcount
  exact Nat.ne_of_lt hsent hcount

/-- When the trigger that set the flag has ended, the flag is set and the message was sent. -/
lemma Kept.of_hasFired (h : Kept alarm) (hfired : alarm.HasFired) :
    alarm.triggered = true ∧ 0 < alarm.sent := by
  obtain ⟨trigger, hmem, hover⟩ := hfired
  have hsent : 0 < alarm.sent := by
    rw [← h.sent]
    exact List.countP_pos_iff.2 ⟨trigger, hmem, by rw [hover]; rfl⟩
  refine ⟨?_, hsent⟩
  by_contra hunset
  exact Nat.ne_of_gt hsent (h.sent_eq_zero (Bool.eq_false_iff.2 hunset))

/-! ### One move -/

/-- What is known of a listener stays known while triggers go on and handles are dropped. -/
lemma Listening.mono (h : Listening alarm listener) (hsent : alarm.sent ≤ after.sent)
    (htriggers : alarm.triggers ≠ [] → after.triggers ≠ [])
    (hopen : alarm.shutdown.isOpen = false → after.shutdown.isOpen = false) :
    Listening after listener where
  taken := Nat.le_trans h.taken hsent
  pending := h.pending
  released hreleased := (h.released hreleased).imp htriggers hopen

lemma isOpen_of_hasHandle {h : Nat} (hhandle : alarm.shutdown.hasHandle h = true) :
    alarm.shutdown.isOpen = true :=
  List.any_eq_true.2 ⟨true, List.mem_of_getElem? (beq_iff_eq.1 hhandle), rfl⟩

/-- A listener that goes on keeps what is known of it. -/
lemma Listening.goOn (h : Listening alarm listener) (hkept : Kept alarm) :
    Listening alarm (listener.goOn alarm) := by
  cases hwait : listener.wait with
  | none =>
    rw [Listener.goOn, hwait]
    exact h
  | some wait =>
    cases wait with
    | begun =>
      cases hset : alarm.triggered with
      | true =>
        rw [Listener.goOn, hwait, hset]
        exact ⟨h.taken, nofun, fun _ => .inl (hkept.triggers_ne_nil hset)⟩
      | false =>
        -- the flag is not set, so nothing was sent
        rw [Listener.goOn, hwait, hset]
        exact ⟨h.taken, fun _ => Nat.le_zero.1 (hkept.sent_eq_zero hset ▸ h.taken), h.released⟩
    | pending =>
      rw [Listener.goOn, hwait]
      dsimp only
      split
      · next hmessage =>
        exact ⟨hmessage, nofun, fun _ =>
          .inl (hkept.triggers_ne_nil_of_sent (Nat.zero_lt_of_lt hmessage))⟩
      · split
        · exact h
        · next hclosed => exact ⟨h.taken, nofun, fun _ => .inr (Bool.eq_false_iff.2 hclosed)⟩

lemma Listening.act (h : Listening alarm listener) (hkept : Kept alarm) (deed : Deed) :
    Listening alarm (listener.act alarm deed) := by
  cases deed with
  | wait =>
    rw [Listener.act]
    split
    · exact ⟨h.taken, nofun, h.released⟩
    · exact h
  | goOn => exact h.goOn hkept
  | abandon => exact ⟨h.taken, nofun, h.released⟩
  | leave =>
    rw [Listener.act]
    split
    · exact ⟨h.taken, h.pending, h.released⟩
    · exact h

/-- A trigger that goes on keeps what is known. -/
lemma Kept.pull (h : Kept alarm) {i : Nat} {trigger : Trigger} {pull : Pull}
    (htrigger : alarm.triggers[i]? = some trigger)
    (haccess : trigger.pull.Access alarm after pull) :
    Kept { after with triggers := alarm.triggers.set i { trigger with pull } } := by
  have hlatches := countP_set_add (p := (·.pull.latches)) htrigger { trigger with pull }
  have hsends := countP_set_add (p := (·.pull.sends)) htrigger { trigger with pull }
  have hset : alarm.triggers ≠ [] → alarm.triggers.set i { trigger with pull } ≠ [] :=
    fun hne hnil => hne ((List.set_eq_nil_iff _ _).1 hnil)
  obtain ⟨handle, before⟩ := trigger
  rw [h.flag] at hlatches
  rw [h.sent] at hsends
  cases haccess with
  | idle hsame hsent =>
    rw [hsame] at hlatches
    rw [hsent] at hsends
    exact ⟨Nat.add_right_cancel hlatches, Nat.add_right_cancel hsends, fun listener hmem =>
      (h.listeners listener hmem).mono (Nat.le_refl _) hset id⟩
  | sets hunset =>
    rw [hunset] at hlatches
    exact ⟨hlatches, hsends, fun listener hmem =>
      (h.listeners listener hmem).mono (Nat.le_refl _) hset id⟩
  | sends =>
    exact ⟨Nat.add_right_cancel hlatches, hsends, fun listener hmem =>
      (h.listeners listener hmem).mono (Nat.le_succ _) hset id⟩

/-- What one move keeps. -/
lemma Kept.step (h : Kept alarm) (move : Move) : Kept (alarm.step move) := by
  cases move with
  | clone handle =>
    rw [Alarm.step]
    split
    · next hhandle =>
      refine ⟨h.flag, h.sent, fun listener hmem => ?_⟩
      refine (h.listeners listener hmem).mono (Nat.le_refl _) id fun hclosed => ?_
      rw [isOpen_of_hasHandle hhandle] at hclosed
      cases hclosed
    · exact h
  | subscribe handle =>
    rw [Alarm.step]
    split
    · refine ⟨h.flag, h.sent, fun listener hmem => ?_⟩
      rcases List.mem_append.1 hmem with hold | hnew
      · exact (h.listeners listener hold).mono (Nat.le_refl _) id id
      · obtain rfl := List.mem_singleton.1 hnew
        exact ⟨Nat.le_refl _, nofun, nofun⟩
    · exact h
  | drop handle =>
    rw [Alarm.step]
    split
    · exact h
    · refine ⟨h.flag, h.sent, fun listener hmem => ?_⟩
      refine (h.listeners listener hmem).mono (Nat.le_refl _) id fun hclosed => ?_
      rw [Shutdown.isOpen, List.any_eq_false] at hclosed ⊢
      intro alive halive
      rcases List.mem_or_eq_of_mem_set halive with hold | rfl
      · exact hclosed alive hold
      · exact Bool.false_ne_true
  | trigger handle =>
    rw [Alarm.step]
    split
    · refine ⟨?_, ?_, fun listener hmem => ?_⟩
      · exact List.countP_append.trans h.flag
      · exact List.countP_append.trans h.sent
      · exact (h.listeners listener hmem).mono (Nat.le_refl _)
          (fun _ => List.append_ne_nil_of_right_ne_nil _ (List.cons_ne_nil _ _)) id
    · exact h
  | pull i =>
    cases htrigger : alarm.triggers[i]? with
    | none =>
      rw [Alarm.step, htrigger]
      exact h
    | some trigger =>
      rw [Alarm.step, htrigger]
      exact h.pull htrigger (alarm.advance_access trigger.pull)
  | listen l deed =>
    cases hlistener : alarm.listeners[l]? with
    | none =>
      rw [Alarm.step, hlistener]
      exact h
    | some listener =>
      rw [Alarm.step, hlistener]
      refine ⟨h.flag, h.sent, fun other hmem => ?_⟩
      rcases List.mem_or_eq_of_mem_set hmem with hold | rfl
      · exact (h.listeners other hold).mono (Nat.le_refl _) id id
      · have hknown := h.listeners listener (List.mem_of_getElem? hlistener)
        exact (hknown.act h deed).mono (Nat.le_refl _) id id

/-- A move sends nothing, unless a trigger goes on that has set the flag and is to send the
message. -/
lemma sent_step (alarm : Alarm) (move : Move) :
    (alarm.step move).sent = alarm.sent ∨
    ∃ i handle, move = .pull i ∧ alarm.triggers[i]? = some ⟨handle, .latched⟩ ∧
      (alarm.step move).sent = alarm.sent + 1 := by
  cases move with
  | clone handle =>
    rw [step]
    exact .inl (by split <;> rfl)
  | subscribe handle =>
    rw [step]
    exact .inl (by split <;> rfl)
  | drop handle =>
    rw [step]
    exact .inl (by split <;> rfl)
  | trigger handle =>
    rw [step]
    exact .inl (by split <;> rfl)
  | listen l deed =>
    rw [step]
    exact .inl (by split <;> rfl)
  | pull i =>
    cases htrigger : alarm.triggers[i]? with
    | none =>
      rw [step, htrigger]
      exact .inl rfl
    | some trigger =>
      obtain ⟨handle, pull⟩ := trigger
      rw [step, htrigger]
      rcases (alarm.advance_access pull).sent with hsame | ⟨rfl, hmore⟩
      · exact .inl hsame
      · exact .inr ⟨i, handle, rfl, htrigger, hmore⟩

/-! ### Whole runs -/

lemma run_concat (moves : List Move) (move : Move) :
    run (moves ++ [move]) = (run moves).step move := by
  rw [run, List.foldl_append]
  rfl

lemma kept_run (moves : List Move) : Kept (run moves) := by
  induction moves using List.reverseRecOn with
  | nil => exact ⟨rfl, rfl, nofun⟩
  | append_singleton moves move ih =>
    rw [run_concat]
    exact ih.step move

/-- What was sent stays sent. -/
lemma sent_le_run (moves later : List Move) : (run moves).sent ≤ (run (moves ++ later)).sent := by
  induction later using List.reverseRecOn with
  | nil => exact Nat.le_of_eq (by rw [List.append_nil])
  | append_singleton later move ih =>
    rw [← List.append_assoc, run_concat]
    rcases sent_step (run (moves ++ later)) move with hsame | ⟨i, handle, -, -, hmore⟩
    · rwa [hsame]
    · rw [hmore]
      exact Nat.le_succ_of_le ih

/-- A listener that waits is released by its next access, if the flag is set and it has the message
before it unless it has not looked at the flag. -/
lemma released_goOn (hset : alarm.triggered = true) (hwait : listener.wait ≠ none)
    (hmessage : listener.wait = some .pending → listener.taken < alarm.sent) :
    (listener.goOn alarm).wait = none ∧
      (listener.goOn alarm).released = listener.released + 1 := by
  match hcase : listener.wait with
  | none => exact absurd hcase hwait
  | some .begun =>
    rw [Listener.goOn, hcase, hset]
    exact ⟨rfl, rfl⟩
  | some .pending =>
    rw [Listener.goOn, hcase]
    simp only [if_pos (hmessage hcase)]
    exact ⟨rfl, rfl⟩

/-- A listener does something. -/
lemma listener_step {l : Nat} (hlistener : alarm.listeners[l]? = some listener) (deed : Deed) :
    (alarm.step (.listen l deed)).listeners[l]? = some (listener.act alarm deed) := by
  obtain ⟨hlt, -⟩ := List.getElem?_eq_some_iff.1 hlistener
  rw [step, hlistener]
  exact List.getElem?_set_self hlt

/-- **No shutdown is missed, and none is made up.**  Any number of handles are copied, subscribed
through and dropped, triggers go on by single accesses, and so do the listeners that wait, in any
order.

Once the trigger that set the flag has ended, every listener that waits then or later is released by
its next access, whether it subscribed before or after, and how often it was released before.  No
listener was released, or would be if it went on alone, before a trigger has begun, unless no handle
is left.  At most one trigger ever sets the flag, and a message is only sent by this one, and only
once. -/
theorem released_run (moves : List Move) :
    ((run moves).HasFired → ∀ later l listener,
      (run (moves ++ later)).listeners[l]? = some listener → listener.wait ≠ none →
      ∃ after, (run (moves ++ later ++ [.listen l .goOn])).listeners[l]? = some after ∧
        after.wait = none ∧ after.released = listener.released + 1) ∧
    (∀ listener ∈ (run moves).listeners,
      listener.released ≠ 0 ∨ listener.isReady (run moves) = true →
      (run moves).triggers ≠ [] ∨ (run moves).shutdown.isOpen = false) ∧
    (run moves).triggers.countP (·.pull.latches) ≤ 1 ∧
    ∀ move, (run (moves ++ [move])).sent ≠ (run moves).sent →
      ∃ i handle, move = .pull i ∧ (run moves).triggers[i]? = some ⟨handle, .latched⟩ ∧
        (run moves).sent = 0 ∧ (run (moves ++ [move])).sent = 1 := by
  have hkept := kept_run moves
  refine ⟨fun hfired later l listener hlistener hwait => ?_, fun listener hmem hready => ?_, ?_,
    fun move hmore => ?_⟩
  · have hlater := kept_run (moves ++ later)
    have hknown := hlater.listeners listener (List.mem_of_getElem? hlistener)
    have hsent : 0 < (run (moves ++ later)).sent :=
      Nat.lt_of_lt_of_le (hkept.of_hasFired hfired).2 (sent_le_run moves later)
    have hset : (run (moves ++ later)).triggered = true := by
      by_contra hunset
      exact Nat.ne_of_gt hsent (hlater.sent_eq_zero (Bool.eq_false_iff.2 hunset))
    refine ⟨_, ?_, released_goOn hset hwait fun hpending => ?_⟩
    · rw [run_concat]
      exact listener_step hlistener .goOn
    · rw [hknown.pending hpending]
      exact hsent
  · have hknown := hkept.listeners listener hmem
    rcases hready with hreleased | hready
    · exact hknown.released hreleased
    · -- if it goes on alone, it is known what it was released for
      refine ((hknown.goOn hkept).goOn hkept).released ?_
      exact Nat.ne_of_gt (Nat.lt_of_le_of_lt (Nat.zero_le _) (of_decide_eq_true hready))
  · rw [hkept.flag]
    exact Bool.toNat_le _
  · rcases sent_step (run moves) move with hsame | ⟨i, handle, rfl, htrigger, hsent⟩
    · rw [run_concat] at hmore
      exact absurd hsame hmore
    · rw [← run_concat] at hsent
      have hone := (kept_run (moves ++ [.pull i])).sent_le_one
      have hnone : (run moves).sent = 0 := by omega
      exact ⟨i, handle, rfl, htrigger, hnone, by rw [hsent, hnone]⟩

/-- A listener looks at the flag just before a trigger sets it, another one subscribes before the
message is sent and waits, and a second trigger begins. -/
def narrowMoves : List Move := [.subscribe 0, .listen 0 .wait, .listen 0 .goOn, .trigger 0, .pull 0,
  .clone 0, .subscribe 1, .listen 1 .wait, .trigger 1, .pull 1, .pull 0]

/-- Both listeners are released by their next access, and the second trigger has sent nothing. -/
theorem released_run_narrow :
    (run narrowMoves).triggers = [⟨0, .ended true⟩, ⟨1, .ended false⟩] ∧
      (run narrowMoves).listeners.map Listener.wait = [some .pending, some .begun] ∧
      (∀ l < 2, ∃ after, (run (narrowMoves ++ [] ++ [.listen l .goOn])).listeners[l]? = some after ∧
        after.wait = none ∧ after.released = 1) ∧
      (run narrowMoves).triggers.countP (·.pull.latches) ≤ 1 := by
  obtain ⟨hreleased, -, hlatched, -⟩ := released_run narrowMoves
  refine ⟨by decide, by decide, fun l hl => ?_, hlatched⟩
  have hfired : (run narrowMoves).HasFired := by decide
  match l, hl with
  | 0, _ => exact hreleased hfired [] 0 ⟨true, 0, some .pending, 0⟩ (by decide) (by decide)
  | 1, _ => exact hreleased hfired [] 1 ⟨true, 0, some .begun, 0⟩ (by decide) (by decide)

/-! ### An operation alone -/

section Alone

variable {h l : Nat}

lemma clone_alone (hhandle : alarm.shutdown.hasHandle h = true) :
    alarm.shutdown.clone? h = some (alarm.handles.length, (alarm.step (.clone h)).shutdown) := by
  rw [Shutdown.clone?, step, if_pos hhandle, if_pos hhandle]
  rfl

lemma subscribe_alone (hhandle : alarm.shutdown.hasHandle h = true) :
    alarm.shutdown.subscribe? h
      = some (alarm.listeners.length, (alarm.step (.subscribe h)).shutdown) := by
  rw [Shutdown.subscribe?, step, if_pos hhandle, if_pos hhandle]
  simp [shutdown]

lemma drop_alone (hidle : alarm.isPulled h = false) :
    alarm.shutdown.drop? h
      = (alarm.handles[h]?).map fun alive => (alive, (alarm.step (.drop h)).shutdown) := by
  rw [Shutdown.drop?, step, hidle]
  rfl

lemma leave_alone (hlistener : alarm.listeners[l]? = some listener) (hwait : listener.wait = none) :
    alarm.shutdown.dropListener? l
      = some (listener.alive, (alarm.step (.listen l .leave)).shutdown) := by
  have hact : listener.act alarm .leave = { listener with alive := false } := if_pos hwait
  rw [Shutdown.dropListener?, step, hlistener]
  simp [shutdown, hlistener, hact, List.map_set]

/-- A trigger during which nothing else goes on has ended after two accesses, and triggers as
`Shutdown` says. -/
theorem trigger_alone (hhandle : alarm.shutdown.hasHandle h = true) :
    let i := alarm.triggers.length
    let after := [Move.trigger h, .pull i, .pull i].foldl step alarm
    alarm.shutdown.trigger? h = some after.shutdown ∧
      after.triggers = alarm.triggers ++ [⟨h, .ended !alarm.triggered⟩] := by
  intro i after
  have hlast : ∀ pull : Pull, (alarm.triggers ++ [⟨h, pull⟩])[i]? = some ⟨h, pull⟩ :=
    fun pull => List.getElem?_concat_length
  rw [Shutdown.trigger?, if_pos hhandle]
  cases hset : alarm.triggered with
  | true =>
    have hafter : after = { alarm with triggers := alarm.triggers ++ [⟨h, .ended false⟩] } := by
      simp [after, i, step, hhandle, advance, hset]
    rw [hafter, shutdown, shutdown, hset]
    exact ⟨rfl, rfl⟩
  | false =>
    have hafter : after = { alarm with
        triggered := true
        sent := alarm.sent + 1
        triggers := alarm.triggers ++ [⟨h, .ended true⟩] } := by
      simp [after, i, step, hhandle, advance, hset]
    rw [hafter]
    exact ⟨rfl, rfl⟩

/-- A listener that waits while nothing else goes on is released as `Shutdown` says. -/
theorem wait_alone (hkept : Kept alarm) (hlistener : alarm.listeners[l]? = some listener)
    (halive : listener.alive = true) (hwait : listener.wait = none) :
    alarm.shutdown.isReleased? l = some ((listener.act alarm .wait).isReady alarm) := by
  have hthere : alarm.shutdown.hasListener l = true := by
    simp [Shutdown.hasListener, shutdown, hlistener, halive]
  have hact : listener.act alarm .wait = { listener with wait := some .begun } :=
    if_pos ⟨halive, hwait⟩
  have hreleased : alarm.shutdown.isReleased? l
      = some (alarm.triggered || !alarm.shutdown.isOpen) := if_pos hthere
  rw [hreleased, hact]
  cases hset : alarm.triggered with
  | true => simp [Listener.isReady, Listener.goOn, Listener.release, hset]
  | false =>
    have hsent := hkept.sent_eq_zero hset
    cases hopen : alarm.shutdown.isOpen with
    | true => simp [Listener.isReady, Listener.goOn, hset, hsent, hopen]
    | false => simp [Listener.isReady, Listener.goOn, Listener.release, hset, hsent, hopen]

end Alone

end Alarm

end Intercept
