/-
# The gate, one access at a time

`Gate.acquire` and `Gate.release` are what a call comes to if no other call goes on meanwhile.  But
any number of calls share a gate, and what they share are counters of which a call reads or changes
one at a time.

A call reads how many slots are taken.  If that is the ceiling or more, it counts itself as turned
away.  Otherwise it tries to replace the number by the next one, which fails if the number is
another by now, and may fail for no reason, too; then the call goes on with the number that it
finds.  A slot is given back by one decrement.  Metrics are recorded after the counter was changed,
so that other calls may come in between.
-/
import Intercept.Journal

namespace Intercept

/-- What the calls at a gate share. -/
structure Counters where
  /-- How many slots there are. -/
  ceiling : UInt32
  /-- How many slots are taken. -/
  live : UInt32 := 0
  /-- How often a call was turned away. -/
  rejected : UInt64 := 0
  journal : Journal := {}
deriving Repr, Inhabited

/-- How far a call at a gate has gone on. -/
inductive Call where
  | arrived
  /-- It has seen how many slots were taken. -/
  | seen (live : UInt32)
  /-- It has taken a slot, so that this many are taken, and is to record it. -/
  | taken (live : UInt32)
  /-- It was admitted, and has its slot. -/
  | admitted
  /-- It has given back its slot, before which this many were taken, and is to record it. -/
  | returned (live : UInt32)
  /-- It has given back its slot, and is over. -/
  | left
  /-- It has counted itself as turned away, and is to record it. -/
  | rejected
  /-- It was turned away. -/
  | refused
deriving DecidableEq, Repr, Inhabited

namespace Call

/-- Goes on by one access; `weak` says that an attempt to replace the number of slots that are taken
fails for no reason. -/
def advance (weak : Bool) (counters : Counters) : Call → Counters × Call
  | arrived => (counters, seen counters.live)
  | seen live =>
    if counters.ceiling ≤ live then
      ({ counters with rejected := counters.rejected + 1 }, rejected)
    else if counters.live = live ∧ weak = false then
      ({ counters with live := live + 1 }, taken (live + 1))
    else (counters, seen counters.live)
  | taken live =>
    ({ counters with journal := counters.journal.set .scalersAlive live.toNat }, admitted)
  | admitted => ({ counters with live := counters.live - 1 }, returned counters.live)
  | returned live =>
    ({ counters with journal := counters.journal.set .scalersAlive (live.toNat - 1) }, left)
  | rejected => ({ counters with journal := counters.journal.count .scalersRefused 1 }, refused)
  | left => (counters, left)
  | refused => (counters, refused)

/-- Whether a call has a slot: it took one, and has not given it back. -/
def holds : Call → Bool
  | taken _ | admitted => true
  | _ => false

/-- Whether a call was turned away. -/
def isTurnedAway : Call → Bool
  | rejected | refused => true
  | _ => false

end Call

/-- A gate with the calls that there were so far, each with how far it has gone on. -/
structure Turnstile where
  counters : Counters
  calls : List Call := []
deriving Repr, Inhabited

/-- What happens next at a gate. -/
inductive Turn where
  /-- Somebody calls. -/
  | arrive
  /-- A call goes on by one access.  A call that was admitted gives back its slot. -/
  | advance (i : Nat) (weak : Bool)
deriving DecidableEq, Repr, Inhabited

namespace Turnstile

/-- The gate after a turn. -/
def step (turnstile : Turnstile) : Turn → Turnstile
  | .arrive => { turnstile with calls := turnstile.calls ++ [.arrived] }
  | .advance i weak =>
    match turnstile.calls[i]? with
    | none => turnstile
    | some call =>
      let (counters, next) := call.advance weak turnstile.counters
      ⟨counters, turnstile.calls.set i next⟩

/-- A new gate after some turns. -/
def run (ceiling : UInt32) (turns : List Turn) : Turnstile :=
  turns.foldl step { counters := { ceiling } }

/-- How many calls have a slot. -/
def held (turnstile : Turnstile) : Nat := turnstile.calls.countP Call.holds

/-- How many calls were turned away. -/
def refusals (turnstile : Turnstile) : Nat := turnstile.calls.countP Call.isTurnedAway

end Turnstile

end Intercept
