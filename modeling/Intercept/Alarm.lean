/-
# The shutdown, one access at a time

`Shutdown` says what its operations come to if nothing else goes on meanwhile.  But handles and
listeners are used side by side, and some operations are more than one access to what they share.

A trigger sets a flag.  If the flag was not set before, it then sends a message, which reaches the
listeners there are by then.  A listener that waits looks at the flag.  If it is not set, the
listener then waits for a message that it has not taken yet, or for the last handle to be dropped.
It may give up before.

A handle is not dropped while a trigger through it goes on, and a listener is not dropped while it
waits.
-/
import Intercept.Shutdown

namespace Intercept

/-- How far a trigger has gone on. -/
inductive Pull where
  | begun
  /-- It has set the flag, and is to send the message. -/
  | latched
  /-- It has ended; `first` says that it was the one that set the flag, and that it sent the
  message. -/
  | ended (first : Bool)
deriving DecidableEq, Repr, Inhabited

/-- A trigger, with the place of the handle through which it goes on. -/
structure Trigger where
  handle : Nat
  pull : Pull := .begun
deriving DecidableEq, Repr, Inhabited

/-- How far a listener that waits has gone on. -/
inductive Wait where
  | begun
  /-- It has seen that the flag was not set. -/
  | pending
deriving DecidableEq, Repr, Inhabited

/-- A listener. -/
structure Listener where
  alive : Bool := true
  /-- How many messages it has behind it: they were sent before it subscribed, or it has taken
  them. -/
  taken : Nat
  /-- How far it has gone on, if it waits. -/
  wait : Option Wait := none
  /-- How often it was released. -/
  released : Nat := 0
deriving DecidableEq, Repr, Inhabited

/-- What handles and listeners share, with the handles, triggers and listeners that there were so
far. -/
structure Alarm where
  triggered : Bool := false
  /-- How many messages were sent. -/
  sent : Nat := 0
  handles : List Bool := [true]
  triggers : List Trigger := []
  listeners : List Listener := []
deriving DecidableEq, Repr, Inhabited

/-- What a listener does. -/
inductive Deed where
  /-- It begins to wait. -/
  | wait
  /-- It goes on by one access. -/
  | goOn
  /-- It gives up waiting. -/
  | abandon
  /-- It is dropped. -/
  | leave
deriving DecidableEq, Repr, Inhabited

/-- What happens next. -/
inductive Move where
  /-- A handle is copied. -/
  | clone (h : Nat)
  /-- Somebody subscribes through a handle. -/
  | subscribe (h : Nat)
  /-- A handle is dropped. -/
  | drop (h : Nat)
  /-- A trigger begins. -/
  | trigger (h : Nat)
  /-- A trigger goes on by one access. -/
  | pull (i : Nat)
  /-- A listener does something. -/
  | listen (l : Nat) (deed : Deed)
deriving DecidableEq, Repr, Inhabited

namespace Alarm

/-- The shutdown as its handles and listeners know it between their operations. -/
def shutdown (alarm : Alarm) : Shutdown where
  triggered := alarm.triggered
  handles := alarm.handles
  listeners := alarm.listeners.map Listener.alive

/-- Whether a trigger through a handle goes on. -/
def isPulled (alarm : Alarm) (h : Nat) : Bool :=
  alarm.triggers.any fun trigger =>
    trigger.handle == h && (trigger.pull == .begun || trigger.pull == .latched)

/-- A trigger goes on by one access. -/
def advance (alarm : Alarm) : Pull → Alarm × Pull
  | .begun =>
    if alarm.triggered then (alarm, .ended false) else ({ alarm with triggered := true }, .latched)
  | .latched => ({ alarm with sent := alarm.sent + 1 }, .ended true)
  | .ended first => (alarm, .ended first)

end Alarm

namespace Listener

/-- A listener is released. -/
def release (listener : Listener) : Listener :=
  { listener with wait := none, released := listener.released + 1 }

/-- A listener that waits goes on by one access. -/
def goOn (alarm : Alarm) (listener : Listener) : Listener :=
  match listener.wait with
  | none => listener
  | some .begun =>
    if alarm.triggered then listener.release else { listener with wait := some .pending }
  | some .pending =>
    if listener.taken < alarm.sent then { listener.release with taken := listener.taken + 1 }
    else if alarm.shutdown.isOpen then listener
    else listener.release

/-- A listener does something, if it can. -/
def act (alarm : Alarm) (listener : Listener) : Deed → Listener
  | .wait =>
    if listener.alive ∧ listener.wait = none then { listener with wait := some .begun }
    else listener
  | .goOn => listener.goOn alarm
  | .abandon => { listener with wait := none }
  | .leave => if listener.wait = none then { listener with alive := false } else listener

end Listener

namespace Alarm

/-- What a move comes to; nothing, if it cannot happen. -/
def step (alarm : Alarm) : Move → Alarm
  | .clone h =>
    if alarm.shutdown.hasHandle h then { alarm with handles := alarm.handles ++ [true] } else alarm
  | .subscribe h =>
    if alarm.shutdown.hasHandle h then
      { alarm with listeners := alarm.listeners ++ [{ taken := alarm.sent }] }
    else alarm
  | .drop h =>
    if alarm.isPulled h then alarm else { alarm with handles := alarm.handles.set h false }
  | .trigger h =>
    if alarm.shutdown.hasHandle h then
      { alarm with triggers := alarm.triggers ++ [{ handle := h }] }
    else alarm
  | .pull i =>
    match alarm.triggers[i]? with
    | none => alarm
    | some trigger =>
      let (after, pull) := alarm.advance trigger.pull
      { after with triggers := alarm.triggers.set i { trigger with pull } }
  | .listen l deed =>
    match alarm.listeners[l]? with
    | none => alarm
    | some listener =>
      { alarm with listeners := alarm.listeners.set l (listener.act alarm deed) }

/-- A new shutdown with one handle after some moves. -/
def run (moves : List Move) : Alarm := moves.foldl step {}

/-- The trigger that set the flag has ended. -/
def HasFired (alarm : Alarm) : Prop := ∃ trigger ∈ alarm.triggers, trigger.pull = .ended true

instance (alarm : Alarm) : Decidable alarm.HasFired :=
  inferInstanceAs (Decidable (∃ trigger ∈ alarm.triggers, _))

end Alarm

end Intercept
