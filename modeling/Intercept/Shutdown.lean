/-
# Stopping the proxy

Handles on the shutdown can be copied and dropped, and listeners subscribe to it through a handle.
A trigger is latched: a listener that subscribes later sees it as well.  When no handle is left
nothing can trigger any more, and listeners are released.
-/

namespace Intercept

/-- The shutdown with its handles and its listeners.  Both are known by the place where they were
made, and the lists say which of them are alive. -/
structure Shutdown where
  triggered : Bool := false
  handles : List Bool := [true]
  listeners : List Bool := []
deriving DecidableEq, Repr, Inhabited

namespace Shutdown

/-- Whether a handle is alive. -/
def hasHandle (shutdown : Shutdown) (i : Nat) : Bool := shutdown.handles[i]? == some true

/-- Whether a listener is alive. -/
def hasListener (shutdown : Shutdown) (i : Nat) : Bool := shutdown.listeners[i]? == some true

/-- Whether any handle is alive. -/
def isOpen (shutdown : Shutdown) : Bool := shutdown.handles.any id

/-- How many listeners are alive. -/
def listenerCount (shutdown : Shutdown) : Nat := shutdown.listeners.count true

/-- Copies a handle; gives the place of the copy. -/
def clone? (shutdown : Shutdown) (i : Nat) : Option (Nat × Shutdown) :=
  if shutdown.hasHandle i then
    some (shutdown.handles.length, { shutdown with handles := shutdown.handles ++ [true] })
  else none

/-- Makes a listener through a handle; gives its place. -/
def subscribe? (shutdown : Shutdown) (i : Nat) : Option (Nat × Shutdown) :=
  if shutdown.hasHandle i then
    some (shutdown.listeners.length, { shutdown with listeners := shutdown.listeners ++ [true] })
  else none

/-- Triggers through a handle. -/
def trigger? (shutdown : Shutdown) (i : Nat) : Option Shutdown :=
  if shutdown.hasHandle i then some { shutdown with triggered := true } else none

/-- Drops a handle; says whether it was alive. -/
def drop? (shutdown : Shutdown) (i : Nat) : Option (Bool × Shutdown) :=
  (shutdown.handles[i]?).map fun alive =>
    (alive, { shutdown with handles := shutdown.handles.set i false })

/-- Drops a listener; says whether it was alive. -/
def dropListener? (shutdown : Shutdown) (i : Nat) : Option (Bool × Shutdown) :=
  (shutdown.listeners[i]?).map fun alive =>
    (alive, { shutdown with listeners := shutdown.listeners.set i false })

/-- Whether a listener that waits is released at once. -/
def isReleased? (shutdown : Shutdown) (i : Nat) : Option Bool :=
  if shutdown.hasListener i then some (shutdown.triggered || !shutdown.isOpen) else none

end Shutdown

end Intercept
