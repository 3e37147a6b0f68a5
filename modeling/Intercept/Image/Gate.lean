/-
# Admission of scaler processes

A gate counts the scaler processes alive and admits no more than its ceiling.  Nobody waits at a
gate: who is not admitted at once is turned away.
-/

namespace Intercept

/-- A gate. -/
structure Gate where
  /-- How many slots there are. -/
  ceiling : Nat
  /-- How many slots are taken. -/
  live : Nat := 0
  /-- How often somebody was turned away. -/
  rejected : Nat := 0
deriving DecidableEq, Repr, Inhabited

namespace Gate

/-- Takes a slot if one is free, and says whether one was. -/
def acquire (gate : Gate) : Bool × Gate :=
  if gate.live < gate.ceiling then (true, { gate with live := gate.live + 1 })
  else (false, { gate with rejected := gate.rejected + 1 })

/-- Gives a slot back. -/
def release (gate : Gate) : Gate := { gate with live := gate.live - 1 }

end Gate

end Intercept
