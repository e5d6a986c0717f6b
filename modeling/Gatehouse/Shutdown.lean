/-!
# The shutdown signal

Everything that runs for long holds a receiver of one signal. The signal can be given more than once,
but no receiver holds more than the newest one: a receiver that slept through others is told first
that it missed some.
-/

namespace Gatehouse

/-- What a receiver finds when it looks. -/
inductive Poll where
  /-- A signal. -/
  | received
  /-- Signals were missed. -/
  | missed
  /-- Nothing. -/
  | nothing
  deriving DecidableEq, Repr

/-- The signal and its receivers. -/
structure Shutdown where
  /-- Signals given so far. -/
  given : Nat
  /-- For each receiver ever made, how many signals it has behind it, unless it was dropped. -/
  receivers : List (Option Nat)
  deriving DecidableEq, Repr

namespace Shutdown

/-- No signal and no receivers. -/
def start : Shutdown := ⟨0, []⟩

/-- The number of receivers not dropped. -/
def receiverCount (s : Shutdown) : Nat := (s.receivers.filter Option.isSome).length

/-- Makes a receiver, which will see the signals given from now on. -/
def subscribe (s : Shutdown) : Shutdown := { s with receivers := s.receivers ++ [some s.given] }

/-- Gives the signal. It is lost when there is no receiver. -/
def trigger (s : Shutdown) : Shutdown :=
  if s.receiverCount = 0 then s else { s with given := s.given + 1 }

/-- The signals that a receiver has behind it, unless it was dropped or never made. -/
def position? (s : Shutdown) (i : Nat) : Option Nat := (s.receivers[i]?).join

/-- Drops a receiver. -/
def drop (s : Shutdown) (i : Nat) : Shutdown := { s with receivers := s.receivers.set i none }

/-- What a receiver at a given position finds, and its new position. -/
def look (s : Shutdown) (seen : Nat) : Poll × Nat :=
  if seen = s.given then (.nothing, seen)
  else if seen + 1 = s.given then (.received, s.given)
  else (.missed, s.given - 1)

/-- Lets a receiver look. -/
def poll (s : Shutdown) (i : Nat) : Option (Poll × Shutdown) :=
  (s.position? i).map fun seen =>
    let (found, seen) := s.look seen
    (found, { s with receivers := s.receivers.set i (some seen) })

end Shutdown

end Gatehouse
