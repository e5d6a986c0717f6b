/-!
# Clocks

Windows of admission are compared between gateways, so an instant is a number of milliseconds since
a fixed epoch, in 64 bits. A clock may be set, and may run past either end of the range.
-/

namespace Gatehouse

/-- A clock that moves only when told to. -/
structure Clock where
  now : Int64
  deriving DecidableEq, Repr

namespace Clock

/-- Sets the clock. -/
def set (_ : Clock) (ms : Int64) : Clock := ⟨ms⟩

/-- Moves the clock on, around the end of the range if need be. -/
def advance (c : Clock) (ms : Int64) : Clock := ⟨c.now + ms⟩

end Clock

end Gatehouse
