/-!
# Rotation

New sessions are spread over the nodes of a service in turn: each draws a ticket, and the ticket's
number, modulo the number of nodes, is the position of its node. Tickets are numbered with 64 bits
and begin again at zero when those run out.
-/

namespace Gatehouse

/-- The next ticket of a service. -/
structure Rotation where
  ticket : UInt64 := 0
  deriving DecidableEq, Repr

namespace Rotation

instance : Inhabited Rotation := ⟨{}⟩

/-- The position that the next ticket gives among `n` nodes. -/
def position (r : Rotation) (n : Nat) : Nat := r.ticket.toNat % n

/-- The rotation after a ticket was drawn. -/
def draw (r : Rotation) : Rotation := ⟨r.ticket + 1⟩

/-- Draws a ticket among `n` nodes. Among no nodes none is drawn. -/
def next? (r : Rotation) (n : Nat) : Option Nat × Rotation :=
  if n = 0 then (none, r) else (some (r.position n), r.draw)

theorem position_lt (r : Rotation) {n : Nat} (h : 0 < n) : r.position n < n := Nat.mod_lt _ h

end Rotation

end Gatehouse
