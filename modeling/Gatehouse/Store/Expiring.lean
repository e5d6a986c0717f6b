import Gatehouse.Store.Basic
import Gatehouse.Table

/-!
# The expiring map

A store in memory. An entry is live until its time is up; after that it is as good as absent, though
its slot stays until someone comes across it.

## Contract

* Instants are passed in, in milliseconds of a clock that does not go back.
* `len` counts slots, expired ones included.
* A read removes the slot it finds expired. It does so in two steps, since the slot may have been
  written again between them; `removeExpired` looks again before it removes.

## Implementation notes

Instants are unbounded here. A clock of the machine has a last instant, and a write whose time would
be up after that is not made at all: its caller ends with an error instead.
-/

namespace Gatehouse

/-- A value and the instant at which its time is up. There is no last instant. -/
structure Slot (V : Type) where
  value : V
  expiresAt : Nat

/-- Whether the time of a slot is not up yet. -/
def Slot.isLive (s : Slot V) (now : Nat) : Bool := now < s.expiresAt

/-- A map whose entries expire, at instants that are unbounded. -/
structure ExpiringMap (V : Type) where
  slots : Table String (Slot V)

namespace ExpiringMap

variable {V : Type}

/-- The map without slots. -/
def empty : ExpiringMap V := ⟨Table.empty⟩

instance : Inhabited (ExpiringMap V) := ⟨empty⟩

/-- The number of slots. -/
def len (m : ExpiringMap V) : Nat := m.slots.size

/-- Whether there are no slots. -/
def isEmpty (m : ExpiringMap V) : Bool := m.len == 0

/-- The value of a key that is live at an instant. -/
def live? (m : ExpiringMap V) (now : Nat) (k : String) : Option V :=
  match m.slots.get? k with
  | some s => if s.isLive now then some s.value else none
  | none => none

/-- Removes the slot of a key if it is expired at an instant. -/
def removeExpired (m : ExpiringMap V) (now : Nat) (k : String) : ExpiringMap V :=
  match m.slots.get? k with
  | some s => if s.isLive now then m else ⟨m.slots.erase k⟩
  | none => m

/-- Reads the live value of a key. -/
def get (m : ExpiringMap V) (now : Nat) (k : String) : Option V × ExpiringMap V :=
  (m.live? now k, m.removeExpired now k)

/-- Gives a key a value until its lifetime is over. -/
def put (m : ExpiringMap V) (now : Nat) (k : String) (v : V) (ttlMs : Nat) : ExpiringMap V :=
  ⟨m.slots.set k ⟨v, now + ttlMs⟩⟩

/-- Forgets a key. -/
def remove (m : ExpiringMap V) (k : String) : ExpiringMap V := ⟨m.slots.erase k⟩

/-- Writes what `f` makes of the live value of a key, or nothing. -/
def update (m : ExpiringMap V) (now : Nat) (k : String) (ttlMs : Nat)
    (f : Option V → Option V) : ExpiringMap V :=
  match f (m.live? now k) with
  | some v => m.put now k v ttlMs
  | none => m

/-- Removes every slot expired at an instant, and says how many there were. -/
def purge (m : ExpiringMap V) (now : Nat) : Nat × ExpiringMap V :=
  let kept : ExpiringMap V := ⟨m.slots.filter fun _ s => s.isLive now⟩
  (m.len - kept.len, kept)

end ExpiringMap

/-! ## As a store -/

/-- An expiring map together with the present instant: a store that never fails. -/
structure MemoryStore (V : Type) where
  map : ExpiringMap V
  now : Nat

/-- A store in memory does what its map does and answers always. -/
instance : Store (MemoryStore V) V where
  get k s := let (v, map) := s.map.get s.now k; (.ok v, { s with map })
  put k v ttlMs s := (.ok (), { s with map := s.map.put s.now k v ttlMs })
  remove k s := (.ok (), { s with map := s.map.remove k })
  update k ttlMs f s :=
    (.applied (s.map.live? s.now k), { s with map := s.map.update s.now k ttlMs f })

end Gatehouse
