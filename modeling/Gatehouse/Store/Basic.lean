/-!
# Stores

A store keeps values under keys, each for a limited time. It may be shared with others and may be
out of reach, so every call can fail. What the gateway needs of a store is four calls; a type of
store states provides them through the class `Store`.

`update` is the one call that reads and writes at once: nobody else can write the key in between. It
is told what to write for each value it may find, and answers which value it found.
-/

namespace Gatehouse

/-- Why a store did not answer. -/
structure StoreError where
  /-- What went wrong. -/
  reason : String
  deriving DecidableEq, Repr

/-- The failure in words. -/
def StoreError.message (e : StoreError) : String := "store unavailable: " ++ e.reason

/-- How an update went. -/
inductive Updated (V : Type) where
  /-- The store was out of reach. -/
  | failed (e : StoreError)
  /-- The store answered without having made the update. -/
  | skipped
  /-- The update was made, on finding this live value. -/
  | applied (seen : Option V)

/-- Store states `σ` that keep values of type `V` under text keys. A lifetime is in milliseconds. -/
class Store (σ : Type) (V : outParam Type) where
  /-- Reads the live value of a key. -/
  get : String → σ → Except StoreError (Option V) × σ
  /-- Gives a key a value and a lifetime. -/
  put : String → V → (ttlMs : Nat) → σ → Except StoreError Unit × σ
  /-- Forgets a key. -/
  remove : String → σ → Except StoreError Unit × σ
  /-- Writes what `f` makes of the live value of a key, or nothing. -/
  update : String → (ttlMs : Nat) → (f : Option V → Option V) → σ → Updated V × σ

end Gatehouse
