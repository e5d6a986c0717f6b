import Gatehouse.Shape

/-!
# Session records

What is stored of a session: which node it is bound to, and the value it goes by now.
-/

namespace Gatehouse

/-- The binding of a session. -/
structure SessionRecord where
  /-- The key of the session as the client sent it. -/
  sessionKey : String
  /-- Position of the node that the session is bound to. -/
  nodeIndex : Nat
  /-- The newest value that a backend gave the session. -/
  value : String
  deriving DecidableEq, Repr

namespace SessionRecord

/-- Reads a record. -/
def ofDatum (d : Datum) : Except Mismatch SessionRecord := do
  let p ← Shape.parts .json ["session_key", "node_index", "value"] d
  let sessionKey ← p.required "session_key" Shape.text
  let nodeIndex ← p.required "node_index" (Shape.natTo (UInt64.size - 1))
  let value ← p.required "value" Shape.text
  return { sessionKey, nodeIndex, value }

/-- Writes a record. -/
def toDatum (r : SessionRecord) : Datum :=
  .record [("session_key", .text r.sessionKey), ("node_index", .nat r.nodeIndex),
    ("value", .text r.value)]

end SessionRecord

end Gatehouse
