import Gatehouse.Http.Header
import Gatehouse.Http.Status

/-!
# Messages

A request as it is sent to a backend, and a response as it comes from one. Both are held whole, so
that a request can be sent again when an attempt fails.
-/

namespace Gatehouse

namespace Http

/-- A request method, if the text is one. Case matters. -/
def method? (s : String) : Option String :=
  if s ≠ "" && s.toList.all isToken then some s else none

/-- The content of a message. -/
abbrev Body := List UInt8

/-- A request on its way to a backend. -/
structure Request where
  method : String
  /-- The target: path and query. -/
  pathAndQuery : String
  headers : Headers := Headers.empty
  body : Body := []
  deriving DecidableEq, Repr

/-- A response. -/
structure Response where
  status : Status
  headers : Headers := Headers.empty
  body : Body := []
  deriving DecidableEq, Repr

end Http

end Gatehouse
