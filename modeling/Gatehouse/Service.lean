import Gatehouse.Config.Schema
import Gatehouse.Text.Chars

/-!
# Services

A service as the gateway serves it: identity, backends in order, and policy. A service whose list of
nodes changes gets a new generation, which sets the sessions bound to the old list apart.
-/

namespace Gatehouse

/-- A service in operation. -/
structure Service where
  id : String
  /-- The backends, in order. -/
  nodes : List Node
  balancing : Balancing := {}
  throttle : Option ThrottlePolicy := none
  /-- The path prefix that is removed before forwarding. -/
  stripped : Option String := none
  /-- Which list of nodes of this service this is. -/
  generation : Nat := 0
  deriving DecidableEq, Repr

namespace Service

/-- A service of a given generation, as configured. -/
def ofConfig (c : ServiceConfig) (generation : Nat) : Service :=
  { id := c.id, nodes := c.nodes, balancing := c.balancing, throttle := c.throttle,
    stripped := if c.stripsPath then c.pathPrefix else none, generation }

/-- Attempts allowed for a request: as configured, else one for each node, and at least one. -/
def maxAttempts (s : Service) : Nat :=
  max 1 (match s.balancing.maxAttempts with
    | some n => n.toNat
    | none => s.nodes.length)

/-- What is left of a path and query when a path prefix is removed. The prefix, without slashes at
its end, must end where a segment of the path ends; otherwise nothing is removed. -/
def strip (start pathAndQuery : List Char) : List Char :=
  match Text.after? (Text.dropEndWhile (· == '/') start) pathAndQuery with
  | some [] => ['/']
  | some ('/' :: r) => '/' :: r
  | some ('?' :: r) => '/' :: '?' :: r
  | _ => pathAndQuery

/-- The path and query that are forwarded for those of a request. -/
def forwardedPath (s : Service) (pathAndQuery : String) : String :=
  match s.stripped with
  | none => pathAndQuery
  | some p => String.ofList (strip p.toList pathAndQuery.toList)

end Service

end Gatehouse
