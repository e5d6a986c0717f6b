import Gatehouse.Config.Schema
import Gatehouse.Text.Chars

/-!
# Rules that a configuration must keep

A configuration that could be read may still be unusable: a service without nodes, two services of
one name, a limit of nothing. `Config.violations` lists every broken rule in the order in which the
configuration breaks them, and a configuration is accepted when the list is empty.

## Contract

* Violations come service by service, in the services' order, and those of event delivery last.
* A service has at most one fault of identity and each of its nodes at most one fault.
* Nothing hides the violations of another service.
-/

namespace Gatehouse

/-- What is wrong with a node. -/
inductive NodeFault where
  | emptyHost
  | zeroPort
  | unsupportedScheme (scheme : String)
  deriving DecidableEq, Repr

/-- What is wrong with a throttle policy. -/
inductive ThrottleFault where
  | limit (value : Int64)
  | window (value : Int64)
  deriving DecidableEq, Repr

/-- What is wrong with the delivery of events. -/
inductive EventSinkFault where
  | noEndpoint
  | noCapacity
  deriving DecidableEq, Repr

/-- A rule broken by a configuration. -/
inductive Violation where
  | emptyServiceId
  | invalidServiceId (service : String)
  | duplicateService (service : String)
  | noNodes (service : String)
  | invalidNode (service : String) (index : Nat) (fault : NodeFault)
  | missingStickyParam (service : String)
  | zeroAttempts (service : String)
  | invalidThrottle (service : String) (fault : ThrottleFault)
  | missingOracle (service : String)
  | invalidEventSink (fault : EventSinkFault)
  deriving DecidableEq, Repr

/-! ## Messages -/

/-- The fault in words. -/
def NodeFault.message : NodeFault → String
  | .emptyHost => "host is empty"
  | .zeroPort => "port must be non-zero"
  | .unsupportedScheme s =>
    "unsupported scheme '" ++ s ++ "', only http backends are supported"

/-- The fault in words. -/
def ThrottleFault.message : ThrottleFault → String
  | .limit v => "limit must be positive, got " ++ toString v.toInt
  | .window v => "window_ms must be positive, got " ++ toString v.toInt

/-- The fault in words. -/
def EventSinkFault.message : EventSinkFault → String
  | .noEndpoint => "kind = \"http\" requires an endpoint"
  | .noCapacity => "buffer_capacity must be at least 1"

/-- The broken rule in words. -/
def Violation.message : Violation → String
  | .emptyServiceId => "service id must not be empty"
  | .invalidServiceId s => "service id '" ++ s ++ "' must not contain ':'"
  | .duplicateService s => "service '" ++ s ++ "' is defined more than once"
  | .noNodes s => "service '" ++ s ++ "' has no backend nodes"
  | .invalidNode s i f => "service '" ++ s ++ "' node " ++ toString i ++ ": " ++ f.message
  | .missingStickyParam s =>
    "service '" ++ s ++ "' enables sticky sessions without a key parameter"
  | .zeroAttempts s => "service '" ++ s ++ "' has max_attempts = 0"
  | .invalidThrottle s f => "service '" ++ s ++ "' throttle: " ++ f.message
  | .missingOracle s =>
    "service '" ++ s ++ "' references a policy but throttle.oracle_url is not set"
  | .invalidEventSink f => "throttle.events: " ++ f.message

/-- The broken rules in words, in their order. -/
def Violation.messages (vs : List Violation) : String :=
  ", ".intercalate (vs.map Violation.message)

/-! ## Faults of the parts -/

/-- Whether there is nothing but blanks in a text. -/
def isBlankText (s : String) : Bool := Text.trim s == ""

/-- The first fault of a node. -/
def Node.fault? (n : Node) : Option NodeFault :=
  if isBlankText n.host then some .emptyHost
  else if n.port = 0 then some .zeroPort
  else if n.scheme ≠ "http" then some (.unsupportedScheme n.scheme)
  else none

/-- Whether an identity can be told from the key made with it: no blank name, and no colon, which
separates the service from the consumer in a key. -/
def acceptableId (id : String) : Bool := !isBlankText id && !id.toList.contains ':'

/-- The fault of a service's identity, given the acceptable identities before it. -/
def idViolations (earlier : List String) (id : String) : List Violation :=
  if isBlankText id then [.emptyServiceId]
  else if id.toList.contains ':' then [.invalidServiceId id]
  else if earlier.contains id then [.duplicateService id]
  else []

/-- The faults of the nodes from position `index` on. -/
def nodeViolations (service : String) : Nat → List Node → List Violation
  | _, [] => []
  | index, n :: r =>
    match n.fault? with
    | some f => .invalidNode service index f :: nodeViolations service (index + 1) r
    | none => nodeViolations service (index + 1) r

/-- The faults of spreading. -/
def Balancing.violations (service : String) (b : Balancing) : List Violation :=
  (match b.sticky with
    | some a => if isBlankText a.param then [.missingStickyParam service] else []
    | none => []) ++
  (if b.maxAttempts = some 0 then [.zeroAttempts service] else [])

/-- The faults of a throttle policy. A reference to a policy needs an oracle to answer it. -/
def ThrottlePolicy.violations (service : String) (hasOracle : Bool) (t : ThrottlePolicy) :
    List Violation :=
  (if t.limit.toInt ≤ 0 then [.invalidThrottle service (.limit t.limit)] else []) ++
  (if t.windowMs.toInt ≤ 0 then [.invalidThrottle service (.window t.windowMs)] else []) ++
  (if t.policyRef.isSome && !hasOracle then [.missingOracle service] else [])

/-- The faults of a service besides its identity. -/
def ServiceConfig.violations (hasOracle : Bool) (s : ServiceConfig) : List Violation :=
  (if s.nodes = [] then [.noNodes s.id] else []) ++
  nodeViolations s.id 0 s.nodes ++
  s.balancing.violations s.id ++
  (match s.throttle with
    | some t => t.violations s.id hasOracle
    | none => [])

/-- The faults of event delivery. -/
def EventSinkConfig.violations (e : EventSinkConfig) : List Violation :=
  (if e.kind = .http ∧ e.endpoint = none then [.invalidEventSink .noEndpoint] else []) ++
  (if e.kind ≠ .none ∧ e.bufferCapacity = 0 then [.invalidEventSink .noCapacity] else [])

/-! ## The whole configuration -/

/-- The faults of the services, given the acceptable identities before them. -/
def serviceViolations (hasOracle : Bool) : List String → List ServiceConfig → List Violation
  | _, [] => []
  | earlier, s :: r =>
    idViolations earlier s.id ++ s.violations hasOracle ++
      serviceViolations hasOracle (if acceptableId s.id then s.id :: earlier else earlier) r

/-- Every rule that a configuration breaks. -/
def Config.violations (c : Config) : List Violation :=
  serviceViolations c.throttle.oracleUrl.isSome [] c.services ++ c.throttle.events.violations

end Gatehouse
