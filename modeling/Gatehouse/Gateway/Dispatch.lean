import Gatehouse.Admission.Check
import Gatehouse.Gateway.Intake
import Gatehouse.Routing.Registry

/-!
# Dispatch

The way of a request through the gateway: the registry names its service, admission lets it through
or not, its body is taken in, and it is forwarded. The first of these that fails answers it.
-/

namespace Gatehouse

/-- A gateway in operation: the registry, the stores and backends behind selection and admission. -/
structure Gateway (σ κ ω β : Type) where
  registry : Registry
  selector : Selector σ
  admission : Admission κ ω
  backends : β
  /-- Header that names the consumer. -/
  consumerHeader : String
  maxBodySize : Nat
  /-- Counts of the requests answered. -/
  metrics : Metrics

/-- A request as it comes in. -/
structure Arrival where
  head : RequestHead
  body : Inflow
  client : Net.Address
  /-- The consumer, if it was established before. -/
  identity : Option String := none
  /-- When the request comes in. -/
  now : Int64
  /-- Identifier for the request, if it comes without one. -/
  freshId : Uuid
  /-- Identifier for the event of its admission. -/
  eventId : Uuid

/-- What becomes of a request. -/
inductive Answer where
  /-- A response of a backend. -/
  | response (r : Http.Response)
  /-- An answer of the gateway. -/
  | error (e : GatewayError)
  /-- The client gave up. -/
  | abandoned
  deriving DecidableEq, Repr

namespace Gateway

variable {σ κ ω β : Type} [Store σ SessionRecord] [Store κ ThrottleCounter] [Oracle ω] [Backends β]

/-- The path and query that a request is forwarded with. -/
def forwardedPath (service : Service) (head : RequestHead) : String :=
  service.forwardedPath (head.target.pathAndQuery?.getD "/")

/-- The key of the session that a request to a service is of. -/
def sessionKey? (service : Service) (head : RequestHead) : Option String :=
  service.balancing.sticky.bind fun a => Session.key? a head.headers head.target.query?

/-- Forwards a request to its service. -/
def forward (g : Gateway σ κ ω β) (service : Service) (a : Arrival) :
    Answer × Gateway σ κ ω β :=
  match a.head.buffer a.body (forwardedPath service a.head) g.maxBodySize a.client with
  | .error e => (.error e, g)
  | .ok request =>
    let (result, selector, backends) :=
      g.selector.forward service service.nodes (sessionKey? service a.head) request g.backends
    let g := { g with selector, backends }
    match result with
    | .answered f => (.response f.response, g)
    | .failed e => (.error (.ofSelection e), g)
    | .abandoned => (.abandoned, g)

/-- Takes a request to its service, if admission lets it through. -/
def handle (g : Gateway σ κ ω β) (service : Service) (a : Arrival) :
    Answer × Gateway σ κ ω β :=
  let consumer := a.head.consumer? a.identity g.consumerHeader
  let (decision, admission) := g.admission.check service consumer a.eventId a.now
  let g := { g with admission }
  if decision.allowed then g.forward service a
  else (.error (.throttled decision.retryAfterMs), g)

/-- The name of the service of a request, and what becomes of the request. -/
def dispatch (g : Gateway σ κ ω β) (a : Arrival) : String × Answer × Gateway σ κ ω β :=
  match g.registry.resolve a.head with
  | none => ("none", .error .noRoute, g)
  | some service => (service.id, g.handle service a)

/-- Answers a request and counts it, unless the client gave up. -/
def serve (g : Gateway σ κ ω β) (a : Arrival) : Option Http.Response × Gateway σ κ ω β :=
  let head := a.head.identified a.freshId
  let (service, answer, g) := g.dispatch { a with head }
  let answered (r : Http.Response) : Option Http.Response × Gateway σ κ ω β :=
    (some (head.identify r),
      { g with metrics := g.metrics.bump (.requests head.method r.status.code service) })
  match answer with
  | .response r => answered r
  | .error e => answered e.response
  | .abandoned => (none, g)

/-- Everything that the gateway counted. -/
def counts (g : Gateway σ κ ω β) : Metrics :=
  (g.metrics.merge g.selector.metrics).merge g.admission.metrics

/-- Replaces the services. -/
def reload (g : Gateway σ κ ω β) (services : List ServiceConfig) : Gateway σ κ ω β :=
  { g with registry := g.registry.reload services }

end Gateway

end Gatehouse
