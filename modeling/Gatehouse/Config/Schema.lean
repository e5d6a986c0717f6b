import Gatehouse.Node

/-!
# Configuration

What an operator can set. Every part of the configuration has a default, so the empty file is a
configuration; a service has only its identity and its nodes to state.
-/

namespace Gatehouse

/-! ## Services -/

/-- Where the value that identifies a session comes from. -/
inductive AffinitySource where
  | cookie
  | header
  | query
  deriving DecidableEq, Repr

/-- How the sessions of a service are told apart. -/
structure Affinity where
  /-- Name of the cookie, header or query parameter. -/
  param : String
  /-- Where it is looked for. -/
  source : AffinitySource := .cookie
  deriving DecidableEq, Repr

/-- How the requests of a service are spread over its nodes. -/
structure Balancing where
  /-- Whether failover goes on at the first node after the last. -/
  roundRobin : Bool := true
  /-- Whether a failed first attempt of a session is repeated elsewhere. -/
  failover : Bool := true
  /-- Attempts allowed for a request; one for each node when not set. -/
  maxAttempts : Option UInt32 := none
  /-- How sessions are kept on their nodes, if they are. -/
  sticky : Option Affinity := none
  deriving DecidableEq, Repr

/-- How many requests of a service are admitted in a window. -/
structure ThrottlePolicy where
  /-- One count for the service, rather than one for each consumer. -/
  globalEnabled : Bool := false
  /-- Requests admitted in a window. -/
  limit : Int64
  /-- Length of a window. -/
  windowMs : Int64
  /-- The policy that gives limits for each consumer, if it is not this one. -/
  policyRef : Option String := none
  deriving DecidableEq, Repr

/-- A service as configured. -/
structure ServiceConfig where
  /-- Name of the service. -/
  id : String
  /-- Host that requests must be addressed to. -/
  host : Option String := none
  /-- Path that requests must be at or under. -/
  pathPrefix : Option String := none
  /-- A service of higher priority is preferred. -/
  priority : UInt32 := 0
  /-- Whether the path prefix is removed before forwarding. -/
  stripsPath : Bool := false
  /-- The backends, in order. -/
  nodes : List Node
  /-- Spreading of requests. -/
  balancing : Balancing := {}
  /-- Admission of requests. -/
  throttle : Option ThrottlePolicy := none
  deriving DecidableEq, Repr

/-! ## The gateway -/

/-- Where the gateway listens. -/
structure ListenerConfig where
  bindAddress : String := "0.0.0.0:8080"
  maxConnections : UInt64 := 10000
  deriving DecidableEq, Repr

/-- How long the gateway waits. -/
structure TimeoutConfig where
  connectSecs : UInt64 := 5
  requestSecs : UInt64 := 30
  deriving DecidableEq, Repr

/-- What the gateway refuses. -/
structure SecurityConfig where
  /-- Longest request body, in bytes. -/
  maxBodySize : UInt64 := 2097152
  deriving DecidableEq, Repr

/-- Layout of log lines. -/
inductive LogFormat where
  | pretty
  | json
  deriving DecidableEq, Repr

/-- What the gateway tells about itself. -/
structure ObservabilityConfig where
  logLevel : String := "info"
  logFormat : LogFormat := .pretty
  metricsEnabled : Bool := true
  metricsAddress : String := "0.0.0.0:9090"
  deriving DecidableEq, Repr

/-- How long sessions are kept. -/
structure SessionConfig where
  ttlSecs : UInt64 := 1800
  purgeIntervalSecs : UInt64 := 60
  deriving DecidableEq, Repr

/-- Where records of admission decisions go. -/
inductive EventSinkKind where
  | none
  | log
  | http
  deriving DecidableEq, Repr

/-- How records of admission decisions are delivered. -/
structure EventSinkConfig where
  kind : EventSinkKind := .none
  endpoint : Option String := .none
  topic : String := "gateway.admission"
  bufferCapacity : UInt64 := 1024
  deriving DecidableEq, Repr

/-- Admission, as far as it is the same for all services. -/
structure ThrottleConfig where
  /-- Header that names the consumer. -/
  consumerHeader : String := "x-consumer-id"
  /-- The policy oracle. -/
  oracleUrl : Option String := none
  oracleTimeoutMs : UInt64 := 250
  events : EventSinkConfig := {}
  deriving DecidableEq, Repr

/-- A whole configuration. -/
structure Config where
  listener : ListenerConfig := {}
  timeouts : TimeoutConfig := {}
  security : SecurityConfig := {}
  observability : ObservabilityConfig := {}
  sessions : SessionConfig := {}
  throttle : ThrottleConfig := {}
  services : List ServiceConfig := []
  deriving DecidableEq, Repr

end Gatehouse
