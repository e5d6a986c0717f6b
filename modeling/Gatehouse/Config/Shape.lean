import Gatehouse.Config.Schema

/-!
# Configuration as data

Reading a configuration from a data tree and writing it into one, part by part. What is written has
every field, so that a configuration can be shown with its defaults resolved.
-/

namespace Gatehouse

/-! ## Services -/

namespace AffinitySource

/-- The cases by name. -/
def names : List (String × AffinitySource) :=
  [("cookie", .cookie), ("header", .header), ("query", .query)]

/-- Reads a case by its name. -/
def ofDatum (dialect : Dialect) (d : Datum) : Except Mismatch AffinitySource :=
  Shape.oneOf dialect names d

/-- Writes the name of a case. -/
def toDatum : AffinitySource → Datum
  | .cookie => .text "cookie"
  | .header => .text "header"
  | .query => .text "query"

end AffinitySource

namespace Affinity

/-- Reads how sessions are told apart. -/
def ofDatum (dialect : Dialect) (d : Datum) : Except Mismatch Affinity := do
  let p ← Shape.parts dialect ["param", "source"] d
  let param ← p.required "param" Shape.text
  let source ← p.withDefault "source" .cookie (AffinitySource.ofDatum dialect)
  return { param, source }

/-- Writes how sessions are told apart. -/
def toDatum (a : Affinity) : Datum :=
  .record [("param", .text a.param), ("source", a.source.toDatum)]

end Affinity

namespace Balancing

/-- Reads how requests are spread. -/
def ofDatum (dialect : Dialect) (d : Datum) : Except Mismatch Balancing := do
  let p ← Shape.parts dialect ["round_robin", "failover", "max_attempts", "sticky"] d
  let roundRobin ← p.withDefault "round_robin" true Shape.bool
  let failover ← p.withDefault "failover" true Shape.bool
  let maxAttempts ← p.withDefault "max_attempts" none (Shape.optional Shape.uint32)
  let sticky ← p.withDefault "sticky" none (Shape.optional (Affinity.ofDatum dialect))
  return { roundRobin, failover, maxAttempts, sticky }

/-- Writes how requests are spread. -/
def toDatum (b : Balancing) : Datum :=
  .record [("round_robin", .bool b.roundRobin), ("failover", .bool b.failover),
    ("max_attempts", .ofOption (fun n => .nat n.toNat) b.maxAttempts),
    ("sticky", .ofOption Affinity.toDatum b.sticky)]

end Balancing

namespace ThrottlePolicy

/-- Reads a throttle policy. -/
def ofDatum (dialect : Dialect) (d : Datum) : Except Mismatch ThrottlePolicy := do
  let p ← Shape.parts dialect ["global_enabled", "limit", "window_ms", "policy_ref"] d
  let globalEnabled ← p.withDefault "global_enabled" false Shape.bool
  let limit ← p.required "limit" Shape.int64
  let windowMs ← p.required "window_ms" Shape.int64
  let policyRef ← p.withDefault "policy_ref" none (Shape.optional Shape.text)
  return { globalEnabled, limit, windowMs, policyRef }

/-- Writes a throttle policy. -/
def toDatum (t : ThrottlePolicy) : Datum :=
  .record [("global_enabled", .bool t.globalEnabled), ("limit", .int t.limit.toInt),
    ("window_ms", .int t.windowMs.toInt), ("policy_ref", .ofText? t.policyRef)]

end ThrottlePolicy

namespace ServiceConfig

/-- Reads a service. -/
def ofDatum (dialect : Dialect) (d : Datum) : Except Mismatch ServiceConfig := do
  let p ← Shape.parts dialect
    ["id", "host", "path_prefix", "priority", "strip_prefix", "nodes", "load_balancing",
      "throttle"] d
  let id ← p.required "id" Shape.text
  let host ← p.optional "host" Shape.text
  let pathPrefix ← p.optional "path_prefix" Shape.text
  let priority ← p.withDefault "priority" 0 Shape.uint32
  let stripsPath ← p.withDefault "strip_prefix" false Shape.bool
  let nodes ← p.required "nodes" (Shape.list (Node.ofDatum dialect))
  let balancing ← p.withDefault "load_balancing" {} (Balancing.ofDatum dialect)
  let throttle ← p.withDefault "throttle" none (Shape.optional (ThrottlePolicy.ofDatum dialect))
  return { id, host, pathPrefix, priority, stripsPath, nodes, balancing, throttle }

/-- Writes a service. -/
def toDatum (s : ServiceConfig) : Datum :=
  .record [("id", .text s.id), ("host", .ofText? s.host), ("path_prefix", .ofText? s.pathPrefix),
    ("priority", .nat s.priority.toNat), ("strip_prefix", .bool s.stripsPath),
    ("nodes", .list (s.nodes.map Node.toDatum)), ("load_balancing", s.balancing.toDatum),
    ("throttle", .ofOption ThrottlePolicy.toDatum s.throttle)]

end ServiceConfig

/-! ## The gateway -/

namespace ListenerConfig

/-- Reads where the gateway listens. -/
def ofDatum (dialect : Dialect) (d : Datum) : Except Mismatch ListenerConfig := do
  let p ← Shape.parts dialect ["bind_address", "max_connections"] d
  let bindAddress ← p.withDefault "bind_address" "0.0.0.0:8080" Shape.text
  let maxConnections ← p.withDefault "max_connections" 10000 Shape.uint64
  return { bindAddress, maxConnections }

/-- Writes where the gateway listens. -/
def toDatum (l : ListenerConfig) : Datum :=
  .record [("bind_address", .text l.bindAddress), ("max_connections", .nat l.maxConnections.toNat)]

end ListenerConfig

namespace TimeoutConfig

/-- Reads how long the gateway waits. -/
def ofDatum (dialect : Dialect) (d : Datum) : Except Mismatch TimeoutConfig := do
  let p ← Shape.parts dialect ["connect_secs", "request_secs"] d
  let connectSecs ← p.withDefault "connect_secs" 5 Shape.uint64
  let requestSecs ← p.withDefault "request_secs" 30 Shape.uint64
  return { connectSecs, requestSecs }

/-- Writes how long the gateway waits. -/
def toDatum (t : TimeoutConfig) : Datum :=
  .record [("connect_secs", .nat t.connectSecs.toNat), ("request_secs", .nat t.requestSecs.toNat)]

end TimeoutConfig

namespace SecurityConfig

/-- Reads what the gateway refuses. -/
def ofDatum (dialect : Dialect) (d : Datum) : Except Mismatch SecurityConfig := do
  let p ← Shape.parts dialect ["max_body_size"] d
  let maxBodySize ← p.withDefault "max_body_size" 2097152 Shape.uint64
  return { maxBodySize }

/-- Writes what the gateway refuses. -/
def toDatum (s : SecurityConfig) : Datum :=
  .record [("max_body_size", .nat s.maxBodySize.toNat)]

end SecurityConfig

namespace LogFormat

/-- The cases by name. -/
def names : List (String × LogFormat) := [("pretty", .pretty), ("json", .json)]

/-- Reads a case by its name. -/
def ofDatum (dialect : Dialect) (d : Datum) : Except Mismatch LogFormat :=
  Shape.oneOf dialect names d

/-- Writes the name of a case. -/
def toDatum : LogFormat → Datum
  | .pretty => .text "pretty"
  | .json => .text "json"

end LogFormat

namespace ObservabilityConfig

/-- Reads what the gateway tells about itself. -/
def ofDatum (dialect : Dialect) (d : Datum) : Except Mismatch ObservabilityConfig := do
  let p ← Shape.parts dialect
    ["log_level", "log_format", "metrics_enabled", "metrics_address"] d
  let logLevel ← p.withDefault "log_level" "info" Shape.text
  let logFormat ← p.withDefault "log_format" .pretty (LogFormat.ofDatum dialect)
  let metricsEnabled ← p.withDefault "metrics_enabled" true Shape.bool
  let metricsAddress ← p.withDefault "metrics_address" "0.0.0.0:9090" Shape.text
  return { logLevel, logFormat, metricsEnabled, metricsAddress }

/-- Writes what the gateway tells about itself. -/
def toDatum (o : ObservabilityConfig) : Datum :=
  .record [("log_level", .text o.logLevel), ("log_format", o.logFormat.toDatum),
    ("metrics_enabled", .bool o.metricsEnabled), ("metrics_address", .text o.metricsAddress)]

end ObservabilityConfig

namespace SessionConfig

/-- Reads how long sessions are kept. -/
def ofDatum (dialect : Dialect) (d : Datum) : Except Mismatch SessionConfig := do
  let p ← Shape.parts dialect ["ttl_secs", "purge_interval_secs"] d
  let ttlSecs ← p.withDefault "ttl_secs" 1800 Shape.uint64
  let purgeIntervalSecs ← p.withDefault "purge_interval_secs" 60 Shape.uint64
  return { ttlSecs, purgeIntervalSecs }

/-- Writes how long sessions are kept. -/
def toDatum (s : SessionConfig) : Datum :=
  .record [("ttl_secs", .nat s.ttlSecs.toNat),
    ("purge_interval_secs", .nat s.purgeIntervalSecs.toNat)]

end SessionConfig

namespace EventSinkKind

/-- The cases by name. -/
def names : List (String × EventSinkKind) := [("none", .none), ("log", .log), ("http", .http)]

/-- Reads a case by its name. -/
def ofDatum (dialect : Dialect) (d : Datum) : Except Mismatch EventSinkKind :=
  Shape.oneOf dialect names d

/-- Writes the name of a case. -/
def toDatum : EventSinkKind → Datum
  | .none => .text "none"
  | .log => .text "log"
  | .http => .text "http"

end EventSinkKind

namespace EventSinkConfig

/-- Reads how records of decisions are delivered. -/
def ofDatum (dialect : Dialect) (d : Datum) : Except Mismatch EventSinkConfig := do
  let p ← Shape.parts dialect ["kind", "endpoint", "topic", "buffer_capacity"] d
  let kind ← p.withDefault "kind" .none (EventSinkKind.ofDatum dialect)
  let endpoint ← p.withDefault "endpoint" none (Shape.optional Shape.text)
  let topic ← p.withDefault "topic" "gateway.admission" Shape.text
  let bufferCapacity ← p.withDefault "buffer_capacity" 1024 Shape.uint64
  return { kind, endpoint, topic, bufferCapacity }

/-- Writes how records of decisions are delivered. -/
def toDatum (e : EventSinkConfig) : Datum :=
  .record [("kind", e.kind.toDatum), ("endpoint", .ofText? e.endpoint), ("topic", .text e.topic),
    ("buffer_capacity", .nat e.bufferCapacity.toNat)]

end EventSinkConfig

namespace ThrottleConfig

/-- Reads what admission shares between services. -/
def ofDatum (dialect : Dialect) (d : Datum) : Except Mismatch ThrottleConfig := do
  let p ← Shape.parts dialect ["consumer_header", "oracle_url", "oracle_timeout_ms", "events"] d
  let consumerHeader ← p.withDefault "consumer_header" "x-consumer-id" Shape.text
  let oracleUrl ← p.withDefault "oracle_url" none (Shape.optional Shape.text)
  let oracleTimeoutMs ← p.withDefault "oracle_timeout_ms" 250 Shape.uint64
  let events ← p.withDefault "events" {} (EventSinkConfig.ofDatum dialect)
  return { consumerHeader, oracleUrl, oracleTimeoutMs, events }

/-- Writes what admission shares between services. -/
def toDatum (t : ThrottleConfig) : Datum :=
  .record [("consumer_header", .text t.consumerHeader), ("oracle_url", .ofText? t.oracleUrl),
    ("oracle_timeout_ms", .nat t.oracleTimeoutMs.toNat), ("events", t.events.toDatum)]

end ThrottleConfig

namespace Config

/-- Reads a whole configuration. -/
def ofDatum (dialect : Dialect) (d : Datum) : Except Mismatch Config := do
  let p ← Shape.parts dialect
    ["listener", "timeouts", "security", "observability", "sessions", "throttle", "services"] d
  let listener ← p.withDefault "listener" {} (ListenerConfig.ofDatum dialect)
  let timeouts ← p.withDefault "timeouts" {} (TimeoutConfig.ofDatum dialect)
  let security ← p.withDefault "security" {} (SecurityConfig.ofDatum dialect)
  let observability ← p.withDefault "observability" {} (ObservabilityConfig.ofDatum dialect)
  let sessions ← p.withDefault "sessions" {} (SessionConfig.ofDatum dialect)
  let throttle ← p.withDefault "throttle" {} (ThrottleConfig.ofDatum dialect)
  let services ← p.withDefault "services" [] (Shape.list (ServiceConfig.ofDatum dialect))
  return { listener, timeouts, security, observability, sessions, throttle, services }

/-- Writes a whole configuration, every field present. -/
def toDatum (c : Config) : Datum :=
  .record [("listener", c.listener.toDatum), ("timeouts", c.timeouts.toDatum),
    ("security", c.security.toDatum), ("observability", c.observability.toDatum),
    ("sessions", c.sessions.toDatum), ("throttle", c.throttle.toDatum),
    ("services", .list (c.services.map ServiceConfig.toDatum))]

end Config

end Gatehouse
