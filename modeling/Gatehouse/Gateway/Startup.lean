import Gatehouse.Config.Load
import Gatehouse.Gateway.Dispatch

/-!
# Startup

From a configuration to a gateway in operation. The configuration is loaded, the listening address
is taken, and the gateway is set up, in this order; the first that fails ends it.
-/

namespace Gatehouse

/-- Why a gateway cannot be set up. -/
inductive SetupError where
  /-- The header that names the consumer is none. -/
  | invalidConsumerHeader (name : String)
  deriving DecidableEq, Repr

/-- The reason in words. -/
def SetupError.message : SetupError → String
  | .invalidConsumerHeader name => "invalid consumer header '" ++ name ++ "'"

/-- Why a gateway was not started. -/
inductive StartupError where
  | config (e : LoadError)
  /-- The listening address cannot be taken. -/
  | io (reason : String)
  | setup (e : SetupError)
  deriving DecidableEq, Repr

/-- The reason in words. -/
def StartupError.message : StartupError → String
  | .config e => "configuration error: " ++ e.message
  | .io reason => "I/O error: " ++ reason
  | .setup e => e.message

namespace Gateway

/-- Sets a gateway up: its stores, the oracle and the backends are given, and used as configured. -/
def ofConfig (c : Config) (sessions : σ) (counters : κ) (oracle : ω) (backends : β) :
    Except SetupError (Gateway σ κ ω β) :=
  match Http.headerName? (Text.lower c.throttle.consumerHeader) with
  | none => .error (.invalidConsumerHeader c.throttle.consumerHeader)
  | some consumerHeader =>
    .ok
      { registry := Registry.ofConfig c.services
        selector :=
          { sessions, ttlMs := c.sessions.ttlSecs.toNat * 1000, rotations := Table.empty,
            metrics := Metrics.empty }
        admission :=
          { counters, oracle := c.throttle.oracleUrl.map fun _ => oracle
            oracleTimeoutMs := c.throttle.oracleTimeoutMs.toNat
            events :=
              if c.throttle.events.kind = .none then none
              else some (Delivery.start c.throttle.events.bufferCapacity.toNat)
            metrics := Metrics.empty }
        backends, consumerHeader
        maxBodySize := c.security.maxBodySize.toNat
        metrics := Metrics.empty }

end Gateway

/-- The addresses that a gateway can listen at: those of the machine itself, and the one that stands
for all of them. -/
def canListen (bindAddress : String) : Bool :=
  match Net.endpoint? bindAddress with
  | some (.v4 a b c d, _) => a == 127 || (a == 0 && b == 0 && c == 0 && d == 0)
  | some (.v6 groups, _) =>
    groups == [0, 0, 0, 0, 0, 0, 0, 0] || groups == [0, 0, 0, 0, 0, 0, 0, 1]
  | none =>
    match Text.cutLast ':' bindAddress.toList with
    | some (host, port) => host == "localhost".toList && (Net.port? port).isSome
    | none => false

/-- Starts a gateway from what its configuration file was found to hold. -/
def start (file : Option (Except String String)) (sessions : σ) (counters : κ) (oracle : ω)
    (backends : β) : Except StartupError (Gateway σ κ ω β) := do
  let c ← (Config.load file).mapError .config
  if canListen c.listener.bindAddress then
    (Gateway.ofConfig c sessions counters oracle backends).mapError .setup
  else .error (.io ("cannot listen at " ++ c.listener.bindAddress))

end Gatehouse
