import Gatehouse.Http.Network
import Gatehouse.Backend.Basic

/-!
# Backends on the network

A request goes to a node over the network without the header fields that concern only the connection
it came in on. Nodes are reached by plain HTTP.
-/

namespace Gatehouse

namespace Backends

/-- The fields that concern one connection only, and the host. -/
def connectionFields : List String :=
  ["host", "connection", "proxy-authorization", "te", "trailer", "transfer-encoding", "upgrade"]

/-- The fields that go on to a node. -/
def onward (h : Http.Headers) : Http.Headers :=
  ⟨h.fields.filter fun f => !connectionFields.contains f.1⟩

/-- The message in which a request goes to a node. -/
def outbound (n : Node) (r : Http.Request) : Except BackendError Http.Outbound :=
  if n.scheme ≠ "http" then .error (.unsupportedScheme n.scheme)
  else
    match Http.address (n.url r.pathAndQuery) with
    | .error f => .error (.invalidUrl (Http.addressFault f))
    | .ok (url, target) =>
      .ok { method := r.method, url, target, headers := onward r.headers, body := r.body }

end Backends

/-- Backends on a network. -/
structure NetworkBackends (ν : Type) where
  network : ν

/-- A request that can be addressed is answered by the network. -/
instance [Http.Network ν] : Backends (NetworkBackends ν) where
  send n r b :=
    match Backends.outbound n r with
    | .error e => (.error e, b)
    | .ok m =>
      let (back, network) := Http.Network.exchange m b.network
      let reply := match back with
        | .response r => .response r
        | .timedOut => .error (.failed "client error (Connect)")
        | .failed reason => .error (.failed reason)
      (reply, { network })

end Gatehouse
