import Gatehouse.Selection.Forward
import Gatehouse.Text.Utf8

/-!
# Answers of the gateway itself

What a client is told when no backend answered its request, or when the request never reached one.
The answer of a backend is passed on as it is, however bad.
-/

namespace Gatehouse

/-- Why the gateway answers itself. -/
inductive GatewayError where
  /-- No service takes the request. -/
  | noRoute
  /-- The request was turned away for now. -/
  | throttled (retryAfterMs : Int64)
  /-- The body is longer than allowed, or did not arrive whole. -/
  | payloadTooLarge (limit : Nat)
  /-- The service has no nodes. -/
  | noBackends (service : String)
  /-- No node answered. -/
  | badGateway (reason : String)
  deriving DecidableEq, Repr

namespace GatewayError

/-- The status of the answer. -/
def status : GatewayError → Http.Status
  | noRoute => ⟨404, by decide⟩
  | throttled _ => ⟨429, by decide⟩
  | payloadTooLarge _ => ⟨413, by decide⟩
  | noBackends _ => ⟨503, by decide⟩
  | badGateway _ => ⟨502, by decide⟩

/-- The text of the answer. -/
def message : GatewayError → String
  | noRoute => "no service matches the request"
  | throttled ms => "rate limit exceeded, retry after " ++ toString ms.toInt ++ " ms"
  | payloadTooLarge limit => "request body exceeds " ++ toString limit ++ " bytes"
  | noBackends service => "service '" ++ service ++ "' has no backend nodes"
  | badGateway reason => "no backend responded: " ++ reason

/-- The answer when forwarding got no response. -/
def ofSelection : SelectionError → GatewayError
  | .noBackends service => noBackends service
  | e => badGateway e.message

/-- Whole seconds that are no shorter than a number of milliseconds. -/
def retryAfterSecs (ms : Nat) : Nat := (ms + 999) / 1000

/-- The header fields of the answer. -/
def headers : GatewayError → Http.Headers
  | throttled ms =>
    let ms := ms.toInt.toNat
    ⟨[("content-type", "text/plain; charset=utf-8"),
      ("retry-after", toString (retryAfterSecs ms)),
      ("x-ratelimit-retry-after-ms", toString ms)]⟩
  | _ => ⟨[("content-type", "text/plain; charset=utf-8")]⟩

/-- The answer. -/
def response (e : GatewayError) : Http.Response :=
  ⟨e.status, e.headers, Text.toBytes e.message.toList⟩

end GatewayError

end Gatehouse
