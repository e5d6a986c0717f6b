import Gatehouse.Events.Uuid
import Gatehouse.Gateway.Error
import Gatehouse.Net.Address
import Gatehouse.Routing.Condition

/-!
# Taking requests in

A request that comes in gets an identifier, which its response carries too. Before it is forwarded
its consumer is told from its header, its body is read to the end, and it is noted whom it was
forwarded for. The body is kept, so that the request can be sent again.
-/

namespace Gatehouse

/-- A body as it arrives. -/
structure Inflow where
  /-- The bytes that arrive. -/
  bytes : List UInt8
  /-- Whether it breaks off after them. -/
  broken : Bool := false

namespace RequestHead

/-- The identifier of a request, as far as it has a readable one. -/
def requestId (r : RequestHead) : String := (r.headers.read? "x-request-id").getD "unknown"

/-- The request with an identifier: its own, or else a fresh one. -/
def identified (r : RequestHead) (fresh : Uuid) : RequestHead :=
  if (r.headers.get? "x-request-id").isSome then r
  else { r with headers := r.headers.set "x-request-id" fresh.text }

/-- The response with the identifier of the request, unless it has one of its own. -/
def identify (r : RequestHead) (response : Http.Response) : Http.Response :=
  match response.headers.get? "x-request-id", r.headers.get? "x-request-id" with
  | none, some id => { response with headers := response.headers.set "x-request-id" id }
  | _, _ => response

/-- The consumer that makes a request: as established before, or else as named in a header. -/
def consumer? (identity : Option String) (header : String) (r : RequestHead) : Option String :=
  match identity with
  | some c => some c
  | none =>
    match (r.headers.read? header).map Text.trim with
    | some "" => none
    | c => c

/-- The length that a request declares for its body. -/
def declaredLength? (r : RequestHead) : Option Nat :=
  (r.headers.read? "content-length").bind (Text.natBelow? UInt64.size)

/-- The fields to forward: the client is added to those that the request was forwarded for, and the
host that it was addressed to is noted. -/
def forwardedHeaders (r : RequestHead) (client : Net.Address) : Http.Headers :=
  let chain := match r.headers.read? "x-forwarded-for" with
    | some earlier => earlier ++ ", " ++ client.text
    | none => client.text
  let h := r.headers.set "x-forwarded-for" chain
  match r.headers.get? "host" with
  | some host => h.set "x-forwarded-host" host
  | none => h

/-- The request to forward, if its body is whole and no longer than allowed. -/
def buffer (r : RequestHead) (body : Inflow) (pathAndQuery : String) (maxBodySize : Nat)
    (client : Net.Address) : Except GatewayError Http.Request :=
  let declared := match r.declaredLength? with
    | some n => n
    | none => 0
  if maxBodySize < declared || maxBodySize < body.bytes.length || body.broken then
    .error (.payloadTooLarge maxBodySize)
  else
    .ok { method := r.method, pathAndQuery, headers := r.forwardedHeaders client,
          body := body.bytes }

end RequestHead

end Gatehouse
