import Gatehouse.Http.Message
import Gatehouse.Http.Target
import Gatehouse.Text.Utf8
import Gatehouse.Url.Reader

/-!
# The network

What the gateway sends to others is an `Outbound` message, addressed by a URL that can stand in a
request. What comes back is a response, or word that there was none.
-/

namespace Gatehouse

namespace Http

/-- A message on its way out. -/
structure Outbound where
  method : String
  url : Url
  /-- The URL as it stands in the request. -/
  target : Target
  headers : Headers
  body : Body
  deriving DecidableEq, Repr

/-- What came back. -/
inductive Exchanged where
  | response (r : Response)
  /-- There was no answer in the time allowed. -/
  | timedOut
  /-- There was no answer. -/
  | failed (reason : String)
  deriving DecidableEq, Repr

/-- Networks in states `ν`. -/
class Network (ν : Type) where
  /-- Sends a message and waits for the answer. -/
  exchange : Outbound → ν → Exchanged × ν

/-- Why a message cannot be addressed. -/
def addressFault (e : Url.Fault ⊕ TargetFault) : String :=
  match e with
  | .inl f => f.message
  | .inr f => f.message

/-- A URL together with the form in which it stands in a request. -/
def address (url : Except Url.Fault Url) : Except (Url.Fault ⊕ TargetFault) (Url × Target) :=
  match url with
  | .error f => .error (.inl f)
  | .ok u =>
    match Target.read u.text with
    | .error f => .error (.inr f)
    | .ok t => .ok (u, t)

/-- A JSON document on its way to a URL. -/
def postJson (url : String) (document : String) :
    Except (Url.Fault ⊕ TargetFault) Outbound := do
  let (url, target) ← address (Url.read url)
  return { method := "POST", url, target,
           headers := ⟨[("content-type", "application/json")]⟩
           body := Text.toBytes document.toList }

end Http

/-- No network: nothing can be reached. -/
structure Unplugged where
  /-- What is said of every attempt. -/
  reason : String

/-- Without a network every message fails. -/
instance : Http.Network Unplugged where
  exchange _ n := (.failed n.reason, n)

end Gatehouse
