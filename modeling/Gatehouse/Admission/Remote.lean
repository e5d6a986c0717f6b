import Gatehouse.Admission.Verdict
import Gatehouse.Http.Network
import Gatehouse.Json.Reader
import Gatehouse.Json.Writer

/-!
# An oracle on the network

The oracle is asked with a JSON document that names the consumer, at a URL that names the policy. Its
verdict is the `result` in the document that it answers with.
-/

namespace Gatehouse

/-- An oracle on a network. -/
structure RemoteOracle (ν : Type) where
  network : ν
  baseUrl : String
  timeoutMs : Nat

namespace RemoteOracle

/-- The URL of a policy. -/
def policyUrl (baseUrl policyRef : String) : String :=
  Text.trimEndOf '/' baseUrl ++ "/v1/data/" ++ Text.trimStartOf '/' policyRef

/-- The document that asks about a consumer. -/
def question (consumer : String) : Datum :=
  .record [("input", .record [("consumer_key", .text consumer)])]

/-- The verdict in a document, if there is one. -/
def verdictIn (d : Datum) : Except Mismatch (Option Verdict) := do
  let p ← Shape.parts .json ["result"] d
  p.optional "result" (Shape.optional Verdict.ofDatum) |>.map Option.join

/-- What the body of an answer says. -/
def readBody (body : Http.Body) : Except OracleError Verdict :=
  match (Text.ofBytes? body).bind fun cs => Json.read? (String.ofList cs) with
  | none => .error (.unusable "error decoding response body")
  | some d =>
    match verdictIn d with
    | .error _ => .error (.unusable "error decoding response body")
    | .ok none => .error (.unusable "missing result")
    | .ok (some v) => .ok v

/-- What an answer says. -/
def readAnswer (r : Http.Response) : Except OracleError Verdict :=
  if r.status.isSuccess then readBody r.body
  else .error (.unusable ("status " ++ r.status.text))

/-- Asks about a policy and a consumer. -/
def evaluate [Http.Network ν] (o : RemoteOracle ν) (policyRef consumer : String) :
    Except OracleError Verdict × RemoteOracle ν :=
  match Http.postJson (policyUrl o.baseUrl policyRef) (Json.write (question consumer)) with
  | .error f => (.error (.transport (Http.addressFault f)), o)
  | .ok m =>
    let (back, network) := Http.Network.exchange m o.network
    let answer := match back with
      | .response r => readAnswer r
      | .timedOut => .error (.timeout o.timeoutMs)
      | .failed reason => .error (.transport reason)
    (answer, { o with network })

end RemoteOracle

/-- An oracle on a network keeps its own time, so every answer of it is in time. -/
instance [Http.Network ν] : Oracle (RemoteOracle ν) where
  ask policyRef consumer o :=
    let (answer, o) := o.evaluate policyRef consumer
    (⟨0, answer⟩, o)

end Gatehouse
