import Gatehouse.Events.Event
import Gatehouse.Http.Network
import Gatehouse.Json.Writer

/-!
# Collecting events on the network

Each event is sent as a JSON document to a collector, at a URL that names the topic. The collector
takes it with any status of success.
-/

namespace Gatehouse

/-- A collector on a network. -/
structure Collector (ν : Type) where
  network : ν
  endpoint : String

namespace Collector

/-- The URL of a topic. -/
def topicUrl (endpoint topic : String) : String :=
  Text.trimEndOf '/' endpoint ++ "/topics/" ++ topic

/-- Sends an event. -/
def send [Http.Network ν] (c : Collector ν) (topic : String) (e : AdmissionEvent) :
    Except EventError Unit × Collector ν :=
  match Http.postJson (topicUrl c.endpoint topic) (Json.write e.toDatum) with
  | .error f => (.error (.transport (Http.addressFault f)), c)
  | .ok m =>
    let (back, network) := Http.Network.exchange m c.network
    let result := match back with
      | .response r => if r.status.isSuccess then .ok () else .error (.rejected r.status.code)
      | .timedOut => .error (.transport "operation timed out")
      | .failed reason => .error (.transport reason)
    (result, { c with network })

end Collector

end Gatehouse
