import Gatehouse.Events.Uuid
import Gatehouse.Shape

/-!
# Admission events

The record of one admission decision, as it is published for others to audit.
-/

namespace Gatehouse

/-- The record of a decision. -/
structure AdmissionEvent where
  eventId : Uuid
  serviceId : String
  /-- The consumer, if the count is kept for each consumer. -/
  consumerKey : Option String
  allowed : Bool
  /-- The count after the decision. -/
  count : Int64
  limit : Int64
  windowStartMs : Int64
  /-- When the decision was made. -/
  timestampMs : Int64
  deriving DecidableEq, Repr

namespace AdmissionEvent

/-- Reads an identifier. -/
def uuidOfDatum : Shape Uuid
  | .text s =>
    match Uuid.read? s with
    | some u => .ok u
    | none => .error .shape
  | _ => .error .shape

/-- Reads a record. -/
def ofDatum (d : Datum) : Except Mismatch AdmissionEvent := do
  let p ← Shape.parts .json
    ["event_id", "service_id", "consumer_key", "allowed", "count", "limit", "window_start_ms",
      "timestamp_ms"] d
  let eventId ← p.required "event_id" uuidOfDatum
  let serviceId ← p.required "service_id" Shape.text
  let consumerKey ← p.optional "consumer_key" Shape.text
  let allowed ← p.required "allowed" Shape.bool
  let count ← p.required "count" Shape.int64
  let limit ← p.required "limit" Shape.int64
  let windowStartMs ← p.required "window_start_ms" Shape.int64
  let timestampMs ← p.required "timestamp_ms" Shape.int64
  return { eventId, serviceId, consumerKey, allowed, count, limit, windowStartMs, timestampMs }

/-- The field of the consumer, left out when there is none. -/
def consumerField : Option String → List (String × Datum)
  | some c => [("consumer_key", .text c)]
  | none => []

/-- The fields of a record without its identifier. -/
def details (e : AdmissionEvent) : List (String × Datum) :=
  ("service_id", .text e.serviceId) :: (consumerField e.consumerKey ++
    [("allowed", .bool e.allowed), ("count", .int e.count.toInt), ("limit", .int e.limit.toInt),
      ("window_start_ms", .int e.windowStartMs.toInt),
      ("timestamp_ms", .int e.timestampMs.toInt)])

/-- Writes a record. A consumer that is absent is left out. -/
def toDatum (e : AdmissionEvent) : Datum :=
  .record (("event_id", .text e.eventId.text) :: e.details)

end AdmissionEvent

/-! ## Delivery -/

/-- Why an event was not delivered. -/
inductive EventError where
  | transport (reason : String)
  | rejected (status : Nat)
  deriving DecidableEq, Repr

/-- The failure in words. -/
def EventError.message : EventError → String
  | .transport reason => "event transport error: " ++ reason
  | .rejected status => "event collector rejected event with status " ++ toString status

/-- The fields of the log line that audits a decision. -/
def AdmissionEvent.audit (e : AdmissionEvent) (topic : String) : List (String × Datum) :=
  [("message", .text "admission"), ("topic", .text topic), ("event_id", .text e.eventId.text),
    ("service", .text e.serviceId), ("consumer", .text (e.consumerKey.getD "-")),
    ("allowed", .bool e.allowed), ("count", .int e.count.toInt), ("limit", .int e.limit.toInt),
    ("window_start_ms", .int e.windowStartMs.toInt)]

end Gatehouse
