import Gatehouse.Admission.Verdict
import Gatehouse.Events.Delivery
import Gatehouse.Metrics
import Gatehouse.Service
import Gatehouse.Store.Basic

/-!
# Admission

Whether a request may go on to the backends. Requests are counted in windows, for a service as a
whole or for each of its consumers, and a request beyond the limit of its window is turned away with
a hint when to come again.

## Contract

* A service without a policy admits everything, and so does a policy for consumers where there is no
  consumer. Nothing is counted or recorded then.
* The limits for a consumer come from the policy, or from the oracle that the policy names. The oracle
  is asked only when there is no counter; a counter that is there, expired or not, keeps its limits.
* Where the oracle decides, every failure turns the request away. Elsewhere every failure admits it.
* Every other check is recorded: by one event and one count.

## Implementation notes

A check reads the clock, reads the counter, perhaps asks the oracle, and makes one update that decides
and counts at once. Each of these is a function of its own, so that checks can be interleaved between
any two of them; `check` is their sequence.
-/

namespace Gatehouse

/-! ## Decisions -/

/-- What becomes of a request. -/
structure Decision where
  allowed : Bool
  /-- Milliseconds until the request may be made again. -/
  retryAfterMs : Int64
  deriving DecidableEq, Repr

namespace Decision

/-- The request is admitted. -/
def allow : Decision := ⟨true, 0⟩

/-- The request is turned away, for a time that is not negative. -/
def deny (ms : Int64) : Decision := ⟨false, if ms < 0 then 0 else ms⟩

end Decision

/-! ## What a check is about -/

/-- What a check counts, and by which policy. -/
structure Subject where
  serviceId : String
  policy : ThrottlePolicy
  /-- Where the counter is stored. -/
  key : String
  /-- The consumer, if the count is kept for each consumer. -/
  consumer : Option String
  deriving DecidableEq, Repr

namespace Subject

/-- The subject of a request by a consumer, or by an unknown one, if the request is counted. -/
def of? (service : Service) (consumer : Option String) : Option Subject :=
  service.throttle.bind fun policy =>
    if policy.globalEnabled then some ⟨service.id, policy, service.id, none⟩
    else consumer.map fun c => ⟨service.id, policy, service.id ++ ":" ++ c, some c⟩

/-- The policy and the consumer that the oracle decides about, if it decides. -/
def question? (s : Subject) : Option (String × String) :=
  s.consumer.bind fun c => s.policy.policyRef.map fun p => (p, c)

/-- The limits of the policy itself. -/
def ownLimits (s : Subject) : Limits := ⟨s.policy.limit, s.policy.windowMs⟩

/-- The decision when the store or the oracle fails. -/
def fallback (s : Subject) : Decision :=
  if s.question?.isSome then .deny s.policy.windowMs else .allow

/-! ## The steps of a check -/

/-- How a check goes on. -/
inductive Plan where
  /-- By counting under known limits. -/
  | count (l : Limits)
  /-- By asking the oracle first. -/
  | ask (policyRef consumer : String)
  /-- Not at all, for lack of the store. -/
  | giveUp
  deriving DecidableEq, Repr

/-- How a check goes on after the counter was read. -/
def plan (s : Subject) : Except StoreError (Option ThrottleCounter) → Plan
  | .error _ => .giveUp
  | .ok found =>
    match s.question?, found with
    | none, _ => .count s.ownLimits
    | some _, some c => .count c.limits
    | some (p, c), none => .ask p c

/-- A decision, and the counter after it. -/
structure Tally where
  decision : Decision
  counter : ThrottleCounter
  deriving DecidableEq, Repr

/-- Decides by the counter that is found at the moment of the update. -/
def tally (s : Subject) (l : Limits) (now : Int64) : Option ThrottleCounter → Tally
  | some c =>
    if c.isLive now then
      if c.count < c.limit then ⟨.allow, c.counted⟩ else ⟨.deny (c.windowEndMs - now), c⟩
    else ⟨.allow, .opened s.key s.consumer l now⟩
  | none => ⟨.allow, .opened s.key s.consumer l now⟩

/-- What the update writes: the counter after the decision, if the request was admitted. -/
def write (s : Subject) (l : Limits) (now : Int64) (found : Option ThrottleCounter) :
    Option ThrottleCounter :=
  let t := s.tally l now found
  if t.decision.allowed then some t.counter else none

/-- The record of a decision, with the counter after it if there is one. -/
def event (s : Subject) (id : Uuid) (now : Int64) (d : Decision)
    (counter : Option ThrottleCounter) : AdmissionEvent :=
  { eventId := id, serviceId := s.serviceId, consumerKey := s.consumer, allowed := d.allowed,
    count := (counter.map ThrottleCounter.count).getD 0,
    limit := (counter.map ThrottleCounter.limit).getD s.policy.limit,
    windowStartMs := (counter.map ThrottleCounter.windowStartMs).getD now, timestampMs := now }

end Subject

/-- How much longer than its window a counter is stored. The limits of an oracle outlast pauses so. -/
def counterRetentionMs : Nat := 300000

/-- How long a counter under given limits is stored. -/
def Limits.lifetimeMs (l : Limits) : Nat := l.windowMs.toInt.toNat + counterRetentionMs

/-! ## Checks -/

/-- What admission keeps between requests. -/
structure Admission (κ ω : Type) where
  /-- The store of counters. -/
  counters : κ
  /-- The oracle, if one is set up. -/
  oracle : Option ω
  /-- Time allowed to the oracle. -/
  oracleTimeoutMs : Nat
  /-- Where events are published, if they are. -/
  events : Option Delivery
  metrics : Metrics

namespace Admission

variable {κ ω : Type} [Store κ ThrottleCounter] [Oracle ω]

/-- Publishes an event, and counts the one that it pushed out. -/
def publish (a : Admission κ ω) (e : AdmissionEvent) : Admission κ ω :=
  match a.events with
  | none => a
  | some d =>
    let metrics := if d.buffer.isFull then a.metrics.bump .eventsDropped else a.metrics
    { a with events := some (d.publish e), metrics }

/-- Counts and records a decision. -/
def finish (a : Admission κ ω) (s : Subject) (id : Uuid) (now : Int64) (d : Decision)
    (counter : Option ThrottleCounter) : Decision × Admission κ ω :=
  let a := { a with metrics := a.metrics.bump (.admissions s.serviceId d.allowed) }
  (d, a.publish (s.event id now d counter))

/-- The limits that the oracle grants, if there is an oracle and it grants any. -/
def askOracle (a : Admission κ ω) (policyRef consumer : String) :
    Option Limits × Admission κ ω :=
  match a.oracle with
  | none => (none, a)
  | some o =>
    let (reply, o) := Oracle.ask policyRef consumer o
    (reply.limits? a.oracleTimeoutMs, { a with oracle := some o })

/-- Decides and counts in one update. -/
def count (a : Admission κ ω) (s : Subject) (id : Uuid) (now : Int64) (l : Limits) :
    Decision × Admission κ ω :=
  let (result, counters) := Store.update s.key l.lifetimeMs (s.write l now) a.counters
  let a := { a with counters }
  match result with
  | .applied found =>
    let t := s.tally l now found
    a.finish s id now t.decision (some t.counter)
  | _ => a.finish s id now s.fallback none

/-- Checks a request that is counted. -/
def checkSubject (a : Admission κ ω) (s : Subject) (id : Uuid) (now : Int64) :
    Decision × Admission κ ω :=
  let (found, counters) := Store.get s.key a.counters
  let a := { a with counters }
  match s.plan found with
  | .giveUp => a.finish s id now s.fallback none
  | .count l => a.count s id now l
  | .ask p c =>
    let (granted, a) := a.askOracle p c
    match granted with
    | some l => a.count s id now l
    | none => a.finish s id now s.fallback none

/-- Checks a request by a consumer, or by an unknown one, at an instant. An event recorded of it has
the given identifier. -/
def check (a : Admission κ ω) (service : Service) (consumer : Option String) (id : Uuid)
    (now : Int64) : Decision × Admission κ ω :=
  match Subject.of? service consumer with
  | none => (.allow, a)
  | some s => a.checkSubject s id now

end Admission

end Gatehouse
