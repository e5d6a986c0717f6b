import Gatehouse.Metrics
import Gatehouse.Selection.Rotation
import Gatehouse.Service
import Gatehouse.Session.Key
import Gatehouse.Session.Record
import Gatehouse.Store.Basic
import Gatehouse.Http.Status

/-!
# Selecting nodes

A request is answered by one node of its service. `select` chooses the node of the first attempt;
after each attempt `report` or `reportUnreachable` says whether there is another one, and where.

## Contract

* An established session goes to the node it is bound to. When that node fails, the session loses
  its binding and the failure is the answer.
* Any other request begins at the node whose turn it is. When that node fails, the next one is tried,
  as far as failover allows.
* A session is bound by its first successful answer. If it was bound elsewhere in the meantime, that
  binding stays.
* A store that fails makes a session look new. It never makes a request fail.

## Implementation notes

A selection in progress is a value, `Handle`, with everything that the later steps need of its
service, so that the steps of several requests can be interleaved in any way.
-/

namespace Gatehouse

/-- A selection in progress. -/
structure Handle where
  serviceId : String
  generation : Nat
  /-- Where the session is filed, if the request is of one. -/
  storeKey : Option String
  /-- What will be stored of the session on success. -/
  record : Option SessionRecord
  /-- Position of the node of the present attempt. -/
  index : Nat
  /-- Whether no binding of the session was found. -/
  firstTime : Bool
  /-- Number of the present attempt, from one on. -/
  attempt : Nat
  maxAttempts : Nat
  nodeCount : Nat
  roundRobin : Bool
  failover : Bool
  deriving DecidableEq, Repr

/-- How a selection ended. -/
inductive Outcome where
  /-- With an answer that is no failure. -/
  | bound
  /-- With a failure of an established session, which lost its binding. -/
  | evicted
  /-- With a failure that could not be repeated elsewhere. -/
  | exhausted
  deriving DecidableEq, Repr

/-- What follows an attempt. -/
inductive Next where
  /-- Another attempt. -/
  | retry (h : Handle)
  /-- Nothing. -/
  | done (o : Outcome)
  deriving DecidableEq, Repr

/-- The node after the one at `index` among `count`, if there is one. Behind the last one comes the
first, if the nodes are gone through in a round. -/
def nextIndex? (roundRobin : Bool) (count index : Nat) : Option Nat :=
  if index + 1 < count then some (index + 1) else if roundRobin then some 0 else none

namespace Handle

/-- The selection at the next node, if failover goes on. -/
def retry? (h : Handle) : Option Handle :=
  if h.failover && h.attempt < h.maxAttempts then
    (nextIndex? h.roundRobin h.nodeCount h.index).map fun next =>
      { h with
        index := next, attempt := h.attempt + 1,
        record := h.record.map fun r => { r with nodeIndex := next } }
  else none

/-- The selection after a backend gave the session a new value, or gave none. -/
def renamed (h : Handle) (affinity : Option String) : Handle :=
  match affinity with
  | some v => { h with record := h.record.map fun r => { r with value := v } }
  | none => h

/-- What a first answer writes of a session for which `current` is found: nothing if that is a
binding to a node that exists. -/
def firstBinding (h : Handle) (r : SessionRecord) (current : Option SessionRecord) :
    Option SessionRecord :=
  match current with
  | some e => if e.nodeIndex < h.nodeCount then none else some r
  | none => some r

/-- The position that a session is bound to after a first answer found `current`. -/
def boundIndex (h : Handle) (r : SessionRecord) (current : Option SessionRecord) : Nat :=
  match current with
  | some e => if e.nodeIndex < h.nodeCount then e.nodeIndex else r.nodeIndex
  | none => r.nodeIndex

end Handle

/-- The record of a session under the value that a backend gave it, if it gave it another one. -/
def SessionRecord.alias? (r : SessionRecord) : Option SessionRecord :=
  if r.value = Session.valueOf r.sessionKey then none
  else some { r with sessionKey := Session.key (Session.paramOf r.sessionKey) r.value }

/-- What selection keeps between requests. -/
structure Selector (σ : Type) where
  /-- The store of sessions. -/
  sessions : σ
  /-- Lifetime of a binding. -/
  ttlMs : Nat
  /-- The rotation of each service. -/
  rotations : Table String Rotation
  metrics : Metrics

namespace Selector

variable {σ : Type} [Store σ SessionRecord]

/-- A selector at its start, on a given store. -/
def start (sessions : σ) (ttlMs : Nat) : Selector σ :=
  { sessions, ttlMs, rotations := Table.empty, metrics := Metrics.empty }

/-! ## The first attempt -/

/-- The binding of a session to a node that exists. A store that fails has none. -/
def binding? (s : Selector σ) (storeKey : Option String) (nodeCount : Nat) :
    Option SessionRecord × Selector σ :=
  match storeKey with
  | none => (none, s)
  | some k =>
    let (found, sessions) := Store.get k s.sessions
    let record := match found with
      | .ok (some r) => if r.nodeIndex < nodeCount then some r else none
      | _ => none
    (record, { s with sessions })

/-- Draws a ticket of a service. -/
def drawTicket (s : Selector σ) (service : String) (nodeCount : Nat) : Nat × Selector σ :=
  let r := (s.rotations.get? service).getD {}
  (r.position nodeCount, { s with rotations := s.rotations.set service r.draw })

/-- The selection of an established session. -/
def established (service : Service) (nodeCount : Nat) (storeKey : Option String)
    (r : SessionRecord) : Handle :=
  { serviceId := service.id, generation := service.generation, storeKey, record := some r,
    index := r.nodeIndex, firstTime := false, attempt := 1, maxAttempts := service.maxAttempts,
    nodeCount, roundRobin := service.balancing.roundRobin,
    failover := service.balancing.failover }

/-- The selection of a request without a binding, at a given node. -/
def fresh (service : Service) (nodeCount : Nat) (storeKey sessionKey : Option String)
    (index : Nat) : Handle :=
  { serviceId := service.id, generation := service.generation, storeKey,
    record := sessionKey.map fun k => ⟨k, index, Session.valueOf k⟩,
    index, firstTime := true, attempt := 1, maxAttempts := service.maxAttempts,
    nodeCount, roundRobin := service.balancing.roundRobin,
    failover := service.balancing.failover }

/-- Chooses the node of the first attempt, if there are nodes. -/
def select (s : Selector σ) (service : Service) (nodes : List Node)
    (sessionKey : Option String) : Option Handle × Selector σ :=
  if nodes = [] then (none, s)
  else
    let storeKey := sessionKey.map (Session.storeKey service.id service.generation)
    let (record, s) := s.binding? storeKey nodes.length
    match record with
    | some r => (some (established service nodes.length storeKey r), s)
    | none =>
      let (index, s) := s.drawTicket service.id nodes.length
      (some (fresh service nodes.length storeKey sessionKey index), s)

/-! ## After an attempt -/

/-- Files a session under the value that a backend gave it as well. -/
def putAlias (s : Selector σ) (h : Handle) (r : SessionRecord) : Selector σ :=
  match r.alias? with
  | none => s
  | some a =>
    let k := Session.storeKey h.serviceId h.generation a.sessionKey
    { s with sessions := (Store.put k a s.ttlMs s.sessions).2 }

/-- Stores the binding of a session after its first answer, unless it is bound already. Under its
new value it is filed only if its binding is to the node that answered. -/
def bindFirst (s : Selector σ) (h : Handle) (k : String) (r : SessionRecord) : Selector σ :=
  let (result, sessions) := Store.update k s.ttlMs (h.firstBinding r) s.sessions
  let s := { s with sessions }
  match result with
  | .failed _ => s
  | .skipped => s.putAlias h r
  | .applied seen => if h.boundIndex r seen = r.nodeIndex then s.putAlias h r else s

/-- Stores the binding of an established session anew. -/
def bindAgain (s : Selector σ) (h : Handle) (k : String) (r : SessionRecord) : Selector σ :=
  let (result, sessions) := Store.put k r s.ttlMs s.sessions
  let s := { s with sessions }
  match result with
  | .error _ => s
  | .ok _ => s.putAlias h r

/-- Stores the binding of a session after a successful attempt. -/
def persist (s : Selector σ) (h : Handle) : Selector σ :=
  match h.storeKey, h.record with
  | some k, some r => if h.firstTime then s.bindFirst h k r else s.bindAgain h k r
  | _, _ => s

/-- Takes the binding of an established session away. -/
def evict (s : Selector σ) (h : Handle) : Selector σ :=
  match h.storeKey with
  | none => s
  | some k =>
    { s with
      sessions := (Store.remove k s.sessions).2
      metrics := s.metrics.bump (.evictions h.serviceId) }

/-- What follows a failed attempt. -/
def fail (s : Selector σ) (h : Handle) : Next × Selector σ :=
  if !h.firstTime then (.done .evicted, s.evict h)
  else
    match h.retry? with
    | some next => (.retry next, { s with metrics := s.metrics.bump (.failovers h.serviceId) })
    | none => (.done .exhausted, s)

/-- What follows an attempt that was answered, with a new value for the session or without. -/
def report (s : Selector σ) (h : Handle) (status : Http.Status) (affinity : Option String) :
    Next × Selector σ :=
  let h := h.renamed affinity
  if status.isServerError then s.fail h else (.done .bound, s.persist h)

/-- What follows an attempt that was not answered. -/
def reportUnreachable (s : Selector σ) (h : Handle) : Next × Selector σ := s.fail h

end Selector

end Gatehouse
