import Gatehouse.Selection.Selector
import Gatehouse.Backend.Basic

/-!
# Forwarding

Selection, dispatch and failover together: a request is sent to one node after another until the
selection ends. The answer is the last response that any node gave.

## Implementation notes

The attempts are counted, and no attempt is made beyond those allowed, so the recursion is on the
number of attempts that are left. A selection never allows more than that; the case in which it does
is an answer all the same, so that forwarding is total.
-/

namespace Gatehouse

/-- Why a request got no response. -/
inductive SelectionError where
  /-- The service has no nodes. -/
  | noBackends (service : String)
  /-- The last attempt failed, and none before it got a response. -/
  | unreachable (authority : String) (source : BackendError)
  deriving DecidableEq, Repr

/-- The error in words. -/
def SelectionError.message : SelectionError → String
  | .noBackends service => "service '" ++ service ++ "' has no backend nodes"
  | .unreachable authority source => "backend " ++ authority ++ " unreachable: " ++ source.message

/-- The answer to a forwarded request. -/
structure Forwarded where
  response : Http.Response
  /-- Position of the node that gave the response. -/
  nodeIndex : Nat
  /-- Number of attempts made. -/
  attempts : Nat
  outcome : Outcome
  deriving DecidableEq, Repr

/-- How forwarding went. -/
inductive Forwarding where
  | answered (f : Forwarded)
  | failed (e : SelectionError)
  /-- The client gave up. -/
  | abandoned
  deriving DecidableEq, Repr

namespace Selector

variable {σ β : Type} [Store σ SessionRecord] [Backends β]

/-- The value that a response gives the session of a service, if the service keeps sessions. -/
def affinityOf (service : Service) (r : Http.Response) : Option String :=
  service.balancing.sticky.bind fun a => r.headers.issuedCookie? a.param

/-- The answer when the last attempt was not answered: the last response before it, if any. -/
def withoutAnswer (h : Handle) (node : Node) (e : BackendError) (o : Outcome) :
    Option (Http.Response × Nat) → Forwarding
  | some (r, index) => .answered ⟨r, index, h.attempt, o⟩
  | none => .failed (.unreachable node.authority e)

/-- Makes the attempts of a selection, at most `left` of them after the present one. `last` is the
last response so far, and the position of the node that gave it. -/
def attempts (service : Service) (nodes : List Node) (request : Http.Request) :
    (left : Nat) → Handle → (last : Option (Http.Response × Nat)) → Selector σ → β →
      Forwarding × Selector σ × β
  | left, h, last, s, b =>
    match nodes[h.index]? with
    | none => (.failed (.noBackends service.id), s, b)
    | some node =>
      let (reply, b) := Backends.send node request b
      match reply with
      | .abandoned => (.abandoned, s, b)
      | .response r =>
        let (next, s) := s.report h r.status (affinityOf service r)
        match next, left with
        | .retry h', left + 1 => attempts service nodes request left h' (some (r, h.index)) s b
        | .retry _, 0 => (.answered ⟨r, h.index, h.attempt, .exhausted⟩, s, b)
        | .done o, _ => (.answered ⟨r, h.index, h.attempt, o⟩, s, b)
      | .error e =>
        let (next, s) := s.reportUnreachable h
        match next, left with
        | .retry h', left + 1 => attempts service nodes request left h' last s b
        | .retry _, 0 => (withoutAnswer h node e .exhausted last, s, b)
        | .done o, _ => (withoutAnswer h node e o last, s, b)

/-- Forwards a request of a session, or of none, to the nodes of a service. -/
def forward (s : Selector σ) (service : Service) (nodes : List Node)
    (sessionKey : Option String) (request : Http.Request) (b : β) :
    Forwarding × Selector σ × β :=
  match s.select service nodes sessionKey with
  | (none, s) => (.failed (.noBackends service.id), s, b)
  | (some h, s) => attempts service nodes request (h.maxAttempts - h.attempt) h none s b

end Selector

end Gatehouse
