import Gatehouse.Backend.Trial
import Gatehouse.Proofs.Selections
import Gatehouse.Selection.Forward
import Mathlib.Data.List.Nodup
import Mathlib.Data.List.Perm.Subperm
import Mathlib.Data.Nat.ModEq

/-!
# Forwarding as a state machine

What a request is forwarded to can be told without the selector: an established session is
dispatched once, to its node, and any other request goes from the node whose turn it is to the ones
after it, as long as attempts fail and failover allows. This file shows that `Selector.forward` does
that, for whatever store of sessions there is and whatever the backends reply.

## Implementation notes

Replies are not assumed to be fixed beforehand. Any backends are observed through a journal of what
was dispatched and replied, and the results are about the journal. `forward_journaled` says that
observing changes nothing.

## Main definitions

* `Journaled` — backends with a journal
* `Service.GoesOn` — the condition for another attempt
* `Course` — the dispatches of a failover, from an attempt to the last one
* `Concludes` — the answer, read off the dispatches

## Main results

* `Selector.attempts_failed` — what follows a failed attempt
* `Selector.forward_map` — forwarding respects the translations that its steps respect
* `Selector.attempts_course` — the loop of attempts is a course, and concludes so
* `Selector.forward_failover` — forwarding as a state machine
-/

namespace Gatehouse

/-! ### Backends with a journal -/

/-- A request that was sent to a node, and the reply. -/
structure Dispatch where
  node : Node
  request : Http.Request
  reply : Reply
  deriving DecidableEq

/-- Backends, and what was dispatched to them, in order. -/
structure Journaled (β : Type) where
  backends : β
  dispatches : List Dispatch

/-- Backends with a journal reply as they do without it. -/
instance {β : Type} [Backends β] : Backends (Journaled β) where
  send node request b :=
    let (reply, backends) := Backends.send node request b.backends
    (reply, ⟨backends, b.dispatches ++ [⟨node, request, reply⟩]⟩)

theorem Journaled.send_eq {β : Type} [Backends β] {node : Node} {request : Http.Request}
    {b : Journaled β} {reply : Reply} {c : β}
    (h : Backends.send node request b.backends = (reply, c)) :
    Backends.send node request b = (reply, ⟨c, b.dispatches ++ [⟨node, request, reply⟩]⟩) := by
  obtain ⟨rfl, rfl⟩ : (Backends.send node request b.backends).1 = reply ∧
      (Backends.send node request b.backends).2 = c := by simp [h]
  rfl

/-- Whether an attempt failed, by its reply. -/
def Reply.failed : Reply → Bool
  | .response r => r.status.isServerError
  | .error _ => true
  | .abandoned => false

/-- The response, if there was one. -/
def Reply.response? : Reply → Option Http.Response
  | .response r => some r
  | _ => none

/-- The value that a reply gives the session of a service. -/
def Reply.affinity? (service : Service) (reply : Reply) : Option String :=
  reply.response?.bind (Selector.affinityOf service)

@[simp] theorem Reply.affinity?_response (service : Service) (r : Http.Response) :
    (response r).affinity? service = Selector.affinityOf service r := rfl

@[simp] theorem Reply.affinity?_error (service : Service) (e : BackendError) :
    (error e).affinity? service = none := rfl

theorem Reply.affinity?_eq_some_iff {service : Service} {reply : Reply} {v : String} :
    reply.affinity? service = some v ↔
      ∃ r, reply = .response r ∧ Selector.affinityOf service r = some v := by
  cases reply <;> simp [affinity?, response?]

/-- An attempt that did not fail got a response that is no failure, or the client gave up. -/
theorem Reply.eq_of_not_failed {reply : Reply} (h : reply.failed = false) :
    reply = .abandoned ∨ ∃ r, reply = .response r ∧ r.status.isServerError = false := by
  cases reply with
  | response r => exact .inr ⟨r, rfl, h⟩
  | error e => exact absurd h (by simp [failed])
  | abandoned => exact .inl rfl

/-! ### The state machine -/

/-- The position of attempt `j`, counted from zero, when the first one is at `start`. -/
def roundPosition (n start j : Nat) : Nat := (start + j) % n

/-- Attempt `j` is followed by another one: it failed, failover is on, attempts are left, and so are
nodes, or they are gone through in a round. -/
def Service.GoesOn (service : Service) (n start j : Nat) (reply : Reply) : Prop :=
  reply.failed = true ∧ service.balancing.failover = true ∧ j + 1 < service.maxAttempts ∧
    (roundPosition n start j + 1 < n ∨ service.balancing.roundRobin = true)

/-- The dispatches of a failover from attempt `j` to the last one. -/
inductive Course (service : Service) (nodes : List Node) (request : Http.Request) (start : Nat) :
    Nat → List Dispatch → Prop where
  | last {j : Nat} {d : Dispatch} (hnode : nodes[roundPosition nodes.length start j]? = some d.node)
      (hrequest : d.request = request) (hstop : ¬service.GoesOn nodes.length start j d.reply) :
    Course service nodes request start j [d]
  | next {j : Nat} {d : Dispatch} {ds : List Dispatch}
      (hnode : nodes[roundPosition nodes.length start j]? = some d.node)
      (hrequest : d.request = request) (hgo : service.GoesOn nodes.length start j d.reply)
      (hds : Course service nodes request start (j + 1) ds) :
    Course service nodes request start j (d :: ds)

/-- The last response among dispatches that begin with attempt `j`, and the position that it came
from. -/
def lastResponse? (position : Nat → Nat) : (j : Nat) → List Dispatch → Option (Http.Response × Nat)
  | _, [] => none
  | j, d :: ds => (lastResponse? position (j + 1) ds).or (d.reply.response?.map (·, position j))

/-- The answer after dispatches that begin with attempt `j`, when `last` is the last response before
them: the last response of all with the number of attempts, or else the error of the last one. -/
structure Concludes (position : Nat → Nat) (failure : Outcome) (j : Nat)
    (last : Option (Http.Response × Nat)) (ds : List Dispatch) (answer : Forwarding) : Prop where
  answered : ∀ d, ds.getLast? = some d → d.reply ≠ .abandoned →
    ∀ r i, (lastResponse? position j ds).or last = some (r, i) →
      answer = .answered ⟨r, i, j + ds.length, if d.reply.failed then failure else .bound⟩
  failed : ∀ d e, ds.getLast? = some d → d.reply = .error e →
    (lastResponse? position j ds).or last = none →
      answer = .failed (.unreachable d.node.authority e)
  abandoned : ∀ d, ds.getLast? = some d → d.reply = .abandoned → answer = .abandoned

/-- The dispatches and the answer of a request that begins at `start` and fails over. -/
structure FailsOver (service : Service) (nodes : List Node) (request : Http.Request) (start : Nat)
    (ds : List Dispatch) (answer : Forwarding) : Prop where
  dispatched : ds ≠ []
  sent : ∀ j d, ds[j]? = some d →
    nodes[roundPosition nodes.length start j]? = some d.node ∧ d.request = request
  goesOn : ∀ j d, ds[j]? = some d →
    (j + 1 < ds.length ↔ service.GoesOn nodes.length start j d.reply)
  within_budget : ds.length ≤ service.maxAttempts
  within_list : service.balancing.roundRobin = false → start + ds.length ≤ nodes.length
  no_node_twice : service.maxAttempts ≤ nodes.length →
    ((List.range ds.length).map (roundPosition nodes.length start)).Nodup
  every_node : service.maxAttempts = nodes.length → service.balancing.roundRobin = true →
    service.balancing.failover = true → (∀ d ∈ ds, d.reply.failed = true) →
      ((List.range ds.length).map (roundPosition nodes.length start)).Perm
        (List.range nodes.length)
  concludes : Concludes (roundPosition nodes.length start) .exhausted 0 none ds answer

/-- The dispatch and the answer of a request of a session that is bound to node `i`. -/
structure Sticks (nodes : List Node) (request : Http.Request) (i : Nat) (ds : List Dispatch)
    (answer : Forwarding) : Prop where
  once : ∃ d, ds = [d] ∧ nodes[i]? = some d.node ∧ d.request = request
  concludes : Concludes (fun _ => i) .evicted 0 none ds answer

/-! ### A single attempt -/

namespace Selector

/-- The answer when an attempt that failed was the last one. -/
def afterFailure (h : Handle) (node : Node) (o : Outcome) (last : Option (Http.Response × Nat)) :
    Reply → Forwarding
  | .response r => .answered ⟨r, h.index, h.attempt, o⟩
  | .error e => withoutAnswer h node e o last
  | .abandoned => .abandoned

variable {σ β : Type} [Store σ SessionRecord] [Backends β] {service : Service}
  {nodes : List Node} {request : Http.Request} {left : Nat} {h h' : Handle}
  {last : Option (Http.Response × Nat)} {s s' : Selector σ} {b b' : β} {node : Node}
  {reply : Reply} {r : Http.Response} {o : Outcome}

theorem attempts_abandoned (hnode : nodes[h.index]? = some node)
    (hsend : Backends.send node request b = (.abandoned, b')) :
    attempts service nodes request left h last s b = (.abandoned, s, b') := by
  rw [attempts]
  simp only [hnode, hsend]

theorem attempts_succeeded (hnode : nodes[h.index]? = some node)
    (hsend : Backends.send node request b = (.response r, b'))
    (hok : r.status.isServerError = false) :
    attempts service nodes request left h last s b =
      (.answered ⟨r, h.index, h.attempt, .bound⟩, s.persist (h.renamed (affinityOf service r)),
        b') := by
  rw [attempts]
  simp only [hnode, hsend, report, hok, Bool.false_eq_true, if_false]

/-- What follows a failed attempt. Whether there was a response makes a difference only for what it
gives the session and for the answer. -/
theorem attempts_failed (hnode : nodes[h.index]? = some node)
    (hsend : Backends.send node request b = (reply, b')) (hf : reply.failed = true) :
    attempts service nodes request left h last s b =
      match s.fail (h.renamed (reply.affinity? service)), left with
      | (.retry h', s'), left + 1 =>
        attempts service nodes request left h' ((reply.response?.map (·, h.index)).or last) s' b'
      | (.retry _, s'), 0 => (afterFailure h node .exhausted last reply, s', b')
      | (.done o, s'), _ => (afterFailure h node o last reply, s', b') := by
  rw [attempts]
  simp only [hnode, hsend]
  cases reply with
  | abandoned => exact absurd hf (by decide)
  | response r =>
    have hstatus : r.status.isServerError = true := hf
    simp only [report, if_pos hstatus, Reply.affinity?_response]
    rcases s.fail (h.renamed (affinityOf service r)) with ⟨h' | o, s'⟩ <;> cases left <;> rfl
  | error e =>
    simp only [reportUnreachable, Reply.affinity?_error, Handle.renamed_none]
    rcases s.fail h with ⟨h' | o, s'⟩ <;> cases left <;> rfl

theorem attempts_done (hnode : nodes[h.index]? = some node)
    (hsend : Backends.send node request b = (reply, b')) (hf : reply.failed = true)
    (hnext : s.fail (h.renamed (reply.affinity? service)) = (.done o, s')) :
    attempts service nodes request left h last s b =
      (afterFailure h node o last reply, s', b') := by
  rw [attempts_failed hnode hsend hf, hnext]

theorem attempts_retry (hnode : nodes[h.index]? = some node)
    (hsend : Backends.send node request b = (reply, b')) (hf : reply.failed = true)
    (hnext : s.fail (h.renamed (reply.affinity? service)) = (.retry h', s')) :
    attempts service nodes request (left + 1) h last s b =
      attempts service nodes request left h' ((reply.response?.map (·, h.index)).or last) s'
        b' := by
  rw [attempts_failed hnode hsend hf, hnext]

section Translation

variable {τ γ : Type} [Store τ SessionRecord] [Backends γ] {f : Selector σ → Selector τ} {g : β → γ}

/-- A translation that replies, failures and successes respect is respected by the attempts. -/
theorem attempts_map
    (hsend : ∀ node request b,
      Backends.send node request (g b) = (Backends.send node request b).map id g)
    (hfail : ∀ s h, (f s).fail h = (s.fail h).map id f)
    (hpersist : ∀ s h, (f s).persist h = f (s.persist h))
    (left : Nat) (h : Handle) (last : Option (Http.Response × Nat)) (s : Selector σ) (b : β) :
    attempts service nodes request left h last (f s) (g b) =
      (attempts service nodes request left h last s b).map id (Prod.map f g) := by
  induction left using Nat.strongRecOn generalizing h last s b with
  | ind left ih =>
    cases hnode : nodes[h.index]? with
    | none =>
      rw [attempts, attempts, hnode]
      rfl
    | some node =>
      rcases hreply : Backends.send node request b with ⟨reply, b'⟩
      have hreply' : Backends.send node request (g b) = (reply, g b') := by
        rw [hsend, hreply]
        rfl
      cases hf : reply.failed with
      | true =>
        rw [attempts_failed hnode hreply hf, attempts_failed hnode hreply' hf, hfail]
        rcases s.fail (h.renamed (reply.affinity? service)) with ⟨h' | o, s'⟩
        · cases left with
          | zero => rfl
          | succ left => exact ih left (by omega) h' _ s' b'
        · rfl
      | false =>
        obtain rfl | ⟨r, rfl, hok⟩ := Reply.eq_of_not_failed hf
        · rw [attempts_abandoned hnode hreply, attempts_abandoned hnode hreply']
          rfl
        · rw [attempts_succeeded hnode hreply hok, attempts_succeeded hnode hreply' hok, hpersist]
          rfl

/-- If selections respect it as well, so does forwarding. -/
theorem forward_map
    (hsend : ∀ node request b,
      Backends.send node request (g b) = (Backends.send node request b).map id g)
    (hselect : ∀ s sessionKey,
      (f s).select service nodes sessionKey = (s.select service nodes sessionKey).map id f)
    (hfail : ∀ s h, (f s).fail h = (s.fail h).map id f)
    (hpersist : ∀ s h, (f s).persist h = f (s.persist h))
    (s : Selector σ) (sessionKey : Option String) (b : β) :
    (f s).forward service nodes sessionKey request (g b) =
      (s.forward service nodes sessionKey request b).map id (Prod.map f g) := by
  rw [forward, forward, hselect]
  rcases s.select service nodes sessionKey with ⟨_ | h, s'⟩
  · rfl
  · exact attempts_map hsend hfail hpersist _ h none s' b

end Translation

/-- Observing the backends changes nothing about forwarding. -/
theorem forward_journaled (s : Selector σ) (sessionKey : Option String) (b : β) :
    (s.forward service nodes sessionKey request (Journaled.mk b [])).map id
        (Prod.map id Journaled.backends) =
      s.forward service nodes sessionKey request b :=
  (forward_map (f := id) (g := Journaled.backends) (fun _ _ _ => rfl) (fun _ _ => rfl)
    (fun _ _ => rfl) (fun _ _ => rfl) s sessionKey (Journaled.mk b [])).symm

end Selector

/-! ### The next attempt -/

theorem roundPosition_lt {n : Nat} (hn : 0 < n) (start j : Nat) : roundPosition n start j < n :=
  Nat.mod_lt _ hn

/-- The next position is the one behind, or the first one. -/
theorem nextIndex?_roundPosition {n : Nat} (hn : 0 < n) {roundRobin : Bool} {start j : Nat}
    (h : roundPosition n start j + 1 < n ∨ roundRobin = true) :
    nextIndex? roundRobin n (roundPosition n start j) = some (roundPosition n start (j + 1)) := by
  have hlt := roundPosition_lt hn start j
  have hsucc : roundPosition n start (j + 1) = (roundPosition n start j + 1) % n := by
    rw [roundPosition, roundPosition, Nat.mod_add_mod, Nat.add_assoc]
  rw [nextIndex?, hsucc]
  by_cases hin : roundPosition n start j + 1 < n
  · rw [if_pos hin, Nat.mod_eq_of_lt hin]
  · have heq : roundPosition n start j + 1 = n := by omega
    rw [if_neg hin, if_pos (h.resolve_left hin), heq, Nat.mod_self]

theorem nextIndex?_eq_none {n index : Nat} {roundRobin : Bool}
    (h : ¬(index + 1 < n ∨ roundRobin = true)) : nextIndex? roundRobin n index = none := by
  rw [not_or] at h
  rw [nextIndex?, if_neg h.1, if_neg h.2]

/-- A selection of a request without a binding, at attempt `j`. -/
structure Handle.At (h : Handle) (service : Service) (n start j : Nat) : Prop where
  index : h.index = roundPosition n start j
  attempt : h.attempt = j + 1
  firstTime : h.firstTime = true
  nodeCount : h.nodeCount = n
  maxAttempts : h.maxAttempts = service.maxAttempts
  roundRobin : h.roundRobin = service.balancing.roundRobin
  failover : h.failover = service.balancing.failover

namespace Handle.At

variable {h : Handle} {service : Service} {n start j : Nat}

theorem renamed (hat : h.At service n start j) (affinity : Option String) :
    (h.renamed affinity).At service n start j := by
  rw [renamed_eq]
  exact ⟨hat.index, hat.attempt, hat.firstTime, hat.nodeCount, hat.maxAttempts, hat.roundRobin,
    hat.failover⟩

/-- Where there is another attempt, the selection goes on to it. -/
theorem retried (hat : h.At service n start j) (hn : 0 < n) {reply : Reply}
    (hgo : service.GoesOn n start j reply) :
    ∃ h', h.retry? = some h' ∧ h'.At service n start (j + 1) := by
  obtain ⟨-, hfailover, hbudget, hnext⟩ := hgo
  refine ⟨_, retry?_eq_some_iff.mpr ⟨?_, ?_, roundPosition n start (j + 1), ?_, rfl⟩, ?_⟩
  · rw [hat.failover, hfailover]
  · rw [hat.attempt, hat.maxAttempts]
    exact hbudget
  · rw [hat.roundRobin, hat.nodeCount, hat.index]
    exact nextIndex?_roundPosition hn hnext
  · refine ⟨rfl, ?_, hat.firstTime, hat.nodeCount, hat.maxAttempts, hat.roundRobin, hat.failover⟩
    rw [hat.attempt]

/-- Where a failed attempt is the last one, the selection ends. -/
theorem exhausted (hat : h.At service n start j) {reply : Reply} (hf : reply.failed = true)
    (hstop : ¬service.GoesOn n start j reply) : h.retry? = none := by
  rw [Option.eq_none_iff_forall_ne_some]
  intro h' hretry
  obtain ⟨hfailover, hbudget, next, hnext, -⟩ := retry?_eq_some_iff.mp hretry
  rw [hat.failover] at hfailover
  rw [hat.attempt, hat.maxAttempts] at hbudget
  rw [hat.roundRobin, hat.nodeCount, hat.index] at hnext
  refine hstop ⟨hf, hfailover, hbudget, ?_⟩
  by_contra hnot
  rw [nextIndex?_eq_none hnot] at hnext
  exact absurd hnext (by simp)

end Handle.At

namespace Selector

theorem at_fresh {service : Service} {n start : Nat} (hlt : start < n)
    (storeKey sessionKey : Option String) :
    (fresh service n storeKey sessionKey start).At service n start 0 where
  index := by
    rw [roundPosition, Nat.add_zero, Nat.mod_eq_of_lt hlt]
    rfl
  attempt := rfl
  firstTime := rfl
  nodeCount := rfl
  maxAttempts := rfl
  roundRobin := rfl
  failover := rfl

variable {σ : Type} [Store σ SessionRecord] {service : Service} {n start j : Nat} {h : Handle}

theorem fail_of_goesOn (hat : h.At service n start j) (hn : 0 < n) {reply : Reply}
    (hgo : service.GoesOn n start j reply) (s : Selector σ) :
    ∃ h' s', s.fail h = (.retry h', s') ∧ h'.At service n start (j + 1) := by
  obtain ⟨h', hretry, hat'⟩ := hat.retried hn hgo
  refine ⟨h', { s with metrics := s.metrics.bump (.failovers h.serviceId) }, ?_, hat'⟩
  rw [fail, hat.firstTime, hretry]
  rfl

theorem fail_of_stop (hat : h.At service n start j) {reply : Reply} (hf : reply.failed = true)
    (hstop : ¬service.GoesOn n start j reply) (s : Selector σ) :
    s.fail h = (.done .exhausted, s) := by
  rw [fail, hat.firstTime, hat.exhausted hf hstop]
  rfl

end Selector

/-! ### The loop -/

namespace Concludes

variable {position : Nat → Nat} {failure : Outcome} {j : Nat}
  {last : Option (Http.Response × Nat)} {d : Dispatch} {ds : List Dispatch} {answer : Forwarding}

theorem response {r : Http.Response} {o : Outcome} (hd : d.reply = .response r)
    (ho : o = if d.reply.failed then failure else .bound) :
    Concludes position failure j last [d] (.answered ⟨r, position j, j + 1, o⟩) where
  answered d' hd' _ r' i hr := by
    obtain rfl : d = d' := by simpa using hd'
    simp only [lastResponse?, hd, Reply.response?, Option.map_some, Option.none_or,
      Option.some_or, Option.some.injEq, Prod.mk.injEq] at hr
    obtain ⟨rfl, rfl⟩ := hr
    rw [ho, List.length_singleton]
  failed d' e hd' he _ := by
    obtain rfl : d = d' := by simpa using hd'
    rw [hd] at he
    simp at he
  abandoned d' hd' ha := by
    obtain rfl : d = d' := by simpa using hd'
    rw [hd] at ha
    simp at ha

theorem error {e : BackendError} {h : Handle} (hd : d.reply = .error e)
    (hattempt : h.attempt = j + 1) :
    Concludes position failure j last [d] (Selector.withoutAnswer h d.node e failure last) where
  answered d' hd' _ r i hr := by
    obtain rfl : d = d' := by simpa using hd'
    simp only [lastResponse?, hd, Reply.response?, Option.map_none, Option.none_or] at hr
    rw [hr, Selector.withoutAnswer, hattempt, hd, List.length_singleton]
    rfl
  failed d' e' hd' he hl := by
    obtain rfl : d = d' := by simpa using hd'
    obtain rfl : e = e' := by simpa [hd] using he
    simp only [lastResponse?, hd, Reply.response?, Option.map_none, Option.none_or] at hl
    rw [hl, Selector.withoutAnswer]
  abandoned d' hd' ha := by
    obtain rfl : d = d' := by simpa using hd'
    rw [hd] at ha
    simp at ha

/-- The answer after a failed attempt, with a response or without. -/
theorem afterFailure {h : Handle} (hf : d.reply.failed = true) (hindex : h.index = position j)
    (hattempt : h.attempt = j + 1) :
    Concludes position failure j last [d]
      (Selector.afterFailure h d.node failure last d.reply) := by
  cases hd : d.reply with
  | abandoned =>
    rw [hd] at hf
    exact absurd hf (by decide)
  | response r =>
    rw [Selector.afterFailure, hindex, hattempt]
    exact response hd (by rw [if_pos hf])
  | error e => exact error hd hattempt

theorem gaveUp (hd : d.reply = .abandoned) : Concludes position failure j last [d] .abandoned where
  answered d' hd' hne _ _ _ := by
    obtain rfl : d = d' := by simpa using hd'
    exact absurd hd hne
  failed d' e hd' he _ := by
    obtain rfl : d = d' := by simpa using hd'
    rw [hd] at he
    simp at he
  abandoned _ _ _ := rfl

/-- An attempt before the others adds its response, if there is one, to those before it. -/
theorem cons (hne : ds ≠ [])
    (h : Concludes position failure (j + 1)
      ((d.reply.response?.map (·, position j)).or last) ds answer) :
    Concludes position failure j last (d :: ds) answer where
  answered d' hd' ha r i hr := by
    rw [List.getLast?_cons_of_ne_nil hne] at hd'
    rw [lastResponse?, Option.or_assoc] at hr
    rw [h.answered d' hd' ha r i hr, List.length_cons, Nat.add_right_comm, Nat.add_assoc]
  failed d' e hd' he hl := by
    rw [List.getLast?_cons_of_ne_nil hne] at hd'
    rw [lastResponse?, Option.or_assoc] at hl
    exact h.failed d' e hd' he hl
  abandoned d' hd' ha := by
    rw [List.getLast?_cons_of_ne_nil hne] at hd'
    exact h.abandoned d' hd' ha

end Concludes

theorem Course.ne_nil {service : Service} {nodes : List Node} {request : Http.Request}
    {start j : Nat} {ds : List Dispatch} (h : Course service nodes request start j ds) :
    ds ≠ [] := by
  cases h <;> simp

namespace Selector

variable {σ β : Type} [Store σ SessionRecord] [Backends β] {service : Service}
  {nodes : List Node} {start j : Nat} {h : Handle}

/-- Everything that one attempt can do: it is dispatched to its node, and then either the state
machine stops and so does the loop, or both go on. -/
theorem attempt_cases (hn : 0 < nodes.length) (hat : h.At service nodes.length start j)
    (request : Http.Request) (last : Option (Http.Response × Nat)) (s : Selector σ)
    (b : Journaled β) :
    ∃ d, ∃ b' : Journaled β, b'.dispatches = b.dispatches ++ [d] ∧
      nodes[roundPosition nodes.length start j]? = some d.node ∧ d.request = request ∧
      ((¬service.GoesOn nodes.length start j d.reply ∧
          ∀ left, ∃ answer s', attempts service nodes request left h last s b = (answer, s', b') ∧
            Concludes (roundPosition nodes.length start) .exhausted j last [d] answer) ∨
        (service.GoesOn nodes.length start j d.reply ∧
          ∃ h' s', h'.At service nodes.length start (j + 1) ∧
            ∀ left, attempts service nodes request (left + 1) h last s b =
              attempts service nodes request left h'
                ((d.reply.response?.map (·, roundPosition nodes.length start j)).or last)
                s' b')) := by
  obtain ⟨node, hnode⟩ : ∃ node, nodes[h.index]? = some node := by
    rw [hat.index]
    exact ⟨_, List.getElem?_eq_getElem (roundPosition_lt hn start j)⟩
  rcases hreply : Backends.send node request b.backends with ⟨reply, c⟩
  have hsend := Journaled.send_eq hreply
  refine ⟨⟨node, request, reply⟩, ⟨c, b.dispatches ++ [⟨node, request, reply⟩]⟩, rfl,
    by rw [← hat.index, hnode], rfl, ?_⟩
  by_cases hgo : service.GoesOn nodes.length start j reply
  · right
    obtain ⟨h', s', hfail, hat'⟩ := fail_of_goesOn (hat.renamed (reply.affinity? service)) hn hgo s
    refine ⟨hgo, h', s', hat', fun left => ?_⟩
    rw [attempts_retry hnode hsend hgo.1 hfail, hat.index]
  · left
    refine ⟨hgo, fun left => ?_⟩
    cases hf : reply.failed with
    | true =>
      have hfail := fail_of_stop (hat.renamed (reply.affinity? service)) hf hgo s
      exact ⟨_, _, attempts_done hnode hsend hf hfail, .afterFailure hf hat.index hat.attempt⟩
    | false =>
      obtain rfl | ⟨r, rfl, hok⟩ := Reply.eq_of_not_failed hf
      · exact ⟨_, _, attempts_abandoned hnode hsend, .gaveUp rfl⟩
      · refine ⟨_, _, attempts_succeeded hnode hsend hok, ?_⟩
        rw [hat.index, hat.attempt]
        exact .response rfl (by rw [hf]; rfl)

/-- **The loop of attempts is the state machine.** As many attempts may be left as are allowed; the
selection never needs more. -/
theorem attempts_course (hn : 0 < nodes.length) {left : Nat}
    (hat : h.At service nodes.length start j) (hleft : left + (j + 1) = service.maxAttempts)
    (request : Http.Request) (last : Option (Http.Response × Nat)) (s : Selector σ)
    (b : Journaled β) :
    ∃ ds, (attempts service nodes request left h last s b).2.2.dispatches = b.dispatches ++ ds ∧
      Course service nodes request start j ds ∧
      Concludes (roundPosition nodes.length start) .exhausted j last ds
        (attempts service nodes request left h last s b).1 := by
  induction left generalizing h j last s b with
  | zero =>
    obtain ⟨d, b', hd, hnode, hrequest, ⟨hstop, hout⟩ | ⟨hgo, -⟩⟩ :=
      attempt_cases hn hat request last s b
    · obtain ⟨answer, s', heq, hconcludes⟩ := hout 0
      rw [heq]
      exact ⟨[d], hd, .last hnode hrequest hstop, hconcludes⟩
    · have hbudget := hgo.2.2.1
      omega
  | succ left ih =>
    obtain ⟨d, b', hd, hnode, hrequest, ⟨hstop, hout⟩ | ⟨hgo, h', s', hat', hout⟩⟩ :=
      attempt_cases hn hat request last s b
    · obtain ⟨answer, s', heq, hconcludes⟩ := hout (left + 1)
      rw [heq]
      exact ⟨[d], hd, .last hnode hrequest hstop, hconcludes⟩
    · obtain ⟨ds, hds, hcourse, hconcludes⟩ := ih hat' (by omega) _ s' b'
      rw [hout left]
      refine ⟨d :: ds, ?_, .next hnode hrequest hgo hcourse, hconcludes.cons hcourse.ne_nil⟩
      rw [hds, hd, List.append_assoc, List.singleton_append]

end Selector

/-! ### Reading a course -/

theorem nodup_roundPositions {n m : Nat} (h : m ≤ n) (start : Nat) :
    ((List.range m).map (roundPosition n start)).Nodup := by
  refine List.Nodup.map_on ?_ List.nodup_range
  intro i hi j hj hij
  rw [List.mem_range] at hi hj
  have hmod : i ≡ j [MOD n] := Nat.ModEq.add_left_cancel' start hij
  rwa [Nat.ModEq, Nat.mod_eq_of_lt (by omega), Nat.mod_eq_of_lt (by omega)] at hmod

theorem perm_roundPositions {n : Nat} (hn : 0 < n) (start : Nat) :
    ((List.range n).map (roundPosition n start)).Perm (List.range n) := by
  have hsub : (List.range n).map (roundPosition n start) ⊆ List.range n := by
    intro i hi
    obtain ⟨j, -, rfl⟩ := List.mem_map.mp hi
    exact List.mem_range.mpr (roundPosition_lt hn start j)
  have hsubperm := List.subperm_of_subset (nodup_roundPositions le_rfl start) hsub
  exact hsubperm.perm_of_length_le (by simp)

namespace Course

variable {service : Service} {nodes : List Node} {request : Http.Request} {start j : Nat}
  {ds : List Dispatch}

/-- Each dispatch of a course, counted from its beginning. -/
theorem getElem? (h : Course service nodes request start j ds) {i : Nat} {d : Dispatch}
    (hd : ds[i]? = some d) :
    nodes[roundPosition nodes.length start (j + i)]? = some d.node ∧ d.request = request ∧
      (i + 1 < ds.length ↔ service.GoesOn nodes.length start (j + i) d.reply) := by
  induction h generalizing i with
  | last hnode hrequest hstop =>
    cases i with
    | zero =>
      obtain rfl := Option.some.inj hd
      refine ⟨hnode, hrequest, ?_⟩
      simpa using hstop
    | succ i => simp at hd
  | next hnode hrequest hgo hds ih =>
    cases i with
    | zero =>
      obtain rfl := Option.some.inj hd
      refine ⟨hnode, hrequest, ?_⟩
      have hpos := List.length_pos_iff.mpr hds.ne_nil
      simpa [hpos] using hgo
    | succ i =>
      have hi := ih (List.getElem?_cons_succ ▸ hd)
      rw [Nat.add_right_comm, Nat.add_assoc] at hi
      simpa using hi

variable (h : Course service nodes request start 0 ds)

include h

theorem length_le : ds.length ≤ service.maxAttempts := by
  have hone : 1 ≤ service.maxAttempts := Nat.le_max_left 1 _
  by_contra hlong
  obtain ⟨d, hd⟩ : ∃ d, ds[ds.length - 2]? = some d :=
    ⟨_, List.getElem?_eq_getElem (by omega)⟩
  have hgo := (h.getElem? hd).2.2.mp (by omega)
  have hbudget := hgo.2.2.1
  omega

theorem add_length_le (hstart : start < nodes.length)
    (hround : service.balancing.roundRobin = false) : start + ds.length ≤ nodes.length := by
  have hin : ∀ i < ds.length, start + i < nodes.length := by
    intro i
    induction i with
    | zero => exact fun _ => hstart
    | succ i ih =>
      intro hi
      have hlt := ih (by omega)
      have hgo := (h.getElem? (List.getElem?_eq_getElem (by omega : i < ds.length))).2.2.mp hi
      rcases hgo.2.2.2 with hnext | hnext
      · rw [roundPosition, Nat.zero_add, Nat.mod_eq_of_lt hlt] at hnext
        exact hnext
      · rw [hround] at hnext
        exact absurd hnext (by decide)
  have hpos := List.length_pos_iff.mpr h.ne_nil
  have hlast := hin (ds.length - 1) (by omega)
  omega

/-- A total failure uses every attempt that there is. -/
theorem length_eq (hround : service.balancing.roundRobin = true)
    (hfailover : service.balancing.failover = true) (hall : ∀ d ∈ ds, d.reply.failed = true) :
    ds.length = service.maxAttempts := by
  refine Nat.le_antisymm h.length_le ?_
  by_contra hshort
  have hpos := List.length_pos_iff.mpr h.ne_nil
  obtain ⟨d, hd⟩ : ∃ d, ds[ds.length - 1]? = some d :=
    ⟨_, List.getElem?_eq_getElem (by omega)⟩
  have hgo : service.GoesOn nodes.length start (0 + (ds.length - 1)) d.reply :=
    ⟨hall d (List.mem_of_getElem? hd), hfailover, by omega, .inr hround⟩
  have hmore := (h.getElem? hd).2.2.mpr hgo
  omega

theorem failsOver (hstart : start < nodes.length) {answer : Forwarding}
    (hc : Concludes (roundPosition nodes.length start) .exhausted 0 none ds answer) :
    FailsOver service nodes request start ds answer where
  dispatched := h.ne_nil
  sent j d hd := by
    have hj := h.getElem? hd
    rw [Nat.zero_add] at hj
    exact ⟨hj.1, hj.2.1⟩
  goesOn j d hd := by
    have hj := h.getElem? hd
    rw [Nat.zero_add] at hj
    exact hj.2.2
  within_budget := h.length_le
  within_list := h.add_length_le hstart
  no_node_twice hle := nodup_roundPositions (h.length_le.trans hle) start
  every_node hmax hround hfailover hall := by
    rw [h.length_eq hround hfailover hall, hmax]
    exact perm_roundPositions (by omega) start
  concludes := hc

end Course

/-! ### Forwarding -/

namespace Selector

section Forwarding

variable {σ β : Type} [Store σ SessionRecord] [Backends β] {service : Service}
  {nodes : List Node} {request : Http.Request} {h : Handle}

theorem forward_eq {sessionKey : Option String} {s : Selector σ}
    (hsel : (s.select service nodes sessionKey).1 = some h) (request : Http.Request) (b : β) :
    s.forward service nodes sessionKey request b =
      attempts service nodes request (h.maxAttempts - h.attempt) h none
        (s.select service nodes sessionKey).2 b := by
  rw [forward]
  split
  · rename_i heq
    rw [heq] at hsel
    exact absurd hsel (by simp)
  · rename_i h' s' heq
    rw [heq] at hsel
    obtain rfl := Option.some.inj hsel
    rw [heq]

theorem fail_established (hfirst : h.firstTime = false) (s : Selector σ) :
    s.fail h = (.done .evicted, s.evict h) := by
  rw [fail, hfirst]
  rfl

/-- An established session has one attempt, whatever comes of it. -/
theorem attempts_established (hfirst : h.firstTime = false) (hattempt : h.attempt = 1)
    (hlt : h.index < nodes.length) (request : Http.Request) (left : Nat) (s : Selector σ)
    (b : Journaled β) :
    ∃ d, (attempts service nodes request left h none s b).2.2.dispatches = b.dispatches ++ [d] ∧
      nodes[h.index]? = some d.node ∧ d.request = request ∧
      Concludes (fun _ => h.index) .evicted 0 none [d]
        (attempts service nodes request left h none s b).1 := by
  obtain ⟨node, hnode⟩ : ∃ node, nodes[h.index]? = some node :=
    ⟨_, List.getElem?_eq_getElem hlt⟩
  rcases hsend : Backends.send node request b with ⟨reply, b'⟩
  have hjournal : b'.dispatches = b.dispatches ++ [⟨node, request, reply⟩] := by
    obtain ⟨rfl, rfl⟩ := Prod.mk.inj hsend
    rfl
  refine ⟨⟨node, request, reply⟩, ?_⟩
  cases hf : reply.failed with
  | true =>
    have hfirst' : (h.renamed (reply.affinity? service)).firstTime = false := by
      rw [Handle.firstTime_renamed, hfirst]
    rw [attempts_done hnode hsend hf (fail_established hfirst' s)]
    exact ⟨hjournal, hnode, rfl, .afterFailure hf rfl hattempt⟩
  | false =>
    obtain rfl | ⟨r, rfl, hok⟩ := Reply.eq_of_not_failed hf
    · rw [attempts_abandoned hnode hsend]
      exact ⟨hjournal, hnode, rfl, .gaveUp rfl⟩
    · rw [attempts_succeeded hnode hsend hok, hattempt]
      exact ⟨hjournal, hnode, rfl, .response rfl (by rw [hf]; rfl)⟩

/-- A request of a session for which a record is found is dispatched to the node of that record. -/
theorem forward_sticks (hn : nodes ≠ []) {s : Selector σ} {sessionKey : Option String}
    {r : SessionRecord} (hr : s.found? service nodes sessionKey = some r) (request : Http.Request)
    (b : β) :
    Sticks nodes request r.nodeIndex
      (s.forward service nodes sessionKey request (Journaled.mk b [])).2.2.dispatches
      (s.forward service nodes sessionKey request (Journaled.mk b [])).1 := by
  have hsel := select_of_found hn hr
  obtain ⟨k, -, -, hlt⟩ := found?_eq_some_iff.mp hr
  obtain ⟨d, hd, hnode, hrequest, hconcludes⟩ := attempts_established
    (h := established service nodes.length _ r) rfl rfl hlt request _
    (s.select service nodes sessionKey).2 (Journaled.mk b [])
  rw [List.nil_append] at hd
  rw [forward_eq hsel request _, hd]
  exact ⟨⟨d, rfl, hnode, hrequest⟩, hconcludes⟩

/-- A request for which no record is found is dispatched from the node on whose turn it is. -/
theorem forward_failsOver (hn : nodes ≠ []) {s : Selector σ} {sessionKey : Option String}
    (hr : s.found? service nodes sessionKey = none) (request : Http.Request) (b : β) :
    FailsOver service nodes request (s.turn service nodes)
      (s.forward service nodes sessionKey request (Journaled.mk b [])).2.2.dispatches
      (s.forward service nodes sessionKey request (Journaled.mk b [])).1 := by
  have hpos : 0 < nodes.length := List.length_pos_iff.mpr hn
  have hsel := select_of_notFound hn hr
  have hlt : s.turn service nodes < nodes.length := Rotation.position_lt _ hpos
  have hone : 1 ≤ service.maxAttempts := Nat.le_max_left 1 _
  obtain ⟨ds, hds, hcourse, hconcludes⟩ := attempts_course hpos (at_fresh hlt _ _)
    (Nat.sub_add_cancel hone) request none (s.select service nodes sessionKey).2
    (Journaled.mk b [])
  rw [List.nil_append] at hds
  rw [forward_eq hsel request _]
  rw [← hds] at hcourse hconcludes
  exact hcourse.failsOver hlt hconcludes

/-- **Forwarding is the state machine of failover.** A request of a session for which the store
returns a record of an existing node has one dispatch, to that node. Any other request is dispatched
to the node whose turn it is and to those after it, for as long as attempts fail, failover is on,
attempts are left and a next node exists or nodes are gone through in a round. -/
theorem forward_failover (hn : nodes ≠ []) (s : Selector σ) (service : Service)
    (sessionKey : Option String) (request : Http.Request) (b : β) :
    let out := s.forward service nodes sessionKey request (Journaled.mk b [])
    (∀ r, s.found? service nodes sessionKey = some r →
      Sticks nodes request r.nodeIndex out.2.2.dispatches out.1) ∧
    (s.found? service nodes sessionKey = none →
      FailsOver service nodes request (s.turn service nodes) out.2.2.dispatches out.1) ∧
    ∀ r, s.found? service nodes sessionKey = some r ↔
      ∃ k, sessionKey = some k ∧
        (Store.get (Session.storeKey service.id service.generation k) s.sessions).1 =
          .ok (some r) ∧
        r.nodeIndex < nodes.length :=
  ⟨fun _ hr => forward_sticks hn hr request b, fun hr => forward_failsOver hn hr request b,
    fun _ => found?_eq_some_iff⟩

end Forwarding

/-! ### Two runs

The turn is at the last of three nodes. It is out of reach, the first node answers with a failure,
and the second is out of reach as well: the answer is the response of the first, after three
attempts. A session that is bound to the second node has the one attempt there, although the others
were never tried. -/

namespace Sample

def service : Service :=
  { id := "svc", nodes := [.plain "a" 80, .plain "b" 81, .plain "c" 82] }

def selector : Selector (MemoryStore SessionRecord) :=
  { Selector.start ⟨ExpiringMap.empty, 0⟩ 1000 with rotations := Table.empty.set "svc" ⟨2⟩ }

def unavailable : Http.Response := ⟨(Http.Status.of? 503).getD .ok, Http.Headers.empty, []⟩

def backends : TrialBackends :=
  ⟨[(80, [.response unavailable]), (81, [.error (.failed "b")]), (82, [.error (.failed "c")])], []⟩

def request : Http.Request := ⟨"GET", "/", Http.Headers.empty, []⟩

def out : Forwarding × Selector (MemoryStore SessionRecord) × Journaled TrialBackends :=
  selector.forward service service.nodes (some "aff=k") request ⟨backends, []⟩

/-- Where the session is filed. -/
def place : String := Session.storeKey service.id service.generation "aff=k"

def binding : SessionRecord := ⟨"aff=k", 1, "k"⟩

/-- The same selector with a session bound to the second node. -/
def bound : Selector (MemoryStore SessionRecord) :=
  { selector with sessions := (Store.put place binding 1000 selector.sessions).2 }

def outBound : Forwarding × Selector (MemoryStore SessionRecord) × Journaled TrialBackends :=
  bound.forward service service.nodes (some "aff=k") request ⟨backends, []⟩

end Sample

theorem forward_totalFailure :
    Sample.out.1 = .answered ⟨Sample.unavailable, 0, 3, .exhausted⟩ ∧
      Sample.selector.found? Sample.service Sample.service.nodes (some "aff=k") = none ∧
      FailsOver Sample.service Sample.service.nodes ⟨"GET", "/", Http.Headers.empty, []⟩ 2
        Sample.out.2.2.dispatches Sample.out.1 ∧
      (Store.get Sample.place Sample.bound.sessions).1 = .ok (some Sample.binding) ∧
      Sticks Sample.service.nodes Sample.request 1 Sample.outBound.2.2.dispatches
        Sample.outBound.1 := by
  have hnodes : Sample.service.nodes ≠ [] := by decide
  obtain ⟨-, hfails, -⟩ := forward_failover hnodes Sample.selector Sample.service (some "aff=k")
    Sample.request Sample.backends
  obtain ⟨hsticks, -, hfound⟩ := forward_failover hnodes Sample.bound Sample.service
    (some "aff=k") Sample.request Sample.backends
  have hlive : StoreView.live? Sample.bound.sessions Sample.place = some Sample.binding :=
    (ReliableStore.live?_put Sample.place Sample.place Sample.binding _ (by decide)).trans
      (if_pos rfl)
  have hbound : (Store.get Sample.place Sample.bound.sessions).1 = .ok (some Sample.binding) :=
    (ReliableStore.get_fst Sample.place Sample.bound.sessions).trans (congrArg _ hlive)
  exact ⟨by rfl, by rfl, hfails (by rfl), hbound,
    hsticks Sample.binding ((hfound _).mpr ⟨_, rfl, hbound, by decide⟩)⟩

end Selector

end Gatehouse
