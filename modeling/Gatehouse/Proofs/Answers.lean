import Gatehouse.Admission.Trial
import Gatehouse.Gateway.Dispatch
import Gatehouse.Proofs.StoreCalls

/-!
# What an answer tells

A request passes the registry, admission, the intake of its body and the selection of a node before
anything is sent, and each of these can answer it. This file shows that the answer tells how far the
request came: what lies behind the stage that answered has not been done, and once something was
sent, the answer is what the backends gave.

## Sent or not sent

Whether the request was sent to anyone. If not, the gateway answers with an error of its own, an
*early* one. Its selector is then as it was, with its rotations and its counts, and the store of
sessions was not even read. If something was sent, the last response given counts, whatever came
after it. Only where there was none, the gateway answers for the backends.

## Implementation notes

A gateway is observed through the journal of its backends and the log of its store of sessions, which
change nothing about it, `Gateway.dispatch_observed`. What may have been done before a stage is left
open in `Gateway.Way`: what becomes of counters and events is the matter of admission.

## Main definitions

* `Gateway.observed` — a gateway that keeps a journal and a log
* `responses` — what the backends gave
* `EndsBy` — how attempts end
* `Gateway.Way` — the ways of a request through the gateway
* `Gateway.Tells` — what the answer to a request tells

## Main results

* `Concludes.ends` — attempts end by what the backends gave
* `Gateway.dispatch_way` — every request takes one of the ways
* `Gateway.dispatch_tells` — the result
-/

namespace Gatehouse

/-! ### How attempts end -/

/-- The responses that backends gave, in order. -/
def responses (ds : List Dispatch) : List Http.Response := ds.filterMap (·.reply.response?)

theorem responses_cons (d : Dispatch) (ds : List Dispatch) :
    responses (d :: ds) = d.reply.response?.toList ++ responses ds := by
  cases h : d.reply.response? <;> simp [responses, h]

theorem map_fst_lastResponse? (position : Nat → Nat) (j : Nat) (ds : List Dispatch) :
    (lastResponse? position j ds).map Prod.fst = (responses ds).getLast? := by
  induction ds generalizing j with
  | nil => rfl
  | cons d ds ih =>
    rw [lastResponse?, Option.map_or, ih, responses_cons, List.getLast?_append]
    cases d.reply.response? <;> rfl

/-- How the attempts of a request end, by what was sent and replied. -/
inductive EndsBy (ds : List Dispatch) : Forwarding → Prop where
  | answered {f : Forwarded} (hresponse : (responses ds).getLast? = some f.response)
      (hlast : ∀ d, ds.getLast? = some d → d.reply ≠ .abandoned) : EndsBy ds (.answered f)
  | unreachable {authority : String} {e : BackendError} (hsent : ds ≠ [])
      (hall : ∀ d ∈ ds, ∃ e, d.reply = .error e) : EndsBy ds (.failed (.unreachable authority e))
  | abandoned {d : Dispatch} (hlast : ds.getLast? = some d) (hd : d.reply = .abandoned) :
      EndsBy ds .abandoned

theorem responses_of_errors {ds : List Dispatch} (h : ∀ d ∈ ds, ∃ e, d.reply = .error e) :
    responses ds = [] := by
  refine List.filterMap_eq_nil_iff.mpr fun d hd => ?_
  obtain ⟨e, he⟩ := h d hd
  rw [he]
  rfl

/-- Attempts end only where there are some. -/
theorem EndsBy.ne_nil {ds : List Dispatch} {forwarding : Forwarding} (h : EndsBy ds forwarding) :
    ds ≠ [] := by
  cases h with
  | answered hresponse _ =>
    rintro rfl
    cases hresponse
  | unreachable hsent _ => exact hsent
  | abandoned hlast _ =>
    rintro rfl
    cases hlast

/-- A reply without a response is an error, unless the client gave up. -/
theorem Reply.eq_error {reply : Reply} (hnone : reply.response? = none)
    (hne : reply ≠ .abandoned) : ∃ e, reply = .error e := by
  cases reply with
  | response r => exact absurd hnone (by simp [response?])
  | error e => exact ⟨e, rfl⟩
  | abandoned => exact absurd rfl hne

theorem Reply.ne_abandoned_of_failed {reply : Reply} (h : reply.failed = true) :
    reply ≠ .abandoned := by
  rintro rfl
  exact absurd h (by decide)

/-- **Attempts end by what the backends gave**, if all but the last one failed. -/
theorem Concludes.ends {position : Nat → Nat} {failure : Outcome} {ds : List Dispatch}
    {answer : Forwarding} (h : Concludes position failure 0 none ds answer) (hsent : ds ≠ [])
    (hfailed : ∀ d ∈ ds.dropLast, d.reply.failed = true) : EndsBy ds answer := by
  obtain ⟨d, hd⟩ : ∃ d, ds.getLast? = some d := ⟨_, List.getLast?_eq_some_getLast hsent⟩
  by_cases ha : d.reply = .abandoned
  · rw [h.abandoned d hd ha]
    exact .abandoned hd ha
  have hlast : ∀ d', ds.getLast? = some d' → d'.reply ≠ .abandoned := by
    intro d' hd'
    rw [hd] at hd'
    obtain rfl := Option.some.inj hd'
    exact ha
  have hresponse := map_fst_lastResponse? position 0 ds
  cases hl : lastResponse? position 0 ds with
  | some found =>
    obtain ⟨r, i⟩ := found
    rw [h.answered d hd ha r i (by rw [hl, Option.some_or])]
    rw [hl] at hresponse
    exact .answered hresponse.symm hlast
  | none =>
    rw [hl] at hresponse
    have hnone : ∀ d' ∈ ds, d'.reply.response? = none :=
      List.filterMap_eq_nil_iff.mp (List.getLast?_eq_none_iff.mp hresponse.symm)
    have hall : ∀ d' ∈ ds, ∃ e, d'.reply = .error e := by
      intro d' hd'
      refine Reply.eq_error (hnone d' hd') ?_
      rw [← List.dropLast_append_getLast hsent, List.mem_append, List.mem_singleton] at hd'
      obtain hin | rfl := hd'
      · exact Reply.ne_abandoned_of_failed (hfailed d' hin)
      · exact hlast _ (List.getLast?_eq_some_getLast hsent)
    obtain ⟨e, he⟩ := hall d (List.mem_of_getLast? hd)
    rw [h.failed d e hd he (by rw [hl, Option.none_or])]
    exact .unreachable hsent hall

theorem FailsOver.ends {service : Service} {nodes : List Node} {request : Http.Request}
    {start : Nat} {ds : List Dispatch} {answer : Forwarding}
    (h : FailsOver service nodes request start ds answer) : EndsBy ds answer := by
  refine h.concludes.ends h.dispatched fun d hd => ?_
  obtain ⟨j, hj⟩ := List.mem_iff_getElem?.mp hd
  rw [List.getElem?_dropLast] at hj
  split at hj
  · rename_i hlt
    exact ((h.goesOn j d hj).mp (by omega)).1
  · cases hj

theorem Sticks.ends {nodes : List Node} {request : Http.Request} {i : Nat} {ds : List Dispatch}
    {answer : Forwarding} (h : Sticks nodes request i ds answer) : EndsBy ds answer := by
  obtain ⟨d, rfl, -, -⟩ := h.once
  exact h.concludes.ends (by simp) (by simp)

theorem Selector.forward_ends {σ β : Type} [Store σ SessionRecord] [Backends β]
    {nodes : List Node} (hn : nodes ≠ []) (s : Selector σ) (service : Service)
    (sessionKey : Option String) (request : Http.Request) (b : β) :
    EndsBy (s.forward service nodes sessionKey request (Journaled.mk b [])).2.2.dispatches
      (s.forward service nodes sessionKey request (Journaled.mk b [])).1 := by
  cases hr : s.found? service nodes sessionKey with
  | some r => exact (forward_sticks hn hr request b).ends
  | none => exact (forward_failsOver hn hr request b).ends

theorem Selector.forward_nil {σ β : Type} [Store σ SessionRecord] [Backends β] (s : Selector σ)
    (service : Service) (sessionKey : Option String) (request : Http.Request) (b : β) :
    s.forward service [] sessionKey request b = (.failed (.noBackends service.id), s, b) := by
  rw [forward, select, if_pos rfl]

/-! ### What an answer tells -/

/-- Errors of the gateway before anything is sent. -/
def GatewayError.early : GatewayError → Bool
  | .badGateway _ => false
  | _ => true

/-- What becomes of a request that was forwarded. -/
def Answer.ofForwarding : Forwarding → Answer
  | .answered f => .response f.response
  | .failed e => .error (.ofSelection e)
  | .abandoned => .abandoned

namespace EndsBy

variable {ds : List Dispatch} {forwarding : Forwarding}

theorem badGateway_iff (h : EndsBy ds forwarding) :
    (∃ reason, Answer.ofForwarding forwarding = .error (.badGateway reason)) ↔
      ∀ d ∈ ds, ∃ e, d.reply = .error e := by
  cases h with
  | answered hresponse _ =>
    refine ⟨fun ⟨_, h⟩ => (by cases h), fun hall => ?_⟩
    rw [responses_of_errors hall] at hresponse
    cases hresponse
  | unreachable _ hall => exact ⟨fun _ => hall, fun _ => ⟨_, rfl⟩⟩
  | abandoned hlast hd =>
    refine ⟨fun ⟨_, h⟩ => (by cases h), fun hall => ?_⟩
    obtain ⟨e, he⟩ := hall _ (List.mem_of_getLast? hlast)
    rw [hd] at he
    cases he

theorem abandoned_iff (h : EndsBy ds forwarding) :
    Answer.ofForwarding forwarding = .abandoned ↔
      ∃ d, ds.getLast? = some d ∧ d.reply = .abandoned := by
  cases h with
  | answered _ hlast => exact ⟨nofun, fun ⟨d, hd, ha⟩ => absurd ha (hlast d hd)⟩
  | unreachable _ hall =>
    refine ⟨nofun, fun ⟨d, hd, ha⟩ => ?_⟩
    obtain ⟨e, he⟩ := hall d (List.mem_of_getLast? hd)
    rw [ha] at he
    cases he
  | abandoned hlast hd => exact ⟨fun _ => ⟨_, hlast, hd⟩, fun _ => rfl⟩

theorem response_iff (h : EndsBy ds forwarding) (r : Http.Response) :
    Answer.ofForwarding forwarding = .response r ↔
      (responses ds).getLast? = some r ∧ Answer.ofForwarding forwarding ≠ .abandoned := by
  cases h with
  | answered hresponse _ => simp [Answer.ofForwarding, hresponse]
  | unreachable _ hall => simp [Answer.ofForwarding, responses_of_errors hall]
  | abandoned _ _ => simp [Answer.ofForwarding]

/-- Attempts do not end by an error of the gateway before anything is sent. -/
theorem not_early (h : EndsBy ds forwarding) {e : GatewayError}
    (he : Answer.ofForwarding forwarding = .error e) : e.early = false := by
  cases h with
  | unreachable _ _ =>
    obtain rfl := Answer.error.inj he
    rfl
  | answered _ _ | abandoned _ _ => cases he

end EndsBy

namespace Gateway

variable {σ κ ω β : Type} {g : Gateway σ κ ω β} {a : Arrival}

/-- The gateway with an empty log of the calls to its store of sessions, and an empty journal of what
it sends. -/
def observed (g : Gateway σ κ ω β) : Gateway (LoggedStore σ) κ ω (Journaled β) :=
  { g with selector := g.selector.logged, backends := ⟨g.backends, []⟩ }

/-- The gateway without them. -/
def unobserved (g : Gateway (LoggedStore σ) κ ω (Journaled β)) : Gateway σ κ ω β :=
  { g with selector := g.selector.unlogged, backends := g.backends.backends }

/-- The ways of a request through the gateway: the answer, and the gateway afterwards with a journal
of what was sent. -/
inductive Way (g : Gateway σ κ ω β) (a : Arrival) :
    Answer → Gateway (LoggedStore σ) κ ω (Journaled β) → Prop where
  /-- No service takes the request. -/
  | unrouted (hroute : g.registry.resolve a.head = none) : Way g a (.error .noRoute) g.observed
  /-- Admission turns it away, or its body cannot be taken in, or there is no node for it. -/
  | refused {service : Service} {e : GatewayError} {admission : Admission κ ω}
      (hroute : g.registry.resolve a.head = some service) (he : e.early = true)
      (hne : e ≠ .noRoute) : Way g a (.error e) { g.observed with admission }
  /-- It is sent to nodes. -/
  | sent {service : Service} {forwarding : Forwarding} {admission : Admission κ ω}
      {selector : Selector (LoggedStore σ)} {backends : Journaled β}
      (hroute : g.registry.resolve a.head = some service)
      (hends : EndsBy backends.dispatches forwarding) :
      Way g a (.ofForwarding forwarding) { g.observed with admission, selector, backends }

/-- What the answer to a request tells. `g'` is the gateway afterwards, with a journal of what was
sent for the request. -/
structure Tells (g : Gateway σ κ ω β) (a : Arrival) (answer : Answer)
    (g' : Gateway (LoggedStore σ) κ ω (Journaled β)) : Prop where
  noRoute_iff : answer = .error .noRoute ↔ g.registry.resolve a.head = none
  /-- Then nothing was done at all: nothing was counted and nothing published. -/
  noRoute : answer = .error .noRoute → g' = g.observed
  early_iff : (∃ e, answer = .error e ∧ e.early = true) ↔ g'.backends.dispatches = []
  /-- Then no call was made to the store of sessions, and neither the selector nor the backends are
  changed. -/
  early : ∀ e, answer = .error e → e.early = true →
    g'.selector.sessions.calls = [] ∧ g'.selector.unlogged = g.selector ∧
      g'.backends = ⟨g.backends, []⟩
  badGateway_iff : (∃ reason, answer = .error (.badGateway reason)) ↔
    g'.backends.dispatches ≠ [] ∧ ∀ d ∈ g'.backends.dispatches, ∃ e, d.reply = .error e
  /-- A response is the last one that a backend gave, as it is. -/
  response_iff : ∀ r, answer = .response r ↔
    (responses g'.backends.dispatches).getLast? = some r ∧ answer ≠ .abandoned
  abandoned_iff : answer = .abandoned ↔
    ∃ d, g'.backends.dispatches.getLast? = some d ∧ d.reply = .abandoned

theorem tells_of_early {e : GatewayError} {g' : Gateway (LoggedStore σ) κ ω (Journaled β)}
    (he : e.early = true) (hroute : e = .noRoute ↔ g.registry.resolve a.head = none)
    (hnone : e = .noRoute → g' = g.observed) (hselector : g'.selector = g.selector.logged)
    (hbackends : g'.backends = ⟨g.backends, []⟩) : g.Tells a (.error e) g' where
  noRoute_iff := by rw [Answer.error.injEq, hroute]
  noRoute h := hnone (Answer.error.inj h)
  early_iff := by simp [hbackends, he]
  early _ _ _ := by simp [hselector, hbackends, Selector.logged, Selector.unlogged]
  badGateway_iff := by
    have hne : ∀ reason, e ≠ .badGateway reason := by
      rintro reason rfl
      cases he
    simp [hbackends, hne]
  response_iff r := by simp [hbackends, responses]
  abandoned_iff := by simp [hbackends]

theorem tells_of_ends {forwarding : Forwarding} {g' : Gateway (LoggedStore σ) κ ω (Journaled β)}
    (hroute : g.registry.resolve a.head ≠ none)
    (hends : EndsBy g'.backends.dispatches forwarding) :
    g.Tells a (.ofForwarding forwarding) g' where
  noRoute_iff := iff_of_false (fun h => absurd (hends.not_early h) (by decide)) hroute
  noRoute h := absurd (hends.not_early h) (by decide)
  early_iff := iff_of_false (fun ⟨_, h, he⟩ => absurd he (by simp [hends.not_early h])) hends.ne_nil
  early e h he := absurd he (by simp [hends.not_early h])
  badGateway_iff := by rw [hends.badGateway_iff, and_iff_right hends.ne_nil]
  response_iff := hends.response_iff
  abandoned_iff := hends.abandoned_iff

theorem Way.tells {answer : Answer} {g' : Gateway (LoggedStore σ) κ ω (Journaled β)}
    (h : g.Way a answer g') : g.Tells a answer g' := by
  cases h with
  | unrouted hroute => exact tells_of_early rfl (by simp [hroute]) (fun _ => rfl) rfl rfl
  | refused hroute he hne =>
    exact tells_of_early he (by simp [hroute, hne]) (fun h => absurd h hne) rfl rfl
  | sent hroute hends => exact tells_of_ends (by simp [hroute]) hends

end Gateway

/-! ### Ways through the gateway -/

theorem RequestHead.buffer_eq_error {head : RequestHead} {body : Inflow} {path : String}
    {maxBodySize : Nat} {client : Net.Address} {e : GatewayError}
    (h : head.buffer body path maxBodySize client = .error e) : e = .payloadTooLarge maxBodySize := by
  rw [buffer] at h
  split_ifs at h
  exact (Except.error.inj h).symm

namespace Gateway

variable {σ κ ω β : Type} [Store σ SessionRecord] [Backends β] {g : Gateway σ κ ω β} {a : Arrival}

theorem forward_of_buffer {service : Service} {request : Http.Request}
    (h : a.head.buffer a.body (forwardedPath service a.head) g.maxBodySize a.client =
      .ok request) :
    g.forward service a =
      let out := g.selector.forward service service.nodes (sessionKey? service a.head) request
        g.backends
      (.ofForwarding out.1, { g with selector := out.2.1, backends := out.2.2 }) := by
  rw [forward, h]
  dsimp only
  rcases g.selector.forward service service.nodes (sessionKey? service a.head) request g.backends
    with ⟨f | e | _, s, b⟩ <;> rfl

theorem forward_of_buffer_error {service : Service} {e : GatewayError}
    (h : a.head.buffer a.body (forwardedPath service a.head) g.maxBodySize a.client = .error e) :
    g.forward service a = (.error e, g) := by
  rw [forward, h]

theorem forward_observed (g : Gateway σ κ ω β) (service : Service) (a : Arrival) :
    (g.observed.forward service a).map id unobserved = g.forward service a := by
  cases h : a.head.buffer a.body (forwardedPath service a.head) g.maxBodySize a.client with
  | error e =>
    rw [forward_of_buffer_error h, forward_of_buffer_error (g := g.observed) h]
    rfl
  | ok request =>
    rw [forward_of_buffer h, forward_of_buffer (g := g.observed) h]
    rw [← g.selector.forward_logged, ← g.selector.logged.forward_journaled]
    rfl

/-- Forwarding refuses a request, or it ends as attempts do. -/
theorem forward_cases (g : Gateway σ κ ω β) (service : Service) (a : Arrival) :
    (∃ e, e.early = true ∧ e ≠ .noRoute ∧ g.observed.forward service a = (.error e, g.observed)) ∨
      ∃ forwarding selector backends, EndsBy backends.dispatches forwarding ∧
        g.observed.forward service a =
          (.ofForwarding forwarding, { g.observed with selector, backends }) := by
  cases h : a.head.buffer a.body (forwardedPath service a.head) g.maxBodySize a.client with
  | error e =>
    obtain rfl := RequestHead.buffer_eq_error h
    exact .inl ⟨_, rfl, by simp, forward_of_buffer_error (g := g.observed) h⟩
  | ok request =>
    have hforward := forward_of_buffer (g := g.observed) h
    by_cases hn : service.nodes = []
    · rw [hn, Selector.forward_nil] at hforward
      exact .inl ⟨.noBackends service.id, rfl, by simp, hforward⟩
    · exact .inr ⟨_, _, _, g.selector.logged.forward_ends hn service (sessionKey? service a.head) request
        g.backends, hforward⟩

variable [Store κ ThrottleCounter] [Oracle ω]

/-- What admission says to a request, and what it keeps of it. -/
def checked (g : Gateway σ κ ω β) (service : Service) (a : Arrival) : Decision × Admission κ ω :=
  g.admission.check service (a.head.consumer? a.identity g.consumerHeader) a.eventId a.now

theorem handle_eq (g : Gateway σ κ ω β) (service : Service) (a : Arrival) :
    g.handle service a =
      if (g.checked service a).1.allowed then
        { g with admission := (g.checked service a).2 }.forward service a
      else
        (.error (.throttled (g.checked service a).1.retryAfterMs),
          { g with admission := (g.checked service a).2 }) := rfl

theorem dispatch_of_none (h : g.registry.resolve a.head = none) :
    g.dispatch a = ("none", .error .noRoute, g) := by
  rw [dispatch, h]

theorem dispatch_of_some {service : Service} (h : g.registry.resolve a.head = some service) :
    g.dispatch a = (service.id, g.handle service a) := by
  rw [dispatch, h]

theorem handle_observed (g : Gateway σ κ ω β) (service : Service) (a : Arrival) :
    (g.observed.handle service a).map id unobserved = g.handle service a := by
  have hsame : g.observed.checked service a = g.checked service a := rfl
  rw [handle_eq, handle_eq, hsame]
  split
  · exact forward_observed { g with admission := (g.checked service a).2 } service a
  · rfl

/-- Observing a gateway changes nothing about what becomes of a request. -/
theorem dispatch_observed (g : Gateway σ κ ω β) (a : Arrival) :
    (g.observed.dispatch a).map id (Prod.map id unobserved) = g.dispatch a := by
  cases h : g.registry.resolve a.head with
  | none =>
    rw [dispatch_of_none h, dispatch_of_none (g := g.observed) h]
    rfl
  | some service =>
    rw [dispatch_of_some h, dispatch_of_some (g := g.observed) h]
    exact congrArg (service.id, ·) (handle_observed g service a)

/-- **Every request takes one of the ways.** -/
theorem dispatch_way (g : Gateway σ κ ω β) (a : Arrival) :
    g.Way a (g.observed.dispatch a).2.1 (g.observed.dispatch a).2.2 := by
  cases hroute : g.registry.resolve a.head with
  | none =>
    rw [dispatch_of_none (g := g.observed) hroute]
    exact .unrouted hroute
  | some service =>
    rw [dispatch_of_some (g := g.observed) hroute, handle_eq]
    split
    · obtain ⟨e, he, hne, hout⟩ | ⟨forwarding, selector, backends, hends, hout⟩ :=
        forward_cases { g with admission := (g.observed.checked service a).2 } service a
      · refine hout ▸ ?_
        exact .refused hroute he hne
      · refine hout ▸ ?_
        exact .sent hroute hends
    · exact .refused hroute rfl (by simp)

/-- **An answer tells what was done for it.** Whatever the state of a gateway, a request that is
answered by an error before it is sent leaves the selector and the backends alone, and everything if
no service takes it. The gateway answers for the backends only if it sent the request and every
attempt ended in an error. Every other answer is the last response that a backend gave. -/
theorem dispatch_tells (g : Gateway σ κ ω β) (a : Arrival) :
    (g.observed.dispatch a).map id (Prod.map id unobserved) = g.dispatch a ∧
      g.Tells a (g.observed.dispatch a).2.1 (g.observed.dispatch a).2.2 :=
  ⟨dispatch_observed g a, (dispatch_way g a).tells⟩

/-! ### A run

The nodes are those of `Selector.Sample`: the last and the second one are out of reach, and the first
one answers with a failure, which is the answer. -/

namespace Sample

def gateway : Gateway (MemoryStore SessionRecord) (MemoryStore ThrottleCounter) TrialOracle
    TrialBackends where
  registry := ⟨[⟨[], 0, Selector.Sample.service⟩], Table.empty⟩
  selector := Selector.Sample.selector
  admission := ⟨⟨ExpiringMap.empty, 0⟩, none, 0, none, Metrics.empty⟩
  backends := Selector.Sample.backends
  consumerHeader := "x-consumer"
  maxBodySize := 0
  metrics := Metrics.empty

def arrival : Arrival := ⟨{}, ⟨[], false⟩, .v4 127 0 0 1, none, 0, .zero, .zero⟩

end Sample

example : (Sample.gateway.observed.dispatch Sample.arrival).2.1 =
      .response Selector.Sample.unavailable ∧
    (Sample.gateway.observed.dispatch Sample.arrival).2.2.selector.sessions.calls = [] :=
  ⟨rfl, rfl⟩

end Gateway

end Gatehouse
