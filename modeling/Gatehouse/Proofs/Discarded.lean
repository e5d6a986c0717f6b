import Gatehouse.Proofs.Bindings

/-!
# Discarded responses

When an attempt fails, its response is discarded and another attempt is made. The value that the
response gave the session is not: it stays in the selection, and the first answer that is no failure
is persisted under it unless a later response gave another value. This file compares a request with
the same request to backends whose failures set no cookies, and finds what the discarded responses
leave in the store.

The two requests make the same attempts with the same result, and bind the session to the same node.
They differ in one thing only: the one goes by the last value of all responses, the other by that of
the response that is returned.

## Implementation notes

The backends without such cookies are the given ones behind a filter, so whatever state they keep is
the same in both requests. The store may be any; that it is the same if the values are is an
equation between stores. That it differs if the values do is shown for stores that do what they
should.

## Main definitions

* `Reply.discreet`, `Discreet` — failures without the cookies that they set
* `SameEnd` — the same answer, or two that bind nothing

## Main results

* `Selector.attempts_discreet` — what a failure sets makes no difference to the attempts
* `Selector.forward_discreet` — what it makes a difference to
* `Selector.discarded_value_kept` — a session that is filed under the value of a discarded response
-/

namespace Gatehouse

open StoreView (live?)

/-! ### Failures without cookies -/

/-- A response without the cookies that it sets, if it is a failure. -/
def Http.Response.discreet (q : Http.Response) : Http.Response :=
  if q.status.isServerError then { q with headers := q.headers.without "set-cookie" } else q

/-- A reply without the cookies that it sets, if it is a failure. -/
def Reply.discreet : Reply → Reply
  | .response q => .response q.discreet
  | reply => reply

/-- A dispatch whose reply sets no cookies if it is a failure. -/
def Dispatch.discreet (d : Dispatch) : Dispatch := { d with reply := d.reply.discreet }

/-- Backends behind a filter. -/
structure Discreet (β : Type) where
  backends : β

/-- Their failures set no cookies. -/
instance {β : Type} [Backends β] : Backends (Discreet β) where
  send node request b :=
    let (reply, backends) := Backends.send node request b.backends
    (reply.discreet, ⟨backends⟩)

section Discreet

variable {service : Service} {q : Http.Response} {reply : Reply} {ds : List Dispatch}

theorem Http.Response.isServerError_discreet (q : Http.Response) :
    q.discreet.status.isServerError = q.status.isServerError := by
  rw [discreet]
  split <;> rfl

theorem Http.Response.discreet_of_ok (hok : q.status.isServerError = false) :
    q.discreet = q := by
  rw [discreet, hok]
  rfl

@[simp] theorem Reply.failed_discreet (reply : Reply) : reply.discreet.failed = reply.failed := by
  cases reply with
  | response q => exact Http.Response.isServerError_discreet q
  | error e => rfl
  | abandoned => rfl

theorem Http.Headers.issuedCookie?_without (h : Http.Headers) (name : String) :
    (h.without "set-cookie").issuedCookie? name = none := by
  have hall : (h.without "set-cookie").readAll "set-cookie" = [] := by
    simp [readAll, all, without, List.filter_filter]
  rw [issuedCookie?, issuedCookies, hall]
  rfl

theorem Reply.affinity?_discreet (hf : reply.failed = true) :
    reply.discreet.affinity? service = none := by
  cases reply with
  | response q =>
    have herror : q.status.isServerError = true := hf
    rw [discreet, Http.Response.discreet, if_pos herror, affinity?_response, Selector.affinityOf]
    cases service.balancing.sticky with
    | none => rfl
    | some a => exact Http.Headers.issuedCookie?_without q.headers a.param
  | error e => rfl
  | abandoned => rfl

/-- Failures give no value then. -/
theorem lastValue?_discreet (hds : ∀ d ∈ ds, d.reply.failed = true) :
    lastValue? service (ds.map Dispatch.discreet) = none := by
  induction ds with
  | nil => rfl
  | cons d ds ih =>
    rw [List.map_cons, lastValue?, ih fun e he => hds e (List.mem_cons_of_mem d he),
      Option.none_or]
    exact Reply.affinity?_discreet (hds d List.mem_cons_self)

end Discreet

/-! ### The same attempts -/

/-- The same answer, or two that bind nothing. -/
def SameEnd (answer answer' : Forwarding) : Prop :=
  answer' = answer ∨ answer.boundAt? = none ∧ answer'.boundAt? = none

namespace Selector

section Attempts

variable {σ β : Type} [Store σ SessionRecord] [Backends β] {service : Service}
  {nodes : List Node} {start j : Nat} {h h' : Handle} {node : Node} {request : Http.Request}

theorem send_discreet {b : Journaled β} {b' : Journaled (Discreet β)}
    (hb : b'.backends = ⟨b.backends⟩) {reply : Reply} {c : β}
    (hreply : Backends.send node request b.backends = (reply, c)) :
    Backends.send node request b' =
      (reply.discreet, ⟨⟨c⟩, b'.dispatches ++ [⟨node, request, reply.discreet⟩]⟩) := by
  refine Journaled.send_eq ?_
  rw [hb]
  obtain ⟨rfl, rfl⟩ := Prod.mk.inj hreply
  rfl

/-- One attempt, made by two selections: the replies are the same but for the cookies of a failure,
and either both selections end or both go on. -/
theorem attempt_discreet (hn : 0 < nodes.length) (hat : h.At service nodes.length start j)
    (hat' : h'.At service nodes.length start j) (request : Http.Request)
    (last last' : Option (Http.Response × Nat)) (s s' : Selector σ) (b : Journaled β)
    (b' : Journaled (Discreet β)) (hb : b'.backends = ⟨b.backends⟩) :
    ∃ d, ∃ b₁ : Journaled β, ∃ b₁' : Journaled (Discreet β),
      b₁.dispatches = b.dispatches ++ [d] ∧ b₁'.dispatches = b'.dispatches ++ [d.discreet] ∧
      b₁'.backends = ⟨b₁.backends⟩ ∧
      ((∀ left, ∃ answer answer' t t',
          attempts service nodes request left h last s b = (answer, t, b₁) ∧
          attempts service nodes request left h' last' s' b' = (answer', t', b₁') ∧
          SameEnd answer answer') ∨
        (service.GoesOn nodes.length start j d.reply ∧
          ∃ g g' l l' t t', g.At service nodes.length start (j + 1) ∧
            g'.At service nodes.length start (j + 1) ∧
            ∀ left, attempts service nodes request (left + 1) h last s b =
                attempts service nodes request left g l t b₁ ∧
              attempts service nodes request (left + 1) h' last' s' b' =
                attempts service nodes request left g' l' t' b₁')) := by
  obtain ⟨node, hnode⟩ : ∃ node, nodes[roundPosition nodes.length start j]? = some node :=
    ⟨_, List.getElem?_eq_getElem (roundPosition_lt hn start j)⟩
  have hnode' : nodes[h'.index]? = some node := by rw [hat'.index, hnode]
  rw [← hat.index] at hnode
  rcases hreply : Backends.send node request b.backends with ⟨reply, c⟩
  have hsend := Journaled.send_eq hreply
  have hsend' := send_discreet hb hreply
  refine ⟨⟨node, request, reply⟩, ⟨c, b.dispatches ++ [⟨node, request, reply⟩]⟩,
    ⟨⟨c⟩, b'.dispatches ++ [⟨node, request, reply.discreet⟩]⟩, rfl, rfl, rfl, ?_⟩
  cases hf : reply.failed with
  | true =>
    have hf' : reply.discreet.failed = true := by rw [Reply.failed_discreet, hf]
    by_cases hgo : service.GoesOn nodes.length start j reply
    · right
      have hgo' : service.GoesOn nodes.length start j reply.discreet := ⟨hf', hgo.2⟩
      obtain ⟨g, t, hfail, hg⟩ := fail_of_goesOn (hat.renamed (reply.affinity? service)) hn hgo s
      obtain ⟨g', t', hfail', hg'⟩ :=
        fail_of_goesOn (hat'.renamed (reply.discreet.affinity? service)) hn hgo' s'
      exact ⟨hgo, g, g', _, _, t, t', hg, hg', fun left =>
        ⟨attempts_retry hnode hsend hf hfail, attempts_retry hnode' hsend' hf' hfail'⟩⟩
    · left
      have hstop' : ¬service.GoesOn nodes.length start j reply.discreet :=
        fun hgo' => hgo ⟨hf, hgo'.2⟩
      have hend := fail_of_stop (hat.renamed (reply.affinity? service)) hf hgo s
      have hend' :=
        fail_of_stop (hat'.renamed (reply.discreet.affinity? service)) hf' hstop' s'
      have hlost (h : Handle) (last : Option (Http.Response × Nat)) (reply : Reply) :
          (afterFailure h node .exhausted last reply).boundAt? = none :=
        boundAt?_afterFailure (by decide) h node last reply
      exact fun left => ⟨_, _, _, _, attempts_done hnode hsend hf hend,
        attempts_done hnode' hsend' hf' hend', .inr ⟨hlost _ _ _, hlost _ _ _⟩⟩
  | false =>
    left
    obtain rfl | ⟨q, rfl, hok⟩ := Reply.eq_of_not_failed hf
    · exact fun left => ⟨_, _, _, _, attempts_abandoned hnode hsend,
        attempts_abandoned hnode' hsend', .inl rfl⟩
    · have hok' : q.discreet.status.isServerError = false := by
        rw [Http.Response.isServerError_discreet, hok]
      have hsame : SameEnd (.answered ⟨q, h.index, h.attempt, .bound⟩)
          (.answered ⟨q.discreet, h'.index, h'.attempt, .bound⟩) := by
        rw [hat.index, hat'.index, hat.attempt, hat'.attempt, Http.Response.discreet_of_ok hok]
        exact .inl rfl
      exact fun left => ⟨_, _, _, _, attempts_succeeded hnode hsend hok,
        attempts_succeeded hnode' hsend' hok', hsame⟩

/-- **What a failure sets makes no difference to the attempts.** Nor do the stores and the responses
so far; the selections have to be at the same attempt. -/
theorem attempts_discreet (hn : 0 < nodes.length) {left : Nat}
    (hat : h.At service nodes.length start j) (hat' : h'.At service nodes.length start j)
    (hleft : left + (j + 1) = service.maxAttempts) (request : Http.Request)
    (last last' : Option (Http.Response × Nat)) (s s' : Selector σ) (b : Journaled β)
    (b' : Journaled (Discreet β)) (hb : b'.backends = ⟨b.backends⟩) :
    ∃ ds, (attempts service nodes request left h last s b).2.2.dispatches = b.dispatches ++ ds ∧
      (attempts service nodes request left h' last' s' b').2.2.dispatches =
        b'.dispatches ++ ds.map Dispatch.discreet ∧
      SameEnd (attempts service nodes request left h last s b).1
        (attempts service nodes request left h' last' s' b').1 := by
  induction left generalizing h h' j last last' s s' b b' with
  | zero =>
    obtain ⟨d, b₁, b₁', hd, hd', -, hends | ⟨hgo, -⟩⟩ :=
      attempt_discreet hn hat hat' request last last' s s' b b' hb
    · obtain ⟨answer, answer', t, t', heq, heq', hsame⟩ := hends 0
      rw [heq, heq']
      exact ⟨[d], hd, hd', hsame⟩
    · have hbudget := hgo.2.2.1
      omega
  | succ left ih =>
    obtain ⟨d, b₁, b₁', hd, hd', hb₁, hends | ⟨-, g, g', l, l', t, t', hg, hg', hout⟩⟩ :=
      attempt_discreet hn hat hat' request last last' s s' b b' hb
    · obtain ⟨answer, answer', t, t', heq, heq', hsame⟩ := hends (left + 1)
      rw [heq, heq']
      exact ⟨[d], hd, hd', hsame⟩
    · obtain ⟨ds, hds, hds', hsame⟩ := ih hg hg' (by omega) l l' t t' b₁ b₁' hb₁
      rw [(hout left).1, (hout left).2]
      refine ⟨d :: ds, ?_, ?_, hsame⟩
      · rw [hds, hd, List.append_assoc, List.singleton_append]
      · rw [hds', hd', List.append_assoc, List.singleton_append, List.map_cons]

end Attempts

/-! ### What is left behind -/

section Forward

variable {σ β : Type} [Store σ SessionRecord] [Backends β] {service : Service}
  {nodes : List Node} {sessionKey : Option String} {s : Selector σ} {request : Http.Request}
  {b : β} {q : Http.Response} {i n : Nat}

/-- A session that is not given a value goes by its own. -/
theorem bindAt_congr {value? value?' : Option String}
    (h : ∀ k, sessionKey = some k →
      value?'.getD (Session.valueOf k) = value?.getD (Session.valueOf k)) :
    s.bindAt service nodes sessionKey i value?' = s.bindAt service nodes sessionKey i value? := by
  rw [bindAt, bindAt, Handle.renamed_eq, Handle.renamed_eq]
  cases sessionKey with
  | none => rfl
  | some k =>
    have hvalue := h k rfl
    simp only [fresh, Option.map_some, hvalue]

/-- The same request to backends whose failures set no cookies. -/
theorem forward_alike (hn : nodes ≠ []) (hf : s.found? service nodes sessionKey = none)
    (request : Http.Request) (b : β) :
    (s.forward service nodes sessionKey request (Journaled.mk (Discreet.mk b) [])).2.2.dispatches =
        (s.forward service nodes sessionKey request (Journaled.mk b [])).2.2.dispatches.map
          Dispatch.discreet ∧
      SameEnd (s.forward service nodes sessionKey request (Journaled.mk b [])).1
        (s.forward service nodes sessionKey request (Journaled.mk (Discreet.mk b) [])).1 := by
  have hpos : 0 < nodes.length := List.length_pos_iff.mpr hn
  have hat : (fresh service nodes.length
      (sessionKey.map (Session.storeKey service.id service.generation)) sessionKey
      (s.turn service nodes)).At service nodes.length (s.turn service nodes) 0 :=
    at_fresh (Rotation.position_lt _ hpos) _ _
  have hone : 1 ≤ service.maxAttempts := Nat.le_max_left 1 _
  have hsel := select_of_notFound hn hf
  rw [forward_eq hsel, forward_eq hsel]
  obtain ⟨ds, hds, hds', hsame⟩ := attempts_discreet hpos hat hat (Nat.sub_add_cancel hone) request
    none none (s.select service nodes sessionKey).2 (s.select service nodes sessionKey).2
    (Journaled.mk b []) (Journaled.mk (Discreet.mk b) []) rfl
  rw [List.nil_append] at hds hds'
  refine ⟨?_, hsame⟩
  rw [← hds] at hds'
  exact hds'

/-- **What discarded responses leave behind.** Take a request without a binding that is answered in
the end, and the same request to backends whose failures set no cookies. Both are dispatched to the
same nodes and have the same answer, from node `i`; all attempts before it failed. The second one
leaves the session bound there under the value that the answer gave it, the first one under that or
else the last value that a discarded response gave it; a session that was given none goes by its own.
So they leave the same store if those two values are the same, and only then if the store does what
it should. -/
theorem forward_discreet (hf : s.found? service nodes sessionKey = none)
    (hanswer : (s.forward service nodes sessionKey request (Journaled.mk b [])).1 =
      .answered ⟨q, i, n, .bound⟩) :
    let out := s.forward service nodes sessionKey request (Journaled.mk b [])
    let out' := s.forward service nodes sessionKey request (Journaled.mk (Discreet.mk b) [])
    let returned := affinityOf service q
    ∃ discarded last, out.2.2.dispatches = discarded ++ [last] ∧
      (∀ d ∈ discarded, d.reply.failed = true) ∧ last.reply = .response q ∧
      let given := returned.or (lastValue? service discarded)
      (out'.2.2.dispatches = out.2.2.dispatches.map Dispatch.discreet ∧ out'.1 = out.1) ∧
      out.2.1.sessions = (s.bindAt service nodes sessionKey i given).sessions ∧
      out'.2.1.sessions = (s.bindAt service nodes sessionKey i returned).sessions ∧
      ((∀ k, sessionKey = some k →
          returned.getD (Session.valueOf k) = given.getD (Session.valueOf k)) →
        out'.2.1.sessions = out.2.1.sessions) ∧
      ∀ [StoreView σ SessionRecord] [ReliableStore σ], 0 < s.ttlMs →
        out'.2.1.sessions = out.2.1.sessions → ∀ k, sessionKey = some k →
          returned.getD (Session.valueOf k) = given.getD (Session.valueOf k) := by
  intro out out' returned
  obtain ⟨hi, hsessions, discarded, last, hds, hfailed, hreply, hok⟩ := forward_bound hf hanswer
  obtain ⟨hdispatches, hsame⟩ :=
    forward_alike (nodes_ne_nil_of_answered hanswer) hf request b
  refine ⟨discarded, last, hds, hfailed, hreply, ?_⟩
  intro given
  have hanswer' : out'.1 = .answered ⟨q, i, n, .bound⟩ := by
    rcases hsame with heq | ⟨hnot, -⟩
    · rw [heq, hanswer]
    · rw [hanswer] at hnot
      exact absurd hnot (by simp [Forwarding.boundAt?])
  have hgiven : lastValue? service out.2.2.dispatches = given := by
    rw [hds, lastValue?_append_singleton, hreply, Reply.affinity?_response]
  have hreturned : lastValue? service out'.2.2.dispatches = returned := by
    have hlast : last.discreet.reply = .response q := by
      rw [Dispatch.discreet, hreply, Reply.discreet, Http.Response.discreet_of_ok hok]
    rw [hdispatches, hds, List.map_append, List.map_singleton, lastValue?_append_singleton,
      lastValue?_discreet hfailed, Option.or_none, hlast, Reply.affinity?_response]
  have hfirst : out.2.1.sessions = (s.bindAt service nodes sessionKey i given).sessions := by
    rw [← hgiven]
    exact hsessions
  have hsecond : out'.2.1.sessions = (s.bindAt service nodes sessionKey i returned).sessions := by
    rw [← hreturned]
    exact (forward_bound hf hanswer').2.1
  refine ⟨⟨hdispatches, hanswer'.trans hanswer.symm⟩, hfirst, hsecond, fun hvalue => ?_, ?_⟩
  · rw [hfirst, hsecond, bindAt_congr hvalue]
  · rintro _ _ httl heq k rfl
    rw [hfirst, hsecond] at heq
    have hlive := congrArg (live? · (service.storeKey k)) heq
    simp only [ReliableStore.live?_bindAt hf httl hi] at hlive
    rw [Service.filing_own service ⟨k, i, _⟩, Service.filing_own service ⟨k, i, _⟩] at hlive
    exact congrArg SessionRecord.value (Option.some.inj hlive)

end Forward

/-! ### Two requests

The first of two nodes fails, and its response sets the cookie of the session. If the second one
answers with a cookie of its own, the first cookie leaves no trace. If it answers without, the
session goes by the value of the response that the client never saw. -/

namespace Discarding

def service : Service :=
  { id := "svc", nodes := [.plain "a" 80, .plain "b" 81],
    balancing := { sticky := some ⟨"aff", .cookie⟩ } }

def selector : Selector (MemoryStore SessionRecord) := Selector.start ⟨ExpiringMap.empty, 0⟩ 1000

def request : Http.Request := ⟨"GET", "/", Http.Headers.empty, []⟩

def failure : Http.Response :=
  ⟨⟨500, by decide⟩, Http.Headers.empty.append "set-cookie" "aff=x", []⟩

def answer : Http.Response := ⟨.ok, Http.Headers.empty.append "set-cookie" "aff=y", []⟩

def bare : Http.Response := ⟨.ok, Http.Headers.empty, []⟩

def backends (q : Http.Response) : TrialBackends :=
  ⟨[(80, [.response failure]), (81, [.response q])], []⟩

def out (q : Http.Response) :
    Forwarding × Selector (MemoryStore SessionRecord) × Journaled TrialBackends :=
  selector.forward service service.nodes (some "aff=A") request ⟨backends q, []⟩

/-- The same request to backends whose failures set no cookies. -/
def discreet (q : Http.Response) :
    Forwarding × Selector (MemoryStore SessionRecord) × Journaled (Discreet TrialBackends) :=
  selector.forward service service.nodes (some "aff=A") request ⟨⟨backends q⟩, []⟩

end Discarding

theorem forward_discreet_superseded :
    Discarding.selector.found? Discarding.service Discarding.service.nodes (some "aff=A") = none ∧
      (Discarding.out Discarding.answer).1 = .answered ⟨Discarding.answer, 1, 2, .bound⟩ ∧
      (Discarding.discreet Discarding.answer).1 = (Discarding.out Discarding.answer).1 ∧
      (Discarding.discreet Discarding.answer).2.1.sessions =
        (Discarding.out Discarding.answer).2.1.sessions := by
  have hfound : Discarding.selector.found? Discarding.service Discarding.service.nodes
      (some "aff=A") = none := rfl
  have hanswer :
      (Discarding.out Discarding.answer).1 = .answered ⟨Discarding.answer, 1, 2, .bound⟩ := by
    rfl
  obtain ⟨discarded, last, -, -, -, ⟨-, hsame⟩, -, -, hkept, -⟩ := forward_discreet hfound hanswer
  refine ⟨hfound, hanswer, hsame, hkept fun k hk => ?_⟩
  have hreturned : affinityOf Discarding.service Discarding.answer = some "y" := by rfl
  rw [hreturned, Option.some_or]

theorem discarded_value_kept :
    Discarding.selector.found? Discarding.service Discarding.service.nodes (some "aff=A") = none ∧
      (Discarding.out Discarding.bare).1 = .answered ⟨Discarding.bare, 1, 2, .bound⟩ ∧
      live? (Discarding.out Discarding.bare).2.1.sessions (Discarding.service.storeKey "aff=x") =
        some ⟨"aff=x", 1, "x"⟩ ∧
      live? (Discarding.discreet Discarding.bare).2.1.sessions
        (Discarding.service.storeKey "aff=x") = none ∧
      (Discarding.discreet Discarding.bare).2.1.sessions ≠
        (Discarding.out Discarding.bare).2.1.sessions := by
  have hkept :
      live? (Discarding.out Discarding.bare).2.1.sessions
        (Discarding.service.storeKey "aff=x") = some ⟨"aff=x", 1, "x"⟩ := by rfl
  have hnone :
      live? (Discarding.discreet Discarding.bare).2.1.sessions
        (Discarding.service.storeKey "aff=x") = none := by rfl
  refine ⟨by rfl, by rfl, hkept, hnone, fun heq => ?_⟩
  rw [heq, hkept] at hnone
  exact absurd hnone (by simp)

end Selector

end Gatehouse
