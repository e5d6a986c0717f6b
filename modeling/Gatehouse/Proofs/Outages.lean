import Gatehouse.Proofs.Bindings

/-!
# Forwarding while the session store fails

The session store may be out of reach. This file shows that no caller notices, and no backend: that
calls fail changes neither the requests that are dispatched nor the answer, unless it is the read that
fails, and then all is as if the session were new. It also shows that a binding that exists all the
same, and could not be read, is left where it is.

## What forwarding is told

What forwarding is *told* by the store, and what it only asks it to do. All that it is told is the
binding that the read finds, so that two selectors of which the reads find the same, and of which the
turns are the same, forward alike, over whatever stores. The other calls are made for what they leave
in the store.

That the unread binding stays is another matter, since it is decided after the last attempt. A request
that found no binding writes by an update, which looks again. It finds the binding and writes nothing;
and the entry under a new value is never the session's own.

## Main definitions

* `Selector.behind` — a selector with its store behind a line that fails
* `SeenAlike` — runs that neither the caller nor the backends can tell apart

## Main results

* `Selector.attempts_seenAlike`, `forward_seenAlike` — what the store does not tell makes no difference
* `ConfinedStore.live?_persist_of_bound` — a first answer to a session that is bound
* `Selector.forward_outage` — the result
-/

namespace Gatehouse

open StoreView (live?)

/-! ### Runs that look alike -/

/-- Runs that neither the caller nor the backends can tell apart. -/
structure SeenAlike {σ τ β : Type} (out : Forwarding × Selector σ × β)
    (out' : Forwarding × Selector τ × β) : Prop where
  answer : out.1 = out'.1
  backends : out.2.2 = out'.2.2

namespace Selector

section SeenAlike

variable {σ τ β : Type} [Store σ SessionRecord] [Store τ SessionRecord] [Backends β]
  {s : Selector σ} {t : Selector τ} {service : Service} {nodes : List Node}
  {sessionKey : Option String}

/-- What follows a failed attempt does not depend on the store. -/
theorem fst_fail (s : Selector σ) (t : Selector τ) (h : Handle) : (s.fail h).1 = (t.fail h).1 := by
  rw [fail, fail]
  cases h.firstTime
  · rfl
  · cases h.retry? <;> rfl

theorem attempts_seenAlike (request : Http.Request) (left : Nat) (h : Handle)
    (last : Option (Http.Response × Nat)) (s : Selector σ) (t : Selector τ) (b : β) :
    SeenAlike (attempts service nodes request left h last s b)
      (attempts service nodes request left h last t b) := by
  induction left using Nat.strongRecOn generalizing h last s t b with
  | ind left ih =>
    cases hnode : nodes[h.index]? with
    | none =>
      rw [attempts, attempts, hnode]
      exact ⟨rfl, rfl⟩
    | some node =>
      rcases hsend : Backends.send node request b with ⟨reply, b'⟩
      cases hf : reply.failed with
      | false =>
        obtain rfl | ⟨q, rfl, hok⟩ := Reply.eq_of_not_failed hf
        · rw [attempts_abandoned hnode hsend, attempts_abandoned hnode hsend]
          exact ⟨rfl, rfl⟩
        · rw [attempts_succeeded hnode hsend hok, attempts_succeeded hnode hsend hok]
          exact ⟨rfl, rfl⟩
      | true =>
        have hnext := fst_fail s t (h.renamed (reply.affinity? service))
        rcases hs : s.fail (h.renamed (reply.affinity? service)) with ⟨next, s'⟩
        rcases ht : t.fail (h.renamed (reply.affinity? service)) with ⟨next', t'⟩
        obtain rfl : next = next' := by rwa [hs, ht] at hnext
        rw [attempts_failed hnode hsend hf, attempts_failed hnode hsend hf, hs, ht]
        cases next with
        | done o => exact ⟨rfl, rfl⟩
        | retry h' =>
          cases left with
          | zero => exact ⟨rfl, rfl⟩
          | succ left => exact ih left (by omega) h' _ s' t' b'

theorem fst_select (hn : nodes ≠ [])
    (hfound : s.found? service nodes sessionKey = t.found? service nodes sessionKey)
    (hturn : s.turn service nodes = t.turn service nodes) :
    (s.select service nodes sessionKey).1 = (t.select service nodes sessionKey).1 := by
  cases ht : t.found? service nodes sessionKey with
  | none => rw [select_of_notFound hn (hfound.trans ht), select_of_notFound hn ht, hturn]
  | some r => rw [select_of_found hn (hfound.trans ht), select_of_found hn ht]

/-- **What the store does not tell makes no difference.** -/
theorem forward_seenAlike
    (hfound : s.found? service nodes sessionKey = t.found? service nodes sessionKey)
    (hturn : s.turn service nodes = t.turn service nodes) (request : Http.Request) (b : β) :
    SeenAlike (s.forward service nodes sessionKey request b)
      (t.forward service nodes sessionKey request b) := by
  by_cases hn : nodes = []
  · rw [forward, forward, select, select, if_pos hn, if_pos hn]
    exact ⟨rfl, rfl⟩
  · obtain ⟨h, hs⟩ := s.exists_select hn service sessionKey
    have ht := (fst_select hn hfound hturn).symm.trans hs
    rw [forward_eq hs, forward_eq ht]
    exact attempts_seenAlike request _ h none _ _ b

/-- Selectors of which the reads are answered alike find the same. -/
theorem found?_congr
    (hget : ∀ k, sessionKey = some k →
      (Store.get (service.storeKey k) s.sessions).1 =
        (Store.get (service.storeKey k) t.sessions).1) :
    s.found? service nodes sessionKey = t.found? service nodes sessionKey := by
  cases sessionKey with
  | none => rfl
  | some k =>
    have hk : (Store.get (Session.storeKey service.id service.generation k) s.sessions).1 =
        (Store.get (Session.storeKey service.id service.generation k) t.sessions).1 := hget k rfl
    simp only [found?, Option.map_some, binding?, hk]

/-- A read that does not return a record finds no binding. -/
theorem found?_eq_none {k : String}
    (hget : ∀ r, (Store.get (service.storeKey k) s.sessions).1 ≠ .ok (some r)) :
    s.found? service nodes (some k) = none := by
  rw [Option.eq_none_iff_forall_ne_some]
  intro r hr
  obtain ⟨k', hk', hr', -⟩ := found?_eq_some_iff.mp hr
  obtain rfl := Option.some.inj hk'
  exact hget r hr'

end SeenAlike

end Selector

/-! ### A first answer to a session that is bound -/

namespace ConfinedStore

variable {σ : Type} [Store σ SessionRecord] [StoreView σ SessionRecord] [ConfinedStore σ]
  {s : Selector σ} {h : Handle} {service : Service} {nodes : List Node} {k : String}
  {r e : SessionRecord}

/-- Filing a session under a new value does not touch its own entry. -/
theorem live?_putAlias_own (hs : h.Serves service nodes (some k)) (hr : h.record = some r) :
    live? (s.putAlias h r).sessions (service.storeKey k) =
      live? s.sessions (service.storeKey k) := by
  rw [Selector.putAlias]
  cases ha : r.alias? with
  | none => rfl
  | some a =>
    have hkey : k = r.sessionKey := Option.some.inj (hs.record r hr).1
    have hne : service.storeKey k ≠ Session.storeKey h.serviceId h.generation a.sessionKey := by
      rw [hs.serviceId, hs.generation, hkey]
      intro heq
      exact SessionRecord.sessionKey_ne_of_alias? ha (Session.storeKey_right_inj.mp heq).symm
    exact live?_put_ne a s.ttlMs s.sessions hne

/-- A first answer to a session that is bound leaves its binding alone. -/
theorem live?_persist_of_bound (hs : h.Serves service nodes (some k)) (hfirst : h.firstTime = true)
    (he : live? s.sessions (service.storeKey k) = some e) (hlt : e.nodeIndex < nodes.length) :
    live? (s.persist h).sessions (service.storeKey k) = some e := by
  have hown : h.storeKey = some (service.storeKey k) := hs.storeKey
  rw [Selector.persist, hown]
  cases hr : h.record with
  | none => exact he
  | some r =>
    have hnone : h.firstBinding r (live? s.sessions (service.storeKey k)) = none := by
      rw [he]
      exact if_pos (hs.nodeCount.symm ▸ hlt)
    have hkept := live?_update_none (service.storeKey k) s.ttlMs hnone
    have halias (s' : Selector σ)
        (hs' : live? s'.sessions (service.storeKey k) = live? s.sessions (service.storeKey k)) :
        live? (s'.putAlias h r).sessions (service.storeKey k) = some e := by
      rw [live?_putAlias_own hs hr, hs', he]
    simp only [hfirst, if_true, Selector.bindFirst]
    split
    · exact hkept.trans he
    · exact halias _ hkept
    · split
      · exact halias _ hkept
      · exact hkept.trans he

/-- However a request ends that found no binding of its session, the binding that there is stays. -/
theorem live?_of_firstEnds {index : Nat} {ds : List Dispatch} {answer : Forwarding}
    {s' : Selector σ} (hends : FirstEnds service nodes
      (Selector.fresh service nodes.length (some (service.storeKey k)) (some k) index) s ds answer s')
    (he : live? s.sessions (service.storeKey k) = some e) (hlt : e.nodeIndex < nodes.length) :
    live? s'.sessions (service.storeKey k) = some e := by
  cases hends with
  | unbound hnot httl hsessions =>
    rw [hsessions]
    exact he
  | bound hds hfailed hreply hok hi httl hsessions =>
    rw [hsessions]
    exact live?_persist_of_bound (serves_settled service k index hi _) rfl he hlt

end ConfinedStore

/-! ### A store behind a line -/

/-- The fate of the next call. -/
def nextFate (fates : List Fate) : Fate := fates.head?.getD .answered

namespace RemoteStore

variable {σ α : Type} {fates : List Fate}

theorem fst_call_answered (h : nextFate fates = .answered) (s : σ) (failure : α) (made : α × σ) :
    ((mk s fates).call failure made).1 = made.1 := by
  cases fates with
  | nil => rfl
  | cons fate fates =>
    obtain rfl : fate = .answered := h
    rfl

theorem fst_call_failed (h : nextFate fates ≠ .answered) (s : σ) (failure : α) (made : α × σ) :
    ((mk s fates).call failure made).1 = failure := by
  cases fates with
  | nil => exact absurd rfl h
  | cons fate fates =>
    cases fate with
    | answered => exact absurd rfl h
    | lost => rfl
    | unanswered => rfl

end RemoteStore

namespace Selector

/-- The selector with its store behind a line on which the next calls have the given fates. -/
def behind {σ : Type} (s : Selector σ) (fates : List Fate) : Selector (RemoteStore σ) :=
  { s with sessions := ⟨s.sessions, fates⟩ }

section Behind

variable {σ β : Type} [Store σ SessionRecord] [Backends β] {service : Service} {nodes : List Node}
  {sessionKey : Option String} {fates : List Fate} {k : String}

/-- Where the read is answered, or there is none, the same binding is found. -/
theorem found?_behind (s : Selector σ) (h : sessionKey = none ∨ nextFate fates = .answered) :
    (s.behind fates).found? service nodes sessionKey = s.found? service nodes sessionKey := by
  refine found?_congr fun k hk => ?_
  rcases h with h | h
  · rw [hk] at h
    simp at h
  · exact RemoteStore.fst_call_answered h s.sessions _ _

/-- Where the read fails, no binding is found. -/
theorem found?_behind_failed (s : Selector σ) (h : nextFate fates ≠ .answered) :
    (s.behind fates).found? service nodes (some k) = none := by
  refine found?_eq_none fun r hr => ?_
  have hfailed : (Store.get (service.storeKey k) (s.behind fates).sessions).1 =
      .error RemoteStore.outage := RemoteStore.fst_call_failed h s.sessions _ _
  rw [hfailed] at hr
  simp at hr

/-- A read that failed moves no binding and takes none away. -/
theorem live?_forward_unread [StoreView σ SessionRecord] [ConfinedStore σ] (s : Selector σ)
    (h : nextFate fates ≠ .answered) {r : SessionRecord}
    (hr : live? s.sessions (service.storeKey k) = some r) (hlt : r.nodeIndex < nodes.length)
    (request : Http.Request) (b : β) :
    live? ((s.behind fates).forward service nodes (some k) request (Journaled.mk b [])).2.1.sessions
      (service.storeKey k) = some r := by
  have hn : nodes ≠ [] := List.length_pos_iff.mp (Nat.zero_lt_of_lt hlt)
  have hselected : live? ((s.behind fates).select service nodes (some k)).2.sessions
      (service.storeKey k) = some r :=
    (live?_select_of_get (fun k' => ConfinedStore.live?_get k' _ _) service nodes (some k)).trans hr
  exact ConfinedStore.live?_of_firstEnds (forward_first hn (s.found?_behind_failed h) request b)
    hselected hlt

/-- **A store that fails goes unnoticed.** Whatever becomes of the calls, if the read is answered, a
request is dispatched to the same nodes and gets the same answer as if no call had failed. If the read
fails, that is as if the store held nothing for the session; and a binding of the session to a node
that exists, which could not be read, stays as it is. -/
theorem forward_outage [StoreView σ SessionRecord] [ConfinedStore σ] (s : Selector σ)
    (service : Service) (nodes : List Node) (sessionKey : Option String) (fates : List Fate)
    (request : Http.Request) (b : β) :
    let out := (s.behind fates).forward service nodes sessionKey request (Journaled.mk b [])
    (sessionKey = none ∨ nextFate fates = .answered →
      SeenAlike out (s.forward service nodes sessionKey request (Journaled.mk b []))) ∧
    ∀ k, sessionKey = some k → nextFate fates ≠ .answered →
      (∀ (τ : Type) [Store τ SessionRecord] (t : Selector τ), t.rotations = s.rotations →
        (Store.get (service.storeKey k) t.sessions).1 = .ok none →
          SeenAlike out (t.forward service nodes sessionKey request (Journaled.mk b []))) ∧
      ∀ r, live? s.sessions (service.storeKey k) = some r → r.nodeIndex < nodes.length →
        live? out.2.1.sessions (service.storeKey k) = some r := by
  intro out
  constructor
  · intro hread
    exact forward_seenAlike (s.found?_behind hread) rfl request _
  · rintro k rfl hread
    constructor
    · intro τ _ t hrotations hget
      have hnone : t.found? service nodes (some k) = none :=
        found?_eq_none fun r hr => by simp [hget] at hr
      have hturn : (s.behind fates).turn service nodes = t.turn service nodes := by
        rw [turn, turn, hrotations]
        rfl
      exact forward_seenAlike ((s.found?_behind_failed hread).trans hnone.symm) hturn request _
    · intro r hr hlt
      exact s.live?_forward_unread hread hr hlt request b

end Behind

/-! ### Two requests of a session that is bound

The session is bound to the second of two nodes. For one request the read gets lost, and the answer to
the update: the first node answers, and the binding stays. For the other one the read is answered and
the `put` gets lost: the second node answers, as if nothing had happened. -/

namespace Unread

def service : Service := { id := "svc", nodes := [.plain "a" 80, .plain "b" 81] }

def bound : SessionRecord := ⟨"aff=A", 1, "A"⟩

/-- A selector that has no sessions. -/
def idle : Selector (MemoryStore SessionRecord) := Selector.start ⟨ExpiringMap.empty, 0⟩ 1000

def selector : Selector (MemoryStore SessionRecord) :=
  { idle with sessions := ⟨ExpiringMap.empty.put 0 (service.storeKey "aff=A") bound 1000, 0⟩ }

def request : Http.Request := ⟨"GET", "/", Http.Headers.empty, []⟩

def answer : Http.Response := ⟨.ok, Http.Headers.empty, []⟩

/-- The request over a line on which calls have the given fates. -/
def out (fates : List Fate) :
    Forwarding × Selector (RemoteStore (MemoryStore SessionRecord)) × Journaled TrialBackends :=
  (selector.behind fates).forward service service.nodes (some "aff=A") request ⟨⟨[], []⟩, []⟩

end Unread

theorem forward_outage_unread :
    nextFate [.lost, .unanswered] ≠ .answered ∧
      (Unread.out [.lost, .unanswered]).1 = .answered ⟨Unread.answer, 0, 1, .bound⟩ ∧
      SeenAlike (Unread.out [.lost, .unanswered]) (Unread.idle.forward Unread.service
        Unread.service.nodes (some "aff=A") Unread.request (Journaled.mk ⟨[], []⟩ [])) ∧
      live? (Unread.out [.lost, .unanswered]).2.1.sessions (Unread.service.storeKey "aff=A") =
        some Unread.bound ∧
      nextFate [.answered, .lost] = .answered ∧
      (Unread.out [.answered, .lost]).1 = .answered ⟨Unread.answer, 1, 1, .bound⟩ ∧
      SeenAlike (Unread.out [.answered, .lost]) (Unread.selector.forward Unread.service
        Unread.service.nodes (some "aff=A") Unread.request (Journaled.mk ⟨[], []⟩ [])) := by
  have hunread : nextFate [.lost, .unanswered] ≠ .answered := by decide
  have hread : nextFate [.answered, .lost] = .answered := by decide
  have hbound : live? Unread.selector.sessions (Unread.service.storeKey "aff=A") =
      some Unread.bound := by rfl
  have hget : (Store.get (Unread.service.storeKey "aff=A") Unread.idle.sessions).1 = .ok none := by
    rfl
  obtain ⟨-, hfailed⟩ := forward_outage Unread.selector Unread.service Unread.service.nodes
    (some "aff=A") [.lost, .unanswered] Unread.request (⟨[], []⟩ : TrialBackends)
  obtain ⟨hunbound, hkept⟩ := hfailed "aff=A" rfl hunread
  obtain ⟨hanswered, -⟩ := forward_outage Unread.selector Unread.service Unread.service.nodes
    (some "aff=A") [.answered, .lost] Unread.request (⟨[], []⟩ : TrialBackends)
  exact ⟨hunread, by rfl, hunbound _ Unread.idle rfl hget, hkept _ hbound (by decide), hread, by rfl,
    hanswered (.inr hread)⟩

end Selector

end Gatehouse
