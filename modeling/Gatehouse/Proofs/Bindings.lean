import Gatehouse.Proofs.FirstAnswer

/-!
# What forwarding makes of the bindings

On a store that neither fails nor loses anything, a forwarded request does one of four things to the
bindings of a service: nothing, taking a session's binding away, binding a session anew where it is
bound, or binding it where its request got its first answer. This file says so, with the value that
the session goes by afterwards traced back to a response or to what it was before.

## Main definitions

* `Service.filing` — the content of the store after a session was bound
* `Effect` — the four things

## Main results

* `ReliableStore.live?_persist`, `live?_bindAt` — what a successful attempt writes
* `forward_effect` — everything that forwarding can do to the store
* `forward_established_cases` — what it does for a session that is bound
-/

namespace Gatehouse

open StoreView (live?)

/-! ### Sessions and the values that they go by -/

namespace SessionRecord

variable {r a : SessionRecord}

theorem value_of_alias? (h : r.alias? = some a) : Session.valueOf a.sessionKey = r.value := by
  obtain ⟨-, rfl⟩ := alias?_eq_some_iff.mp h
  exact Session.valueOf_key_paramOf r.sessionKey r.value

theorem nodeIndex_of_alias? (h : r.alias? = some a) : a.nodeIndex = r.nodeIndex := by
  obtain ⟨-, rfl⟩ := alias?_eq_some_iff.mp h
  rfl

/-- A record filed under a session's new value goes by that value. -/
theorem alias?_of_alias? (h : r.alias? = some a) : a.alias? = none := by
  have hvalue := value_of_alias? h
  obtain ⟨-, rfl⟩ := alias?_eq_some_iff.mp h
  rw [alias?, if_pos hvalue.symm]

/-- A session is not its own alias. -/
theorem sessionKey_ne_of_alias? (h : r.alias? = some a) : a.sessionKey ≠ r.sessionKey := by
  intro he
  have hne := (alias?_eq_some_iff.mp h).1
  rw [← he, value_of_alias? h] at hne
  exact hne rfl

end SessionRecord

/-! ### Contents of a store -/

namespace Service

variable {service : Service} {f : String → Option SessionRecord} {r a w : SessionRecord}
  {k x : String}

/-- Where a session is filed for a service. -/
def storeKey (service : Service) (k : String) : String :=
  Session.storeKey service.id service.generation k

theorem storeKey_inj {k' : String} : service.storeKey k = service.storeKey k' ↔ k = k' :=
  Session.storeKey_right_inj

/-- What a store holds after a session was bound: its record, and under a new value the same record
for that value. -/
def filing (service : Service) (r : SessionRecord) (f : String → Option SessionRecord)
    (x : String) : Option SessionRecord :=
  match r.alias? with
  | some a =>
    if x = service.storeKey a.sessionKey then some a
    else if x = service.storeKey r.sessionKey then some r else f x
  | none => if x = service.storeKey r.sessionKey then some r else f x

theorem filing_own (service : Service) (r : SessionRecord) (f : String → Option SessionRecord) :
    service.filing r f (service.storeKey r.sessionKey) = some r := by
  rw [filing]
  split
  · rename_i a ha
    rw [if_neg, if_pos rfl]
    rw [storeKey_inj]
    exact (SessionRecord.sessionKey_ne_of_alias? ha).symm
  · rw [if_pos rfl]

theorem filing_alias (h : r.alias? = some a) :
    service.filing r f (service.storeKey a.sessionKey) = some a := by
  rw [filing, h]
  simp only [if_true]

theorem filing_other (hown : k ≠ r.sessionKey)
    (halias : ∀ a, r.alias? = some a → k ≠ a.sessionKey) :
    service.filing r f (service.storeKey k) = f (service.storeKey k) := by
  rw [filing]
  split
  · rename_i a ha
    rw [if_neg (storeKey_inj.not.mpr (halias a ha)), if_neg (storeKey_inj.not.mpr hown)]
  · rw [if_neg (storeKey_inj.not.mpr hown)]

/-- What is filed is the record, its alias, or what was there before. -/
theorem filing_cases (h : service.filing r f x = some w) :
    (r.alias? = some w ∧ x = service.storeKey w.sessionKey) ∨
      (w = r ∧ x = service.storeKey r.sessionKey) ∨ f x = some w := by
  rw [filing] at h
  split at h
  · rename_i a ha
    split at h
    · rename_i hx
      obtain rfl := Option.some.inj h
      exact .inl ⟨ha, hx⟩
    · split at h
      · rename_i hx
        exact .inr (.inl ⟨(Option.some.inj h).symm, hx⟩)
      · exact .inr (.inr h)
  · split at h
    · rename_i hx
      exact .inr (.inl ⟨(Option.some.inj h).symm, hx⟩)
    · exact .inr (.inr h)

end Service

/-- What a request of a session, or of none, can make of a content `f` of the store. -/
inductive Effect (service : Service) (nodes : List Node) (f g : String → Option SessionRecord)
    (sessionKey : Option String) (ds : List Dispatch) : Prop where
  | nothing (h : ∀ x, g x = f x)
  | evicted (k : String) (d : Dispatch) (hk : sessionKey = some k) (hd : d ∈ ds)
      (hfailed : d.reply.failed = true)
      (h : ∀ x, g x = if x = service.storeKey k then none else f x)
  | again (k v : String) (r : SessionRecord) (hk : sessionKey = some k)
      (hr : f (service.storeKey k) = some r) (hv : v = r.value ∨ Carried service ds v)
      (h : ∀ x, g x = service.filing { r with value := v } f x)
  | first (k v : String) (i : Nat) (hk : sessionKey = some k)
      (hfree : f (service.storeKey k) = none) (hi : i < nodes.length)
      (hv : v = Session.valueOf k ∨ Carried service ds v)
      (h : ∀ x, g x = service.filing ⟨k, i, v⟩ f x)

/-! ### Steps of a selection -/

section Steps

variable {σ : Type} [Store σ SessionRecord] {s : Selector σ} {h : Handle}

namespace ReliableStore

variable [StoreView σ SessionRecord] [ReliableStore σ]

theorem live?_evict {k : String} (hk : h.storeKey = some k) (x : String) :
    live? (s.evict h).sessions x = if x = k then none else live? s.sessions x := by
  rw [Selector.evict, hk]
  exact live?_remove k x s.sessions

theorem live?_putAlias (httl : 0 < s.ttlMs) (r : SessionRecord) (x : String) :
    live? (s.putAlias h r).sessions x =
      match r.alias? with
      | some a =>
        if x = Session.storeKey h.serviceId h.generation a.sessionKey then some a
        else live? s.sessions x
      | none => live? s.sessions x := by
  rw [Selector.putAlias]
  cases r.alias? with
  | none => rfl
  | some a => exact live?_put _ x a s.sessions httl

/-- A successful attempt files the session, if it is established or not bound by now. -/
theorem live?_persist {service : Service} {nodes : List Node} {k : String} {r : SessionRecord}
    (hs : h.Serves service nodes (some k)) (hr : h.record = some r) (httl : 0 < s.ttlMs)
    (hfree : h.firstTime = true → ∀ e, live? s.sessions (service.storeKey k) = some e →
      ¬e.nodeIndex < nodes.length) (x : String) :
    live? (s.persist h).sessions x = service.filing r (live? s.sessions) x := by
  have hkey : r.sessionKey = k := (Option.some.inj (hs.record r hr).1).symm
  have hown : h.storeKey = some (service.storeKey k) := hs.storeKey
  have halias (s' : Selector σ) (httl' : 0 < s'.ttlMs)
      (hs' : ∀ x, live? s'.sessions x =
        if x = service.storeKey k then some r else live? s.sessions x) :
      live? (s'.putAlias h r).sessions x = service.filing r (live? s.sessions) x := by
    rw [live?_putAlias httl', hs.serviceId, hs.generation, Service.filing, hkey]
    cases r.alias? with
    | none => exact hs' x
    | some a => rw [hs' x]; rfl
  rw [Selector.persist, hown, hr]
  simp only
  by_cases hfirst : h.firstTime = true
  · have hunbound : h.firstBinding r (live? s.sessions (service.storeKey k)) = some r ∧
        h.boundIndex r (live? s.sessions (service.storeKey k)) = r.nodeIndex := by
      cases he : live? s.sessions (service.storeKey k) with
      | none => exact ⟨rfl, rfl⟩
      | some e =>
        have hout : ¬e.nodeIndex < h.nodeCount := by
          rw [hs.nodeCount]
          exact hfree hfirst e he
        exact ⟨if_neg hout, if_neg hout⟩
    rw [if_pos hfirst, Selector.bindFirst]
    simp only [update_fst, hunbound.2, if_true]
    refine halias _ httl fun x => ?_
    rw [live?_update _ _ _ _ httl, hunbound.1]
    rfl
  · rw [if_neg hfirst, Selector.bindAgain]
    simp only [put_fst]
    exact halias _ httl fun x => live?_put _ _ _ _ httl

end ReliableStore

/-- Selecting changes nothing that a store holds. -/
theorem SteadyStore.live?_select [StoreView σ SessionRecord] [SteadyStore σ] (service : Service)
    (nodes : List Node) (sessionKey : Option String) (x : String) :
    live? (s.select service nodes sessionKey).2.sessions x = live? s.sessions x :=
  Selector.live?_select_of_get (fun k => live?_get k x s.sessions) service nodes sessionKey

end Steps

/-! ### Requests without a binding -/

/-- The selection that a first answer of node `i` is persisted by serves the request. -/
theorem serves_settled {nodes : List Node} {i : Nat} (service : Service) (k : String) (index : Nat)
    (hi : i < nodes.length) (value? : Option String) :
    ((Selector.fresh service nodes.length (some (service.storeKey k)) (some k) index).settled i
      value?).Serves service nodes (some k) := by
  refine ⟨rfl, rfl, rfl, rfl, hi, ?_⟩
  intro r hr
  obtain rfl := Option.some.inj hr
  exact ⟨rfl, rfl⟩

section First

variable {σ : Type} [Store σ SessionRecord] [StoreView σ SessionRecord] [ReliableStore σ]
  {service : Service} {nodes : List Node} {k : String} {index i : Nat} {s s' : Selector σ}
  {ds : List Dispatch} {answer : Forwarding}

/-- A first answer files the session at the node that gave it, under the value given last or else
under its own. -/
theorem live?_persist_settled (index : Nat) (hi : i < nodes.length) (httl : 0 < s.ttlMs)
    (hfree : ∀ e, live? s.sessions (service.storeKey k) = some e → ¬e.nodeIndex < nodes.length)
    (value? : Option String) (x : String) :
    live? (s.persist ((Selector.fresh service nodes.length (some (service.storeKey k)) (some k)
        index).settled i value?)).sessions x =
      service.filing ⟨k, i, value?.getD (Session.valueOf k)⟩ (live? s.sessions) x :=
  ReliableStore.live?_persist (serves_settled service k index hi value?) rfl httl (fun _ => hfree) x

/-- A session that is answered first by node `i` is filed at it. -/
theorem ReliableStore.live?_bindAt (hf : s.found? service nodes (some k) = none)
    (httl : 0 < s.ttlMs) (hi : i < nodes.length) (value? : Option String) (x : String) :
    live? (s.bindAt service nodes (some k) i value?).sessions x =
      service.filing ⟨k, i, value?.getD (Session.valueOf k)⟩ (live? s.sessions) x := by
  have hlive : live? (s.select service nodes (some k)).2.sessions = live? s.sessions :=
    funext (SteadyStore.live?_select service nodes (some k))
  have hfree (e : SessionRecord)
      (he : live? (s.select service nodes (some k)).2.sessions (service.storeKey k) = some e) :
      ¬e.nodeIndex < nodes.length := by
    intro hlt
    have hget : (Store.get (service.storeKey k) s.sessions).1 = .ok (some e) := by
      rw [ReliableStore.get_fst, ← hlive, he]
    rw [Selector.found?_eq_some_iff.mpr ⟨k, rfl, hget, hlt⟩] at hf
    exact absurd hf (by simp)
  have httl' : 0 < (s.select service nodes (some k)).2.ttlMs := by rwa [Selector.ttlMs_select]
  have hfiled := live?_persist_settled i hi httl' hfree value? x
  rw [Selector.settled_fresh, hlive] at hfiled
  exact hfiled

/-- A request without a binding does nothing, or binds its session. -/
theorem FirstEnds.effect {sessionKey : Option String}
    (he : FirstEnds service nodes
      (Selector.fresh service nodes.length (sessionKey.map service.storeKey) sessionKey index) s ds
      answer s') (httl : 0 < s.ttlMs)
    (hfree : ∀ k, sessionKey = some k → live? s.sessions (service.storeKey k) = none) :
    Effect service nodes (live? s.sessions) (live? s'.sessions) sessionKey ds := by
  cases he with
  | unbound hnot hlife hsessions =>
    refine .nothing fun x => ?_
    rw [hsessions]
  | bound hds hfailed hreply hok hi hlife hsessions =>
    cases sessionKey with
    | none =>
      refine .nothing fun x => ?_
      rw [hsessions]
      rfl
    | some k =>
      refine .first k ((lastValue? service ds).getD (Session.valueOf k)) _ rfl (hfree k rfl) hi ?_
        fun x => ?_
      · cases hv : lastValue? service ds with
        | none => exact .inl rfl
        | some v => exact .inr (carried_of_lastValue? hv)
      · rw [hsessions]
        refine live?_persist_settled _ hi httl (fun e he => ?_) _ x
        rw [hfree k rfl] at he
        exact absurd he (by simp)

end First

/-! ### All requests -/

/-- What a forwarded request does to the store. -/
def Ends {σ β : Type} [StoreView σ SessionRecord] (service : Service) (nodes : List Node)
    (sessionKey : Option String) (s : Selector σ) (out : Forwarding × Selector σ × Journaled β) :
    Prop :=
  out.2.1.ttlMs = s.ttlMs ∧
    Effect service nodes (live? s.sessions) (live? out.2.1.sessions) sessionKey out.2.2.dispatches

theorem ends_of_sessions {σ β : Type} [StoreView σ SessionRecord] {service : Service}
    {nodes : List Node} {sessionKey : Option String} {answer : Forwarding} {s s' : Selector σ}
    {b : Journaled β} (hsessions : s'.sessions = s.sessions) (httl : s'.ttlMs = s.ttlMs) :
    Ends service nodes sessionKey s (answer, s', b) :=
  ⟨httl, .nothing fun x => by rw [hsessions]⟩

section Forward

variable {σ β : Type} [Store σ SessionRecord] [StoreView σ SessionRecord] [ReliableStore σ]
  {service : Service} {nodes : List Node} {k : String} {r : SessionRecord} {h : Handle}
  {s : Selector σ}

theorem Ends.of_select {sessionKey : Option String}
    {out : Forwarding × Selector σ × Journaled β}
    (h : Ends service nodes sessionKey (s.select service nodes sessionKey).2 out) :
    Ends service nodes sessionKey s out := by
  obtain ⟨hlife, heffect⟩ := h
  have hlive : live? (s.select service nodes sessionKey).2.sessions = live? s.sessions :=
    funext (SteadyStore.live?_select service nodes sessionKey)
  rw [Selector.ttlMs_select] at hlife
  rw [hlive] at heffect
  exact ⟨hlife, heffect⟩

variable [Backends β]

/-- An established session that gets an answer is bound anew, under the value that the answer gave
it or else under its present one. -/
theorem attempts_bound (hs : h.Serves service nodes (some k)) (hfirst : h.firstTime = false)
    (hr : h.record = some r) (httl : 0 < s.ttlMs) {request : Http.Request} {left : Nat}
    {last : Option (Http.Response × Nat)} {b b' : β} {node : Node} {q : Http.Response}
    (hnode : nodes[h.index]? = some node)
    (hsend : Backends.send node request b = (.response q, b'))
    (hok : q.status.isServerError = false) :
    ∃ s', Selector.attempts service nodes request left h last s b =
        (.answered ⟨q, h.index, h.attempt, .bound⟩, s', b') ∧ s'.ttlMs = s.ttlMs ∧
      ∀ x, live? s'.sessions x = service.filing
        { r with value := (Selector.affinityOf service q).getD r.value } (live? s.sessions) x := by
  refine ⟨_, Selector.attempts_succeeded hnode hsend hok, Selector.ttlMs_persist, ?_⟩
  refine ReliableStore.live?_persist (hs.renamed _) ?_ httl fun htrue => ?_
  · rw [Handle.record_renamed, hr]
    rfl
  · rw [Handle.firstTime_renamed, hfirst] at htrue
    exact absurd htrue (by decide)

/-- An established session is bound anew or loses its binding, or nothing is done. -/
theorem ends_established (hs : h.Serves service nodes (some k)) (hfirst : h.firstTime = false)
    (hr : h.record = some r) (hlive : live? s.sessions (service.storeKey k) = some r)
    (httl : 0 < s.ttlMs) (request : Http.Request) (left : Nat)
    (last : Option (Http.Response × Nat)) (b : Journaled β) :
    Ends service nodes (some k) s
      (Selector.attempts service nodes request left h last s b) := by
  obtain ⟨node, hnode⟩ : ∃ node, nodes[h.index]? = some node :=
    ⟨_, List.getElem?_eq_getElem hs.index_lt⟩
  rcases hreply : Backends.send node request b.backends with ⟨reply, c⟩
  have hsend := Journaled.send_eq hreply
  have hmem : (⟨node, request, reply⟩ : Dispatch) ∈ b.dispatches ++ [⟨node, request, reply⟩] :=
    List.mem_append_right _ (List.mem_singleton_self _)
  cases hf : reply.failed with
  | true =>
    have hfirst' : (h.renamed (reply.affinity? service)).firstTime = false := by
      rw [Handle.firstTime_renamed, hfirst]
    rw [Selector.attempts_done hnode hsend hf (Selector.fail_established hfirst' s)]
    exact ⟨Selector.ttlMs_evict,
      .evicted k _ rfl hmem hf (ReliableStore.live?_evict (hs.renamed _).storeKey)⟩
  | false =>
    obtain rfl | ⟨q, rfl, hok⟩ := Reply.eq_of_not_failed hf
    · rw [Selector.attempts_abandoned hnode hsend]
      exact ends_of_sessions rfl rfl
    · obtain ⟨s', heq, hlife, hfiled⟩ := attempts_bound hs hfirst hr httl hnode hsend hok
      rw [heq]
      refine ⟨hlife, .again k _ r rfl hlive ?_ hfiled⟩
      cases ha : Selector.affinityOf service q with
      | none => exact .inl rfl
      | some v => exact .inr (carried_of_affinity? hmem ha)

/-- Every record is filed where its session is looked for, and names a node that exists. -/
def Filed (service : Service) (nodes : List Node) (f : String → Option SessionRecord) : Prop :=
  ∀ x r, f x = some r → x = service.storeKey r.sessionKey ∧ r.nodeIndex < nodes.length

theorem Filed.sessionKey_eq {f : String → Option SessionRecord} (hf : Filed service nodes f)
    (hr : f (service.storeKey k) = some r) : r.sessionKey = k :=
  (Service.storeKey_inj.mp (hf _ r hr).1).symm

/-- A record that is there is found. -/
theorem found?_of_live (hf : Filed service nodes (live? s.sessions))
    (hr : live? s.sessions (service.storeKey k) = some r) :
    s.found? service nodes (some k) = some r :=
  Selector.found?_eq_some_iff.mpr
    ⟨k, rfl, by rw [ReliableStore.get_fst]; exact congrArg _ hr, (hf _ r hr).2⟩

theorem live_of_found {sessionKey : Option String}
    (hr : s.found? service nodes sessionKey = some r) :
    ∃ k, sessionKey = some k ∧ live? s.sessions (service.storeKey k) = some r := by
  obtain ⟨k, hk, hget, -⟩ := Selector.found?_eq_some_iff.mp hr
  rw [ReliableStore.get_fst] at hget
  exact ⟨k, hk, Except.ok.inj hget⟩

/-- **Everything that forwarding can do to the store.** -/
theorem forward_effect (hf : Filed service nodes (live? s.sessions)) (httl : 0 < s.ttlMs)
    (sessionKey : Option String) (request : Http.Request) (b : β) :
    Ends service nodes sessionKey s
      (s.forward service nodes sessionKey request (Journaled.mk b [])) := by
  by_cases hn : nodes = []
  · rw [Selector.forward, Selector.select, if_pos hn]
    exact ends_of_sessions rfl rfl
  · have hown : ∀ r, s.found? service nodes sessionKey = some r →
        sessionKey = some r.sessionKey := by
      intro r hr
      obtain ⟨k, rfl, hlive⟩ := live_of_found hr
      rw [hf.sessionKey_eq hlive]
    have hlive (x : String) := SteadyStore.live?_select (s := s) service nodes sessionKey x
    have httl' : 0 < (s.select service nodes sessionKey).2.ttlMs := by
      rwa [Selector.ttlMs_select]
    cases hfound : s.found? service nodes sessionKey with
    | some r =>
      have hsel := Selector.select_of_found hn hfound
      have hserves := Selector.serves_select hsel hown
      obtain ⟨k, rfl, hr⟩ := live_of_found hfound
      rw [Selector.forward_eq hsel]
      refine Ends.of_select (ends_established hserves rfl rfl ?_ httl' request _ none _)
      rw [hlive]
      exact hr
    | none =>
      have hfirst := Selector.forward_first hn hfound request b
      refine Ends.of_select ⟨hfirst.ttlMs, hfirst.effect httl' fun k hk => ?_⟩
      rw [hlive, Option.eq_none_iff_forall_ne_some]
      intro r hr
      rw [hk, found?_of_live hf hr] at hfound
      exact absurd hfound (by simp)

/-- A session that is bound and gets an answer is answered from its node and bound there again,
under its present value as well. -/
theorem forward_established (hf : Filed service nodes (live? s.sessions)) (httl : 0 < s.ttlMs)
    (hr : live? s.sessions (service.storeKey k) = some r) {b c : β} {node : Node}
    {request : Http.Request} {q : Http.Response} (hnode : nodes[r.nodeIndex]? = some node)
    (hreply : Backends.send node request b = (.response q, c))
    (hok : q.status.isServerError = false) :
    ∃ s', s.forward service nodes (some k) request (Journaled.mk b []) =
        (.answered ⟨q, r.nodeIndex, 1, .bound⟩, s', ⟨c, [⟨node, request, .response q⟩]⟩) ∧
      ∀ x, live? s'.sessions x = service.filing
        { r with value := (Selector.affinityOf service q).getD r.value } (live? s.sessions) x := by
  have hn : nodes ≠ [] := by
    rintro rfl
    simp at hnode
  have hfound := found?_of_live hf hr
  have hsel := Selector.select_of_found hn hfound
  have hserves := Selector.serves_select hsel fun r' hr' => by
    obtain rfl := Option.some.inj (hfound.symm.trans hr')
    rw [hf.sessionKey_eq hr]
  have hlive : live? (s.select service nodes (some k)).2.sessions = live? s.sessions :=
    funext (SteadyStore.live?_select service nodes (some k))
  have httl' : 0 < (s.select service nodes (some k)).2.ttlMs := by rwa [Selector.ttlMs_select]
  obtain ⟨s', heq, -, hfiled⟩ :=
    attempts_bound hserves rfl rfl httl' hnode
      (Journaled.send_eq (b := Journaled.mk b []) hreply) hok
  rw [hlive] at hfiled
  exact ⟨s', (Selector.forward_eq hsel request _).trans heq, hfiled⟩

/-- A session that is bound gets a failure, or its client gives up and nothing is done, or it gets
an answer and is bound again. -/
theorem forward_established_cases (hf : Filed service nodes (live? s.sessions))
    (httl : 0 < s.ttlMs) (hr : live? s.sessions (service.storeKey k) = some r)
    (request : Http.Request) (b : β) :
    let out := s.forward service nodes (some k) request (Journaled.mk b [])
    (∃ d ∈ out.2.2.dispatches, d.reply.failed = true) ∨
    (out.1 = .abandoned ∧ ∀ x, live? out.2.1.sessions x = live? s.sessions x) ∨
    ∃ q, out.1 = .answered ⟨q, r.nodeIndex, 1, .bound⟩ ∧
      ∀ x, live? out.2.1.sessions x = service.filing
        { r with value := (Selector.affinityOf service q).getD r.value } (live? s.sessions) x := by
  intro out
  have hlt := (hf _ r hr).2
  have hnode : nodes[r.nodeIndex]? = some nodes[r.nodeIndex] := List.getElem?_eq_getElem hlt
  have hn : nodes ≠ [] := by
    rintro rfl
    simp at hnode
  have hsel := Selector.select_of_found hn (found?_of_live hf hr)
  have hout := Selector.forward_eq hsel request (Journaled.mk b [])
  rcases hreply : Backends.send nodes[r.nodeIndex] request b with ⟨reply, c⟩
  have hsend := Journaled.send_eq (b := Journaled.mk b []) hreply
  cases hfailed : reply.failed with
  | true =>
    left
    let h := Selector.established service nodes.length (some (service.storeKey k)) r
    have hfirst : (h.renamed (reply.affinity? service)).firstTime = false :=
      Handle.firstTime_renamed h _
    have hdone := Selector.fail_established hfirst (s.select service nodes (some k)).2
    have hdone' := hout.trans (Selector.attempts_done hnode hsend hfailed hdone)
    rw [show out = _ from hdone']
    exact ⟨⟨nodes[r.nodeIndex], request, reply⟩, List.mem_singleton_self _, hfailed⟩
  | false =>
    right
    obtain rfl | ⟨q, rfl, hok⟩ := Reply.eq_of_not_failed hfailed
    · left
      rw [Selector.attempts_abandoned hnode hsend] at hout
      rw [show out = _ from hout]
      exact ⟨rfl, fun x => SteadyStore.live?_select service nodes (some k) x⟩
    · obtain ⟨s', heq, hfiled⟩ := forward_established hf httl hr hnode hreply hok
      rw [show out = _ from heq]
      exact .inr ⟨q, rfl, hfiled⟩

end Forward

end Gatehouse
