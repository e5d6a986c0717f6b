import Gatehouse.Proofs.Failover

/-!
# The first answer

A request of a session without a binding makes attempts until one of them is no failure. A value
that a failed one was given is kept in the selection, which is persisted only in the end.
So what a request leaves in the store can be told from its dispatches: nothing if no attempt
succeeded, and otherwise the binding of the session to the node that answered, under the last value
that any of its responses gave.

## Implementation notes

Nothing is assumed of the store. What is persisted is given by the operation that writes it,
`Selector.persist` on the selection as it is in the end, and not by what the store holds afterwards.

## Main definitions

* `Carried`, `lastValue?` — the values that the responses of a request gave the session
* `Handle.settled` — a selection at the node and under the value that it ends with
* `FirstEnds` — how the attempts for a request without a binding end
* `Selector.bindAt` — what a request without a binding leaves behind when it is answered

## Main results

* `Selector.attempts_first`, `forward_first` — they end so
* `Selector.forward_bound` — what is left behind by a request that is answered
-/

namespace Gatehouse

/-! ### Values given by responses -/

/-- A value that one of the responses gave the session. -/
def Carried (service : Service) (ds : List Dispatch) (v : String) : Prop :=
  ∃ d ∈ ds, ∃ q, d.reply = .response q ∧ Selector.affinityOf service q = some v

instance (service : Service) (ds : List Dispatch) (v : String) :
    Decidable (Carried service ds v) :=
  decidable_of_iff (∃ d ∈ ds, d.reply.affinity? service = some v)
    (exists_congr fun _ => and_congr_right fun _ => Reply.affinity?_eq_some_iff)

/-- The value that the responses gave the session last. -/
def lastValue? (service : Service) : List Dispatch → Option String
  | [] => none
  | d :: ds => (lastValue? service ds).or (d.reply.affinity? service)

section Values

variable {service : Service} {d : Dispatch} {ds ds' : List Dispatch} {v : String}

theorem Carried.mono (h : Carried service ds v) (hds : ∀ d ∈ ds, d ∈ ds') :
    Carried service ds' v := by
  obtain ⟨d, hd, hq⟩ := h
  exact ⟨d, hds d hd, hq⟩

theorem carried_of_affinity? (hd : d ∈ ds) (h : d.reply.affinity? service = some v) :
    Carried service ds v := by
  obtain ⟨q, hq, hv⟩ := Reply.affinity?_eq_some_iff.mp h
  exact ⟨d, hd, q, hq, hv⟩

theorem carried_of_lastValue? (h : lastValue? service ds = some v) : Carried service ds v := by
  induction ds with
  | nil => exact absurd h (by simp [lastValue?])
  | cons d ds ih =>
    rw [lastValue?, Option.or_eq_some_iff] at h
    rcases h with h | ⟨-, h⟩
    · exact (ih h).mono fun d hd => List.mem_cons_of_mem _ hd
    · exact carried_of_affinity? List.mem_cons_self h

theorem lastValue?_append (service : Service) (ds ds' : List Dispatch) :
    lastValue? service (ds ++ ds') = (lastValue? service ds').or (lastValue? service ds) := by
  induction ds with
  | nil => rw [List.nil_append, lastValue?, Option.or_none]
  | cons d ds ih => rw [List.cons_append, lastValue?, lastValue?, ih, Option.or_assoc]

/-- The value of the last response goes before those of the others. -/
theorem lastValue?_append_singleton (service : Service) (ds : List Dispatch) (d : Dispatch) :
    lastValue? service (ds ++ [d]) = (d.reply.affinity? service).or (lastValue? service ds) := by
  rw [lastValue?_append, lastValue?, lastValue?, Option.none_or]

end Values

/-! ### Steps of a selection -/

namespace Selector

variable {σ : Type} [Store σ SessionRecord] {s s' : Selector σ} {h : Handle}

theorem ttlMs_evict : (s.evict h).ttlMs = s.ttlMs := (s.undrawn_evict h).ttlMs

theorem ttlMs_fail : (s.fail h).2.ttlMs = s.ttlMs := (s.undrawn_fail h).ttlMs

theorem ttlMs_persist : (s.persist h).ttlMs = s.ttlMs := (s.undrawn_persist h).ttlMs

theorem ttlMs_select (service : Service) (nodes : List Node) (sessionKey : Option String) :
    (s.select service nodes sessionKey).2.ttlMs = s.ttlMs := by
  rw [select]
  split
  · rfl
  · cases sessionKey with
    | none => rfl
    | some k =>
      simp only [Option.map_some, binding?]
      split <;> rfl

/-- A failed attempt of a request without a binding is the last one, or the next one is made; the
store is not touched. -/
theorem fail_first (hfirst : h.firstTime = true) (s : Selector σ) :
    s.fail h = (.done .exhausted, s) ∨
      ∃ h' s', s.fail h = (.retry h', s') ∧ h.retry? = some h' ∧ s'.sessions = s.sessions ∧
        s'.ttlMs = s.ttlMs := by
  rw [fail, hfirst]
  cases h.retry? with
  | none => exact .inl rfl
  | some h' => exact .inr ⟨h', _, rfl, rfl, rfl, rfl⟩

theorem sessions_putAlias_congr (hsessions : s'.sessions = s.sessions) (httl : s'.ttlMs = s.ttlMs)
    (r : SessionRecord) : (s'.putAlias h r).sessions = (s.putAlias h r).sessions := by
  rw [putAlias, putAlias]
  cases r.alias? with
  | none => exact hsessions
  | some a => simp only [hsessions, httl]

/-- What is persisted depends on the store and the lifetime only. -/
theorem sessions_persist_congr (hsessions : s'.sessions = s.sessions) (httl : s'.ttlMs = s.ttlMs) :
    (s'.persist h).sessions = (s.persist h).sessions := by
  rw [persist, persist]
  cases h.storeKey with
  | none => exact hsessions
  | some k =>
    cases h.record with
    | none => exact hsessions
    | some r =>
      simp only
      split
      · simp only [bindFirst, hsessions, httl]
        split
        · rfl
        · exact sessions_putAlias_congr (by rfl) (by rfl) r
        · split
          · exact sessions_putAlias_congr (by rfl) (by rfl) r
          · rfl
      · simp only [bindAgain, hsessions, httl]
        split
        · rfl
        · exact sessions_putAlias_congr (by rfl) (by rfl) r

end Selector

/-! ### How the attempts end -/

/-- The position of the node that a request ended with an answer of, if that was no failure. -/
def Forwarding.boundAt? : Forwarding → Option Nat
  | .answered f => if f.outcome = .bound then some f.nodeIndex else none
  | _ => none

/-- The selection at the node that it ends with, under the value given last, if one was given. -/
def Handle.settled (h : Handle) (i : Nat) (value? : Option String) : Handle :=
  { h with
    index := i, attempt := 1,
    record := h.record.map fun r => { r with nodeIndex := i, value := value?.getD r.value } }

/-- How the attempts for a request without a binding end, from a selection `h` on: with an answer
that is no failure, which is persisted under the last value given, or with nothing done. -/
inductive FirstEnds {σ : Type} [Store σ SessionRecord] (service : Service) (nodes : List Node)
    (h : Handle) (s : Selector σ) (ds : List Dispatch) : Forwarding → Selector σ → Prop where
  | bound {before : List Dispatch} {d : Dispatch} {q : Http.Response} {i n : Nat}
      {s' : Selector σ} (hds : ds = before ++ [d])
      (hfailed : ∀ e ∈ before, e.reply.failed = true) (hreply : d.reply = .response q)
      (hok : q.status.isServerError = false) (hi : i < nodes.length) (httl : s'.ttlMs = s.ttlMs)
      (hsessions : s'.sessions = (s.persist (h.settled i (lastValue? service ds))).sessions) :
      FirstEnds service nodes h s ds (.answered ⟨q, i, n, .bound⟩) s'
  | unbound {answer : Forwarding} {s' : Selector σ} (hnot : answer.boundAt? = none)
      (httl : s'.ttlMs = s.ttlMs) (hsessions : s'.sessions = s.sessions) :
      FirstEnds service nodes h s ds answer s'

namespace FirstEnds

variable {σ : Type} [Store σ SessionRecord] {service : Service} {nodes : List Node} {h : Handle}
  {s s' : Selector σ} {ds : List Dispatch} {answer : Forwarding}

theorem ttlMs (he : FirstEnds service nodes h s ds answer s') : s'.ttlMs = s.ttlMs := by
  cases he with
  | bound hds hfailed hreply hok hi httl hsessions => exact httl
  | unbound hnot httl hsessions => exact httl

/-- An answer that is no failure is that of the last attempt, and all the others failed. -/
theorem of_bound {q : Http.Response} {i n : Nat}
    (he : FirstEnds service nodes h s ds (.answered ⟨q, i, n, .bound⟩) s') :
    i < nodes.length ∧
      s'.sessions = (s.persist (h.settled i (lastValue? service ds))).sessions ∧
      ∃ before d, ds = before ++ [d] ∧ (∀ e ∈ before, e.reply.failed = true) ∧
        d.reply = .response q ∧ q.status.isServerError = false := by
  cases he with
  | bound hds hfailed hreply hok hi httl hsessions =>
    exact ⟨hi, hsessions, _, _, hds, hfailed, hreply, hok⟩
  | unbound hnot httl hsessions => exact absurd hnot (by simp [Forwarding.boundAt?])

end FirstEnds

namespace Selector

section Attempts

variable {σ β : Type} [Store σ SessionRecord] {service : Service} {nodes : List Node}
  {sessionKey : Option String} {h h' : Handle} {s s' : Selector σ} {d : Dispatch}
  {ds : List Dispatch} {answer : Forwarding}

/-- The next attempt ends with what the present one was told, unless it is told something else. -/
theorem settled_retry {affinity : Option String}
    (hretry : Handle.retry? (h.renamed affinity) = some h') (i : Nat) (value? : Option String) :
    h'.settled i value? = h.settled i (value?.or affinity) := by
  obtain ⟨-, -, next, -, rfl⟩ := Handle.retry?_eq_some_iff.mp hretry
  rw [Handle.renamed_eq, Handle.settled, Handle.settled]
  cases h.record <;> cases value? <;> rfl

/-- The number of the attempt does not matter for what is persisted. -/
theorem persist_settled (hs : h.Serves service nodes sessionKey) (affinity : Option String)
    (s : Selector σ) : s.persist (h.renamed affinity) = s.persist (h.settled h.index affinity) := by
  have hsettled : h.settled h.index affinity = { h.renamed affinity with attempt := 1 } := by
    rw [Handle.renamed_eq, Handle.settled]
    cases hr : h.record with
    | none => rfl
    | some r => simp only [Option.map_some, (hs.record r hr).2]
  rw [hsettled, persist, persist]
  rfl

/-- A failed attempt before the others adds its value, in case they give none. -/
theorem FirstEnds.cons (hf : d.reply.failed = true)
    (hretry : Handle.retry? (h.renamed (d.reply.affinity? service)) = some h') {s₁ : Selector σ}
    (hsessions₁ : s₁.sessions = s.sessions) (httl₁ : s₁.ttlMs = s.ttlMs)
    (he : FirstEnds service nodes h' s₁ ds answer s') :
    FirstEnds service nodes h s (d :: ds) answer s' := by
  cases he with
  | @bound before d' q i n s' hds hfailed hreply hok hi httl hsessions =>
    have hall : ∀ e ∈ d :: before, e.reply.failed = true := by
      intro e he
      rcases List.mem_cons.mp he with rfl | he
      · exact hf
      · exact hfailed e he
    refine .bound (by rw [hds, List.cons_append]) hall hreply hok hi (httl.trans httl₁) ?_
    rw [hsessions, sessions_persist_congr hsessions₁ httl₁, settled_retry hretry, lastValue?]
  | unbound hnot httl hsessions =>
    exact .unbound hnot (httl.trans httl₁) (hsessions.trans hsessions₁)

theorem boundAt?_afterFailure {o : Outcome} (ho : o ≠ .bound) (h : Handle) (node : Node)
    (last : Option (Http.Response × Nat)) (reply : Reply) :
    (afterFailure h node o last reply).boundAt? = none := by
  cases reply with
  | response r => exact if_neg ho
  | error e =>
    cases last with
    | none => rfl
    | some p => exact if_neg ho
  | abandoned => rfl

variable [Backends β]

/-- Everything that one attempt of a request without a binding can do: it ends the request, or it
failed and another one is made. -/
theorem attempt_first (hs : h.Serves service nodes sessionKey) (hfirst : h.firstTime = true)
    (request : Http.Request) (left : Nat) (last : Option (Http.Response × Nat)) (s : Selector σ)
    (b : Journaled β) :
    ∃ d, ∃ b' : Journaled β, b'.dispatches = b.dispatches ++ [d] ∧
      ((∃ answer s', attempts service nodes request left h last s b = (answer, s', b') ∧
          FirstEnds service nodes h s [d] answer s') ∨
        ∃ left' h' last' s', left = left' + 1 ∧ d.reply.failed = true ∧
          Handle.retry? (h.renamed (d.reply.affinity? service)) = some h' ∧
          s'.sessions = s.sessions ∧ s'.ttlMs = s.ttlMs ∧
          attempts service nodes request left h last s b =
            attempts service nodes request left' h' last' s' b') := by
  obtain ⟨node, hnode⟩ : ∃ node, nodes[h.index]? = some node :=
    ⟨_, List.getElem?_eq_getElem hs.index_lt⟩
  rcases hreply : Backends.send node request b.backends with ⟨reply, c⟩
  have hsend := Journaled.send_eq hreply
  refine ⟨⟨node, request, reply⟩, ⟨c, b.dispatches ++ [⟨node, request, reply⟩]⟩, rfl, ?_⟩
  cases hf : reply.failed with
  | true =>
    have hfirst' : (h.renamed (reply.affinity? service)).firstTime = true := by
      rw [Handle.firstTime_renamed, hfirst]
    have hlost : (afterFailure h node .exhausted last reply).boundAt? = none :=
      boundAt?_afterFailure (by decide) h node last reply
    rcases fail_first hfirst' s with hfail | ⟨h', s', hfail, hretry, hsessions, httl⟩
    · exact .inl ⟨_, _, attempts_done hnode hsend hf hfail, .unbound hlost rfl rfl⟩
    · cases left with
      | zero =>
        refine .inl ⟨_, s', ?_, .unbound hlost httl hsessions⟩
        rw [attempts_failed hnode hsend hf, hfail]
      | succ left =>
        exact .inr ⟨left, h', _, s', rfl, rfl, hretry, hsessions, httl,
          attempts_retry hnode hsend hf hfail⟩
  | false =>
    left
    obtain rfl | ⟨q, rfl, hok⟩ := Reply.eq_of_not_failed hf
    · exact ⟨_, s, attempts_abandoned hnode hsend, .unbound rfl rfl rfl⟩
    · refine ⟨_, _, attempts_succeeded hnode hsend hok, ?_⟩
      refine .bound (List.nil_append _).symm (by simp) rfl hok hs.index_lt ttlMs_persist ?_
      rw [persist_settled hs]
      rfl

/-- **The attempts for a request without a binding.** -/
theorem attempts_first (hs : h.Serves service nodes sessionKey) (hfirst : h.firstTime = true)
    (request : Http.Request) (left : Nat) (last : Option (Http.Response × Nat)) (s : Selector σ)
    (b : Journaled β) :
    ∃ ds, (attempts service nodes request left h last s b).2.2.dispatches = b.dispatches ++ ds ∧
      FirstEnds service nodes h s ds (attempts service nodes request left h last s b).1
        (attempts service nodes request left h last s b).2.1 := by
  induction left using Nat.strongRecOn generalizing h last s b with
  | ind left ih =>
    obtain ⟨d, b', hd, ⟨answer, s', heq, hends⟩ |
      ⟨left', h', last', s', hleft, hf, hretry, hsessions, httl, heq⟩⟩ :=
      attempt_first hs hfirst request left last s b
    · rw [heq]
      exact ⟨[d], hd, hends⟩
    · have hfirst' : h'.firstTime = true := by
        obtain ⟨-, -, next, -, rfl⟩ := Handle.retry?_eq_some_iff.mp hretry
        exact (Handle.firstTime_renamed h _).trans hfirst
      obtain ⟨ds, hds, hends⟩ :=
        ih left' (by omega) ((hs.renamed _).retried hretry) hfirst' last' s' b'
      rw [heq]
      refine ⟨d :: ds, ?_, FirstEnds.cons hf hretry hsessions httl hends⟩
      rw [hds, hd, List.append_assoc, List.singleton_append]

/-- **Requests without a binding.** -/
theorem forward_first (hn : nodes ≠ []) (hf : s.found? service nodes sessionKey = none)
    (request : Http.Request) (b : β) :
    FirstEnds service nodes
      (fresh service nodes.length
        (sessionKey.map (Session.storeKey service.id service.generation)) sessionKey
        (s.turn service nodes))
      (s.select service nodes sessionKey).2
      (s.forward service nodes sessionKey request (Journaled.mk b [])).2.2.dispatches
      (s.forward service nodes sessionKey request (Journaled.mk b [])).1
      (s.forward service nodes sessionKey request (Journaled.mk b [])).2.1 := by
  have hsel := select_of_notFound hn hf
  have hserves := serves_select hsel fun r hr => by
    rw [hf] at hr
    exact absurd hr (by simp)
  rw [forward_eq hsel]
  obtain ⟨ds, hds, hends⟩ := attempts_first hserves rfl request _ none
    (s.select service nodes sessionKey).2 (Journaled.mk b [])
  rw [List.nil_append] at hds
  rw [hds]
  exact hends

/-- The selector after a request without a binding was answered by node `i`, when the value given to
its session last is `value?`. -/
def bindAt (s : Selector σ) (service : Service) (nodes : List Node) (sessionKey : Option String)
    (i : Nat) (value? : Option String) : Selector σ :=
  (s.select service nodes sessionKey).2.persist
    ((fresh service nodes.length (sessionKey.map (Session.storeKey service.id service.generation))
      sessionKey i).renamed value?)

theorem settled_fresh (service : Service) (n : Nat) (storeKey sessionKey : Option String)
    (index i : Nat) (value? : Option String) :
    (fresh service n storeKey sessionKey index).settled i value? =
      (fresh service n storeKey sessionKey i).renamed value? := by
  rw [Handle.renamed_eq]
  cases sessionKey <;> rfl

/-- Without nodes there is no answer. -/
theorem nodes_ne_nil_of_answered {request : Http.Request} {b : β} {f : Forwarded}
    (hanswer : (s.forward service nodes sessionKey request b).1 = .answered f) : nodes ≠ [] := by
  intro hn
  rw [forward, select, if_pos hn] at hanswer
  exact absurd hanswer (by simp)

/-- What a request without a binding that is answered leaves behind, and whose answer it is. -/
theorem forward_bound (hf : s.found? service nodes sessionKey = none)
    {request : Http.Request} {b : β} {q : Http.Response} {i n : Nat}
    (hanswer : (s.forward service nodes sessionKey request (Journaled.mk b [])).1 =
      .answered ⟨q, i, n, .bound⟩) :
    let out := s.forward service nodes sessionKey request (Journaled.mk b [])
    i < nodes.length ∧
      out.2.1.sessions = (s.bindAt service nodes sessionKey i
        (lastValue? service out.2.2.dispatches)).sessions ∧
      ∃ before d, out.2.2.dispatches = before ++ [d] ∧ (∀ e ∈ before, e.reply.failed = true) ∧
        d.reply = .response q ∧ q.status.isServerError = false := by
  have hends := forward_first (nodes_ne_nil_of_answered hanswer) hf request b
  rw [hanswer] at hends
  obtain ⟨hi, hsessions, hdispatches⟩ := hends.of_bound
  refine ⟨hi, ?_, hdispatches⟩
  rw [hsessions, settled_fresh]
  rfl

end Attempts

end Selector

end Gatehouse
