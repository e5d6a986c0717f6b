import Gatehouse.Proofs.SessionKeys
import Gatehouse.Proofs.Stores
import Gatehouse.Selection.Selector

/-!
# What the steps of a selection do

A selection goes through one `select` and then one `report` or `reportUnreachable` for each attempt.
The results about runs need of these steps only what they make of the selection itself and what they
can write to the store; both are stated here once.

## Main definitions

* `Selector.found?` — the record that a request finds for its session
* `Handle.Serves` — what a selection keeps of the request that it is for
* `Handle.Writes` — the two entries that a successful attempt can write
* `Selector.Undrawn` — what no report changes

## Main results

* `Selector.select_of_found`, `select_of_notFound` — the two ways in which a selection begins
* `Selector.serves_select`, `serves_report`, `serves_reportUnreachable` — every selection serves the
  request that it is for, at its beginning and after each attempt
* `HonestStore.live_report` — what an answered attempt can write
-/

namespace Gatehouse

open StoreView (live?)

/-! ### Selections and their requests -/

/-- What a selection keeps of its request, however many attempts it has made. -/
structure Handle.Serves (h : Handle) (service : Service) (nodes : List Node)
    (sessionKey : Option String) : Prop where
  serviceId : h.serviceId = service.id
  generation : h.generation = service.generation
  storeKey : h.storeKey = sessionKey.map (Session.storeKey service.id service.generation)
  nodeCount : h.nodeCount = nodes.length
  index_lt : h.index < nodes.length
  record : ∀ r, h.record = some r → sessionKey = some r.sessionKey ∧ r.nodeIndex = h.index

/-- The entries that a successful attempt can write: the session's own, and that of the value which
a backend gave it. -/
def Handle.Writes (h : Handle) (x : String) (w : SessionRecord) : Prop :=
  (h.storeKey = some x ∧ h.record = some w) ∨
    ∃ r, h.record = some r ∧ r.alias? = some w ∧
      x = Session.storeKey h.serviceId h.generation w.sessionKey

theorem SessionRecord.alias?_eq_some_iff {r a : SessionRecord} :
    r.alias? = some a ↔ r.value ≠ Session.valueOf r.sessionKey ∧
      a = { r with sessionKey := Session.key (Session.paramOf r.sessionKey) r.value } := by
  rw [alias?]
  split
  · simp [*]
  · simp [*, eq_comm]

theorem nextIndex?_lt {roundRobin : Bool} {count index next : Nat} (hi : index < count)
    (h : nextIndex? roundRobin count index = some next) : next < count := by
  rw [nextIndex?] at h
  split at h
  · simp only [Option.some.injEq] at h
    omega
  · split at h
    · simp only [Option.some.injEq] at h
      omega
    · simp at h

namespace Handle

variable {h h' : Handle} {service : Service} {nodes : List Node} {sessionKey : Option String}

@[simp] theorem renamed_none (h : Handle) : h.renamed none = h := rfl

/-- All that a new value changes of a selection is the value in its record. -/
theorem renamed_eq (h : Handle) (affinity : Option String) :
    h.renamed affinity =
      { h with record := h.record.map fun r => { r with value := affinity.getD r.value } } := by
  cases affinity with
  | none => cases h with | mk _ _ _ record => cases record <;> rfl
  | some v => rfl

@[simp] theorem firstTime_renamed (h : Handle) (affinity : Option String) :
    (h.renamed affinity).firstTime = h.firstTime := by
  rw [renamed_eq]

theorem record_renamed (h : Handle) (affinity : Option String) :
    (h.renamed affinity).record =
      h.record.map fun r => { r with value := affinity.getD r.value } := by
  rw [renamed_eq]

theorem Serves.renamed (hs : h.Serves service nodes sessionKey) (affinity : Option String) :
    (h.renamed affinity).Serves service nodes sessionKey := by
  rw [renamed_eq]
  refine ⟨hs.serviceId, hs.generation, hs.storeKey, hs.nodeCount, hs.index_lt, ?_⟩
  intro r hr
  obtain ⟨r', hr', rfl⟩ := Option.map_eq_some_iff.mp hr
  exact hs.record r' hr'

/-- The conditions under which there is another attempt, and where it goes. -/
theorem retry?_eq_some_iff : h.retry? = some h' ↔ h.failover = true ∧ h.attempt < h.maxAttempts ∧
    ∃ next, nextIndex? h.roundRobin h.nodeCount h.index = some next ∧
      h' = { h with
        index := next, attempt := h.attempt + 1,
        record := h.record.map fun r => { r with nodeIndex := next } } := by
  unfold retry?
  split
  · rename_i hc
    simp only [Bool.and_eq_true, decide_eq_true_eq] at hc
    rw [Option.map_eq_some_iff]
    constructor
    · rintro ⟨next, hnext, rfl⟩
      exact ⟨hc.1, hc.2, next, hnext, rfl⟩
    · rintro ⟨-, -, next, hnext, rfl⟩
      exact ⟨next, hnext, rfl⟩
  · rename_i hc
    simp only [Bool.and_eq_true, decide_eq_true_eq, not_and] at hc
    simp only [reduceCtorEq, false_iff, not_and]
    exact fun hf ha => absurd ha (hc hf)

theorem Serves.retried (hs : h.Serves service nodes sessionKey) (hr : h.retry? = some h') :
    h'.Serves service nodes sessionKey := by
  obtain ⟨-, -, next, hnext, rfl⟩ := retry?_eq_some_iff.mp hr
  have hlt : next < nodes.length := by
    have := hs.nodeCount
    have := nextIndex?_lt (by rw [hs.nodeCount]; exact hs.index_lt) hnext
    omega
  refine ⟨hs.serviceId, hs.generation, hs.storeKey, hs.nodeCount, hlt, ?_⟩
  intro r hr
  obtain ⟨r', hr', rfl⟩ := Option.map_eq_some_iff.mp hr
  exact ⟨(hs.record r' hr').1, rfl⟩

end Handle

namespace Selector

variable {σ : Type} [Store σ SessionRecord] {s : Selector σ} {service : Service}
  {nodes : List Node} {sessionKey : Option String} {h h' : Handle}

/-! ### The beginning of a selection -/

/-- The record that a request finds for its session. -/
def found? (s : Selector σ) (service : Service) (nodes : List Node)
    (sessionKey : Option String) : Option SessionRecord :=
  (s.binding? (sessionKey.map (Session.storeKey service.id service.generation))
    nodes.length).1

/-- A record is found if the store returns it and the node that it names exists. -/
theorem found?_eq_some_iff {r : SessionRecord} : s.found? service nodes sessionKey = some r ↔
    ∃ k, sessionKey = some k ∧
      (Store.get (Session.storeKey service.id service.generation k) s.sessions).1 = .ok (some r) ∧
      r.nodeIndex < nodes.length := by
  cases sessionKey with
  | none => simp [found?, binding?]
  | some k =>
    simp only [found?, binding?, Option.map_some, Option.some.injEq, exists_eq_left']
    generalize (Store.get (Session.storeKey service.id service.generation k) s.sessions).1 = got
    cases got with
    | error e => simp
    | ok found =>
      cases found with
      | none => simp
      | some e =>
        simp only [Except.ok.injEq, Option.some.injEq]
        split
        · rename_i hlt
          simp only [Option.some.injEq]
          exact ⟨fun he => ⟨he, he ▸ hlt⟩, And.left⟩
        · rename_i hge
          simp only [reduceCtorEq, false_iff, not_and]
          exact fun he hlt => hge (he ▸ hlt)

/-- The position that the next ticket of a service gives. -/
def turn (s : Selector σ) (service : Service) (nodes : List Node) : Nat :=
  ((s.rotations.get? service.id).getD {}).position nodes.length

theorem rotations_binding? (s : Selector σ) (storeKey : Option String) (n : Nat) :
    (s.binding? storeKey n).2.rotations = s.rotations := by
  cases storeKey <;> rfl

theorem select_of_found (hn : nodes ≠ []) {r : SessionRecord}
    (hf : s.found? service nodes sessionKey = some r) :
    (s.select service nodes sessionKey).1 = some (established service nodes.length
      (sessionKey.map (Session.storeKey service.id service.generation)) r) := by
  rw [found?] at hf
  simp only [select, if_neg hn, hf]

theorem select_of_notFound (hn : nodes ≠ []) (hf : s.found? service nodes sessionKey = none) :
    (s.select service nodes sessionKey).1 = some (fresh service nodes.length
      (sessionKey.map (Session.storeKey service.id service.generation)) sessionKey
      (s.turn service nodes)) := by
  rw [found?] at hf
  simp only [select, if_neg hn, hf, drawTicket, rotations_binding?, turn]

/-- A request of no session does not read the store. -/
theorem sessions_select_none (s : Selector σ) (service : Service) (nodes : List Node) :
    (s.select service nodes none).2.sessions = s.sessions := by
  by_cases hn : nodes = [] <;> simp [select, hn, binding?, drawTicket]

/-- A request of a session reads the session's entry once. -/
theorem sessions_select_some (hn : nodes ≠ []) (s : Selector σ) (service : Service) (k : String) :
    (s.select service nodes (some k)).2.sessions =
      (Store.get (Session.storeKey service.id service.generation k) s.sessions).2 := by
  simp only [select, if_neg hn, Option.map_some, binding?]
  split <;> rfl

/-- All that selecting does to the store is to read it. -/
theorem sessions_select (s : Selector σ) (service : Service) (nodes : List Node)
    (sessionKey : Option String) :
    (s.select service nodes sessionKey).2.sessions = s.sessions ∨
      ∃ k, (s.select service nodes sessionKey).2.sessions = (Store.get k s.sessions).2 := by
  by_cases hn : nodes = []
  · exact .inl (by simp [select, hn])
  · cases sessionKey with
    | none => exact .inl (s.sessions_select_none service nodes)
    | some k => exact .inr ⟨_, s.sessions_select_some hn service k⟩

/-- Where reading changes nothing that a store holds, selecting does not either. -/
theorem live?_select_of_get [StoreView σ SessionRecord] {x : String}
    (hget : ∀ k, live? (Store.get k s.sessions).2 x = live? s.sessions x) (service : Service)
    (nodes : List Node) (sessionKey : Option String) :
    live? (s.select service nodes sessionKey).2.sessions x = live? s.sessions x := by
  rcases s.sessions_select service nodes sessionKey with he | ⟨k, he⟩
  · rw [he]
  · rw [he, hget]

/-- Where there are nodes, a selection begins. -/
theorem exists_select (hn : nodes ≠ []) (s : Selector σ) (service : Service)
    (sessionKey : Option String) : ∃ h, (s.select service nodes sessionKey).1 = some h := by
  cases hf : s.found? service nodes sessionKey with
  | none => exact ⟨_, select_of_notFound hn hf⟩
  | some r => exact ⟨_, select_of_found hn hf⟩

theorem serves_fresh (hlt : h.index < nodes.length)
    (hh : h = fresh service nodes.length
      (sessionKey.map (Session.storeKey service.id service.generation)) sessionKey h.index) :
    h.Serves service nodes sessionKey := by
  rw [hh]
  refine ⟨rfl, rfl, rfl, rfl, hlt, ?_⟩
  intro r hr
  obtain ⟨k, rfl, rfl⟩ := Option.map_eq_some_iff.mp hr
  exact ⟨rfl, rfl⟩

/-- A selection serves its request from the start, if the record found is the session's own. -/
theorem serves_select (hsel : (s.select service nodes sessionKey).1 = some h)
    (hown : ∀ r, s.found? service nodes sessionKey = some r → sessionKey = some r.sessionKey) :
    h.Serves service nodes sessionKey := by
  by_cases hn : nodes = []
  · simp [select, hn] at hsel
  · cases hf : s.found? service nodes sessionKey with
    | none =>
      rw [select_of_notFound hn hf, Option.some.injEq] at hsel
      have hpos : 0 < nodes.length := List.length_pos_iff.mpr hn
      refine serves_fresh ?_ ?_
      · rw [← hsel]
        exact Rotation.position_lt _ hpos
      · rw [← hsel]
        rfl
    | some r =>
      rw [select_of_found hn hf, Option.some.injEq] at hsel
      obtain ⟨k, rfl, -, hlt⟩ := found?_eq_some_iff.mp hf
      rw [← hsel]
      refine ⟨rfl, rfl, rfl, rfl, hlt, ?_⟩
      intro r' hr'
      obtain rfl : r = r' := by simpa [established] using hr'
      exact ⟨hown r hf, rfl⟩

/-- A selection is of an established session exactly if a record was found, and goes to the node of
that record. -/
theorem found_of_select (hsel : (s.select service nodes sessionKey).1 = some h)
    (he : h.firstTime = false) :
    ∃ r, s.found? service nodes sessionKey = some r ∧ r.nodeIndex = h.index := by
  by_cases hn : nodes = []
  · simp [select, hn] at hsel
  · cases hf : s.found? service nodes sessionKey with
    | none =>
      rw [select_of_notFound hn hf, Option.some.injEq] at hsel
      rw [← hsel] at he
      simp [fresh] at he
    | some r =>
      rw [select_of_found hn hf, Option.some.injEq] at hsel
      exact ⟨r, rfl, by rw [← hsel]; rfl⟩

/-! ### After an attempt -/

theorem fail_retry (hf : (s.fail h).1 = .retry h') : h.firstTime = true ∧ h.retry? = some h' := by
  rw [fail] at hf
  split at hf
  · simp at hf
  · rename_i hft
    refine ⟨by simpa using hft, ?_⟩
    split at hf
    · rename_i next hnext
      simp only [Next.retry.injEq] at hf
      rw [hnext, hf]
    · simp at hf

theorem serves_reportUnreachable (hs : h.Serves service nodes sessionKey)
    (hr : (s.reportUnreachable h).1 = .retry h') : h'.Serves service nodes sessionKey :=
  hs.retried (fail_retry hr).2

theorem serves_report (hs : h.Serves service nodes sessionKey) {status : Http.Status}
    {affinity : Option String} (hr : (s.report h status affinity).1 = .retry h') :
    h'.Serves service nodes sessionKey := by
  rw [report] at hr
  split at hr
  · exact (hs.renamed affinity).retried (fail_retry hr).2
  · simp at hr

/-! ### What no report changes -/

/-- The lifetime of bindings is as it was, and no ticket was drawn. -/
structure Undrawn (s s' : Selector σ) : Prop where
  ttlMs : s'.ttlMs = s.ttlMs
  rotations : s'.rotations = s.rotations

theorem undrawn_evict (s : Selector σ) (h : Handle) : s.Undrawn (s.evict h) := by
  rw [evict]
  cases h.storeKey <;> exact ⟨rfl, rfl⟩

theorem undrawn_fail (s : Selector σ) (h : Handle) : s.Undrawn (s.fail h).2 := by
  rw [fail]
  split
  · exact s.undrawn_evict h
  · split <;> exact ⟨rfl, rfl⟩

theorem undrawn_putAlias (s : Selector σ) (h : Handle) (r : SessionRecord) :
    s.Undrawn (s.putAlias h r) := by
  rw [putAlias]
  cases r.alias? <;> exact ⟨rfl, rfl⟩

theorem undrawn_bindFirst (s : Selector σ) (h : Handle) (k : String) (r : SessionRecord) :
    s.Undrawn (s.bindFirst h k r) := by
  simp only [bindFirst]
  have hthen := undrawn_putAlias
    { s with sessions := (Store.update k s.ttlMs (h.firstBinding r) s.sessions).2 } h r
  split
  · exact ⟨rfl, rfl⟩
  · exact ⟨hthen.ttlMs, hthen.rotations⟩
  · split
    · exact ⟨hthen.ttlMs, hthen.rotations⟩
    · exact ⟨rfl, rfl⟩

theorem undrawn_bindAgain (s : Selector σ) (h : Handle) (k : String) (r : SessionRecord) :
    s.Undrawn (s.bindAgain h k r) := by
  simp only [bindAgain]
  have hthen := undrawn_putAlias { s with sessions := (Store.put k r s.ttlMs s.sessions).2 } h r
  split
  · exact ⟨rfl, rfl⟩
  · exact ⟨hthen.ttlMs, hthen.rotations⟩

theorem undrawn_persist (s : Selector σ) (h : Handle) : s.Undrawn (s.persist h) := by
  rw [persist]
  split
  · split
    · exact s.undrawn_bindFirst h _ _
    · exact s.undrawn_bindAgain h _ _
  · exact ⟨rfl, rfl⟩

theorem undrawn_report (s : Selector σ) (h : Handle) (status : Http.Status)
    (affinity : Option String) : s.Undrawn (s.report h status affinity).2 := by
  rw [report]
  split
  · exact s.undrawn_fail _
  · exact s.undrawn_persist _

end Selector

/-! ### What is written -/

namespace HonestStore

variable {σ : Type} [Store σ SessionRecord] [StoreView σ SessionRecord] [HonestStore σ]
  {s : Selector σ} {service : Service} {nodes : List Node} {sessionKey : Option String}
  {h : Handle} {x : String} {w : SessionRecord}

theorem live_select (hl : live? (s.select service nodes sessionKey).2.sessions x = some w) :
    live? s.sessions x = some w := by
  rcases s.sessions_select service nodes sessionKey with he | ⟨k, he⟩
  · rwa [he] at hl
  · rw [he] at hl
    exact live_get hl

theorem live_of_found {r : SessionRecord} (hf : s.found? service nodes sessionKey = some r) :
    ∃ k, sessionKey = some k ∧ r.nodeIndex < nodes.length ∧
      live? s.sessions (Session.storeKey service.id service.generation k) = some r := by
  obtain ⟨k, hk, hget, hlt⟩ := Selector.found?_eq_some_iff.mp hf
  exact ⟨k, hk, hlt, live_of_get hget⟩

theorem live_fail (hl : live? (s.fail h).2.sessions x = some w) :
    live? s.sessions x = some w := by
  rw [Selector.fail] at hl
  split at hl
  · rw [Selector.evict] at hl
    split at hl
    · exact hl
    · exact live_remove hl
  · split at hl <;> exact hl

theorem live_putAlias {r : SessionRecord} (hr : h.record = some r)
    (hl : live? (s.putAlias h r).sessions x = some w) :
    h.Writes x w ∨ live? s.sessions x = some w := by
  rw [Selector.putAlias] at hl
  split at hl
  · exact .inr hl
  · rename_i a ha
    rcases live_put hl with ⟨rfl, rfl⟩ | hl
    · exact .inl (.inr ⟨r, hr, ha, rfl⟩)
    · exact .inr hl

/-- A first answer writes the session's record, or finds one there. -/
theorem live_bindFirst {k : String} {r : SessionRecord} (hk : h.storeKey = some k)
    (hr : h.record = some r) (hl : live? (s.bindFirst h k r).sessions x = some w) :
    h.Writes x w ∨ live? s.sessions x = some w := by
  have own : live? (Store.update k s.ttlMs (h.firstBinding r) s.sessions).2 x = some w →
      h.Writes x w ∨ live? s.sessions x = some w := by
    intro hl
    rcases live_update hl with ⟨rfl, seen, hseen⟩ | hl
    · refine .inl (.inl ⟨hk, ?_⟩)
      rw [hr]
      unfold Handle.firstBinding at hseen
      split at hseen
      · split at hseen
        · simp at hseen
        · exact hseen
      · exact hseen
    · exact .inr hl
  simp only [Selector.bindFirst] at hl
  split at hl
  · exact own hl
  · exact (live_putAlias hr hl).elim .inl own
  · split at hl
    · exact (live_putAlias hr hl).elim .inl own
    · exact own hl

theorem live_bindAgain {k : String} {r : SessionRecord} (hk : h.storeKey = some k)
    (hr : h.record = some r) (hl : live? (s.bindAgain h k r).sessions x = some w) :
    h.Writes x w ∨ live? s.sessions x = some w := by
  have own : live? (Store.put k r s.ttlMs s.sessions).2 x = some w →
      h.Writes x w ∨ live? s.sessions x = some w := by
    intro hl
    rcases live_put hl with ⟨rfl, rfl⟩ | hl
    · exact .inl (.inl ⟨hk, hr⟩)
    · exact .inr hl
  simp only [Selector.bindAgain] at hl
  split at hl
  · exact own hl
  · exact (live_putAlias hr hl).elim .inl own

theorem live_persist (hl : live? (s.persist h).sessions x = some w) :
    h.Writes x w ∨ live? s.sessions x = some w := by
  rw [Selector.persist] at hl
  split at hl
  · rename_i k r hk hr
    split at hl
    · exact live_bindFirst hk hr hl
    · exact live_bindAgain hk hr hl
  · exact .inr hl

/-- An answered attempt writes nothing if it failed, and otherwise no more than the entries of its
session. -/
theorem live_report {status : Http.Status} {affinity : Option String}
    (hl : live? (s.report h status affinity).2.sessions x = some w) :
    (status.isServerError = false ∧ (h.renamed affinity).Writes x w) ∨
      live? s.sessions x = some w := by
  rw [Selector.report] at hl
  split at hl
  · exact .inr (live_fail hl)
  · rename_i hst
    rcases live_persist hl with hw | hl
    · exact .inl ⟨by simpa using hst, hw⟩
    · exact .inr hl

end HonestStore

end Gatehouse
