import Gatehouse.Proofs.Overlap

/-!
# The first binding wins

Several requests of one session may begin before the session is bound, or while the store does not
answer. Each of them is then taken for the first of its session, goes to a node of its own, and
tries to bind the session when it gets an answer. This file shows that the first one to do so wins,
however the others end: their reports neither change the record of the session nor, from another node, file
the session under a new value.

## Implementation notes

The store is a `SteadyStore`, so any call may fail, be it before or after it took effect. Only the
selections of requests without a binding are reported on; what the reports on established sessions
do is the subject of the file on overlapping requests.

## Main definitions

* `Overlap.BoundTo` — the session has a record of a node that exists
* `Overlap.Persists` — the store makes the update by which an answer binds the session
* `Overlap.Keeps` — the session is bound, stays so, and is found to be whenever the store answers

## Main results

* `Overlap.BoundTo.steps` — a session that is bound keeps its record
* `Overlap.first_binding_wins` — the first answer that is persisted decides
-/

namespace Gatehouse

open StoreView (live?)

namespace Overlap

section FirstTime

variable {σ : Type} [Store σ SessionRecord] [StoreView σ SessionRecord] {service : Service}
  {k : String} {w w' : Overlap σ} {p : Pending} {r : SessionRecord}

/-- Requests of a session, of which only those without a binding are reported on. -/
abbrev Racing (service : Service) (k : String) : Overlap σ → Overlap σ → Prop :=
  Relation.ReflTransGen (Step service k fun h => h.firstTime = true)

/-- The session has the record `r`, of a node that exists. -/
def BoundTo (w : Overlap σ) (service : Service) (k : String) (r : SessionRecord) : Prop :=
  w.binding? service k = some r ∧ r.nodeIndex < service.nodes.length

/-- The store makes the update by which an answer binds the session. -/
def Persists (w : Overlap σ) (service : Service) (k : String) (p : Pending)
    (affinity : Option String) : Prop :=
  ∃ r seen, (p.handle.renamed affinity).record = some r ∧
    (Store.update (service.storeKey k) w.selector.ttlMs
      ((p.handle.renamed affinity).firstBinding r) w.selector.sessions).1 = .applied seen

/-- The session has the record `r` from now on, and a request of it goes to the node of that record
whenever the store answers. -/
def Keeps (w : Overlap σ) (service : Service) (k : String) (r : SessionRecord) : Prop :=
  ∀ w', Racing service k w w' → w'.BoundTo service k r ∧
    ∀ found, (Store.get (service.storeKey k) w'.selector.sessions).1 = .ok found →
      ∃ h, (w'.selector.select service service.nodes (some k)).1 = some h ∧
        h.firstTime = false ∧ h.index = r.nodeIndex

variable [SteadyStore σ]

theorem BoundTo.begin (hb : w.BoundTo service k r) : (w.begin service k).BoundTo service k r := by
  obtain ⟨hr, hlt⟩ := hb
  exact ⟨(SteadyStore.live?_select service service.nodes (some k) _).trans hr, hlt⟩

/-- A first answer to a session that is bound changes nothing of its record, and nothing at all if it
comes from another node. -/
theorem BoundTo.persist (hb : w.BoundTo service k r) (hs : w.Serving service k)
    (hp : p ∈ w.pending) (hfirst : p.handle.firstTime = true) (affinity : Option String) :
    live? (w.selector.persist (p.handle.renamed affinity)).sessions (service.storeKey k) = some r ∧
      (p.handle.index ≠ r.nodeIndex → ∀ x,
        live? (w.selector.persist (p.handle.renamed affinity)).sessions x =
          live? w.selector.sessions x) := by
  obtain ⟨hr, hlt⟩ := hb
  have hbinds := (hs.binds p hp).renamed affinity
  have hfirst' : (p.handle.renamed affinity).firstTime = true := by
    rw [Handle.firstTime_renamed, hfirst]
  have hkept := SteadyStore.live?_persist_of_bound hbinds hfirst' hs.ttl_pos hr hlt
  rwa [Handle.index_renamed] at hkept

/-- No report on a request without a binding changes the record of a session that is bound. -/
theorem BoundTo.reported (hb : w.BoundTo service k r) (hs : w.Serving service k)
    (hp : p ∈ w.pending) (hfirst : p.handle.firstTime = true) (h : w.Reported p w') :
    w'.BoundTo service k r := by
  obtain ⟨affinity, rfl | rfl⟩ := h.cases
  · have hfirst' : (p.handle.renamed affinity).firstTime = true := by
      rw [Handle.firstTime_renamed, hfirst]
    have hsessions := (Selector.fail_firstTime hfirst' w.selector).1
    exact ⟨(congrArg (live? · _) hsessions).trans hb.1, hb.2⟩
  · exact ⟨(hb.persist hs hp hfirst affinity).1, hb.2⟩

/-- A session that is bound keeps its record. -/
theorem BoundTo.steps (hb : w.BoundTo service k r) (hs : w.Serving service k)
    (h : Racing service k w w') : w'.BoundTo service k r := by
  induction h with
  | refl => exact hb
  | tail hsteps hstep ih =>
    cases hstep with
    | select => exact ih.begin
    | report p w' hp hfirst h => exact ih.reported (hs.steps hsteps) hp hfirst h

/-- A session that is bound is found whenever the store answers. -/
theorem BoundTo.select (hb : w.BoundTo service k r) {found : Option SessionRecord}
    (hget : (Store.get (service.storeKey k) w.selector.sessions).1 = .ok found) :
    ∃ h, (w.selector.select service service.nodes (some k)).1 = some h ∧ h.firstTime = false ∧
      h.index = r.nodeIndex := by
  obtain ⟨hr, hlt⟩ := hb
  have hn : service.nodes ≠ [] := List.length_pos_iff.mp (Nat.zero_lt_of_lt hlt)
  have hfound : w.selector.found? service service.nodes (some k) = some r := by
    have hsome : found = some r := (SteadyStore.eq_of_get hget).trans hr
    exact Selector.found?_eq_some_iff.mpr ⟨k, rfl, hget.trans (congrArg _ hsome), hlt⟩
  exact ⟨_, Selector.select_of_found hn hfound, rfl, rfl⟩

theorem BoundTo.keeps (hb : w.BoundTo service k r) (hs : w.Serving service k) :
    w.Keeps service k r := by
  intro w' hsteps
  have hb' := hb.steps hs hsteps
  exact ⟨hb', fun _ hget => hb'.select hget⟩

/-- A first answer that is persisted binds a session that is not bound, to its own node. -/
theorem boundTo_answer (hs : w.Serving service k) (hp : p ∈ w.pending)
    (hfirst : p.handle.firstTime = true) (hfree : ∀ r, ¬w.BoundTo service k r)
    {status : Http.Status} {affinity : Option String} (hok : status.isServerError = false)
    (hpersists : w.Persists service k p affinity) :
    ∃ r, (w.answer p status affinity).BoundTo service k r ∧ r.nodeIndex = p.handle.index := by
  obtain ⟨r, seen, hr, hmade⟩ := hpersists
  have hfirst' : (p.handle.renamed affinity).firstTime = true := by
    rw [Handle.firstTime_renamed, hfirst]
  have hbinds := (hs.binds p hp).renamed affinity
  have hunbound (e : SessionRecord)
      (he : live? w.selector.sessions (service.storeKey k) = some e) :
      ¬e.nodeIndex < service.nodes.length :=
    fun hlt => hfree e ⟨he, hlt⟩
  have hwritten :=
    SteadyStore.live?_persist_of_unbound hbinds hfirst' hs.ttl_pos hunbound hr hmade
  obtain ⟨r', hr', hi, -⟩ := hbinds.record
  obtain rfl : r = r' := Option.some.inj (hr.symm.trans hr')
  have hlt : r.nodeIndex < service.nodes.length := hi ▸ hbinds.index_lt
  refine ⟨r, ⟨?_, hlt⟩, hi.trans (Handle.index_renamed _ _)⟩
  rw [answer, Selector.report, if_neg (by rw [hok]; decide)]
  exact hwritten

/-- **The first binding wins.** Once a session is bound, it keeps its record whatever the requests
that began without a binding come to, and an answer from another node changes nothing at all in the
store. While it is not bound, an answer that is persisted binds it, for good, to the node that gave
the answer. -/
theorem first_binding_wins (hw : w.Reachable service k fun h => h.firstTime = true) :
    (∀ r, w.BoundTo service k r → w.Keeps service k r ∧
      ∀ p ∈ w.pending, p.handle.firstTime = true → p.handle.index ≠ r.nodeIndex →
        ∀ status affinity, status.isServerError = false →
          ∀ x, live? (w.answer p status affinity).selector.sessions x =
            live? w.selector.sessions x) ∧
    ((∀ r, ¬w.BoundTo service k r) →
      ∀ p ∈ w.pending, p.handle.firstTime = true →
        ∀ status affinity, status.isServerError = false → w.Persists service k p affinity →
          ∃ r, r.nodeIndex = p.handle.index ∧ (w.answer p status affinity).Keeps service k r) := by
  obtain ⟨s, httl, hsteps⟩ := hw
  have hs : w.Serving service k := (serving_start httl).steps hsteps
  constructor
  · intro r hb
    refine ⟨hb.keeps hs, fun p hp hfirst hne status affinity hok x => ?_⟩
    rw [answer, Selector.report, if_neg (by rw [hok]; decide)]
    exact (hb.persist hs hp hfirst affinity).2 hne x
  · intro hfree p hp hfirst status affinity hok hpersists
    obtain ⟨r, hb, hi⟩ := boundTo_answer hs hp hfirst hfree hok hpersists
    exact ⟨r, hi, hb.keeps (hs.reported hp (.answered status affinity))⟩

end FirstTime

/-! ### A race

Two requests of a new session begin; for the second one the store does not answer. The first one is
answered and persisted. The answer to the second one comes from another node, with a new value, and
the store makes the update but its answer is lost. -/

namespace Race

def service : Service := { id := "svc", nodes := [.plain "a" 80, .plain "b" 81] }

def key : String := "aff=k"

def idle : Selector (RemoteStore (MemoryStore SessionRecord)) :=
  Selector.start ⟨⟨ExpiringMap.empty, 0⟩, [.answered, .lost, .answered, .unanswered]⟩ 1000

/-- The selection of a request without a binding. -/
def first (index : Nat) : Pending :=
  ⟨Selector.fresh service 2 (some (service.storeKey key)) (some key) index, 0⟩

def begun : Overlap (RemoteStore (MemoryStore SessionRecord)) :=
  ((start idle).begin service key).begin service key

def bound : Overlap (RemoteStore (MemoryStore SessionRecord)) := begun.answer (first 0) .ok none

theorem racing_begun : Racing service key (start idle) begun :=
  (Relation.ReflTransGen.refl.tail .select).tail .select

theorem racing_bound : Racing service key (start idle) bound :=
  racing_begun.tail (.report (first 0) _ (by decide) rfl (.answered .ok none))

end Race

theorem first_binding_wins_race :
    Race.begun.Reachable Race.service Race.key (fun h => h.firstTime = true) ∧
      (∀ r, ¬Race.begun.BoundTo Race.service Race.key r) ∧
      (∃ r, r.nodeIndex = 0 ∧ Race.bound.Keeps Race.service Race.key r) ∧
      Race.bound.BoundTo Race.service Race.key ⟨Race.key, 0, "k"⟩ ∧
      Race.first 1 ∈ Race.bound.pending ∧
      ∀ x, live? (Race.bound.answer (Race.first 1) .ok (some "new")).selector.sessions x =
        live? Race.bound.selector.sessions x := by
  have hbegun : Race.begun.Reachable Race.service Race.key fun h => h.firstTime = true :=
    ⟨Race.idle, by decide, Race.racing_begun⟩
  have hfree (r : SessionRecord) : ¬Race.begun.BoundTo Race.service Race.key r := by
    rintro ⟨hr, -⟩
    have hnone : Race.begun.binding? Race.service Race.key = none := rfl
    rw [hnone] at hr
    exact absurd hr (by simp)
  have hpersists : Race.begun.Persists Race.service Race.key (Race.first 0) none :=
    ⟨⟨Race.key, 0, "k"⟩, none, rfl, rfl⟩
  obtain ⟨-, hwins⟩ := first_binding_wins hbegun
  obtain ⟨r, hi, hkeeps⟩ := hwins hfree (Race.first 0) (by decide) rfl .ok none rfl hpersists
  have hbound : Race.bound.BoundTo Race.service Race.key ⟨Race.key, 0, "k"⟩ := ⟨by rfl, by decide⟩
  have hmem : Race.first 1 ∈ Race.bound.pending := by decide
  obtain ⟨hloses, -⟩ := first_binding_wins ⟨Race.idle, by decide, Race.racing_bound⟩
  obtain ⟨-, hother⟩ := hloses _ hbound
  exact ⟨hbegun, hfree, ⟨r, hi, hkeeps⟩, hbound, hmem,
    hother _ hmem rfl (by decide) .ok (some "new") rfl⟩

end Overlap

end Gatehouse
