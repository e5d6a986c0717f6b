import Gatehouse.Proofs.Affinity
import Mathlib.Logic.Relation

/-!
# Overlapping requests of one session

Requests of one session may overlap. Each of them finds the binding of the session when it begins,
and when one of its attempts is reported the binding may be another one. This file follows the steps
of such requests in any order.

What a report on an established session writes does not depend on the binding that there is by then:
a success binds the session to the node of the selection, and a failure leaves it without a binding.
So a report that comes late, after the session lost its binding and was bound to another node,
undoes the newer binding. As long as no report is late, an established selection and its session are at the
same node.

## Implementation notes

`Overlap` counts, besides what the gateway keeps, how often the session lost its binding, and each
selection remembers that number from when it began; a selection that remembers a smaller one is
late. The store may hold anything at the start: a record that is found for the session need not be
one that was written for it.

## Main definitions

* `Handle.Binds` — what a selection keeps of its session, whatever record it found
* `Overlap`, `Overlap.Step`, `Overlap.Reachable` — the runs
* `Overlap.Late` — selections of an established session that has lost its binding since
* `Overlap.Sound` — the invariant: without late reports, established selections that are not late
  are at the node of the session

## Main results

* `SteadyStore.live?_persist_of_bound`, `live?_persist_of_unbound` — what a first answer does to a
  session that is bound, and to one that is not
* `Overlap.Reachable.sound` — the invariant holds in every run
* `Overlap.report_on_established` — when a report leaves the binding to another node alone
* `Overlap.newer_binding_undone` — a run in which it does not
-/

namespace Gatehouse

open StoreView (live?)

/-! ### Selections of one session -/

/-- What a selection keeps of the session `k` that it is for, whatever record it found. -/
structure Handle.Binds (h : Handle) (service : Service) (k : String) : Prop where
  serviceId : h.serviceId = service.id
  generation : h.generation = service.generation
  storeKey : h.storeKey = some (service.storeKey k)
  nodeCount : h.nodeCount = service.nodes.length
  index_lt : h.index < service.nodes.length
  record : ∃ r, h.record = some r ∧ r.nodeIndex = h.index ∧ (h.firstTime = true → r.sessionKey = k)

@[simp] theorem Handle.index_renamed (h : Handle) (affinity : Option String) :
    (h.renamed affinity).index = h.index := by
  rw [renamed_eq]

namespace Handle.Binds

variable {h h' : Handle} {service : Service} {k : String}

theorem renamed (hb : h.Binds service k) (affinity : Option String) :
    (h.renamed affinity).Binds service k := by
  obtain ⟨r, hr, hi, hkey⟩ := hb.record
  rw [renamed_eq]
  refine ⟨hb.serviceId, hb.generation, hb.storeKey, hb.nodeCount, hb.index_lt, ?_⟩
  exact ⟨{ r with value := affinity.getD r.value }, by rw [hr]; rfl, hi, hkey⟩

theorem retried (hb : h.Binds service k) (hretry : h.retry? = some h') : h'.Binds service k := by
  obtain ⟨r, hr, -, hkey⟩ := hb.record
  obtain ⟨-, -, next, hnext, rfl⟩ := retry?_eq_some_iff.mp hretry
  have hlt : next < service.nodes.length := by
    have hin : h.index < h.nodeCount := by rw [hb.nodeCount]; exact hb.index_lt
    rw [← hb.nodeCount]
    exact nextIndex?_lt hin hnext
  refine ⟨hb.serviceId, hb.generation, hb.storeKey, hb.nodeCount, hlt, ?_⟩
  exact ⟨{ r with nodeIndex := next }, by rw [hr]; rfl, rfl, hkey⟩

end Handle.Binds

/-- A selection for a session is one from its beginning. -/
theorem Selector.binds_select {σ : Type} [Store σ SessionRecord] {s : Selector σ}
    {service : Service} {k : String} {h : Handle}
    (hsel : (s.select service service.nodes (some k)).1 = some h) : h.Binds service k := by
  have hn : service.nodes ≠ [] := by
    intro hn
    simp [select, hn] at hsel
  cases hf : s.found? service service.nodes (some k) with
  | none =>
    rw [select_of_notFound hn hf, Option.some.injEq] at hsel
    subst hsel
    have hlt : s.turn service service.nodes < service.nodes.length :=
      Rotation.position_lt _ (List.length_pos_iff.mpr hn)
    exact ⟨rfl, rfl, rfl, rfl, hlt, _, rfl, rfl, fun _ => rfl⟩
  | some r =>
    rw [select_of_found hn hf, Option.some.injEq] at hsel
    subst hsel
    obtain ⟨k', -, -, hlt⟩ := found?_eq_some_iff.mp hf
    exact ⟨rfl, rfl, rfl, rfl, hlt, r, rfl, rfl, fun hfirst => Bool.noConfusion hfirst⟩

namespace Selector

variable {σ : Type} [Store σ SessionRecord] {s : Selector σ} {h : Handle}

/-- A failure of a request without a binding takes no binding away. -/
theorem fail_firstTime (hfirst : h.firstTime = true) (s : Selector σ) :
    (s.fail h).2.sessions = s.sessions ∧ (s.fail h).1 ≠ .done .evicted := by
  rcases fail_first hfirst s with hfail | ⟨h', s', hfail, -, hsessions, -⟩
  · rw [hfail]
    exact ⟨rfl, by simp⟩
  · rw [hfail]
    exact ⟨hsessions, by simp⟩

end Selector

/-! ### What a successful attempt does to the binding -/

section Persist

variable {σ : Type} [Store σ SessionRecord] [StoreView σ SessionRecord] {s : Selector σ}
  {h : Handle} {service : Service} {k : String} {r e : SessionRecord}

namespace SteadyStore

variable [SteadyStore σ]

/-- Filing a session under a new value does not touch its own record. -/
theorem live?_putAlias_own (hb : h.Binds service k) (hkey : r.sessionKey = k)
    (httl : 0 < s.ttlMs) (he : live? s.sessions (service.storeKey k) = some e) :
    live? (s.putAlias h r).sessions (service.storeKey k) = some e := by
  rw [Selector.putAlias]
  cases ha : r.alias? with
  | none => exact he
  | some a =>
    have hne : service.storeKey k ≠ Session.storeKey h.serviceId h.generation a.sessionKey := by
      rw [hb.serviceId, hb.generation, ← hkey]
      intro heq
      exact SessionRecord.sessionKey_ne_of_alias? ha (Session.storeKey_right_inj.mp heq).symm
    rcases put_cases (Session.storeKey h.serviceId h.generation a.sessionKey) a s.sessions httl
      with hput | ⟨-, hput⟩
    · exact (hput _).trans ((if_neg hne).trans he)
    · exact (hput _).trans he

/-- A first answer to a session that is bound leaves its record alone. From another node it leaves
everything alone. -/
theorem live?_persist_of_bound (hb : h.Binds service k) (hfirst : h.firstTime = true)
    (httl : 0 < s.ttlMs) (he : live? s.sessions (service.storeKey k) = some e)
    (hlt : e.nodeIndex < service.nodes.length) :
    live? (s.persist h).sessions (service.storeKey k) = some e ∧
      (h.index ≠ e.nodeIndex → ∀ x, live? (s.persist h).sessions x = live? s.sessions x) := by
  obtain ⟨r, hr, hi, hkey⟩ := hb.record
  have hlt' : e.nodeIndex < h.nodeCount := by
    rw [hb.nodeCount]
    exact hlt
  have hkept (x : String) :
      live? (Store.update (service.storeKey k) s.ttlMs (h.firstBinding r) s.sessions).2 x =
        live? s.sessions x := by
    have hnone : h.firstBinding r (some e) = none := if_pos hlt'
    rcases update_cases (service.storeKey k) (h.firstBinding r) s.sessions httl with
      hup | ⟨-, hup⟩
    · rw [hup x, he, hnone]
      by_cases hx : x = service.storeKey k
      · rw [if_pos hx, hx, he]
        rfl
      · rw [if_neg hx]
    · exact hup x
  rw [Selector.persist, hb.storeKey, hr]
  simp only [hfirst, if_true, Selector.bindFirst]
  rcases update_fst (service.storeKey k) s.ttlMs (h.firstBinding r) s.sessions with
    happlied | ⟨error, hfailed⟩
  · have hbound : h.boundIndex r (live? s.sessions (service.storeKey k)) = e.nodeIndex := by
      rw [he]
      exact if_pos hlt'
    simp only [happlied, hbound]
    by_cases hsame : e.nodeIndex = r.nodeIndex
    · rw [if_pos hsame]
      refine ⟨?_, fun hne => absurd (hi.symm.trans hsame.symm) hne⟩
      exact live?_putAlias_own hb (hkey hfirst) httl ((hkept _).trans he)
    · rw [if_neg hsame]
      exact ⟨(hkept _).trans he, fun _ => hkept⟩
  · simp only [hfailed]
    exact ⟨(hkept _).trans he, fun _ => hkept⟩

/-- A first answer to a session that is not bound binds it, if the store makes the update. -/
theorem live?_persist_of_unbound (hb : h.Binds service k) (hfirst : h.firstTime = true)
    (httl : 0 < s.ttlMs)
    (hfree : ∀ e, live? s.sessions (service.storeKey k) = some e →
      ¬e.nodeIndex < service.nodes.length)
    (hr : h.record = some r) {seen : Option SessionRecord}
    (hmade : (Store.update (service.storeKey k) s.ttlMs (h.firstBinding r) s.sessions).1 =
      .applied seen) :
    live? (s.persist h).sessions (service.storeKey k) = some r := by
  obtain ⟨r', hr', -, hkey⟩ := hb.record
  obtain rfl : r = r' := Option.some.inj (hr.symm.trans hr')
  have hwrites : h.firstBinding r (live? s.sessions (service.storeKey k)) = some r := by
    cases he : live? s.sessions (service.storeKey k) with
    | none => rfl
    | some e => exact if_neg (by rw [hb.nodeCount]; exact hfree e he)
  have hwritten :
      live? (Store.update (service.storeKey k) s.ttlMs (h.firstBinding r) s.sessions).2
        (service.storeKey k) = some r := by
    rcases update_cases (service.storeKey k) (h.firstBinding r) s.sessions httl with
      hup | ⟨⟨error, hfailed⟩, -⟩
    · rw [hup, if_pos rfl, hwrites]
      rfl
    · rw [hmade] at hfailed
      exact absurd hfailed (by simp)
  rw [Selector.persist, hb.storeKey, hr]
  simp only [hfirst, if_true, Selector.bindFirst, hmade]
  split
  · exact live?_putAlias_own hb (hkey hfirst) httl hwritten
  · exact hwritten

end SteadyStore

/-- An answer to an established session binds it to the node of the selection. -/
theorem ReliableStore.live?_persist_established [ReliableStore σ] (hb : h.Binds service k)
    (hest : h.firstTime = false) (httl : 0 < s.ttlMs) :
    ∃ r, live? (s.persist h).sessions (service.storeKey k) = some r ∧ r.nodeIndex = h.index := by
  obtain ⟨r, hr, hi, -⟩ := hb.record
  -- The record may name another session, and then this one may be filed a second time.
  have halias (s' : Selector σ) (httl' : 0 < s'.ttlMs)
      (hown : live? s'.sessions (service.storeKey k) = some r) :
      ∃ r', live? (s'.putAlias h r).sessions (service.storeKey k) = some r' ∧
        r'.nodeIndex = h.index := by
    rw [live?_putAlias httl']
    cases ha : r.alias? with
    | none => exact ⟨r, hown, hi⟩
    | some a =>
      simp only
      split
      · exact ⟨a, rfl, (SessionRecord.nodeIndex_of_alias? ha).trans hi⟩
      · exact ⟨r, hown, hi⟩
  rw [Selector.persist, hb.storeKey, hr]
  simp only [hest, Bool.false_eq_true, if_false, Selector.bindAgain, put_fst]
  refine halias _ httl ?_
  rw [live?_put _ _ _ _ httl, if_pos rfl]

end Persist

/-! ### Runs -/

/-- A selection under way, and how often its session had lost its binding when it began. -/
structure Pending where
  handle : Handle
  since : Nat
  deriving DecidableEq

/-- Requests of one session under way, and what happened so far. -/
structure Overlap (σ : Type) where
  selector : Selector σ
  pending : List Pending
  /-- How often the session lost its binding. -/
  evictions : Nat
  /-- How many reports on selections were late. -/
  late : Nat

namespace Overlap

section Runs

variable {σ : Type}

/-- Before any request. -/
def start (selector : Selector σ) : Overlap σ := ⟨selector, [], 0, 0⟩

/-- The session was established when the selection began, and has lost its binding since. -/
def Late (w : Overlap σ) (p : Pending) : Prop :=
  p.handle.firstTime = false ∧ p.since < w.evictions

instance (w : Overlap σ) (p : Pending) : Decidable (w.Late p) :=
  inferInstanceAs (Decidable (_ ∧ _))

/-- A selection goes on, or ends, after an attempt. -/
def proceed (w : Overlap σ) (p : Pending) (outcome : Next × Selector σ) : Overlap σ where
  selector := outcome.2
  pending := match outcome.1 with
    | .retry h => { p with handle := h } :: w.pending.erase p
    | .done _ => w.pending.erase p
  evictions := if outcome.1 = .done .evicted then w.evictions + 1 else w.evictions
  late := if w.Late p then w.late + 1 else w.late

variable {service : Service} {k : String} {Reports : Handle → Prop} {w w' : Overlap σ}
  {p q : Pending}

theorem mem_pending_proceed {outcome : Next × Selector σ}
    (hq : q ∈ (w.proceed p outcome).pending) :
    q ∈ w.pending ∨ ∃ h, outcome.1 = .retry h ∧ q = { p with handle := h } := by
  simp only [proceed] at hq
  split at hq
  · rename_i h hnext
    rcases List.mem_cons.mp hq with rfl | hq
    · exact .inr ⟨h, hnext, rfl⟩
    · exact .inl (List.mem_of_mem_erase hq)
  · exact .inl (List.mem_of_mem_erase hq)

theorem evictions_le_proceed (w : Overlap σ) (p : Pending) (outcome : Next × Selector σ) :
    w.evictions ≤ (w.proceed p outcome).evictions := by
  simp only [proceed]
  split <;> omega

/-- If no report was late until after this one, then neither was this one. -/
theorem late_proceed {outcome : Next × Selector σ} (h : (w.proceed p outcome).late = 0) :
    w.late = 0 ∧ ¬w.Late p := by
  simp only [proceed] at h
  split at h
  · omega
  · rename_i hnot
    exact ⟨h, hnot⟩

/-- What holds of the selections under way, on any store. -/
structure Serving (service : Service) (k : String) (w : Overlap σ) : Prop where
  ttl_pos : 0 < w.selector.ttlMs
  binds : ∀ p ∈ w.pending, p.handle.Binds service k
  since_le : ∀ p ∈ w.pending, p.since ≤ w.evictions

theorem serving_start {s : Selector σ} (httl : 0 < s.ttlMs) : (start s).Serving service k :=
  ⟨httl, by simp [start], by simp [start]⟩

theorem Serving.proceed (hw : w.Serving service k) (hp : p ∈ w.pending)
    {outcome : Next × Selector σ} (hlife : outcome.2.ttlMs = w.selector.ttlMs)
    (hretry : ∀ h, outcome.1 = .retry h → h.Binds service k) :
    (w.proceed p outcome).Serving service k where
  ttl_pos := lt_of_lt_of_eq hw.ttl_pos hlife.symm
  binds q hq := by
    rcases mem_pending_proceed hq with hq | ⟨h, hnext, rfl⟩
    · exact hw.binds q hq
    · exact hretry h hnext
  since_le q hq := by
    have hle := evictions_le_proceed w p outcome
    rcases mem_pending_proceed hq with hq | ⟨h, -, rfl⟩
    · exact (hw.since_le q hq).trans hle
    · exact (hw.since_le p hp).trans hle

variable [Store σ SessionRecord]

/-- A request of session `k` begins. -/
def begin (w : Overlap σ) (service : Service) (k : String) : Overlap σ :=
  let (h, selector) := w.selector.select service service.nodes (some k)
  { w with selector, pending := (h.map (Pending.mk · w.evictions)).toList ++ w.pending }

/-- An attempt is answered. -/
def answer (w : Overlap σ) (p : Pending) (status : Http.Status) (affinity : Option String) :
    Overlap σ :=
  w.proceed p (w.selector.report p.handle status affinity)

/-- An attempt is not answered. -/
def giveUp (w : Overlap σ) (p : Pending) : Overlap σ :=
  w.proceed p (w.selector.reportUnreachable p.handle)

/-- What a report on a selection leads to. -/
inductive Reported (w : Overlap σ) (p : Pending) : Overlap σ → Prop where
  | answered (status : Http.Status) (affinity : Option String) :
    Reported w p (w.answer p status affinity)
  | unanswered : Reported w p (w.giveUp p)

/-- What can happen at any time, when the selections that are reported on are among `Reports`. -/
inductive Step (service : Service) (k : String) (Reports : Handle → Prop) (w : Overlap σ) :
    Overlap σ → Prop where
  | select : Step service k Reports w (w.begin service k)
  | report (p : Pending) (w' : Overlap σ) (hp : p ∈ w.pending) (hr : Reports p.handle)
      (h : w.Reported p w') : Step service k Reports w w'

/-- What requests of session `k` can come to, on a store of any content. -/
def Reachable (service : Service) (k : String) (Reports : Handle → Prop) (w : Overlap σ) : Prop :=
  ∃ s : Selector σ, 0 < s.ttlMs ∧ Relation.ReflTransGen (Step service k Reports) (start s) w

theorem mem_pending_begin (hq : q ∈ (w.begin service k).pending) :
    q ∈ w.pending ∨ q.since = w.evictions ∧
      (w.selector.select service service.nodes (some k)).1 = some q.handle := by
  rcases List.mem_append.mp hq with hq | hq
  · obtain ⟨h, hsel, rfl⟩ := Option.map_eq_some_iff.mp (Option.mem_toList.mp hq)
    exact .inr ⟨rfl, hsel⟩
  · exact .inl hq

/-- Every report is of a failure or of a success of the selection, with the value that it got. -/
theorem Reported.cases (h : w.Reported p w') :
    ∃ affinity, w' = w.proceed p (w.selector.fail (p.handle.renamed affinity)) ∨
      w' = w.proceed p (.done .bound, w.selector.persist (p.handle.renamed affinity)) := by
  cases h with
  | answered status affinity =>
    refine ⟨affinity, ?_⟩
    rw [answer, Selector.report]
    by_cases hst : status.isServerError = true
    · exact .inl (by rw [if_pos hst])
    · exact .inr (by rw [if_neg hst])
  | unanswered => exact ⟨none, .inl rfl⟩

/-! ### Selections in a run -/

theorem Serving.begin (hw : w.Serving service k) : (w.begin service k).Serving service k where
  ttl_pos := by
    have hlife := Selector.ttlMs_select (s := w.selector) service service.nodes (some k)
    exact hlife ▸ hw.ttl_pos
  binds q hq := by
    rcases mem_pending_begin hq with hq | ⟨-, hsel⟩
    · exact hw.binds q hq
    · exact Selector.binds_select hsel
  since_le q hq := by
    rcases mem_pending_begin hq with hq | ⟨hsince, -⟩
    · exact hw.since_le q hq
    · exact le_of_eq hsince

theorem Serving.reported (hw : w.Serving service k) (hp : p ∈ w.pending) (h : w.Reported p w') :
    w'.Serving service k := by
  obtain ⟨affinity, rfl | rfl⟩ := h.cases
  · refine hw.proceed hp Selector.ttlMs_fail fun h' hnext => ?_
    exact ((hw.binds p hp).renamed affinity).retried (Selector.fail_retry hnext).2
  · exact hw.proceed hp Selector.ttlMs_persist fun h' hnext => absurd hnext (by simp)

theorem Serving.step (hw : w.Serving service k) (h : Step service k Reports w w') :
    w'.Serving service k := by
  cases h with
  | select => exact hw.begin
  | report p w' hp hr h => exact hw.reported hp h

theorem Serving.steps (hw : w.Serving service k)
    (h : Relation.ReflTransGen (Step service k Reports) w w') : w'.Serving service k := by
  induction h with
  | refl => exact hw
  | tail _ hstep ih => exact ih.step hstep

/-! ### The binding in a run -/

variable [StoreView σ SessionRecord]

/-- The binding of the session. -/
def binding? (w : Overlap σ) (service : Service) (k : String) : Option SessionRecord :=
  live? w.selector.sessions (service.storeKey k)

/-- Without late reports, established selections that are not late are at the node of the
session. -/
def Sound (service : Service) (k : String) (w : Overlap σ) : Prop :=
  w.late = 0 → ∀ p ∈ w.pending, p.handle.firstTime = false → p.since = w.evictions →
    ∃ r, w.binding? service k = some r ∧ r.nodeIndex = p.handle.index

/-- Reports on a selection leave the binding to another node than its own alone. -/
def SparesOthers (w : Overlap σ) (p : Pending) (service : Service) (k : String) : Prop :=
  ∀ w', w.Reported p w' → ∀ r, w.binding? service k = some r → r.nodeIndex ≠ p.handle.index →
    w'.binding? service k = some r

/-- A failure on an established session makes all its selections late. A failure on any other one
leaves the store alone. -/
theorem Sound.failed (hw : w.Sound service k) (hs : w.Serving service k)
    (affinity : Option String) :
    (w.proceed p (w.selector.fail (p.handle.renamed affinity))).Sound service k := by
  intro hlate q hq hest hsince
  cases hfirst : p.handle.firstTime with
  | false =>
    have hfirst' : (p.handle.renamed affinity).firstTime = false := by
      rw [Handle.firstTime_renamed, hfirst]
    rw [Selector.fail_established hfirst'] at hq hsince
    have hq' : q ∈ w.pending := List.mem_of_mem_erase hq
    have hle := hs.since_le q hq'
    have hmore : q.since = w.evictions + 1 := hsince
    omega
  | true =>
    have hfirst' : (p.handle.renamed affinity).firstTime = true := by
      rw [Handle.firstTime_renamed, hfirst]
    obtain ⟨hsessions, hnot⟩ := Selector.fail_firstTime hfirst' w.selector
    have hsame : (w.proceed p (w.selector.fail (p.handle.renamed affinity))).evictions =
        w.evictions := if_neg hnot
    rw [hsame] at hsince
    rcases mem_pending_proceed hq with hq | ⟨h', hnext, rfl⟩
    · obtain ⟨r, hr, hi⟩ := hw (late_proceed hlate).1 q hq hest hsince
      refine ⟨r, ?_, hi⟩
      rw [← hr]
      exact congrArg (live? · _) hsessions
    · have hretry := (Selector.fail_retry hnext).2
      obtain ⟨-, -, next, -, rfl⟩ := Handle.retry?_eq_some_iff.mp hretry
      exact absurd (hfirst'.symm.trans hest) (by decide)

variable [ReliableStore σ]

theorem Sound.begin (hw : w.Sound service k) : (w.begin service k).Sound service k := by
  intro hlate q hq hest hsince
  have hlive : (w.begin service k).binding? service k = w.binding? service k :=
    SteadyStore.live?_select service service.nodes (some k) _
  rw [hlive]
  rcases mem_pending_begin hq with hq | ⟨-, hsel⟩
  · exact hw hlate q hq hest hsince
  · obtain ⟨r, hfound, hi⟩ := Selector.found_of_select hsel hest
    obtain ⟨k', hk', hr⟩ := live_of_found hfound
    obtain rfl := Option.some.inj hk'
    exact ⟨r, hr, hi⟩

theorem Sound.succeeded (hw : w.Sound service k) (hs : w.Serving service k) (hp : p ∈ w.pending)
    (affinity : Option String) :
    (w.proceed p (.done .bound, w.selector.persist (p.handle.renamed affinity))).Sound
      service k := by
  intro hlate q hq hest hsince
  obtain ⟨hlate, hnot⟩ := late_proceed hlate
  have hq' : q ∈ w.pending := List.mem_of_mem_erase hq
  obtain ⟨r, hr, hi⟩ := hw hlate q hq' hest hsince
  have hb := (hs.binds p hp).renamed affinity
  cases hfirst : p.handle.firstTime with
  | true =>
    -- The selection `q` is at a node that exists, so the session is bound.
    have hfirst' : (p.handle.renamed affinity).firstTime = true := by
      rw [Handle.firstTime_renamed, hfirst]
    have hlt : r.nodeIndex < service.nodes.length := hi ▸ (hs.binds q hq').index_lt
    exact ⟨r, (SteadyStore.live?_persist_of_bound hb hfirst' hs.ttl_pos hr hlt).1, hi⟩
  | false =>
    have hfirst' : (p.handle.renamed affinity).firstTime = false := by
      rw [Handle.firstTime_renamed, hfirst]
    have hle := hs.since_le p hp
    have hcurrent : p.since = w.evictions := by
      by_contra hne
      exact hnot ⟨hfirst, by omega⟩
    obtain ⟨r', hr', hi'⟩ := hw hlate p hp hfirst hcurrent
    obtain rfl : r = r' := Option.some.inj (hr.symm.trans hr')
    obtain ⟨r'', hr'', hi''⟩ :=
      ReliableStore.live?_persist_established hb hfirst' hs.ttl_pos
    refine ⟨r'', hr'', ?_⟩
    rw [hi'', Handle.index_renamed, ← hi', hi]

theorem Sound.reported (hw : w.Sound service k) (hs : w.Serving service k) (hp : p ∈ w.pending)
    (h : w.Reported p w') : w'.Sound service k := by
  obtain ⟨affinity, rfl | rfl⟩ := h.cases
  · exact hw.failed hs affinity
  · exact hw.succeeded hs hp affinity

theorem Reachable.sound (hw : w.Reachable service k Reports) :
    w.Serving service k ∧ w.Sound service k := by
  obtain ⟨s, httl, hsteps⟩ := hw
  induction hsteps with
  | refl => exact ⟨serving_start httl, fun _ p hp => absurd hp (by simp [start])⟩
  | tail _ hstep ih =>
    obtain ⟨hserving, hsound⟩ := ih
    refine ⟨hserving.step hstep, ?_⟩
    cases hstep with
    | select => exact hsound.begin
    | report p w' hp hr h => exact hsound.reported hserving hp h

/-! ### Reports on established sessions -/

theorem binding?_evicted (hs : w.Serving service k) (hp : p ∈ w.pending)
    (hest : p.handle.firstTime = false) (affinity : Option String) :
    (w.proceed p (w.selector.fail (p.handle.renamed affinity))).binding? service k = none := by
  have hest' : (p.handle.renamed affinity).firstTime = false := by
    rw [Handle.firstTime_renamed, hest]
  have hb := (hs.binds p hp).renamed affinity
  rw [Selector.fail_established hest']
  exact (ReliableStore.live?_evict hb.storeKey _).trans (if_pos rfl)

/-- **What a report on an established session does to its binding.** A success binds the session to
the node of the selection and a failure leaves it unbound, whatever the binding was. So a report
leaves a binding to another node alone only where there is none; and there is none as long as no
report is late. -/
theorem report_on_established (hw : w.Reachable service k fun _ => True) (hp : p ∈ w.pending)
    (hest : p.handle.firstTime = false) :
    (w.late = 0 → ¬w.Late p →
      ∃ r, w.binding? service k = some r ∧ r.nodeIndex = p.handle.index) ∧
    (w.SparesOthers p service k ↔
      ∀ r, w.binding? service k = some r → r.nodeIndex = p.handle.index) ∧
    (∀ status affinity, status.isServerError = false →
      ∃ r, (w.answer p status affinity).binding? service k = some r ∧
        r.nodeIndex = p.handle.index) ∧
    (∀ status affinity, status.isServerError = true →
      (w.answer p status affinity).binding? service k = none) ∧
    (w.giveUp p).binding? service k = none := by
  obtain ⟨hs, hsound⟩ := hw.sound
  have hgiveUp : (w.giveUp p).binding? service k = none := binding?_evicted hs hp hest none
  refine ⟨fun hlate hnot => ?_, ⟨fun hspares r hr => ?_, fun hown w' _ r hr hne => ?_⟩,
    fun status affinity hok => ?_, fun status affinity hfailed => ?_, hgiveUp⟩
  · have hle := hs.since_le p hp
    refine hsound hlate p hp hest ?_
    by_contra hne
    exact hnot ⟨hest, by omega⟩
  · by_contra hne
    have hkept := hspares _ .unanswered r hr hne
    rw [hgiveUp] at hkept
    exact absurd hkept (by simp)
  · exact absurd (hown r hr) hne
  · have hb := (hs.binds p hp).renamed affinity
    have hest' : (p.handle.renamed affinity).firstTime = false := by
      rw [Handle.firstTime_renamed, hest]
    rw [answer, Selector.report, if_neg (by rw [hok]; decide)]
    obtain ⟨r, hr, hi⟩ := ReliableStore.live?_persist_established hb hest' hs.ttl_pos
    exact ⟨r, hr, hi.trans (Handle.index_renamed _ _)⟩
  · rw [answer, Selector.report, if_pos hfailed]
    exact binding?_evicted hs hp hest affinity

end Runs

/-! ### A binding that is undone

A session is bound at the first of two nodes, and two requests of it begin. One of them fails, a
third request binds the session at the second node, and only then the other one is reported. -/

namespace Undone

def service : Service := { id := "svc", nodes := [.plain "a" 80, .plain "b" 81] }

def key : String := "aff=k"

def unavailable : Http.Status := (Http.Status.of? 503).getD .ok

/-- A selection of a request without a binding. -/
def first (index since : Nat) : Pending :=
  ⟨Selector.fresh service 2 (some (service.storeKey key)) (some key) index, since⟩

/-- A selection that found the binding to the first node. -/
def stale : Pending :=
  ⟨Selector.established service 2 (some (service.storeKey key)) ⟨key, 0, "k"⟩, 0⟩

def idle : Selector (MemoryStore SessionRecord) := Selector.start ⟨ExpiringMap.empty, 0⟩ 1000

def bound : Overlap (MemoryStore SessionRecord) :=
  ((start idle).begin service key).answer (first 0 0) .ok none

def evicted : Overlap (MemoryStore SessionRecord) :=
  ((bound.begin service key).begin service key).answer stale unavailable none

def rebound : Overlap (MemoryStore SessionRecord) :=
  (evicted.begin service key).answer (first 1 1) .ok none

theorem reachable_rebound : rebound.Reachable service key fun _ => True := by
  refine ⟨idle, by decide, ?_⟩
  have hbound : Relation.ReflTransGen (Step service key fun _ => True) (start idle) bound :=
    (Relation.ReflTransGen.refl.tail .select).tail
      (.report (first 0 0) _ (by decide) trivial (.answered .ok none))
  have hevicted : Relation.ReflTransGen (Step service key fun _ => True) bound evicted :=
    ((Relation.ReflTransGen.refl.tail .select).tail .select).tail
      (.report stale _ (by decide) trivial (.answered unavailable none))
  have hrebound : Relation.ReflTransGen (Step service key fun _ => True) evicted rebound :=
    (Relation.ReflTransGen.refl.tail .select).tail
      (.report (first 1 1) _ (by decide) trivial (.answered .ok none))
  exact (hbound.trans hevicted).trans hrebound

end Undone

theorem late_report_on_established :
    Undone.rebound.Reachable Undone.service Undone.key (fun _ => True) ∧
      Undone.stale ∈ Undone.rebound.pending ∧ Undone.stale.handle.firstTime = false ∧
      Undone.rebound.Late Undone.stale ∧
      ¬Undone.rebound.SparesOthers Undone.stale Undone.service Undone.key ∧
      (Undone.rebound.giveUp Undone.stale).binding? Undone.service Undone.key = none := by
  have hmem : Undone.stale ∈ Undone.rebound.pending := by decide
  have hbound : Undone.rebound.binding? Undone.service Undone.key = some ⟨Undone.key, 1, "k"⟩ := by
    rfl
  obtain ⟨-, hspares, -, -, hgiveUp⟩ := report_on_established Undone.reachable_rebound hmem rfl
  refine ⟨Undone.reachable_rebound, hmem, rfl, by decide, fun hall => ?_, hgiveUp⟩
  exact absurd (hspares.mp hall _ hbound) (by decide)

theorem newer_binding_undone :
    Undone.rebound.Reachable Undone.service Undone.key (fun _ => True) ∧
      Undone.stale ∈ Undone.rebound.pending ∧ Undone.stale.handle.firstTime = false ∧
      Undone.stale.handle.index = 0 ∧
      Undone.rebound.binding? Undone.service Undone.key = some ⟨Undone.key, 1, "k"⟩ ∧
      (Undone.rebound.answer Undone.stale .ok none).binding? Undone.service Undone.key =
        some ⟨Undone.key, 0, "k"⟩ ∧
      (Undone.rebound.answer Undone.stale Undone.unavailable none).binding? Undone.service
        Undone.key = none :=
  ⟨Undone.reachable_rebound, by decide, rfl, rfl, by rfl, by rfl, by rfl⟩

end Overlap

end Gatehouse
