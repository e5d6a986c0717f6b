import Gatehouse.Proofs.Generations
import Gatehouse.Proofs.Selections

/-!
# Where a binding comes from

Requests overlap with each other and with reloads of the configuration. A request takes a service
from the registry once and works with it to its end, so a service may be in use long after it was
replaced, and the outcome of an attempt may be reported when the nodes that it went to are no longer
configured.

This file follows all such runs. A session that is taken for established was bound by an attempt
that did succeed, on the very list of nodes against which the binding is used now.

## Implementation notes

`Traffic` keeps, besides the state of the gateway, what happened: the services taken, the selections
under way and the attempts answered. Time passes between any two steps, and the store may lose
entries meanwhile; it need not even answer. All that is relied on is that it is an `HonestStore`.

## Main definitions

* `Traffic`, `Traffic.Step`, `Traffic.Reachable` — the runs
* `Report.Names` — the session keys that an answered attempt may bind
* `Traffic.Sound` — the invariant: every entry of the store is explained by a report

## Main results

* `Traffic.Reachable.sound` — the invariant holds in every run
* `Traffic.established_was_reported` — the binding of an established session was earned by an
  attempt on the same list of nodes
-/

namespace Gatehouse

open StoreView (live?)

/-! ### Runs -/

/-- A selection under way, with the service that the request took from the registry. -/
structure Flight where
  service : Service
  sessionKey : Option String
  handle : Handle
  deriving DecidableEq

/-- An answered attempt: the selection as it was, and the answer as far as it was reported. -/
structure Report where
  flight : Flight
  status : Http.Status
  affinity : Option String

/-- The keys that an answered attempt may bind: its session's, and the one made of the value that
the session goes by then. -/
def Report.Names (p : Report) (k : String) : Prop :=
  p.flight.sessionKey = some k ∨
    ∃ r a, (p.flight.handle.renamed p.affinity).record = some r ∧ r.alias? = some a ∧
      a.sessionKey = k

/-- The gateway's state, and what happened so far. -/
structure Traffic (σ : Type) where
  registry : Registry
  selector : Selector σ
  /-- How often the configuration was loaded again. -/
  reloads : Nat
  /-- The services taken from the registry, at any time. -/
  snapshots : List Service
  flights : List Flight
  reports : List Report

namespace Traffic

variable {σ : Type}

section Runs

/-- A selection goes on, or ends, after an attempt. -/
def proceed (w : Traffic σ) (f : Flight) (outcome : Next × Selector σ) : Traffic σ :=
  { w with
    selector := outcome.2
    flights := match outcome.1 with
      | .retry h => { f with handle := h } :: w.flights.erase f
      | .done _ => w.flights.erase f }

variable [Store σ SessionRecord]

/-- A request begins a selection with a service that it took. -/
def begin (w : Traffic σ) (service : Service) (sessionKey : Option String) : Traffic σ :=
  let (h, selector) := w.selector.select service service.nodes sessionKey
  { w with selector, flights := (h.map (Flight.mk service sessionKey)).toList ++ w.flights }

/-- An attempt is answered. -/
def answer (w : Traffic σ) (f : Flight) (status : Http.Status) (affinity : Option String) :
    Traffic σ :=
  { w.proceed f (w.selector.report f.handle status affinity) with
    reports := ⟨f, status, affinity⟩ :: w.reports }

variable [StoreView σ SessionRecord]

/-- What can happen at any time. -/
inductive Step (w : Traffic σ) : Traffic σ → Prop where
  | reload (configs : List ServiceConfig) (h : Registrable configs) :
    Step w { w with registry := w.registry.reload configs, reloads := w.reloads + 1 }
  | take (service : Service) (h : service ∈ w.registry.services) :
    Step w { w with snapshots := service :: w.snapshots }
  | select (service : Service) (sessionKey : Option String) (h : service ∈ w.snapshots) :
    Step w (w.begin service sessionKey)
  | report (f : Flight) (status : Http.Status) (affinity : Option String) (h : f ∈ w.flights) :
    Step w (w.answer f status affinity)
  | reportUnreachable (f : Flight) (h : f ∈ w.flights) :
    Step w (w.proceed f (w.selector.reportUnreachable f.handle))
  /-- Entries of the store vanish, be it that their time is up. -/
  | lose (sessions : σ)
      (h : ∀ x r, live? sessions x = some r → live? w.selector.sessions x = some r) :
    Step w { w with selector := { w.selector with sessions } }

/-- What a gateway can come to, from its start on a store without entries. -/
inductive Reachable : Traffic σ → Prop where
  | start (configs : List ServiceConfig) (selector : Selector σ) (h : Registrable configs)
      (hempty : ∀ x, live? selector.sessions x = none) :
    Reachable ⟨Registry.ofConfig configs, selector, 0, [], [], []⟩
  | step {w w' : Traffic σ} : Reachable w → Step w w' → Reachable w'

end Runs

/-! ### The invariant -/

/-- The services that requests use or may still take. -/
def Known (w : Traffic σ) (service : Service) : Prop :=
  service ∈ w.snapshots ∨ service ∈ w.registry.services

/-- The attempt that an entry of the store goes back to. -/
def Explained (w : Traffic σ) (x : String) (r : SessionRecord) : Prop :=
  ∃ p ∈ w.reports, p.flight.service ∈ w.snapshots ∧ p.status.isServerError = false ∧
    x = Session.storeKey p.flight.service.id p.flight.service.generation r.sessionKey ∧
    p.flight.handle.index = r.nodeIndex ∧ p.Names r.sessionKey

variable {w w' : Traffic σ}

theorem Explained.mono {x : String} {r : SessionRecord} (h : w.Explained x r)
    (hr : ∀ p ∈ w.reports, p ∈ w'.reports) (hs : ∀ s ∈ w.snapshots, s ∈ w'.snapshots) :
    w'.Explained x r := by
  obtain ⟨p, hp, hps, hrest⟩ := h
  exact ⟨p, hr p hp, hs _ hps, hrest⟩

theorem mem_flights_proceed {f g : Flight} {outcome : Next × Selector σ}
    (hg : g ∈ (w.proceed f outcome).flights) :
    g ∈ w.flights ∨ ∃ h, outcome.1 = .retry h ∧ g = { f with handle := h } := by
  simp only [proceed] at hg
  split at hg
  · rename_i h hnext
    rcases List.mem_cons.mp hg with rfl | hg
    · exact .inr ⟨h, hnext, rfl⟩
    · exact .inl (List.mem_of_mem_erase hg)
  · exact .inl (List.mem_of_mem_erase hg)

variable [StoreView σ SessionRecord]

/-- Generations tell lists of nodes apart, selections serve their requests, and every entry of the
store goes back to a successful attempt. -/
structure Sound (w : Traffic σ) : Prop where
  covers : w.registry.generations.Covers w.Known
  colonless : ∀ s, w.Known s → ':' ∉ s.id.toList
  counted : ∀ id nodes n, w.registry.generations.get? id = some (nodes, n) → n ≤ w.reloads
  serves : ∀ f ∈ w.flights,
    f.service ∈ w.snapshots ∧ f.handle.Serves f.service f.service.nodes f.sessionKey
  explained : ∀ x r, live? w.selector.sessions x = some r → w.Explained x r

theorem sound_start (configs : List ServiceConfig) (selector : Selector σ)
    (h : Registrable configs) (hempty : ∀ x, live? selector.sessions x = none) :
    Sound ⟨Registry.ofConfig configs, selector, 0, [], [], []⟩ where
  covers := by
    refine (Generations.Covers.empty.compile h).mono ?_
    rintro s (hs | hs)
    · simp at hs
    · exact .inr hs
  colonless := by
    rintro s (hs | hs)
    · simp at hs
    · obtain ⟨c, hc, rfl⟩ := Registry.mem_services_compile.mp hs
      exact h.colonless c hc
  counted := Generations.get?_compile_le (by simp) h.nodup
  serves f hf := by simp at hf
  explained x r hl := by simp [hempty] at hl

/-- An entry under the key of a service that is in use belongs to a session of just that service,
and goes back to an attempt on the same nodes. -/
theorem Sound.report_of_live (hw : w.Sound) {service : Service} (hs : service ∈ w.snapshots)
    {k : String} {r : SessionRecord}
    (hl : live? w.selector.sessions (Session.storeKey service.id service.generation k) = some r) :
    r.sessionKey = k ∧ ∃ p ∈ w.reports, p.flight.service.id = service.id ∧
      p.flight.service.generation = service.generation ∧
      p.flight.service.nodes = service.nodes ∧ p.flight.handle.index = r.nodeIndex ∧
      p.status.isServerError = false ∧ p.Names k := by
  obtain ⟨p, hp, hps, hst, hx, hi, hn⟩ := hw.explained _ r hl
  obtain ⟨hid, hgen, hk⟩ := Session.storeKey_inj (hw.colonless service (.inl hs))
    (hw.colonless p.flight.service (.inl hps)) hx
  refine ⟨hk.symm, p, hp, hid.symm, hgen.symm, ?_, hi, hst, hk ▸ hn⟩
  exact hw.covers.agree _ _ (.inl hps) (.inl hs) hid.symm hgen.symm

/-! ### Each step keeps the invariant -/

theorem Sound.reload (hw : w.Sound) {configs : List ServiceConfig} (h : Registrable configs) :
    Sound { w with registry := w.registry.reload configs, reloads := w.reloads + 1 } where
  covers := by
    refine (hw.covers.compile h).mono ?_
    rintro s (hs | hs)
    · exact .inl (.inl hs)
    · exact .inr hs
  colonless := by
    rintro s (hs | hs)
    · exact hw.colonless s (.inl hs)
    · obtain ⟨c, hc, rfl⟩ := Registry.mem_services_compile.mp hs
      exact h.colonless c hc
  counted := Generations.get?_compile_le
    (fun id nodes n hget => Nat.lt_succ_of_le (hw.counted id nodes n hget)) h.nodup
  serves := hw.serves
  explained := hw.explained

theorem Sound.take (hw : w.Sound) {service : Service} (h : service ∈ w.registry.services) :
    Sound { w with snapshots := service :: w.snapshots } := by
  have known : ∀ s, Known { w with snapshots := service :: w.snapshots } s → w.Known s := by
    rintro s (hs | hs)
    · rcases List.mem_cons.mp hs with rfl | hs
      · exact .inr h
      · exact .inl hs
    · exact .inr hs
  refine ⟨hw.covers.mono known, fun s hs => hw.colonless s (known s hs), hw.counted, ?_, ?_⟩
  · intro f hf
    exact ⟨List.mem_cons_of_mem _ (hw.serves f hf).1, (hw.serves f hf).2⟩
  · intro x r hl
    exact (hw.explained x r hl).mono (fun _ => id) fun _ => List.mem_cons_of_mem _

variable [Store σ SessionRecord] [HonestStore σ]

theorem Sound.begin (hw : w.Sound) {service : Service} {sessionKey : Option String}
    (h : service ∈ w.snapshots) : (w.begin service sessionKey).Sound where
  covers := hw.covers
  colonless := hw.colonless
  counted := hw.counted
  serves f hf := by
    rcases List.mem_append.mp hf with hf | hf
    · obtain ⟨h', hsel, rfl⟩ := Option.map_eq_some_iff.mp (Option.mem_toList.mp hf)
      refine ⟨h, Selector.serves_select hsel ?_⟩
      intro r hr
      obtain ⟨k, rfl, -, hl⟩ := HonestStore.live_of_found hr
      rw [(hw.report_of_live h hl).1]
    · exact hw.serves f hf
  explained x r hl := hw.explained x r (HonestStore.live_select hl)

theorem Sound.reportUnreachable (hw : w.Sound) {f : Flight} (h : f ∈ w.flights) :
    (w.proceed f (w.selector.reportUnreachable f.handle)).Sound where
  covers := hw.covers
  colonless := hw.colonless
  counted := hw.counted
  serves g hg := by
    rcases mem_flights_proceed hg with hg | ⟨h', hnext, rfl⟩
    · exact hw.serves g hg
    · exact ⟨(hw.serves f h).1, Selector.serves_reportUnreachable (hw.serves f h).2 hnext⟩
  explained x r hl := hw.explained x r (HonestStore.live_fail hl)

/-- An answered attempt explains what it writes. -/
theorem Sound.answer (hw : w.Sound) {f : Flight} {status : Http.Status}
    {affinity : Option String} (h : f ∈ w.flights) : (w.answer f status affinity).Sound where
  covers := hw.covers
  colonless := hw.colonless
  counted := hw.counted
  serves g hg := by
    rcases mem_flights_proceed hg with hg | ⟨h', hnext, rfl⟩
    · exact hw.serves g hg
    · exact ⟨(hw.serves f h).1, Selector.serves_report (hw.serves f h).2 hnext⟩
  explained x r hl := by
    rcases HonestStore.live_report hl with ⟨hst, hwrites⟩ | hl
    · obtain ⟨hsnap, hserves⟩ := hw.serves f h
      have hserves := hserves.renamed affinity
      refine ⟨⟨f, status, affinity⟩, List.mem_cons_self, hsnap, hst, ?_⟩
      rcases hwrites with ⟨hk, hr⟩ | ⟨r', hr', ha, rfl⟩
      · obtain ⟨hkey, hi⟩ := hserves.record r hr
        rw [hserves.storeKey, hkey, Option.map_some, Option.some.injEq] at hk
        refine ⟨hk.symm, ?_, .inl hkey⟩
        rw [hi, Handle.renamed_eq]
      · obtain ⟨-, hi⟩ := hserves.record r' hr'
        refine ⟨by rw [hserves.serviceId, hserves.generation], ?_, .inr ⟨r', r, hr', ha, rfl⟩⟩
        rw [(SessionRecord.alias?_eq_some_iff.mp ha).2, hi, Handle.renamed_eq]
    · exact (hw.explained x r hl).mono (fun _ => List.mem_cons_of_mem _) fun _ => id

theorem Sound.step (hw : w.Sound) (hstep : Step w w') : w'.Sound := by
  cases hstep with
  | reload configs h => exact hw.reload h
  | take service h => exact hw.take h
  | select service sessionKey h => exact hw.begin h
  | report f status affinity h => exact hw.answer h
  | reportUnreachable f h => exact hw.reportUnreachable h
  | lose sessions h =>
    exact ⟨hw.covers, hw.colonless, hw.counted, hw.serves,
      fun x r hl => hw.explained x r (h x r hl)⟩

theorem Reachable.sound (hw : w.Reachable) : w.Sound := by
  induction hw with
  | start configs selector h hempty => exact sound_start configs selector h hempty
  | step _ hstep ih => exact ih.step hstep

/-! ### Provenance -/

/-- **Provenance of bindings.** When a request with a service in use, current or not, is taken for
one of an established session, the node exists, and the session was bound to it by an earlier
attempt that did not fail: an attempt at the same position of the same list of nodes, for this
session or for one that went by this session's value. Generations do not outnumber reloads. -/
theorem established_was_reported (hw : w.Reachable) {service : Service}
    (hs : service ∈ w.snapshots) {sessionKey : Option String} {h : Handle}
    (hsel : (w.selector.select service service.nodes sessionKey).1 = some h)
    (hest : h.firstTime = false) :
    h.index < service.nodes.length ∧ service.generation ≤ w.reloads ∧
      ∃ k, sessionKey = some k ∧ ∃ p ∈ w.reports,
        p.flight.service.id = service.id ∧
        p.flight.service.generation = service.generation ∧
        p.flight.service.nodes = service.nodes ∧
        p.flight.handle.index = h.index ∧
        p.status.isServerError = false ∧ p.Names k := by
  have hsound := hw.sound
  obtain ⟨r, hf, hi⟩ := Selector.found_of_select hsel hest
  obtain ⟨k, rfl, hlt, hl⟩ := HonestStore.live_of_found hf
  obtain ⟨-, p, hp, hid, hgen, hnodes, hpi, hst, hnames⟩ := hsound.report_of_live hs hl
  obtain ⟨nodes, n, hget, hle, -⟩ := hsound.covers.noted service (.inl hs)
  have hn := hsound.counted service.id nodes n hget
  exact ⟨hi ▸ hlt, by omega, k, rfl, p, hp, hid, hgen, hnodes, hpi.trans hi, hst, hnames⟩

/-! ### A run

A session is bound at the first of two nodes and goes by a new value from then on. The nodes change
and change back, and only then a request of the first snapshot comes under the new value. -/

namespace Sample

def config : ServiceConfig := { id := "svc", nodes := [.plain "a" 80, .plain "b" 80] }

def changed : ServiceConfig := { id := "svc", nodes := [.plain "b" 80] }

def service : Service := Service.ofConfig config 0

def start : Traffic (MemoryStore SessionRecord) :=
  ⟨Registry.ofConfig [config], Selector.start ⟨ExpiringMap.empty, 0⟩ 1000, 0, [], [], []⟩

def selected : Traffic (MemoryStore SessionRecord) :=
  { start with snapshots := [service] }.begin service (some "aff=k")

/-- The selection of the first request. -/
def flight : Flight :=
  ⟨service, some "aff=k", Selector.fresh service 2 (some "sticky:svc:0:aff=k") (some "aff=k") 0⟩

def answered : Traffic (MemoryStore SessionRecord) := selected.answer flight .ok (some "new")

def reloaded : Traffic (MemoryStore SessionRecord) :=
  { answered with
    registry := (answered.registry.reload [changed]).reload [config], reloads := 2 }

theorem registrable (c : ServiceConfig) (h : ':' ∉ c.id.toList) : Registrable [c] :=
  ⟨by simp, by simpa using h⟩

theorem reachable_reloaded : reloaded.Reachable := by
  have hstart : start.Reachable :=
    .start [config] _ (registrable config (by decide)) fun x => rfl
  have htaken : Reachable { start with snapshots := [service] } :=
    hstart.step (.take service (Registry.mem_services_compile.mpr ⟨config, by simp, rfl⟩))
  have hselected : selected.Reachable := htaken.step (.select service _ (by decide))
  have hanswered : answered.Reachable :=
    hselected.step (.report flight .ok _ (by decide))
  have hchanged := hanswered.step (.reload [changed] (registrable changed (by decide)))
  exact hchanged.step (.reload [config] (registrable config (by decide)))

end Sample

theorem established_after_reloads :
    Sample.reloaded.Reachable ∧ Sample.service ∈ Sample.reloaded.snapshots ∧
      ∃ h, (Sample.reloaded.selector.select Sample.service Sample.service.nodes
          (some "aff=new")).1 = some h ∧ h.firstTime = false ∧
        h.index < Sample.service.nodes.length ∧ Sample.service.generation ≤ 2 ∧
        ∃ k, some "aff=new" = some k ∧ ∃ p ∈ Sample.reloaded.reports,
          p.flight.service.id = Sample.service.id ∧
          p.flight.service.generation = Sample.service.generation ∧
          p.flight.service.nodes = Sample.service.nodes ∧
          p.flight.handle.index = h.index ∧
          p.status.isServerError = false ∧ p.Names k := by
  have hs : Sample.service ∈ Sample.reloaded.snapshots := by decide
  refine ⟨Sample.reachable_reloaded, hs, Selector.established Sample.service 2
    (some "sticky:svc:0:aff=new") ⟨"aff=new", 0, "new"⟩, by rfl, rfl, ?_⟩
  exact established_was_reported Sample.reachable_reloaded hs (by rfl) rfl

end Traffic

end Gatehouse
