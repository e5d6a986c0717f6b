import Gatehouse.Proofs.Failover
import Gatehouse.Proofs.StoreRecords

/-!
# The calls of the session store

Selection calls the store of sessions, and what it calls it for is not told by what is stored
afterwards: a read may leave nothing behind. This file puts a store around the store, `LoggedStore`,
that writes down every call with its key. Selection with such a store does what it does with the
store inside, so that statements about the calls are statements about any selector.

## Main definitions

* `Selector.mapStore` — a selector with its store translated
* `LoggedStore` — a store and the calls made to it
* `Selector.logged`, `Selector.unlogged` — a selector with such a store, and with the one inside

## Main results

* `Selector.forward_mapStore` — forwarding respects the translations that the calls respect
* `Selector.forward_logged` — the log changes nothing about forwarding
-/

namespace Gatehouse

/-! ### Selectors -/

namespace Selector

/-- The selector with its store translated. -/
def mapStore {σ τ : Type} (f : σ → τ) (s : Selector σ) : Selector τ :=
  { s with sessions := f s.sessions }

section MapStore

variable {σ τ β : Type} [Store σ SessionRecord] [Store τ SessionRecord] [Backends β] {f : σ → τ}
  (hf : RespectsCalls f) (s : Selector σ)

include hf

/-! ### Steps -/

theorem binding?_mapStore (storeKey : Option String) (n : Nat) :
    (s.mapStore f).binding? storeKey n = (s.binding? storeKey n).map id (mapStore f) := by
  cases storeKey with
  | none => rfl
  | some k =>
    simp only [binding?, mapStore, hf.get]
    rfl

theorem select_mapStore (service : Service) (nodes : List Node) (sessionKey : Option String) :
    (s.mapStore f).select service nodes sessionKey =
      (s.select service nodes sessionKey).map id (mapStore f) := by
  by_cases hn : nodes = []
  · rw [select, select, if_pos hn, if_pos hn]
    rfl
  · simp only [select, if_neg hn, binding?_mapStore hf]
    rcases s.binding? (sessionKey.map (Session.storeKey service.id service.generation))
      nodes.length with ⟨_ | r, s'⟩ <;> rfl

theorem putAlias_mapStore (h : Handle) (r : SessionRecord) :
    (s.mapStore f).putAlias h r = (s.putAlias h r).mapStore f := by
  rw [putAlias, putAlias]
  cases r.alias? with
  | none => rfl
  | some a =>
    simp only [mapStore, hf.put]
    rfl

theorem bindFirst_mapStore (h : Handle) (k : String) (r : SessionRecord) :
    (s.mapStore f).bindFirst h k r = (s.bindFirst h k r).mapStore f := by
  have hupdate : Store.update k (s.mapStore f).ttlMs (h.firstBinding r) (s.mapStore f).sessions =
      (Store.update k s.ttlMs (h.firstBinding r) s.sessions).map id f :=
    hf.update k s.ttlMs (h.firstBinding r) s.sessions
  rw [bindFirst, bindFirst, hupdate]
  rcases Store.update k s.ttlMs (h.firstBinding r) s.sessions with ⟨result, sessions⟩
  have hthen := putAlias_mapStore hf { s with sessions } h r
  cases result with
  | failed e => rfl
  | skipped => exact hthen
  | applied seen =>
    dsimp only [Prod.map, id]
    split
    · exact hthen
    · rfl

theorem bindAgain_mapStore (h : Handle) (k : String) (r : SessionRecord) :
    (s.mapStore f).bindAgain h k r = (s.bindAgain h k r).mapStore f := by
  have hput : Store.put k r (s.mapStore f).ttlMs (s.mapStore f).sessions =
      (Store.put k r s.ttlMs s.sessions).map id f := hf.put k r s.ttlMs s.sessions
  rw [bindAgain, bindAgain, hput]
  rcases Store.put k r s.ttlMs s.sessions with ⟨result, sessions⟩
  cases result with
  | error e => rfl
  | ok _ => exact putAlias_mapStore hf { s with sessions } h r

theorem persist_mapStore (h : Handle) : (s.mapStore f).persist h = (s.persist h).mapStore f := by
  rw [persist, persist]
  cases h.storeKey with
  | none => rfl
  | some k =>
    cases h.record with
    | none => rfl
    | some r =>
      cases h.firstTime
      · exact bindAgain_mapStore hf s h k r
      · exact bindFirst_mapStore hf s h k r

theorem evict_mapStore (h : Handle) : (s.mapStore f).evict h = (s.evict h).mapStore f := by
  rw [evict, evict]
  cases h.storeKey with
  | none => rfl
  | some k =>
    simp only [mapStore, hf.remove]
    rfl

theorem fail_mapStore (h : Handle) : (s.mapStore f).fail h = (s.fail h).map id (mapStore f) := by
  rw [fail, fail, evict_mapStore hf]
  cases h.firstTime
  · rfl
  · cases h.retry? <;> rfl

/-! ### Forwarding -/

/-- **Forwarding respects the translations that the calls respect.** -/
theorem forward_mapStore (service : Service) (nodes : List Node) (sessionKey : Option String)
    (request : Http.Request) (b : β) :
    (s.mapStore f).forward service nodes sessionKey request b =
      (s.forward service nodes sessionKey request b).map id (Prod.map (mapStore f) id) :=
  forward_map (g := id) (fun _ _ _ => rfl)
    (fun s sessionKey => select_mapStore hf s service nodes sessionKey) (fail_mapStore hf)
    (persist_mapStore hf) s sessionKey b

end MapStore

end Selector

/-! ### A log of the calls -/

/-- A store, and the calls made to it, in order, each with its key. -/
structure LoggedStore (σ : Type) where
  store : σ
  calls : List (StoreCall × String)

/-- A store with a log answers as the store inside does. -/
instance {σ V : Type} [Store σ V] : Store (LoggedStore σ) V where
  get k s :=
    let (found, store) := Store.get k s.store
    (found, ⟨store, s.calls ++ [(.get, k)]⟩)
  put k v ttlMs s :=
    let (result, store) := Store.put k v ttlMs s.store
    (result, ⟨store, s.calls ++ [(.put, k)]⟩)
  remove k s :=
    let (result, store) := Store.remove k s.store
    (result, ⟨store, s.calls ++ [(.remove, k)]⟩)
  update k ttlMs f s :=
    let (result, store) := Store.update k ttlMs f s.store
    (result, ⟨store, s.calls ++ [(.update, k)]⟩)

theorem LoggedStore.respectsCalls {σ V : Type} [Store σ V] :
    RespectsCalls fun s : LoggedStore σ => s.store :=
  ⟨fun _ _ => rfl, fun _ _ _ _ => rfl, fun _ _ => rfl, fun _ _ _ _ => rfl⟩

namespace Selector

/-- The selector with an empty log. -/
def logged {σ : Type} (s : Selector σ) : Selector (LoggedStore σ) :=
  { s with sessions := ⟨s.sessions, []⟩ }

/-- The selector with the store inside. -/
def unlogged {σ : Type} (s : Selector (LoggedStore σ)) : Selector σ :=
  { s with sessions := s.sessions.store }

/-- The log changes nothing about forwarding. -/
theorem forward_logged {σ β : Type} [Store σ SessionRecord] [Backends β] (s : Selector σ)
    (service : Service) (nodes : List Node) (sessionKey : Option String) (request : Http.Request)
    (b : β) :
    (s.logged.forward service nodes sessionKey request b).map id (Prod.map unlogged id) =
      s.forward service nodes sessionKey request b :=
  (forward_mapStore LoggedStore.respectsCalls s.logged service nodes sessionKey request b).symm

end Selector

end Gatehouse
