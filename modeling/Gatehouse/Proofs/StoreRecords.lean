import Gatehouse.Proofs.Stores
import Gatehouse.Store.Trial

/-!
# A record of store calls

What is stored does not tell what a store was asked for: a read may leave nothing behind, and
neither does a call that failed. This file puts a record around a store, which notes every call as
it went. Whoever works with such a store does what it does with the store inside, if all of its
steps respect the translation from the one to the other, `RespectsCalls`.

## Main definitions

* `RespectsCalls` — a translation of stores that all calls respect
* `RecordedStore` — a store and the calls made to it, as they went

## Main results

* `RecordedStore.respectsCalls` — the record changes nothing
-/

namespace Gatehouse

open StoreView (live?)

/-! ### Translations of stores -/

/-- All four calls answer alike on both sides of a translation, and what they leave behind is
translated. -/
structure RespectsCalls {σ τ V : Type} [Store σ V] [Store τ V] (f : σ → τ) : Prop where
  get : ∀ k s, Store.get k (f s) = (Store.get k s).map id f
  put : ∀ k v ttlMs s, Store.put k v ttlMs (f s) = (Store.put k v ttlMs s).map id f
  remove : ∀ k s, Store.remove k (f s) = (Store.remove k s).map id f
  update : ∀ k ttlMs g s, Store.update k ttlMs g (f s) = (Store.update k ttlMs g s).map id f

/-! ### Calls as they went -/

namespace StoreEvent

variable {V : Type}

/-- A read as it went. -/
def ofGet (k : String) : Except StoreError (Option V) → StoreEvent V
  | .ok found => .get k found
  | .error _ => .failed .get

/-- A `put` as it went. -/
def ofPut (k : String) (v : V) (ttlMs : Nat) : Except StoreError Unit → StoreEvent V
  | .ok _ => .put k v ttlMs
  | .error _ => .failed .put

/-- A removal as it went. -/
def ofRemove (k : String) : Except StoreError Unit → StoreEvent V
  | .ok _ => .remove k
  | .error _ => .failed .remove

/-- An update as it went. -/
def ofUpdate (k : String) (ttlMs : Nat) (f : Option V → Option V) : Updated V → StoreEvent V
  | .applied seen => .update k seen (f seen) ttlMs
  | .skipped => .skipped k
  | .failed _ => .failed .update

end StoreEvent

/-- A store, and the calls made to it, in order, as they went. -/
structure RecordedStore (σ V : Type) where
  store : σ
  events : List (StoreEvent V)

namespace RecordedStore

variable {σ V : Type} [Store σ V]

/-- A store with a record answers as the store inside does. -/
instance : Store (RecordedStore σ V) V where
  get k s :=
    let (found, store) := Store.get k s.store
    (found, ⟨store, s.events ++ [.ofGet k found]⟩)
  put k v ttlMs s :=
    let (result, store) := Store.put k v ttlMs s.store
    (result, ⟨store, s.events ++ [.ofPut k v ttlMs result]⟩)
  remove k s :=
    let (result, store) := Store.remove k s.store
    (result, ⟨store, s.events ++ [.ofRemove k result]⟩)
  update k ttlMs f s :=
    let (result, store) := Store.update k ttlMs f s.store
    (result, ⟨store, s.events ++ [.ofUpdate k ttlMs f result]⟩)

theorem respectsCalls : RespectsCalls fun s : RecordedStore σ V => s.store :=
  ⟨fun _ _ => rfl, fun _ _ _ _ => rfl, fun _ _ => rfl, fun _ _ _ _ => rfl⟩

section Events

variable (k : String) (s : RecordedStore σ V)

theorem events_get {found : Option V} (h : (Store.get k s).1 = .ok found) :
    (Store.get k s).2.events = s.events ++ [.get k found] := by
  have hevent : (Store.get k s).2.events = s.events ++ [.ofGet k (Store.get k s).1] := rfl
  rw [hevent, h, StoreEvent.ofGet]

theorem events_update (ttlMs : Nat) {f : Option V → Option V} {seen : Option V}
    (h : (Store.update k ttlMs f s).1 = .applied seen) :
    (Store.update k ttlMs f s).2.events = s.events ++ [.update k seen (f seen) ttlMs] := by
  have hevent : (Store.update k ttlMs f s).2.events =
      s.events ++ [.ofUpdate k ttlMs f (Store.update k ttlMs f s).1] := rfl
  rw [hevent, h, StoreEvent.ofUpdate]

variable [StoreView σ V] [AnsweringStore σ]

theorem events_put (v : V) (ttlMs : Nat) :
    (Store.put k v ttlMs s).2.events = s.events ++ [.put k v ttlMs] := by
  have hevent : (Store.put k v ttlMs s).2.events =
      s.events ++ [.ofPut k v ttlMs (Store.put k v ttlMs s.store).1] := rfl
  rw [hevent, AnsweringStore.put_fst, StoreEvent.ofPut]

theorem events_remove : (Store.remove k s).2.events = s.events ++ [.remove k] := by
  have hevent : (Store.remove k s).2.events =
      s.events ++ [.ofRemove k (Store.remove k s.store).1] := rfl
  rw [hevent, AnsweringStore.remove_fst, StoreEvent.ofRemove]

end Events

variable [StoreView σ V]

instance : StoreView (RecordedStore σ V) V where
  live? s k := live? s.store k

instance [AnsweringStore σ] : AnsweringStore (RecordedStore σ V) where
  get_fst k s := AnsweringStore.get_fst k s.store
  live?_get k x s := AnsweringStore.live?_get k x s.store
  put_fst k v ttlMs s := AnsweringStore.put_fst k v ttlMs s.store
  remove_fst k s := AnsweringStore.remove_fst k s.store
  update_fst k ttlMs f s := AnsweringStore.update_fst k ttlMs f s.store

end RecordedStore

end Gatehouse
