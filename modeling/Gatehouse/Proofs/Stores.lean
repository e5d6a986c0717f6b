import Gatehouse.Store.Trial

/-!
# What stores promise

Results about sessions and counters depend on the store only through what it holds: for each key,
the live value, if there is one. This file says what is relied on, by one result or another, and
shows that the store in memory keeps all of the promises.

## The promises

* `HonestStore`: what is read was written. Calls may fail, whether or not they took effect, and an
  entry may vanish at any time.
* `SteadyStore`: calls may fail, whether or not they took effect, but a call that succeeds did what
  it should, and nothing that was given a lifetime vanishes.
* `ReliableStore`: every call succeeds, and nothing that was given a lifetime vanishes.
* `AnsweringStore`: every call succeeds. What was written may have been written again by others.
* `ConfinedStore`: a call changes no more than what it is to write, whether or not it succeeds.
* `FaithfulStore`: an update that was made wrote what it should. Nothing is said of other calls.
* `AtomicStore`: a read changes nothing, and neither does an update that was not made.

A lifetime of zero is no lifetime: the store in memory gives such an entry up at once. So the
promises of steady and reliable stores are made for positive lifetimes only.

## Main results

* `ExpiringMap.live?_put`, `live?_remove`, `live?_get`, `live?_update` — each operation of the
  expiring map, seen through its live values
* `SharedStore` — a store that answers is one that answers, though others write to it as well
* `RemoteStore` — a reliable store behind a line that fails is a steady one
-/

namespace Gatehouse

/-! ### Looking into a store -/

/-- Store states whose content can be looked at. -/
class StoreView (σ : Type) (V : outParam Type) where
  /-- The live value of a key. -/
  live? : σ → String → Option V

open StoreView (live?)

/-- Stores that give out only what was written. -/
class HonestStore (σ : Type) {V : Type} [Store σ V] [StoreView σ V] : Prop where
  live_of_get : ∀ {k : String} {s : σ} {v : V},
    (Store.get k s).1 = .ok (some v) → live? s k = some v
  live_get : ∀ {k x : String} {s : σ} {w : V},
    live? (Store.get k s).2 x = some w → live? s x = some w
  live_put : ∀ {k x : String} {v w : V} {ttlMs : Nat} {s : σ},
    live? (Store.put k v ttlMs s).2 x = some w → (x = k ∧ w = v) ∨ live? s x = some w
  live_remove : ∀ {k x : String} {s : σ} {w : V},
    live? (Store.remove k s).2 x = some w → live? s x = some w
  live_update : ∀ {k x : String} {ttlMs : Nat} {f : Option V → Option V} {s : σ} {w : V},
    live? (Store.update k ttlMs f s).2 x = some w →
      (x = k ∧ ∃ seen, f seen = some w) ∨ live? s x = some w

/-- Stores that never fail and lose nothing. -/
class ReliableStore (σ : Type) {V : Type} [Store σ V] [StoreView σ V] : Prop where
  get_fst : ∀ (k : String) (s : σ), (Store.get k s).1 = .ok (live? s k)
  live?_get : ∀ (k x : String) (s : σ), live? (Store.get k s).2 x = live? s x
  put_fst : ∀ (k : String) (v : V) (ttlMs : Nat) (s : σ), (Store.put k v ttlMs s).1 = .ok ()
  live?_put : ∀ (k x : String) (v : V) {ttlMs : Nat} (s : σ), 0 < ttlMs →
    live? (Store.put k v ttlMs s).2 x = if x = k then some v else live? s x
  live?_remove : ∀ (k x : String) (s : σ),
    live? (Store.remove k s).2 x = if x = k then none else live? s x
  update_fst : ∀ (k : String) (ttlMs : Nat) (f : Option V → Option V) (s : σ),
    (Store.update k ttlMs f s).1 = .applied (live? s k)
  live?_update : ∀ (k x : String) {ttlMs : Nat} (f : Option V → Option V) (s : σ), 0 < ttlMs →
    live? (Store.update k ttlMs f s).2 x = if x = k then (f (live? s k)).or (live? s k)
      else live? s x

/-- Stores whose calls may fail, but do what they should when they do not, and that lose nothing. A
call that failed may have taken effect. An update is made or fails: stores that answer one without
having made it (`Updated.skipped`) are left out. -/
class SteadyStore (σ : Type) {V : Type} [Store σ V] [StoreView σ V] : Prop where
  eq_of_get : ∀ {k : String} {s : σ} {found : Option V},
    (Store.get k s).1 = .ok found → found = live? s k
  live?_get : ∀ (k x : String) (s : σ), live? (Store.get k s).2 x = live? s x
  put_cases : ∀ (k : String) (v : V) {ttlMs : Nat} (s : σ), 0 < ttlMs →
    (∀ x, live? (Store.put k v ttlMs s).2 x = if x = k then some v else live? s x) ∨
      (∃ e, (Store.put k v ttlMs s).1 = .error e) ∧
        ∀ x, live? (Store.put k v ttlMs s).2 x = live? s x
  remove_cases : ∀ (k : String) (s : σ),
    (∀ x, live? (Store.remove k s).2 x = if x = k then none else live? s x) ∨
      (∃ e, (Store.remove k s).1 = .error e) ∧ ∀ x, live? (Store.remove k s).2 x = live? s x
  update_fst : ∀ (k : String) (ttlMs : Nat) (f : Option V → Option V) (s : σ),
    (Store.update k ttlMs f s).1 = .applied (live? s k) ∨
      ∃ e, (Store.update k ttlMs f s).1 = .failed e
  update_cases : ∀ (k : String) {ttlMs : Nat} (f : Option V → Option V) (s : σ), 0 < ttlMs →
    (∀ x, live? (Store.update k ttlMs f s).2 x =
        if x = k then (f (live? s k)).or (live? s k) else live? s x) ∨
      (∃ e, (Store.update k ttlMs f s).1 = .failed e) ∧
        ∀ x, live? (Store.update k ttlMs f s).2 x = live? s x

/-- Stores that never fail. Nothing is said of what others write in between. -/
class AnsweringStore (σ : Type) {V : Type} [Store σ V] [StoreView σ V] : Prop where
  get_fst : ∀ (k : String) (s : σ), ∃ found, (Store.get k s).1 = .ok found
  live?_get : ∀ (k x : String) (s : σ), live? (Store.get k s).2 x = live? s x
  put_fst : ∀ (k : String) (v : V) (ttlMs : Nat) (s : σ), (Store.put k v ttlMs s).1 = .ok ()
  remove_fst : ∀ (k : String) (s : σ), (Store.remove k s).1 = .ok ()
  update_fst : ∀ (k : String) (ttlMs : Nat) (f : Option V → Option V) (s : σ),
    ∃ seen, (Store.update k ttlMs f s).1 = .applied seen

/-- Stores of which a call changes no more than what it is to write: a read nothing, a `put` no
other key, and an update that has nothing to write, nothing. -/
class ConfinedStore (σ : Type) {V : Type} [Store σ V] [StoreView σ V] : Prop where
  live?_get : ∀ (k x : String) (s : σ), live? (Store.get k s).2 x = live? s x
  live?_put_ne : ∀ {k x : String} (v : V) (ttlMs : Nat) (s : σ), x ≠ k →
    live? (Store.put k v ttlMs s).2 x = live? s x
  live?_update_none : ∀ {k : String} (x : String) (ttlMs : Nat) {f : Option V → Option V} {s : σ},
    f (live? s k) = none → live? (Store.update k ttlMs f s).2 x = live? s x

/-- Stores in which an update that was made can be seen afterwards. -/
class FaithfulStore (σ : Type) {V : Type} [Store σ V] [StoreView σ V] : Prop where
  live?_of_applied : ∀ {k : String} {ttlMs : Nat} {f : Option V → Option V} {s : σ}
    {seen : Option V}, 0 < ttlMs → (Store.update k ttlMs f s).1 = .applied seen →
      live? (Store.update k ttlMs f s).2 k = (f seen).or seen

/-- Stores in which a read changes nothing, and neither does an update that was not made. -/
class AtomicStore (σ : Type) {V : Type} [Store σ V] [StoreView σ V] : Prop where
  live?_get : ∀ (k x : String) (s : σ), live? (Store.get k s).2 x = live? s x
  live?_of_not_applied : ∀ {k : String} (x : String) {ttlMs : Nat} {f : Option V → Option V}
    {s : σ}, (∀ seen, (Store.update k ttlMs f s).1 ≠ .applied seen) →
      live? (Store.update k ttlMs f s).2 x = live? s x

instance {σ V : Type} [Store σ V] [StoreView σ V] [ReliableStore σ] : SteadyStore σ where
  eq_of_get {k s found} h := by
    rw [ReliableStore.get_fst, Except.ok.injEq] at h
    exact h.symm
  live?_get := ReliableStore.live?_get
  put_cases k v _ s httl := .inl fun x => ReliableStore.live?_put k x v s httl
  remove_cases k s := .inl fun x => ReliableStore.live?_remove k x s
  update_fst k ttlMs f s := .inl (ReliableStore.update_fst k ttlMs f s)
  update_cases k _ f s httl := .inl fun x => ReliableStore.live?_update k x f s httl

instance {σ V : Type} [Store σ V] [StoreView σ V] [SteadyStore σ] : FaithfulStore σ where
  live?_of_applied {k ttlMs f s seen} httl happlied := by
    have hseen : seen = live? s k := by
      rcases SteadyStore.update_fst k ttlMs f s with hmade | ⟨e, hfailed⟩
      · exact Updated.applied.inj (happlied.symm.trans hmade)
      · exact absurd (happlied.symm.trans hfailed) (by simp)
    rcases SteadyStore.update_cases k f s httl with hmade | ⟨⟨e, hfailed⟩, -⟩
    · rw [hmade k, if_pos rfl, hseen]
    · exact absurd (happlied.symm.trans hfailed) (by simp)

instance {σ V : Type} [Store σ V] [StoreView σ V] [ReliableStore σ] : AtomicStore σ where
  live?_get := ReliableStore.live?_get
  live?_of_not_applied {k} _ ttlMs f s h := absurd (ReliableStore.update_fst k ttlMs f s) (h _)

/-! ### The expiring map through its slots -/

/-- A slot that is live was live before. -/
theorem Slot.isLive_of_le {V : Type} {s : Slot V} {since now : Nat} (h : since ≤ now)
    (hl : s.isLive now = true) : s.isLive since = true := by
  have hlt : now < s.expiresAt := of_decide_eq_true hl
  exact decide_eq_true (by omega)

namespace ExpiringMap

variable {V : Type} (m : ExpiringMap V) (now : Nat) (k x : String)

theorem get?_removeExpired :
    (m.removeExpired now k).slots.get? x =
      if x = k then (m.slots.get? k).filter (·.isLive now) else m.slots.get? x := by
  rw [removeExpired]
  cases hk : m.slots.get? k with
  | none => by_cases hx : x = k <;> simp [hx, hk]
  | some s =>
    by_cases hlive : s.isLive now = true
    · by_cases hx : x = k <;> simp [hx, hk, hlive, Option.filter_some]
    · simp [hlive, Table.get?_erase, Option.filter_some]

theorem get?_purge : (m.purge now).2.slots.get? k = (m.slots.get? k).filter (·.isLive now) :=
  m.slots.get?_filter _ k

theorem get?_update (ttlMs : Nat) (f : Option V → Option V) :
    (m.update now k ttlMs f).slots.get? x =
      if x = k then ((f (m.live? now k)).map (Slot.mk · (now + ttlMs))).or (m.slots.get? k)
      else m.slots.get? x := by
  rw [update]
  cases f (m.live? now k) with
  | none => by_cases hx : x = k <;> simp [hx]
  | some v => simp [put, Table.get?_set]

/-- The live value of a slot, if there is one. -/
def liveIn (slot : Option (Slot V)) (now : Nat) : Option V :=
  (slot.filter (·.isLive now)).map Slot.value

theorem live?_eq_liveIn : m.live? now k = liveIn (m.slots.get? k) now := by
  rw [live?, liveIn]
  cases m.slots.get? k with
  | none => rfl
  | some s => by_cases hlive : s.isLive now = true <;> simp [hlive, Option.filter_some]

variable {now}

/-- What was expired before is not missed. -/
theorem liveIn_filter (slot : Option (Slot V)) {since : Nat} (h : since ≤ now) :
    liveIn (slot.filter (·.isLive since)) now = liveIn slot now := by
  cases slot with
  | none => rfl
  | some s =>
    by_cases hlive : s.isLive since = true
    · simp [hlive, Option.filter_some]
    · have hdead : ¬s.isLive now = true := fun hl => hlive (Slot.isLive_of_le h hl)
      simp [liveIn, hlive, hdead, Option.filter_some]

/-! ### The expiring map through its live values -/

/-- What is put is live until its time is up. -/
theorem live?_put_at (v : V) (since ttlMs : Nat) :
    (m.put since k v ttlMs).live? now x =
      if x = k then (if now < since + ttlMs then some v else none) else m.live? now x := by
  rw [live?, live?, put, Table.get?_set]
  by_cases h : x = k
  · by_cases ht : now < since + ttlMs <;> simp [h, ht, Slot.isLive]
  · simp [h]

variable (now)

theorem live?_put (v : V) (ttlMs : Nat) :
    (m.put now k v ttlMs).live? now x =
      if x = k then (if 0 < ttlMs then some v else none) else m.live? now x := by
  rw [live?_put_at]
  simp only [Nat.lt_add_right_iff_pos]

theorem live?_remove :
    (m.remove k).live? now x = if x = k then none else m.live? now x := by
  rw [live?, live?, remove, Table.get?_erase]
  by_cases h : x = k <;> simp [h]

variable {now}

/-- Removing an expired slot is not seen: its value was not live before. -/
theorem live?_removeExpired {since : Nat} (h : since ≤ now) :
    (m.removeExpired since k).live? now x = m.live? now x := by
  rw [live?_eq_liveIn, live?_eq_liveIn, get?_removeExpired]
  by_cases hx : x = k
  · rw [if_pos hx, hx]
    exact liveIn_filter _ h
  · rw [if_neg hx]

theorem live?_purge {since : Nat} (h : since ≤ now) :
    (m.purge since).2.live? now x = m.live? now x := by
  rw [live?_eq_liveIn, live?_eq_liveIn, get?_purge]
  exact liveIn_filter _ h

variable (now)

theorem live?_get : (m.get now k).2.live? now x = m.live? now x :=
  m.live?_removeExpired k x (Nat.le_refl now)

theorem live?_update (ttlMs : Nat) (f : Option V → Option V) (ht : 0 < ttlMs) :
    (m.update now k ttlMs f).live? now x =
      if x = k then (f (m.live? now k)).or (m.live? now k) else m.live? now x := by
  rw [update]
  cases f (m.live? now k) with
  | none => by_cases h : x = k <;> simp [h]
  | some v => simp [live?_put, ht]

end ExpiringMap

/-! ### The store in memory -/

variable {V : Type}

instance : StoreView (MemoryStore V) V where
  live? s k := s.map.live? s.now k

instance : ReliableStore (MemoryStore V) where
  get_fst _ _ := rfl
  live?_get k x s := s.map.live?_get s.now k x
  put_fst _ _ _ _ := rfl
  live?_put k x v ttlMs s ht := by
    have h := s.map.live?_put s.now k x v ttlMs
    rwa [if_pos ht] at h
  live?_remove k x s := s.map.live?_remove s.now k x
  update_fst _ _ _ _ := rfl
  live?_update k x _ f s ht := s.map.live?_update s.now k x _ f ht

instance : AnsweringStore (MemoryStore V) where
  get_fst _ _ := ⟨_, rfl⟩
  live?_get k x s := s.map.live?_get s.now k x
  put_fst _ _ _ _ := rfl
  remove_fst _ _ := rfl
  update_fst _ _ _ _ := ⟨_, rfl⟩

instance : ConfinedStore (MemoryStore V) where
  live?_get k x s := s.map.live?_get s.now k x
  live?_put_ne {k x} v ttlMs s hx := by
    have hput := s.map.live?_put s.now k x v ttlMs
    rwa [if_neg hx] at hput
  live?_update_none {k} x ttlMs f s hf := by
    have hnone : f (s.map.live? s.now k) = none := hf
    have hupdate : s.map.update s.now k ttlMs f = s.map := by rw [ExpiringMap.update, hnone]
    exact congrArg (·.live? s.now x) hupdate

/-- With any lifetime, what a `put` adds to the live values is what it was given. -/
theorem MemoryStore.live?_put_cases {s : MemoryStore V} {k x : String} {v w : V} {ttlMs : Nat}
    (h : live? (Store.put k v ttlMs s).2 x = some w) : (x = k ∧ w = v) ∨ live? s x = some w := by
  have hp := (s.map.live?_put s.now k x v ttlMs).symm.trans h
  by_cases hx : x = k
  · rw [if_pos hx] at hp
    split at hp
    · exact .inl ⟨hx, (Option.some.inj hp).symm⟩
    · exact absurd hp (by simp)
  · rw [if_neg hx] at hp
    exact .inr hp

instance : HonestStore (MemoryStore V) where
  live_of_get h := Except.ok.inj h
  live_get {k x s w} h := (s.map.live?_get s.now k x).symm.trans h
  live_put h := MemoryStore.live?_put_cases h
  live_remove {k x s w} h := by
    have hr := (s.map.live?_remove s.now k x).symm.trans h
    split at hr
    · exact absurd hr (by simp)
    · exact hr
  live_update {k x ttlMs f s w} h := by
    have hu : (s.map.update s.now k ttlMs f).live? s.now x = some w := h
    rw [ExpiringMap.update] at hu
    cases hf : f (s.map.live? s.now k) with
    | none => exact .inr (by rwa [hf] at hu)
    | some v =>
      rw [hf] at hu
      rcases MemoryStore.live?_put_cases hu with ⟨hx, rfl⟩ | hx
      · exact .inl ⟨hx, _, hf⟩
      · exact .inr hx

/-! ### The store on trial -/

namespace TrialStore

instance : StoreView (TrialStore V) V where
  live? s k := s.map.live? s.now k

/-- An update of a store on trial fails, is skipped, or is made. -/
theorem update_cases (k : String) (ttlMs : Nat) (f : Option V → Option V) (s : TrialStore V) :
    ((∀ seen, (Store.update k ttlMs f s).1 ≠ .applied seen) ∧
        ∀ x, live? (Store.update k ttlMs f s).2 x = live? s x) ∨
      ((Store.update k ttlMs f s).1 = .applied (s.intrude.map.live? s.intrude.now k) ∧
        ∀ x, live? (Store.update k ttlMs f s).2 x =
          (s.intrude.map.update s.intrude.now k ttlMs f).live? s.intrude.now x) := by
  by_cases hfails : s.failing.contains .update = true
  · simp only [Store.update, hfails, if_true]
    exact .inl ⟨by simp, fun _ => rfl⟩
  · by_cases hskips : s.skipping = true
    · simp only [Store.update, hfails, hskips, if_true]
      exact .inl ⟨by simp, fun _ => rfl⟩
    · simp only [Store.update, hfails, hskips]
      exact .inr ⟨rfl, fun _ => rfl⟩

instance : FaithfulStore (TrialStore V) where
  live?_of_applied {k ttlMs f s seen} httl happlied := by
    rcases update_cases k ttlMs f s with ⟨hunmade, -⟩ | ⟨hmade, hlive⟩
    · exact absurd happlied (hunmade seen)
    · obtain rfl := Updated.applied.inj (hmade.symm.trans happlied)
      rw [hlive, ExpiringMap.live?_update _ _ _ _ _ _ httl, if_pos rfl]

instance : AtomicStore (TrialStore V) where
  live?_get k x s := by
    by_cases hfails : s.failing.contains .get = true
    · simp only [Store.get, hfails, if_true]
      rfl
    · simp only [Store.get, hfails]
      exact s.map.live?_get s.now k x
  live?_of_not_applied {k} x ttlMs f s h := by
    rcases update_cases k ttlMs f s with ⟨-, hlive⟩ | ⟨hmade, -⟩
    · exact hlive x
    · exact absurd hmade (h _)

end TrialStore

/-! ### A store in use by others -/

/-- A store that others write to as well. -/
structure SharedStore (σ V : Type) where
  store : σ
  /-- What others have yet to write, with its lifetime: each right before one of the next updates. -/
  others : List (String × V × Nat)

namespace SharedStore

variable {σ : Type}

instance [Store σ V] : Store (SharedStore σ V) V where
  get k s := (Store.get k s.store).map id (⟨·, s.others⟩)
  put k v ttlMs s := (Store.put k v ttlMs s.store).map id (⟨·, s.others⟩)
  remove k s := (Store.remove k s.store).map id (⟨·, s.others⟩)
  update k ttlMs f s :=
    match s.others with
    | [] => (Store.update k ttlMs f s.store).map id (⟨·, []⟩)
    | (x, v, life) :: others =>
      (Store.update k ttlMs f (Store.put x v life s.store).2).map id (⟨·, others⟩)

instance [StoreView σ V] : StoreView (SharedStore σ V) V where
  live? s k := live? s.store k

instance [Store σ V] [StoreView σ V] [AnsweringStore σ] : AnsweringStore (SharedStore σ V) where
  get_fst k s := AnsweringStore.get_fst k s.store
  live?_get k x s := AnsweringStore.live?_get k x s.store
  put_fst k v ttlMs s := AnsweringStore.put_fst k v ttlMs s.store
  remove_fst k s := AnsweringStore.remove_fst k s.store
  update_fst k ttlMs f s := by
    obtain ⟨store, _ | ⟨⟨x, v, life⟩, others⟩⟩ := s
    · exact AnsweringStore.update_fst k ttlMs f store
    · exact AnsweringStore.update_fst k ttlMs f (Store.put x v life store).2

end SharedStore

/-! ### A store behind a line -/

/-- What becomes of a call on its way. -/
inductive Fate where
  /-- It is made and answered. -/
  | answered
  /-- It is never made. -/
  | lost
  /-- It is made, but the answer is lost. -/
  | unanswered
  deriving DecidableEq

/-- A store behind a line on which calls and answers get lost. -/
structure RemoteStore (σ : Type) where
  store : σ
  /-- The fates of the next calls. All calls after these are answered. -/
  fates : List Fate

namespace RemoteStore

variable {σ α : Type}

/-- Makes a call, as far as the line allows. The caller takes a lost answer for `failure`. -/
def call (s : RemoteStore σ) (failure : α) (made : α × σ) : α × RemoteStore σ :=
  match s.fates with
  | [] => (made.1, ⟨made.2, []⟩)
  | .answered :: fates => (made.1, ⟨made.2, fates⟩)
  | .lost :: fates => (failure, ⟨s.store, fates⟩)
  | .unanswered :: fates => (failure, ⟨made.2, fates⟩)

/-- What the caller is told when the line fails. -/
def outage : StoreError := ⟨"no answer"⟩

instance [Store σ V] : Store (RemoteStore σ) V where
  get k s := s.call (.error outage) (Store.get k s.store)
  put k v ttlMs s := s.call (.error outage) (Store.put k v ttlMs s.store)
  remove k s := s.call (.error outage) (Store.remove k s.store)
  update k ttlMs f s := s.call (.failed outage) (Store.update k ttlMs f s.store)

instance [StoreView σ V] : StoreView (RemoteStore σ) V where
  live? s k := live? s.store k

/-- A call is made and answered, or it fails, and then it may have been made or not. -/
theorem call_cases (s : RemoteStore σ) (failure : α) (made : α × σ) :
    (s.call failure made).2.store = made.2 ∧
        ((s.call failure made).1 = made.1 ∨ (s.call failure made).1 = failure) ∨
      (s.call failure made).2.store = s.store ∧ (s.call failure made).1 = failure := by
  rw [call]
  split
  · exact .inl ⟨rfl, .inl rfl⟩
  · exact .inl ⟨rfl, .inl rfl⟩
  · exact .inr ⟨rfl, rfl⟩
  · exact .inl ⟨rfl, .inr rfl⟩

variable [StoreView σ V]

theorem live?_of_store {s : RemoteStore σ} {t : σ} (h : s.store = t) (x : String) :
    live? s x = live? t x :=
  congrArg (fun t => live? t x) h

/-- What a call leaves alone is left alone on the way there as well, whatever becomes of the call.
-/
theorem live?_call (s : RemoteStore σ) (failure : α) {made : α × σ} {x : String}
    (hmade : live? made.2 x = live? s.store x) :
    live? (s.call failure made).2 x = live? s x := by
  rcases s.call_cases failure made with ⟨hstore, -⟩ | ⟨hstore, -⟩
  · exact (live?_of_store hstore x).trans hmade
  · exact live?_of_store hstore x

instance [Store σ V] [ReliableStore σ] : SteadyStore (RemoteStore σ) where
  eq_of_get {k s found} h := by
    have hget : (Store.get k s.store).1 = .ok (live? s.store k) :=
      ReliableStore.get_fst k s.store
    rcases s.call_cases (.error outage) (Store.get k s.store) with
      ⟨-, hmade | hfailed⟩ | ⟨-, hfailed⟩
    · have hok := (hget.symm.trans hmade.symm).trans h
      exact (Except.ok.inj hok).symm
    · exact absurd (hfailed.symm.trans h) (by simp)
    · exact absurd (hfailed.symm.trans h) (by simp)
  live?_get k x s := s.live?_call _ (ReliableStore.live?_get k x s.store)
  put_cases k v ttlMs s httl := by
    have hput x := ReliableStore.live?_put k x v s.store httl
    rcases s.call_cases (.error outage) (Store.put k v ttlMs s.store) with
      ⟨hmade, -⟩ | ⟨hlost, hfailed⟩
    · exact .inl fun x => (live?_of_store hmade x).trans (hput x)
    · exact .inr ⟨⟨outage, hfailed⟩, fun x => live?_of_store hlost x⟩
  remove_cases k s := by
    have hremove (x : String) :
        live? (Store.remove k s.store).2 x = if x = k then none else live? s.store x :=
      ReliableStore.live?_remove k x s.store
    rcases s.call_cases (.error outage) (Store.remove k s.store) with
      ⟨hmade, -⟩ | ⟨hlost, hfailed⟩
    · exact .inl fun x => (live?_of_store hmade x).trans (hremove x)
    · exact .inr ⟨⟨outage, hfailed⟩, fun x => live?_of_store hlost x⟩
  update_fst k ttlMs f s := by
    have hupdate := ReliableStore.update_fst k ttlMs f s.store
    rcases s.call_cases (.failed outage) (Store.update k ttlMs f s.store) with
      ⟨-, hmade | hfailed⟩ | ⟨-, hfailed⟩
    · exact .inl (hmade.trans hupdate)
    · exact .inr ⟨outage, hfailed⟩
    · exact .inr ⟨outage, hfailed⟩
  update_cases k ttlMs f s httl := by
    have hupdate x := ReliableStore.live?_update k x f s.store httl
    rcases s.call_cases (.failed outage) (Store.update k ttlMs f s.store) with
      ⟨hmade, -⟩ | ⟨hlost, hfailed⟩
    · exact .inl fun x => (live?_of_store hmade x).trans (hupdate x)
    · exact .inr ⟨⟨outage, hfailed⟩, fun x => live?_of_store hlost x⟩

instance [Store σ V] [ConfinedStore σ] : ConfinedStore (RemoteStore σ) where
  live?_get k x s := s.live?_call _ (ConfinedStore.live?_get k x s.store)
  live?_put_ne v ttlMs s hx := s.live?_call _ (ConfinedStore.live?_put_ne v ttlMs s.store hx)
  live?_update_none x ttlMs _ s hf :=
    s.live?_call _ (ConfinedStore.live?_update_none x ttlMs hf)

end RemoteStore

end Gatehouse
