import Gatehouse.Admission.Trial
import Gatehouse.Proofs.Stores

/-!
# Keeping keys apart

A store that several parties use is safe to share if it treats every key by itself: a call reads and
writes what belongs to its own key and nothing else. Then parties with different keys are nothing to
each other. The same can be asked of an oracle, question by question. This file says what it is to
treat keys by themselves, and shows that the store in memory does.

Nothing else is asked for. Calls may fail, values may vanish and opinions may change, if this
happens to each key by itself.

## Main definitions

* `Keywise` — a call that reads and writes what belongs to one key
* `KeywiseStore`, `QuestionwiseOracle` — stores and oracles all of whose calls are so
* `Indifferent` — a question whose answers do not change when it is asked

## Main results

* `Keywise.entry_congr` — states that agree about some keys, that of a call among them, go on to
  agree about these
-/

namespace Gatehouse

/-! ### Calls at one key -/

/-- A call reads and writes only what belongs to the key `k`. What belongs to a key in a state is
its entry. -/
structure Keywise {S K E α : Type} (entry : S → K → E) (k : K) (call : S → α × S) : Prop where
  congr : ∀ {s s' : S}, entry s k = entry s' k →
    (call s).1 = (call s').1 ∧ entry (call s).2 k = entry (call s').2 k
  of_ne : ∀ (s : S) {x : K}, x ≠ k → entry (call s).2 x = entry s x

theorem Keywise.entry_congr {S K E α : Type} {entry : S → K → E} {k : K} {call : S → α × S}
    (h : Keywise entry k call) {P : K → Prop} {s s' : S} (hk : P k)
    (hs : ∀ x, P x → entry s x = entry s' x) :
    (call s).1 = (call s').1 ∧ ∀ x, P x → entry (call s).2 x = entry (call s').2 x := by
  obtain ⟨hresult, hown⟩ := h.congr (hs k hk)
  refine ⟨hresult, fun x hx => ?_⟩
  by_cases hne : x = k
  · rw [hne]
    exact hown
  · rw [h.of_ne s hne, h.of_ne s' hne]
    exact hs x hx

/-! ### Stores -/

/-- Stores that treat every key by itself. An entry is all that the store knows about a key. -/
class KeywiseStore (σ : Type) (V : outParam Type) [Store σ V] where
  Entry : Type
  entry : σ → String → Entry
  get : ∀ k, Keywise entry k (Store.get (σ := σ) k)
  put : ∀ k v ttlMs, Keywise entry k (Store.put (σ := σ) k v ttlMs)
  remove : ∀ k, Keywise entry k (Store.remove (σ := σ) k)
  update : ∀ k ttlMs f, Keywise entry k (Store.update (σ := σ) k ttlMs f)

export KeywiseStore (entry)

namespace MemoryStore

variable {V : Type}

/-- All that is known about a key: its slot, and the present instant. -/
def entry (s : MemoryStore V) (k : String) : Option (Slot V) × Nat := (s.map.slots.get? k, s.now)

/-- A call that makes a new map is keywise if its result is by the slot of its key and the instant,
and the new slots are by the old one of the key or as they were. -/
theorem keywise {α : Type} {k : String} {call : MemoryStore V → α × MemoryStore V}
    (result : Option (Slot V) → Nat → α) (slot : Option (Slot V) → Nat → Option (Slot V))
    (hresult : ∀ s, (call s).1 = result (s.map.slots.get? k) s.now)
    (hnow : ∀ s, (call s).2.now = s.now)
    (hslots : ∀ s x, (call s).2.map.slots.get? x =
      if x = k then slot (s.map.slots.get? k) s.now else s.map.slots.get? x) :
    Keywise entry k call := by
  constructor
  · intro s s' h
    obtain ⟨hslot, hsame⟩ := Prod.mk.inj h
    refine ⟨by rw [hresult, hresult, hslot, hsame], Prod.ext ?_ ?_⟩
    · rw [entry, entry, hslots, hslots, if_pos rfl, if_pos rfl, hslot, hsame]
    · rw [entry, entry, hnow, hnow, hsame]
  · intro s x hne
    rw [entry, entry, hslots, hnow, if_neg hne]

end MemoryStore

/-- The store in memory treats every key by itself, with any lifetimes and as time passes. -/
instance {V : Type} : KeywiseStore (MemoryStore V) V where
  Entry := Option (Slot V) × Nat
  entry := MemoryStore.entry
  get k := MemoryStore.keywise
    (fun slot now => .ok (ExpiringMap.liveIn slot now))
    (fun slot now => slot.filter (·.isLive now))
    (fun s => congrArg Except.ok (s.map.live?_eq_liveIn s.now k)) (fun _ => rfl)
    (fun s x => s.map.get?_removeExpired s.now k x)
  put k v ttlMs := MemoryStore.keywise (fun _ _ => .ok ()) (fun _ now => some ⟨v, now + ttlMs⟩)
    (fun _ => rfl) (fun _ => rfl) (fun s x => s.map.slots.get?_set k x ⟨v, s.now + ttlMs⟩)
  remove k := MemoryStore.keywise (fun _ _ => .ok ()) (fun _ _ => none)
    (fun _ => rfl) (fun _ => rfl) (fun s x => s.map.slots.get?_erase k x)
  update k ttlMs f := MemoryStore.keywise
    (fun slot now => .applied (ExpiringMap.liveIn slot now))
    (fun slot now => ((f (ExpiringMap.liveIn slot now)).map (Slot.mk · (now + ttlMs))).or slot)
    (fun s => congrArg Updated.applied (s.map.live?_eq_liveIn s.now k)) (fun _ => rfl)
    (fun s x => s.map.live?_eq_liveIn s.now k ▸ s.map.get?_update s.now k x ttlMs f)

/-- Time passes in a store in memory. -/
def MemoryStore.wait {V : Type} (s : MemoryStore V) (ms : Nat) : MemoryStore V :=
  { s with now := s.now + ms }

theorem MemoryStore.entry_wait {V : Type} {s s' : MemoryStore V} {k : String} (ms : Nat)
    (h : entry s k = entry s' k) : entry (s.wait ms) k = entry (s'.wait ms) k := by
  obtain ⟨hslot, hnow⟩ := Prod.mk.inj h
  exact Prod.ext hslot (congrArg (· + ms) hnow)

/-! ### Oracles -/

/-- Oracles that treat every question by itself. A mood is all that decides about the answers to a
question. -/
class QuestionwiseOracle (ω : Type) [Oracle ω] where
  Mood : Type
  mood : ω → String × String → Mood
  ask : ∀ p c, Keywise mood (p, c) (Oracle.ask (ω := ω) p c)

export QuestionwiseOracle (mood)

/-- Asking a question does not change the answers to it. -/
def Indifferent (ω : Type) [Oracle ω] [QuestionwiseOracle ω] (q : String × String) : Prop :=
  ∀ o : ω, mood (Oracle.ask q.1 q.2 o).2 q = mood o q

/-- An oracle whose answers to each question are written down. -/
structure Script where
  replies : String × String → List OracleReply

instance : Oracle Script where
  ask p c o :=
    ((o.replies (p, c)).headD TrialOracle.unknown,
      ⟨fun q => if q = (p, c) then (o.replies q).tail else o.replies q⟩)

instance : QuestionwiseOracle Script where
  Mood := List OracleReply
  mood := Script.replies
  ask p c :=
    { congr := by
        intro o o' h
        refine ⟨congrArg (·.headD TrialOracle.unknown) h, ?_⟩
        simp only [Oracle.ask, if_true]
        exact congrArg List.tail h
      of_ne := fun o q hne => if_neg hne }

end Gatehouse
