import Gatehouse.Proofs.Stores
import Mathlib.Data.Set.Card

/-!
# The store in memory and an ideal one

An ideal store never cleans up. For each key it knows what was written last, unless that was removed
since, and it gives this out until its time is up. The store in memory cleans up all the time: reads
drop the expired slot that they find, purges drop all of them, and writes go over them. This file
shows that nobody can tell the two apart.

## What is compared

The stores are not compared by what they hold, since an expired slot may be there or not. They are
compared by what they give out *from now on*: to every key, at this instant and at each later one. An
expired slot counts for nothing then, whoever drops it and whenever, as long as clocks do not go
back. This is why the second half of a read is harmless, although the slot may have been written
again since the first half: it drops what was expired at an earlier instant.

## Main definitions

* `MemoryStore.Event` — calls of the store and the instants at which they are made
* `IdealMap` — the ideal store
* `told` — the transcript of a run: what each caller is told
* `Thinned` — a list without some of its silent elements
* `ExpiringMap.Tidy` — what is counted, dropped and kept

## Main results

* `MemoryStore.told_eq` — both stores tell their callers the same
* `told_thinned` — silent calls may be left out
* `MemoryStore.refines_ideal` — the two together, and what becomes of the slots
-/

namespace Gatehouse

/-! ### Transcripts -/

section Transcripts

variable {S E R : Type} {step : S → E → R × S}

/-- The events of a run, each with what its caller is told. -/
def told (step : S → E → R × S) : S → List E → List (E × R)
  | _, [] => []
  | s, e :: es => (e, (step s e).1) :: told step (step s e).2 es

/-- The second list is the first one without some of its silent elements. -/
inductive Thinned {α : Type} (silent : α → Prop) : List α → List α → Prop where
  | nil : Thinned silent [] []
  | keep (a : α) {l l' : List α} : Thinned silent l l' → Thinned silent (a :: l) (a :: l')
  | drop {a : α} {l l' : List α} (h : silent a) : Thinned silent l l' → Thinned silent (a :: l) l'

theorem Thinned.sublist {α : Type} {silent : α → Prop} {l l' : List α}
    (h : Thinned silent l l') : l'.Sublist l := by
  induction h with
  | nil => exact .slnil
  | keep a _ ih => exact ih.cons_cons a
  | drop _ _ ih => exact ih.cons _

/-- Events that change nothing can be left out. All other callers are told the same. -/
theorem told_thinned {silent : E → Prop} (hsilent : ∀ s e, silent e → (step s e).2 = s)
    {es es' : List E} (h : Thinned silent es es') (s : S) :
    Thinned (fun p => silent p.1) (told step s es) (told step s es') := by
  induction h generalizing s with
  | nil => exact .nil
  | keep e _ ih => exact .keep _ (ih _)
  | drop he _ ih =>
    rw [told, hsilent s _ he]
    exact .drop he (ih s)

end Transcripts

/-! ### Runs of the store in memory -/

namespace MemoryStore

variable {V : Type}

/-- What can be asked of a store in memory. -/
inductive Call (V : Type) where
  | get (k : String)
  | put (k : String) (v : V) (ttlMs : Nat)
  | remove (k : String)
  /-- What `f` makes of the live value is written, or nothing. -/
  | update (k : String) (ttlMs : Nat) (f : Option V → Option V)
  | purge
  /-- The first half of a read. -/
  | look (k : String)
  /-- The second half of a read that looked at the instant `since`. -/
  | tidy (k : String) (since : Nat)

/-- A call at an instant. -/
structure Event (V : Type) where
  instant : Nat
  call : Call V

/-- Reads, halves of reads and purges are silent: nobody should notice them. -/
def Event.Silent (e : Event V) : Prop :=
  match e.call with
  | .put .. | .remove _ | .update .. => False
  | _ => True

/-- Instants do not go back, and the halves of a read are in order. -/
structure Timely (es : List (Event V)) : Prop where
  ordered : es.Pairwise fun d e => d.instant ≤ e.instant
  halves : ∀ e ∈ es, ∀ k since, e.call = .tidy k since → since ≤ e.instant

/-- The live value that an update showed, if it was made. -/
def shown : Updated V → Option (Option V)
  | .applied seen => some seen
  | _ => none

/-- What the caller of an event is told of the live value of its key, and the store after it. -/
def step (s : MemoryStore V) (e : Event V) : Option (Option V) × MemoryStore V :=
  let s := { s with now := e.instant }
  match e.call with
  | .get k => let (found, s) := Store.get k s; (found.toOption, s)
  | .put k v ttlMs => (none, (Store.put k v ttlMs s).2)
  | .remove k => (none, (Store.remove k s).2)
  | .update k ttlMs f => let (result, s) := Store.update k ttlMs f s; (shown result, s)
  | .purge => (none, { s with map := (s.map.purge s.now).2 })
  | .look k => (some (s.map.live? s.now k), s)
  | .tidy k since => (none, { s with map := s.map.removeExpired since k })

/-- A store in memory without slots. -/
def fresh : MemoryStore V := ⟨ExpiringMap.empty, 0⟩

end MemoryStore

/-! ### The ideal store -/

/-- For each key, what was written last, unless it was removed since. -/
structure IdealMap (V : Type) where
  last : String → Option (Slot V)

namespace IdealMap

variable {V : Type}

def empty : IdealMap V := ⟨fun _ => none⟩

/-- The value of a key at an instant: what was written last, if that was not removed and its time is
not up. -/
def present (i : IdealMap V) (now : Nat) (k : String) : Option V :=
  (i.last k).bind fun s => if now < s.expiresAt then some s.value else none

/-- Notes what was written to a key, or that it was removed. -/
def note (i : IdealMap V) (k : String) (slot : Option (Slot V)) : IdealMap V :=
  ⟨fun x => if x = k then slot else i.last x⟩

/-- Reads and purges are nothing to an ideal store. -/
def step (i : IdealMap V) (e : MemoryStore.Event V) : Option (Option V) × IdealMap V :=
  match e.call with
  | .get k | .look k => (some (i.present e.instant k), i)
  | .put k v ttlMs => (none, i.note k (some ⟨v, e.instant + ttlMs⟩))
  | .remove k => (none, i.note k none)
  | .update k ttlMs f =>
    let seen := i.present e.instant k
    (some seen, match f seen with
      | some v => i.note k (some ⟨v, e.instant + ttlMs⟩)
      | none => i)
  | .purge | .tidy .. => (none, i)

theorem present_note (i : IdealMap V) (now : Nat) (k x : String) (slot : Option (Slot V)) :
    (i.note k slot).present now x =
      if x = k then slot.bind fun s => if now < s.expiresAt then some s.value else none
      else i.present now x := by
  rw [present, note]
  by_cases h : x = k <;> simp [h, present]

theorem step_silent (i : IdealMap V) (e : MemoryStore.Event V) (h : e.Silent) :
    (i.step e).2 = i := by
  obtain ⟨instant, call⟩ := e
  cases call <;> first | rfl | exact h.elim

end IdealMap

/-! ### The two give out the same -/

section Refinement

variable {V : Type} {m : ExpiringMap V} {i : IdealMap V} {now : Nat}

/-- From an instant on, both stores have the same value for every key. -/
def AgreeFrom (now : Nat) (m : ExpiringMap V) (i : IdealMap V) : Prop :=
  ∀ t, now ≤ t → ∀ k, m.live? t k = i.present t k

namespace AgreeFrom

theorem empty (now : Nat) : AgreeFrom now (ExpiringMap.empty : ExpiringMap V) .empty :=
  fun _ _ _ => rfl

theorem later (h : AgreeFrom now m i) {t : Nat} (ht : now ≤ t) : AgreeFrom t m i :=
  fun u hu k => h u (Nat.le_trans ht hu) k

theorem put (h : AgreeFrom now m i) (k : String) (v : V) (ttlMs : Nat) :
    AgreeFrom now (m.put now k v ttlMs) (i.note k (some ⟨v, now + ttlMs⟩)) := by
  intro t ht x
  rw [ExpiringMap.live?_put_at, IdealMap.present_note, h t ht x]
  rfl

theorem remove (h : AgreeFrom now m i) (k : String) :
    AgreeFrom now (m.remove k) (i.note k none) := by
  intro t ht x
  rw [ExpiringMap.live?_remove, IdealMap.present_note, h t ht x]
  rfl

theorem update (h : AgreeFrom now m i) (k : String) (ttlMs : Nat) (f : Option V → Option V) :
    AgreeFrom now (m.update now k ttlMs f) (match f (i.present now k) with
      | some v => i.note k (some ⟨v, now + ttlMs⟩)
      | none => i) := by
  rw [ExpiringMap.update, h now (Nat.le_refl now) k]
  cases f (i.present now k) with
  | none => exact h
  | some v => exact h.put k v ttlMs

theorem purge (h : AgreeFrom now m i) : AgreeFrom now (m.purge now).2 i :=
  fun t ht x => (m.live?_purge x ht).trans (h t ht x)

theorem removeExpired (h : AgreeFrom now m i) (k : String) {since : Nat} (hs : since ≤ now) :
    AgreeFrom now (m.removeExpired since k) i :=
  fun t ht x => (m.live?_removeExpired k x (Nat.le_trans hs ht)).trans (h t ht x)

end AgreeFrom

namespace MemoryStore

variable {s : MemoryStore V}

/-- One event: the caller is told the same, and the stores agree from then on. -/
theorem step_agrees {e : Event V} (h : AgreeFrom e.instant s.map i)
    (hhalf : ∀ k since, e.call = .tidy k since → since ≤ e.instant) :
    (s.step e).1 = (i.step e).1 ∧ AgreeFrom e.instant (s.step e).2.map (i.step e).2 := by
  obtain ⟨instant, call⟩ := e
  have hlive (k : String) : some (s.map.live? instant k) = some (i.present instant k) :=
    congrArg some (h instant (Nat.le_refl instant) k)
  cases call with
  | get k => exact ⟨hlive k, h.removeExpired k (Nat.le_refl instant)⟩
  | put k v ttlMs => exact ⟨rfl, h.put k v ttlMs⟩
  | remove k => exact ⟨rfl, h.remove k⟩
  | update k ttlMs f => exact ⟨hlive k, h.update k ttlMs f⟩
  | purge => exact ⟨rfl, h.purge⟩
  | look k => exact ⟨hlive k, h⟩
  | tidy k since => exact ⟨rfl, h.removeExpired k (hhalf k since rfl)⟩

/-- **All callers are told the same.** -/
theorem told_eq {es : List (Event V)} (ht : Timely es) (hnow : ∀ e ∈ es, now ≤ e.instant)
    (h : AgreeFrom now s.map i) : told step s es = told IdealMap.step i es := by
  induction es generalizing s i now with
  | nil => rfl
  | cons e es ih =>
    obtain ⟨hfirst, hrest⟩ := List.pairwise_cons.mp ht.ordered
    obtain ⟨hsame, hafter⟩ := step_agrees (h.later (hnow e List.mem_cons_self))
      (ht.halves e List.mem_cons_self)
    have hthen := ih ⟨hrest, fun d hd => ht.halves d (List.mem_cons_of_mem e hd)⟩ hfirst hafter
    rw [told, told, hsame, hthen]

theorem told_fresh {es : List (Event V)} (ht : Timely es) :
    told step fresh es = told IdealMap.step .empty es :=
  told_eq ht (fun _ _ => Nat.zero_le _) (.empty 0)

theorem Timely.sublist {es es' : List (Event V)} (ht : Timely es) (h : es'.Sublist es) :
    Timely es' :=
  ⟨ht.ordered.sublist h, fun e he => ht.halves e (h.subset he)⟩

end MemoryStore

end Refinement

/-! ### What becomes of the slots -/

section Slots

theorem Table.mem_keys_iff {K V : Type} [DecidableEq K] {t : Table K V} {k : K} :
    k ∈ t.entries.map Prod.fst ↔ ∃ v, t.get? k = some v := by
  rw [get?]
  induction t.entries with
  | nil => simp [lookup]
  | cons e r ih =>
    obtain ⟨k', w⟩ := e
    by_cases h : k' = k
    · simp [lookup, h]
    · simp only [lookup, if_neg h, List.map_cons, List.mem_cons, ← ih]
      simp [Ne.symm h]

theorem Table.size_eq_ncard {K V : Type} [DecidableEq K] (t : Table K V) :
    t.size = {k | ∃ v, t.get? k = some v}.ncard := by
  have hkeys : {k | ∃ v, t.get? k = some v} = ↑(t.entries.map Prod.fst).toFinset := by
    ext k
    rw [Finset.mem_coe, List.mem_toFinset, mem_keys_iff]
    rfl
  rw [hkeys, Set.ncard_coe_finset, List.toFinset_card_of_nodup t.nodup, List.length_map]
  rfl

variable {V : Type}

/-- What is counted at an instant, and what is dropped and kept. -/
structure ExpiringMap.Tidy (m : ExpiringMap V) (now : Nat) : Prop where
  /-- All slots count, live or not. -/
  len_eq : m.len = {k | ∃ s, m.slots.get? k = some s}.ncard
  purged_eq : (m.purge now).1 = {k | ∃ s, m.slots.get? k = some s ∧ s.isLive now = false}.ncard
  purge_keeps : ∀ k s,
    (m.purge now).2.slots.get? k = some s ↔ m.slots.get? k = some s ∧ s.isLive now = true
  update_nothing : ∀ k ttlMs f, f (m.live? now k) = none → m.update now k ttlMs f = m
  /-- The second half of a read drops no slot that is live by now, whatever was done since the first
  half. -/
  removeExpired_keeps : ∀ k since, since ≤ now → ∀ x s, m.slots.get? x = some s →
    s.isLive now = true → (m.removeExpired since k).slots.get? x = some s

theorem ExpiringMap.fst_purge (m : ExpiringMap V) (now : Nat) :
    (m.purge now).1 = (m.slots.filter fun _ s => !s.isLive now).size := by
  have hsize := m.slots.size_filter_add_size_filter_not fun _ s => s.isLive now
  simp only [purge, len]
  omega

theorem ExpiringMap.tidy (m : ExpiringMap V) (now : Nat) : m.Tidy now where
  len_eq := m.slots.size_eq_ncard
  purged_eq := by
    rw [fst_purge, Table.size_eq_ncard]
    simp [Table.get?_filter, Option.filter_eq_some_iff]
  purge_keeps k s := by
    rw [get?_purge, Option.filter_eq_some_iff]
  update_nothing k ttlMs f hf := by
    rw [update, hf]
  removeExpired_keeps k since hle x s hs hlive := by
    rw [get?_removeExpired]
    by_cases hx : x = k
    · rw [if_pos hx, ← hx, hs, Option.filter_some, if_pos (Slot.isLive_of_le hle hlive)]
    · rw [if_neg hx, hs]

end Slots

/-! ### The result -/

namespace MemoryStore

variable {V : Type}

/-- **The store in memory refines the ideal one.** In every run from a store without slots in which
clocks do not go back, each caller of a read or an update is shown the value of the ideal store, and
every other caller nothing. So reads, halves of reads and purges can be left out or added
anywhere: all other callers are told the same. What is counted, dropped and kept in the meantime is
as it should be. Instants are unbounded: a write whose time would be up after the last instant of a
clock is not among the events. -/
theorem refines_ideal {es : List (Event V)} (ht : Timely es) :
    told step fresh es = told IdealMap.step .empty es ∧
      (∀ es', Thinned Event.Silent es es' →
        Thinned (fun p => p.1.Silent) (told step fresh es) (told step fresh es')) ∧
      ∀ (m : ExpiringMap V) (now : Nat), m.Tidy now := by
  refine ⟨told_fresh ht, fun es' hthin => ?_, ExpiringMap.tidy⟩
  rw [told_fresh ht, told_fresh (ht.sublist hthin.sublist)]
  exact told_thinned IdealMap.step_silent hthin _

/-! ### A run

A value expires and its slot is dropped by a read. A second read looks at the slot of another key
when that is expired, but the key is written again before the slot would be dropped. -/

namespace Sample

def events : List (Event Nat) :=
  [⟨0, .put "a" 1 5⟩, ⟨1, .put "b" 2 6⟩, ⟨3, .get "a"⟩, ⟨5, .get "a"⟩, ⟨7, .look "b"⟩,
    ⟨8, .update "b" 10 fun seen => some (seen.getD 3)⟩, ⟨9, .tidy "b" 7⟩, ⟨9, .purge⟩,
    ⟨12, .get "b"⟩]

/-- The same without the reads and the purge. -/
def writes : List (Event Nat) :=
  [⟨0, .put "a" 1 5⟩, ⟨1, .put "b" 2 6⟩, ⟨8, .update "b" 10 fun seen => some (seen.getD 3)⟩,
    ⟨12, .get "b"⟩]

theorem timely_events : Timely events where
  ordered := by decide
  halves e he k since hcall := by
    simp only [events, List.mem_cons, List.not_mem_nil, or_false] at he
    rcases he with rfl | rfl | rfl | rfl | rfl | rfl | rfl | rfl | rfl <;> simp at hcall
    -- Only the half of a read is left.
    obtain ⟨-, rfl⟩ := hcall
    decide

theorem thinned_events : Thinned Event.Silent events writes :=
  .keep _ <| .keep _ <| .drop trivial <| .drop trivial <| .drop trivial <| .keep _ <|
    .drop trivial <| .drop trivial <| .keep _ .nil

end Sample

theorem refines_ideal_at_expiry :
    Timely Sample.events ∧
      (told step fresh Sample.events).map Prod.snd =
        [none, none, some (some 1), some none, some none, some none, none, none,
          some (some 3)] ∧
      Thinned (fun p => p.1.Silent) (told step fresh Sample.events)
        (told step fresh Sample.writes) := by
  obtain ⟨hideal, hthin, -⟩ := refines_ideal Sample.timely_events
  refine ⟨Sample.timely_events, ?_, hthin _ Sample.thinned_events⟩
  rw [hideal]
  rfl

end MemoryStore

end Gatehouse
