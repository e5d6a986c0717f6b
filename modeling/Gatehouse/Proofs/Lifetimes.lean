import Gatehouse.Proofs.Keywise
import Gatehouse.Proofs.Rulings
import Gatehouse.Proofs.Rush

/-!
# How long counters are stored

A counter is written with a lifetime, after which the store gives it up. The lifetime is meant to
last for what is left of the window, and for some time more. This file tells when it does.

## Whose limits

Whose limits the lifetime is made of. It is made of the limits that the check counts under, and
these are fixed before its update. What the update writes may be a window that is open already, and
the limits of that one are those of the check that opened it. The two are the same only by chance: a
policy may have been replaced between the checks, or the oracle may have granted the two different
limits. So a check under a short window shortens the life of a counter with a long one.

What is left of a window is counted from what the clock said to the check that writes. That check
may have read the clock before the one that opened the window, and then there is even more left than
the length of the window.

## Implementation notes

Stores may fail, clocks may say anything, and counters may be lost at any time. Only the limits of
policies have to be positive.

## Main definitions

* `Crowd`, `Crowd.Step`, `Crowd.Reachable` — the runs
* `Check.Opens` — the check that opened the window of a counter
* `Crowd.Sound` — the invariant: every counter has such a check

## Main results

* `Crowd.Reachable.sound` — the invariant holds in every run
* `MemoryStore.keeps_iff` — the counters that a store in memory keeps to the end of their window
* `Crowd.lifetime_covers_iff` — when the lifetime is long enough
* `Crowd.counter_forgotten` — a run in which it is not
-/

namespace Gatehouse

open StoreView (live?)

/-! ### Runs -/

/-- The state of admission, and the checks that take part. -/
structure Crowd (κ ω : Type) where
  admission : Admission κ ω
  ongoing : List Check
  /-- The checks that came to their update, as they were then. -/
  counted : List Check

namespace Crowd

variable {κ ω : Type}

section Runs

variable [Store κ ThrottleCounter] [Oracle ω]

/-- A check under way makes its next step. -/
def advance (x : Crowd κ ω) (c : Check) : Crowd κ ω where
  admission := (c.advance x.admission).2
  ongoing :=
    match (c.advance x.admission).1 with
    | .inl c' => c' :: x.ongoing.erase c
    | .inr _ => x.ongoing.erase c
  counted := if c.stage.limits?.isSome then c :: x.counted else x.counted

variable [StoreView κ ThrottleCounter]

/-- What can happen at any time. -/
inductive Step (x : Crowd κ ω) : Crowd κ ω → Prop where
  /-- A check begins, whatever its policy is and its clock says. -/
  | begin (service : Service) (consumer : Option String) (s : Subject) (id : Uuid) (now : Int64)
      (hs : Subject.of? service consumer = some s) (hl : s.ownLimits.Positive) :
    Step x { x with ongoing := .begun s id now :: x.ongoing }
  | advance (c : Check) (h : c ∈ x.ongoing) : Step x (x.advance c)
  /-- Something else happens. Counters may be lost by it. -/
  | elsewhere (a : Admission κ ω)
      (h : ∀ k w, live? a.counters k = some w → live? x.admission.counters k = some w) :
    Step x { x with admission := a }

/-- What admission can come to, from its start on a store without entries. -/
inductive Reachable : Crowd κ ω → Prop where
  | start (a : Admission κ ω) (hempty : ∀ k, live? a.counters k = none) : Reachable ⟨a, [], []⟩
  | step {x x' : Crowd κ ω} : Reachable x → Step x x' → Reachable x'

end Runs

end Crowd

/-! ### Where counters come from -/

/-- A check opened the window of a counter under a key: it counted under the limits of the counter,
when the window began. -/
structure Check.Opens (o : Check) (k : String) (w : ThrottleCounter) : Prop where
  key : o.subject.key = k
  stage : o.stage = .counting w.limits
  now : o.now = w.windowStartMs

/-- What is written is a new window, or the one that is found. -/
theorem Subject.write_cases {s : Subject} {l : Limits} {now : Int64}
    {found : Option ThrottleCounter} {w : ThrottleCounter} (h : s.write l now found = some w) :
    w = .opened s.key s.consumer l now ∨
      ∃ v, found = some v ∧ v.isLive now = true ∧ w = v.counted := by
  obtain ⟨hallowed, rfl⟩ := Subject.write_eq_some_iff.mp h
  cases found with
  | none => exact .inl rfl
  | some v =>
    rw [tally] at hallowed ⊢
    by_cases hlive : v.isLive now = true
    · rw [if_pos hlive] at hallowed ⊢
      by_cases hlt : v.count < v.limit
      · rw [if_pos hlt]
        exact .inr ⟨v, rfl, hlive, rfl⟩
      · rw [if_neg hlt] at hallowed
        exact absurd hallowed (by simp [Decision.deny])
    · rw [if_neg hlive]
      exact .inl rfl

/-- The window of what is written was opened by the check itself, or by who opened the one that is
found. -/
theorem Check.opens_of_write {c : Check} {l : Limits} (hl : c.stage = .counting l)
    {found : Option ThrottleCounter} {w : ThrottleCounter} {cs : List Check}
    (hw : c.subject.write l c.now found = some w)
    (hfound : ∀ v, found = some v → ∃ o ∈ cs, o.Opens c.subject.key v) :
    ∃ o ∈ c :: cs, o.Opens c.subject.key w := by
  rcases Subject.write_cases hw with rfl | ⟨v, hv, -, rfl⟩
  · exact ⟨c, List.mem_cons_self, rfl, hl, rfl⟩
  · obtain ⟨o, ho, hopens⟩ := hfound v hv
    exact ⟨o, List.mem_cons_of_mem c ho, hopens.key, hopens.stage, hopens.now⟩

/-! ### The invariant -/

/-- A check of positive limits. -/
structure Check.Positive (c : Check) : Prop where
  own : c.subject.ownLimits.Positive
  counting : ∀ l, c.stage = .counting l → l.Positive

namespace Crowd

variable {κ ω : Type} [StoreView κ ThrottleCounter] {x x' : Crowd κ ω}

/-- Checks have positive limits, and every counter has a check that opened its window. -/
structure Sound (x : Crowd κ ω) : Prop where
  ongoing : ∀ c ∈ x.ongoing, c.Positive
  counted : ∀ c ∈ x.counted, c.Positive
  opened : ∀ k w, live? x.admission.counters k = some w → ∃ o ∈ x.counted, o.Opens k w

theorem Sound.start {a : Admission κ ω} (hempty : ∀ k, live? a.counters k = none) :
    Sound ⟨a, [], []⟩ where
  ongoing c hc := absurd hc List.not_mem_nil
  counted c hc := absurd hc List.not_mem_nil
  opened k w hw := by simp [hempty] at hw

theorem Sound.positive_of_live (hx : x.Sound) {k : String} {w : ThrottleCounter}
    (hw : live? x.admission.counters k = some w) : w.limits.Positive := by
  obtain ⟨o, ho, hopens⟩ := hx.opened k w hw
  exact (hx.counted o ho).counting _ hopens.stage

variable [Store κ ThrottleCounter] [SteadyStore κ] [Oracle ω]

theorem Sound.advance (hx : x.Sound) {c : Check} (hc : c ∈ x.ongoing) : (x.advance c).Sound := by
  have hrest : ∀ d ∈ x.ongoing.erase c, d.Positive := fun d hd =>
    hx.ongoing d (List.mem_of_mem_erase hd)
  have hpositive := hx.ongoing c hc
  rcases hstep : c.advance x.admission with ⟨out, a⟩
  cases hstage : c.stage.limits? with
  | none =>
    obtain ⟨hlive, hout⟩ := Check.advance_learning hstage hstep
    simp only [Crowd.advance, hstep, hstage]
    refine ⟨?_, hx.counted, fun k w hw => hx.opened k w ((hlive k).symm.trans hw)⟩
    rcases hout with ⟨stage, rfl, honward⟩ | ⟨rfl, -⟩
    · intro d hd
      rcases List.mem_cons.mp hd with rfl | hd
      · refine ⟨hpositive.own, ?_⟩
        rintro l rfl
        exact honward.positive hpositive.own fun w hw => hx.positive_of_live hw
      · exact hrest d hd
    · exact hrest
  | some l =>
    have hcounting := Stage.limits?_eq_some_iff.mp hstage
    obtain ⟨rfl, hcounters⟩ := Check.advance_counting hcounting hstep
    simp only [Crowd.advance, hstep, hstage, Option.isSome_some, if_true]
    refine ⟨hrest, ?_, ?_⟩
    · intro d hd
      rcases List.mem_cons.mp hd with rfl | hd
      · exact hpositive
      · exact hx.counted d hd
    · intro k w hw
      have hafter : a.counters = (x.admission.settle c l).2.counters := hcounters
      rw [hafter] at hw
      rcases (x.admission.settle_cases c l).2 k w hw with hold | ⟨rfl, hwrite⟩
      · obtain ⟨o, ho, hopens⟩ := hx.opened k w hold
        exact ⟨o, List.mem_cons_of_mem c ho, hopens⟩
      · exact Check.opens_of_write hcounting hwrite (hx.opened c.subject.key)

theorem Sound.step (hx : x.Sound) (h : Step x x') : x'.Sound := by
  cases h with
  | begin service consumer s id now hs hl =>
    refine ⟨?_, hx.counted, hx.opened⟩
    intro c hc
    rcases List.mem_cons.mp hc with rfl | hc
    · exact ⟨hl, fun l hl => by simp [Check.begun] at hl⟩
    · exact hx.ongoing c hc
  | advance c h => exact hx.advance h
  | elsewhere a h => exact ⟨hx.ongoing, hx.counted, fun k w hw => hx.opened k w (h k w hw)⟩

theorem Reachable.sound (hx : x.Reachable) : x.Sound := by
  induction hx with
  | start a hempty => exact Sound.start hempty
  | step _ hstep ih => exact ih.step hstep

end Crowd

/-! ### What a store keeps -/

/-- What a store in memory was given is there until its lifetime is over. -/
theorem MemoryStore.live?_wait_update {V : Type} {m : MemoryStore V} {k : String} {ttlMs : Nat}
    {f : Option V → Option V} {v : V} (hf : f (live? m k) = some v) (ms : Nat) :
    live? ((Store.update k ttlMs f m).2.wait ms) k = if ms < ttlMs then some v else none := by
  have hupdate : m.map.update m.now k ttlMs f = m.map.put m.now k v ttlMs := by
    have hf' : f (m.map.live? m.now k) = some v := hf
    rw [ExpiringMap.update, hf']
  show (m.map.update m.now k ttlMs f).live? (m.now + ms) k = _
  rw [hupdate, ExpiringMap.live?_put_at, if_pos rfl]
  simp only [Nat.add_lt_add_iff_left]

/-- **A store in memory keeps a counter to the end of its window exactly if it is given it for what
is left of the window.** -/
theorem MemoryStore.keeps_iff {m : MemoryStore ThrottleCounter} {k : String} {ttlMs : Nat}
    {f : Option ThrottleCounter → Option ThrottleCounter} {w : ThrottleCounter}
    (hf : f (live? m k) = some w) (now : Int64) :
    (∀ ms : Nat, now.toInt + ms < w.windowEndMs.toInt →
        live? ((Store.update k ttlMs f m).2.wait ms) k = some w) ↔
      w.windowEndMs.toInt - now.toInt ≤ ttlMs := by
  simp only [live?_wait_update hf]
  constructor
  · intro hkept
    refine Int.not_lt.mp fun hshort => ?_
    have hlast := hkept ttlMs (by omega)
    rw [if_neg (Nat.lt_irrefl ttlMs)] at hlast
    exact absurd hlast (by simp)
  · intro hcovers ms hms
    exact if_pos (by omega)

/-! ### The result -/

/-- What a check writes is covered by its lifetime, in terms of the check that opened the window. -/
theorem Check.covers_iff {o c : Check} {k : String} {w : ThrottleCounter} (ho : o.Opens k w)
    (hw : w.limits.Positive) {l : Limits} (hl : l.Positive) :
    w.windowEndMs.toInt - c.now.toInt ≤ l.lifetimeMs ↔
      min Int64.maxValue.toInt (o.now.toInt + w.limits.windowMs.toInt) ≤
        c.now.toInt + l.windowMs.toInt + 300000 := by
  have hwindow := Int64.lt_iff_toInt_lt.mp hl.window_pos
  rw [Int64.toInt_zero] at hwindow
  have hlife : (l.lifetimeMs : Int) = l.windowMs.toInt + 300000 := by
    rw [Limits.lifetimeMs, counterRetentionMs]
    omega
  have hduration : w.limits.windowMs = w.windowDurationMs := rfl
  rw [ThrottleCounter.toInt_windowEndMs_of_positive hw, hlife, ho.now, hduration]
  omega

namespace Crowd

variable {κ ω : Type} [Store κ ThrottleCounter] [StoreView κ ThrottleCounter] [SteadyStore κ]
  [Oracle ω] {x : Crowd κ ω}

/-- **When the lifetime of a counter covers its window.** A check that comes to its update makes it
with a lifetime of five minutes more than the window of the limits it counts under. The window of
what it writes was opened by some check of the same key, this one or an earlier one, and the
lifetime is as long as what is left of that window exactly if, by the two clocks, the window that
was opened ends no later than five minutes after the one that the check itself would open. This also
tells if a store in memory keeps what is written to the end of its window. -/
theorem lifetime_covers_iff (hx : x.Reachable) {c : Check} (hc : c ∈ x.ongoing) {l : Limits}
    (hl : c.stage = .counting l) :
    (x.advance c).admission.counters =
        (Store.update c.subject.key (l.windowMs.toInt.toNat + 300000) (c.subject.write l c.now)
          x.admission.counters).2 ∧
      ∀ w, c.subject.write l c.now (live? x.admission.counters c.subject.key) = some w →
        ∃ o ∈ (x.advance c).counted, ∃ l', o.subject.key = c.subject.key ∧
          o.stage = .counting l' ∧ w.limits = l' ∧ w.windowStartMs = o.now ∧
          (w.windowEndMs.toInt - c.now.toInt ≤ (l.windowMs.toInt.toNat + 300000 : Nat) ↔
            min Int64.maxValue.toInt (o.now.toInt + l'.windowMs.toInt) ≤
              c.now.toInt + l.windowMs.toInt + 300000) ∧
          ∀ m : MemoryStore ThrottleCounter,
            live? m c.subject.key = live? x.admission.counters c.subject.key →
            ((∀ ms : Nat, c.now.toInt + ms < w.windowEndMs.toInt →
                live? ((Store.update c.subject.key (l.windowMs.toInt.toNat + 300000)
                  (c.subject.write l c.now) m).2.wait ms) c.subject.key = some w) ↔
              min Int64.maxValue.toInt (o.now.toInt + l'.windowMs.toInt) ≤
                c.now.toInt + l.windowMs.toInt + 300000) := by
  have hsound := hx.sound
  have hadvanced := hsound.advance hc
  have hcounted : (x.advance c).counted = c :: x.counted := by
    simp [Crowd.advance, hl, Stage.limits?]
  refine ⟨(Check.advance_counting hl rfl).2, ?_⟩
  intro w hw
  obtain ⟨o, ho, hopens⟩ := Check.opens_of_write hl hw (hsound.opened c.subject.key)
  rw [← hcounted] at ho
  have hpositive := (hadvanced.counted o ho).counting _ hopens.stage
  have hcovers := Check.covers_iff (c := c) hopens hpositive ((hsound.ongoing c hc).counting l hl)
  refine ⟨o, ho, w.limits, hopens.key, hopens.stage, rfl, hopens.now.symm, hcovers, ?_⟩
  intro m hm
  rw [← hm] at hw
  exact (MemoryStore.keeps_iff hw c.now).trans hcovers

/-! ### A run

A service admits two requests in ten minutes. After the first one its policy is replaced by one of
two requests in a second. The second request comes within the ten minutes and is counted in their
window, which is now written for five minutes and a second. When these are over the window is full
and goes on for minutes, but there is no counter any more. -/

namespace Sample

def policy (windowMs : Int64) : ThrottlePolicy := ⟨true, 2, windowMs, none⟩

def service (windowMs : Int64) : Service :=
  { id := "svc", nodes := [], throttle := some (policy windowMs) }

def check (windowMs now : Int64) : Check :=
  .begun ⟨"svc", policy windowMs, "svc", none⟩ Uuid.zero now

/-- A check that has read the counter. -/
def counting (windowMs now : Int64) : Check :=
  { check windowMs now with stage := .counting ⟨2, windowMs⟩ }

/-- A check begins and reads the counter. -/
def begun (x : Crowd (MemoryStore ThrottleCounter) TrialOracle) (windowMs now : Int64) :
    Crowd (MemoryStore ThrottleCounter) TrialOracle :=
  Crowd.advance { x with ongoing := check windowMs now :: x.ongoing } (check windowMs now)

/-- Time passes for the counters. -/
def wait (x : Crowd (MemoryStore ThrottleCounter) TrialOracle) (ms : Nat) :
    Crowd (MemoryStore ThrottleCounter) TrialOracle :=
  { x with admission := { x.admission with counters := x.admission.counters.wait ms } }

def start : Crowd (MemoryStore ThrottleCounter) TrialOracle :=
  ⟨⟨⟨ExpiringMap.empty, 0⟩, none, 0, none, Metrics.empty⟩, [], []⟩

/-- The second check is about to count. -/
def replaced : Crowd (MemoryStore ThrottleCounter) TrialOracle :=
  begun (wait ((begun start 600000 0).advance (counting 600000 0)) 1) 1000 1

/-- The window that both requests are counted in. -/
def full : ThrottleCounter := ⟨"svc", none, 2, 600000, 0, 2⟩

/-- Four hundred seconds later. -/
def later : Crowd (MemoryStore ThrottleCounter) TrialOracle :=
  wait (replaced.advance (counting 1000 1)) 400000

theorem live?_of_wait {m : MemoryStore ThrottleCounter} {ms : Nat} {k : String}
    {w : ThrottleCounter} (h : live? (m.wait ms) k = some w) : live? m k = some w := by
  have hlater : m.map.live? (m.now + ms) k = some w := h
  show m.map.live? m.now k = some w
  rw [ExpiringMap.live?] at hlater ⊢
  cases hs : m.map.slots.get? k with
  | none => simp [hs] at hlater
  | some slot =>
    by_cases hlive : slot.isLive (m.now + ms) = true
    · simpa [hs, hlive, Slot.isLive_of_le (Nat.le_add_right m.now ms) hlive] using hlater
    · simp [hs, hlive] at hlater

variable {x : Crowd (MemoryStore ThrottleCounter) TrialOracle}

theorem reachable_begun {windowMs : Int64} (now : Int64) (hx : x.Reachable) (hl : 0 < windowMs) :
    (begun x windowMs now).Reachable :=
  (hx.step (.begin (service windowMs) none _ Uuid.zero now rfl
    ⟨(by decide : (0 : Int64) < 2), hl⟩)).step
    (.advance _ List.mem_cons_self)

theorem reachable_wait (ms : Nat) (hx : x.Reachable) : (wait x ms).Reachable :=
  hx.step (.elsewhere _ fun _ _ => live?_of_wait)

theorem reachable_replaced : replaced.Reachable := by
  have hstart : start.Reachable := .start _ fun _ => rfl
  have hopened := (reachable_begun 0 hstart (by decide : (0 : Int64) < 600000)).step
    (.advance (counting 600000 0) (by decide))
  exact reachable_begun 1 (reachable_wait 1 hopened) (by decide : (0 : Int64) < 1000)

theorem reachable_later : later.Reachable :=
  reachable_wait 400000 (reachable_replaced.step (.advance (counting 1000 1) (by decide)))

end Sample

/-- The window was opened by an earlier check under other limits, and what the second check writes
is not covered. -/
theorem lifetime_does_not_cover :
    Sample.replaced.Reachable ∧ Sample.counting 1000 1 ∈ Sample.replaced.ongoing ∧
      ∃ o ∈ (Sample.replaced.advance (Sample.counting 1000 1)).counted,
        o.stage = .counting Sample.full.limits ∧ o.now = 0 ∧
          ¬Sample.full.windowEndMs.toInt - (1 : Int64).toInt ≤ (301000 : Nat) := by
  have hreach := Sample.reachable_replaced
  have hmem : Sample.counting 1000 1 ∈ Sample.replaced.ongoing := by decide
  obtain ⟨-, hwritten⟩ := lifetime_covers_iff hreach hmem (l := ⟨2, 1000⟩) rfl
  obtain ⟨o, ho, l', -, hstage, hlimits, hnow, hcovers, -⟩ := hwritten Sample.full (by decide)
  refine ⟨hreach, hmem, o, ho, hlimits ▸ hstage, hnow.symm, ?_⟩
  have hshort : ¬min Int64.maxValue.toInt (o.now.toInt + l'.windowMs.toInt) ≤
      (1 : Int64).toInt + (1000 : Int64).toInt + 300000 := by
    rw [← hnow, ← hlimits]
    decide
  exact fun h => hshort (hcovers.mp h)

/-- **A live window can be forgotten.** The readings of the clock do not go back, and the policies
are valid. Two requests are admitted in a window of two, and the counter is written the second time
for little more than half of what is left. At two thirds of the window it is gone, and a third
request is admitted. -/
theorem counter_forgotten :
    Sample.replaced.Reachable ∧
      (Sample.counting 1000 1).subject.write ⟨2, 1000⟩ 1
        (live? Sample.replaced.admission.counters "svc") = some Sample.full ∧
      ¬Sample.full.windowEndMs.toInt - (1 : Int64).toInt ≤ (Limits.lifetimeMs ⟨2, 1000⟩ : Int) ∧
      Sample.later.Reachable ∧ live? Sample.later.admission.counters "svc" = none ∧
      Sample.full.isLive 400001 = true ∧ Sample.full.limit ≤ Sample.full.count ∧
      (Sample.later.admission.check (Sample.service 1000) none Uuid.zero 400001).1 =
        Decision.allow :=
  ⟨Sample.reachable_replaced, by decide, by decide, Sample.reachable_later, by decide, by decide,
    by decide, by decide⟩

end Crowd

end Gatehouse
