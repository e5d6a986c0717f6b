import Gatehouse.Proofs.Answers
import Gatehouse.Proofs.Rulings
import Gatehouse.Proofs.Rush
import Mathlib.Logic.Relation
import Mathlib.Order.Bounds.Basic

/-!
# The retry hint

A check that is turned away by a counter is told when to come again, and a client is told the same in
whole seconds. This file shows that the hint is exact: as long as nobody else is counted by the same
counter, whoever comes earlier is turned away once more, and whoever waits is admitted.

## Until the window is over

Whether the window is over. A counter that turned somebody away is full, and stays so as long as no
check is about its key; so all that a later check depends on is whether its instant is before the end
of the window. The hint is the time from what the clock said up to that end.

Neither instant is the one that one might expect. The clock may have said less than when the window
began, and then the hint is longer than the window. The window may have begun so late that its end is
the last instant there is. But neither of the two is negative, and so the time between them is a number
that 64 bits hold.

## Main definitions

* `Rush.Move`, `Rush.Attainable` — runs, with clocks that say anything from zero on and counters that
  expire
* `Rush.Quiet` — a stretch of a run in which nothing is about a given key

## Main results

* `ThrottleCounter.Lasting.toInt_sub` — the time left of a window is a number that 64 bits hold
* `Rush.Attainable.sober` — what is known in every run
* `Rush.retry_hint_exact` — the result
-/

namespace Gatehouse

open StoreView (live?)

/-! ### The time left of a window -/

namespace ThrottleCounter

variable {c : ThrottleCounter} {now : Int64}

theorem lasting_opened (key : String) (consumer : Option String) {l : Limits} (hl : l.Positive)
    (h0 : 0 ≤ now) : (opened key consumer l now).Lasting :=
  ⟨hl, h0⟩

theorem Lasting.counted (h : c.Lasting) : c.counted.Lasting := ⟨h.positive, h.start_nonneg⟩

/-- Between two instants that are not negative, the difference is the time between them. -/
theorem Lasting.toInt_sub (h : c.Lasting) (h0 : 0 ≤ now) :
    (c.windowEndMs - now).toInt = c.windowEndMs.toInt - now.toInt := by
  have hnow := Int64.le_iff_toInt_le.mp h0
  have hstart := Int64.le_iff_toInt_le.mp h.start_nonneg
  have hwindow := Int64.lt_iff_toInt_lt.mp h.positive.window_pos
  have hend := h.toInt_windowEndMs
  have hmax := now.toInt_lt
  simp only [limits, Int64.toInt_zero, Int64.toInt_maxValue] at hnow hstart hwindow hend
  rw [Int64.toInt_sub, Int.bmod_eq_of_le] <;> omega

end ThrottleCounter

/-! ### Decisions -/

namespace Subject

variable {s : Subject} {l : Limits} {now : Int64} {found : Option ThrottleCounter}
  {w : ThrottleCounter}

/-- A decision leaves a lasting counter, if it finds one or none. -/
theorem lasting_tally (s : Subject) (hl : l.Positive) (h0 : 0 ≤ now)
    (hfound : ∀ w, found = some w → w.Lasting) : (s.tally l now found).counter.Lasting := by
  cases found with
  | none => exact ThrottleCounter.lasting_opened s.key s.consumer hl h0
  | some w =>
    rw [tally]
    split
    · split
      · exact (hfound w rfl).counted
      · exact hfound w rfl
    · exact ThrottleCounter.lasting_opened s.key s.consumer hl h0

/-- Only a counter that is live and full turns a request away, with the time that is left. -/
theorem tally_denied (h : (s.tally l now found).decision.allowed = false) :
    ∃ w, found = some w ∧ w.isLive now = true ∧ w.limit ≤ w.count ∧
      s.tally l now found = ⟨.deny (w.windowEndMs - now), w⟩ := by
  cases found with
  | none => simp [tally, Decision.allow] at h
  | some w =>
    rw [tally] at h ⊢
    by_cases hlive : w.isLive now = true
    · by_cases hlt : w.count < w.limit
      · simp [hlive, hlt, Decision.allow] at h
      · rw [if_pos hlive, if_neg hlt]
        exact ⟨w, rfl, hlive, Int64.not_lt.mp hlt, rfl⟩
    · simp [hlive, Decision.allow] at h

/-- A full counter admits a request exactly if its window is over. -/
theorem allowed_tally_iff (hfull : w.limit ≤ w.count) :
    (s.tally l now (some w)).decision.allowed = true ↔ w.windowEndMs ≤ now := by
  rw [tally, ThrottleCounter.isLive, if_neg (Int64.not_lt.mpr hfull)]
  by_cases hlive : now < w.windowEndMs
  · rw [if_pos (decide_eq_true hlive)]
    exact iff_of_false (by simp [Decision.deny]) (Int64.not_le.mpr hlive)
  · rw [if_neg (by simpa using hlive)]
    exact iff_of_true rfl (Int64.not_lt.mp hlive)

end Subject

section Checks

variable {κ ω : Type} [Store κ ThrottleCounter] [StoreView κ ThrottleCounter] [ReliableStore κ]
  [Oracle ω] {a : Admission κ ω} {s : Subject} {w : ThrottleCounter}

/-- A check that finds a counter is decided by it. The oracle is not asked then. -/
theorem Admission.decision_of_live (hw : live? a.counters s.key = some w) (id : Uuid)
    (now : Int64) : ∃ l, (a.checkSubject s id now).1 = (s.tally l now (some w)).decision := by
  obtain ⟨l, hl⟩ : ∃ l, a.Learns s l a.oracle := by
    cases hq : s.question? with
    | none => exact ⟨_, .own hq⟩
    | some q => exact ⟨_, .kept (by rw [hq]; rfl) hw⟩
  have hruling := (Admission.rule_learned (c := .begun s id now) hl).1
  refine ⟨l, ?_⟩
  rw [Admission.checkSubject_eq, hruling]
  simp only [Check.begun, Check.ruled, hw]

/-- A check of a full counter is admitted exactly if its window is over. -/
theorem Admission.allowed_check_iff (hw : live? a.counters s.key = some w)
    (hfull : w.limit ≤ w.count) {service : Service} {consumer : Option String}
    (hs : Subject.of? service consumer = some s) (id : Uuid) (now : Int64) :
    (a.check service consumer id now).1.allowed = true ↔ w.windowEndMs ≤ now := by
  obtain ⟨l, hl⟩ := Admission.decision_of_live hw id now
  simp only [Admission.check, hs, hl]
  exact Subject.allowed_tally_iff hfull

end Checks

/-! ### Runs -/

namespace Rush

variable {κ ω : Type} [Store κ ThrottleCounter] [Oracle ω] [StoreView κ ThrottleCounter]
  {x x' : Rush κ ω} {about : Option String} {k : String} {w : ThrottleCounter}

/-- What can happen at any time, and the key that it is about, if it is about one. -/
inductive Move (x : Rush κ ω) : Option String → Rush κ ω → Prop where
  /-- A check begins, whatever its clock says from zero on. -/
  | begin (service : Service) (consumer : Option String) (s : Subject) (id : Uuid) (now : Int64)
      (hs : Subject.of? service consumer = some s) (hl : s.ownLimits.Positive) (h0 : 0 ≤ now) :
    Move x none { x with ongoing := .begun s id now :: x.ongoing }
  | advance (c : Check) (h : c ∈ x.ongoing) : Move x (some c.subject.key) (x.advance c)
  /-- A counter expires. -/
  | expire (k : String) (a : Admission κ ω) (h : live? a.counters k = none)
      (hothers : ∀ k', k' ≠ k → live? a.counters k' = live? x.admission.counters k') :
    Move x (some k) { x with admission := a }
  /-- Something else happens, but not to the counters. -/
  | elsewhere (a : Admission κ ω)
      (h : ∀ k, live? a.counters k = live? x.admission.counters k) :
    Move x none { x with admission := a }

/-- What admission can come to, from its start on a store without entries. -/
inductive Attainable : Rush κ ω → Prop where
  | start (a : Admission κ ω) (hempty : ∀ k, live? a.counters k = none) : Attainable ⟨a, [], []⟩
  | move {x x' : Rush κ ω} {about : Option String} : Attainable x → Move x about x' → Attainable x'

/-- A stretch of a run in which nothing is about a key. -/
abbrev Quiet (k : String) : Rush κ ω → Rush κ ω → Prop :=
  Relation.ReflTransGen fun x x' => ∃ about, about ≠ some k ∧ Move x about x'

end Rush

/-! ### What is known in every run -/

/-- What is known of a check under way. -/
structure Check.Sober (c : Check) : Prop where
  positive : c.subject.ownLimits.Positive
  now_nonneg : 0 ≤ c.now
  counting : ∀ l, c.stage = .counting l → l.Positive

namespace Rush

variable {κ ω : Type} [StoreView κ ThrottleCounter] {x x' : Rush κ ω} {about : Option String}
  {k : String} {w : ThrottleCounter}

/-- Checks under way have positive limits and instants there are, and every counter is of a window
that lasts. -/
structure Sober (x : Rush κ ω) : Prop where
  checks : ∀ c ∈ x.ongoing, c.Sober
  counters : ∀ k w, live? x.admission.counters k = some w → w.Lasting

theorem Sober.start {a : Admission κ ω} (hempty : ∀ k, live? a.counters k = none) :
    Sober ⟨a, [], []⟩ where
  checks c hc := absurd hc List.not_mem_nil
  counters k w hw := by simp [hempty] at hw

variable [Store κ ThrottleCounter] [ReliableStore κ] [Oracle ω]

theorem Sober.advance (hx : x.Sober) {c : Check} (hc : c ∈ x.ongoing) : (x.advance c).Sober := by
  have hothers : ∀ d ∈ x.ongoing.erase c, d.Sober := fun d hd =>
    hx.checks d (List.mem_of_mem_erase hd)
  have hsober := hx.checks c hc
  rw [Rush.advance]
  rcases hstep : c.advance x.admission with ⟨out, a⟩
  rcases Check.advance_cases hstep with ⟨stage, rfl, honward, ha⟩ | ⟨p, q, hstage, rfl, ha⟩ |
    ⟨l, hstage, rfl, ha⟩
  · refine ⟨?_, fun k w hw => hx.counters k w ((ha k).symm.trans hw)⟩
    intro d hd
    rcases List.mem_cons.mp hd with rfl | hd
    · refine ⟨hsober.positive, hsober.now_nonneg, ?_⟩
      rintro l rfl
      exact honward.positive hsober.positive fun w hw => (hx.counters _ w hw).positive
    · exact hothers d hd
  · exact ⟨hothers, fun k w hw => hx.counters k w ((ha k).symm.trans hw)⟩
  · refine ⟨hothers, ?_⟩
    intro k w hw
    rw [ha k, Subject.write_or] at hw
    split at hw
    · obtain rfl := Option.some.inj hw
      exact c.subject.lasting_tally (hsober.counting l hstage) hsober.now_nonneg (hx.counters _)
    · exact hx.counters k w hw

theorem Sober.move (hx : x.Sober) (h : x.Move about x') : x'.Sober := by
  cases h with
  | begin service consumer s id now hs hl h0 =>
    refine ⟨?_, hx.counters⟩
    intro c hc
    rcases List.mem_cons.mp hc with rfl | hc
    · exact ⟨hl, h0, fun l hl => by simp [Check.begun] at hl⟩
    · exact hx.checks c hc
  | advance c h => exact hx.advance h
  | expire k a h hothers =>
    refine ⟨hx.checks, ?_⟩
    intro k' w hw
    by_cases hk : k' = k
    · simp [hk, h] at hw
    · exact hx.counters k' w ((hothers k' hk).symm.trans hw)
  | elsewhere a h => exact ⟨hx.checks, fun k w hw => hx.counters k w ((h k).symm.trans hw)⟩

theorem Attainable.sober (hx : x.Attainable) : x.Sober := by
  induction hx with
  | start a hempty => exact Sober.start hempty
  | move _ hmove ih => exact ih.move hmove

/-! ### Stretches without checks of a key -/

/-- What is not about a key leaves its counter alone. -/
theorem Move.live?_eq (h : x.Move about x') (hk : about ≠ some k) :
    live? x'.admission.counters k = live? x.admission.counters k := by
  cases h with
  | begin => rfl
  | advance c h =>
    have hne : k ≠ c.subject.key := fun heq => hk (by rw [heq])
    rw [Rush.advance]
    rcases hstep : c.advance x.admission with ⟨out, a⟩
    rcases Check.advance_cases hstep with ⟨stage, rfl, -, ha⟩ | ⟨p, q, -, rfl, ha⟩ |
      ⟨l, -, rfl, ha⟩
    · exact ha k
    · exact ha k
    · exact (ha k).trans (if_neg hne)
  | expire k' a h hothers => exact hothers k fun heq => hk (by rw [heq])
  | elsewhere a h => exact h k

theorem Quiet.live?_eq (h : Quiet k x x') :
    live? x'.admission.counters k = live? x.admission.counters k := by
  induction h with
  | refl => rfl
  | tail _ hmove ih =>
    obtain ⟨about, hk, hmove⟩ := hmove
    exact (hmove.live?_eq hk).trans ih

end Rush

/-! ### What a client is told -/

namespace GatewayError

/-- The seconds are the fewest that are no shorter than the hint. -/
theorem isLeast_retryAfterSecs (hint : Int64) :
    IsLeast {n : Nat | hint.toInt ≤ 1000 * n} (retryAfterSecs hint.toInt.toNat) := by
  constructor
  · show hint.toInt ≤ 1000 * (retryAfterSecs hint.toInt.toNat : Int)
    rw [retryAfterSecs]
    omega
  · intro n hn
    have hlong : hint.toInt ≤ 1000 * (n : Int) := hn
    rw [retryAfterSecs]
    omega

theorem retryAfter_response (hint : Int64) :
    (throttled hint).response.headers.get? "retry-after" =
      some (toString (retryAfterSecs hint.toInt.toNat)) :=
  rfl

end GatewayError

/-- A gateway turns a request away if admission does, with the hint of admission. -/
theorem Gateway.handle_denied {σ κ ω β : Type} [Store σ SessionRecord] [Backends β]
    [Store κ ThrottleCounter] [Oracle ω] {g : Gateway σ κ ω β} {service : Service} {a : Arrival}
    (h : (g.checked service a).1.allowed = false) :
    (g.handle service a).1 = .error (.throttled (g.checked service a).1.retryAfterMs) := by
  rw [handle_eq, if_neg (by simp [h])]

/-! ### Hints -/

namespace Rush

variable {κ ω : Type} [Store κ ThrottleCounter] [StoreView κ ThrottleCounter] [ReliableStore κ]
  [Oracle ω] {x : Rush κ ω} {c : Check} {r : Ruling} {a : Admission κ ω} {w : ThrottleCounter}

/-- A counter that turned a check away is full and stays as it is, its window is not over, and the
hint is the time that is left of it. -/
theorem Sober.denied (hx : x.Sober) (hc : c ∈ x.ongoing)
    (hstep : c.advance x.admission = (.inr r, a)) (hdenied : r.decision.allowed = false)
    (hr : r.counter = some w) :
    live? (x.advance c).admission.counters c.subject.key = some w ∧ w.limit ≤ w.count ∧
      0 < r.decision.retryAfterMs ∧
      r.decision.retryAfterMs.toInt = w.windowEndMs.toInt - c.now.toInt := by
  rcases Check.advance_cases hstep with ⟨stage, hout, -, -⟩ | ⟨p, q, -, hout, -⟩ |
    ⟨l, -, hout, ha⟩
  · simp at hout
  · obtain rfl := Sum.inr.inj hout
    simp [Check.refused] at hr
  · obtain rfl := Sum.inr.inj hout
    obtain ⟨w', hfound, hlive, hfull, htally⟩ := Subject.tally_denied hdenied
    have hdecision : (c.ruled l (live? x.admission.counters c.subject.key)).decision =
        .deny (w'.windowEndMs - c.now) := congrArg Subject.Tally.decision htally
    obtain rfl : w' = w := by
      have hcounter := congrArg Subject.Tally.counter htally
      exact hcounter.symm.trans (Option.some.inj hr)
    have hlasting := hx.counters _ _ hfound
    have hnow := (hx.checks c hc).now_nonneg
    have hleft : c.now.toInt < w'.windowEndMs.toInt := by
      rw [ThrottleCounter.isLive, decide_eq_true_iff] at hlive
      exact Int64.lt_iff_toInt_lt.mp hlive
    have hhint : (Decision.deny (w'.windowEndMs - c.now)).retryAfterMs.toInt =
        w'.windowEndMs.toInt - c.now.toInt := by
      rw [Decision.toInt_deny, hlasting.toInt_sub hnow]
      omega
    have hkept : live? (x.advance c).admission.counters c.subject.key = some w' := by
      have hwrite := ha c.subject.key
      rw [if_pos rfl, Subject.write_or, htally] at hwrite
      rwa [Rush.advance, hstep]
    rw [hdecision]
    refine ⟨hkept, hfull, ?_, hhint⟩
    rw [Int64.lt_iff_toInt_lt, hhint, Int64.toInt_zero]
    omega

/-- As long as nothing else is about its key, a check of a subject is admitted from an instant on, and
not before. -/
def AdmittedFrom (x : Rush κ ω) (s : Subject) (instant : Int) : Prop :=
  ∀ x', Quiet s.key x x' → ∀ service consumer, Subject.of? service consumer = some s → ∀ id t,
    ((x'.admission.check service consumer id t).1.allowed = true ↔ instant ≤ t.toInt)

/-- Where a counter is full and nothing is about it, that instant is the end of its window. -/
theorem admittedFrom_windowEnd {s : Subject} (hw : live? x.admission.counters s.key = some w)
    (hfull : w.limit ≤ w.count) : x.AdmittedFrom s w.windowEndMs.toInt := by
  intro x' hquiet service consumer hs id t
  rw [Admission.allowed_check_iff (hquiet.live?_eq.trans hw) hfull hs, Int64.le_iff_toInt_le]

/-- **The retry hint is exact.** In every run under positive limits, with clocks that say anything from
zero on, neither the end of a window nor the time left of it overflows. If a check is turned away by a
counter, its hint is positive, and as long as no other check is about the key, a check of the same
service and consumer is admitted exactly if it comes no earlier than the hint says. The client gets a
response of status 429 with the fewest seconds that are no shorter than the hint, and is admitted after
them. -/
theorem retry_hint_exact (hx : x.Attainable) :
    (∀ k w now, live? x.admission.counters k = some w → 0 ≤ now →
      w.windowEndMs.toInt =
          min Int64.maxValue.toInt (w.windowStartMs.toInt + w.windowDurationMs.toInt) ∧
        (w.windowEndMs - now).toInt = w.windowEndMs.toInt - now.toInt) ∧
    ∀ c ∈ x.ongoing, ∀ r a w, c.advance x.admission = (.inr r, a) →
      r.decision.allowed = false → r.counter = some w →
      let hint := r.decision.retryAfterMs
      0 < hint ∧ (x.advance c).AdmittedFrom c.subject (c.now.toInt + hint.toInt) ∧
      (∀ (σ β : Type) [Store σ SessionRecord] [Backends β] (g : Gateway σ κ ω β)
        (service : Service) (arrival : Arrival), (g.checked service arrival).1 = r.decision →
          (g.handle service arrival).1 = .error (.throttled hint)) ∧
      ∃ secs : Nat, IsLeast {n : Nat | hint.toInt ≤ 1000 * n} secs ∧
        (GatewayError.throttled hint).response.status.code = 429 ∧
        (GatewayError.throttled hint).response.headers.get? "retry-after" =
          some (toString secs) ∧
        ∀ x', Quiet c.subject.key (x.advance c) x' →
          ∀ service consumer, Subject.of? service consumer = some c.subject → ∀ id (t : Int64),
            c.now.toInt + 1000 * secs ≤ t.toInt →
              (x'.admission.check service consumer id t).1.allowed = true := by
  have hsober := hx.sober
  constructor
  · intro k w now hw h0
    have hlasting := hsober.counters k w hw
    exact ⟨hlasting.toInt_windowEndMs, hlasting.toInt_sub h0⟩
  · intro c hc r a w hstep hdenied hr hint
    obtain ⟨hkept, hfull, hpos, hhint⟩ := hsober.denied hc hstep hdenied hr
    have hend : w.windowEndMs.toInt = c.now.toInt + hint.toInt := by
      rw [hhint]
      omega
    have hfrom := hend ▸ admittedFrom_windowEnd hkept hfull
    have hleast := GatewayError.isLeast_retryAfterSecs hint
    refine ⟨hpos, hfrom, ?_, _, hleast, rfl, GatewayError.retryAfter_response hint, ?_⟩
    · intro σ β _ _ g service arrival hdecision
      rw [← hdecision] at hdenied
      rw [Gateway.handle_denied hdenied, hdecision]
    · intro x' hquiet service consumer hs id t ht
      have hlong : hint.toInt ≤ 1000 * (GatewayError.retryAfterSecs hint.toInt.toNat : Int) :=
        hleast.1
      exact (hfrom x' hquiet service consumer hs id t).mpr (by omega)

/-! ### A clock that is behind

Of two checks that overlap, the first one opens a window at instant 500. The clock of the second one
said 400. It is turned away until 1500, for longer than a window lasts, and told two seconds. -/

namespace Sample

def clashing : Rush (MemoryStore ThrottleCounter) TrialOracle := overlapping.advance (counting 500)

/-- The counter of the window. -/
def full : ThrottleCounter := ⟨"svc", none, 1, 1000, 500, 1⟩

def refusal : Ruling := ⟨subject, eventId, 400, ⟨false, 1100⟩, some full⟩

theorem attainable_clashing : clashing.Attainable := by
  have hstart : start.Attainable := .start _ fun k => rfl
  have hbegun (x : Rush (MemoryStore ThrottleCounter) TrialOracle) (now : Int64)
      (hx : x.Attainable) (h0 : 0 ≤ now) :
      Attainable { x with ongoing := check now :: x.ongoing } :=
    hx.move (.begin service none subject eventId now rfl ⟨by decide, by decide⟩ h0)
  have hboth := hbegun _ 400 (hbegun _ 500 hstart (by decide)) (by decide)
  have hoverlapping : overlapping.Attainable :=
    (hboth.move (.advance (check 500) (by decide))).move (.advance (check 400) (by decide))
  exact hoverlapping.move (.advance (counting 500) (by decide))

end Sample

theorem retry_hint_behind :
    Sample.clashing.Attainable ∧ Sample.refusal.decision.allowed = false ∧
      (0 : Int64) < 1100 ∧
      (Sample.clashing.advance (Sample.counting 400)).AdmittedFrom Sample.subject 1500 ∧
      IsLeast {n : Nat | (1100 : Int64).toInt ≤ 1000 * n} 2 ∧
      (GatewayError.throttled 1100).response.headers.get? "retry-after" = some "2" := by
  have hstep : (Sample.counting 400).advance Sample.clashing.admission =
      (.inr Sample.refusal, ((Sample.counting 400).advance Sample.clashing.admission).2) :=
    Prod.ext (by rfl) rfl
  obtain ⟨-, hdenials⟩ := retry_hint_exact Sample.attainable_clashing
  obtain ⟨hpos, hfrom, -, secs, hleast, -, hheader, -⟩ :=
    hdenials (Sample.counting 400) (by decide) Sample.refusal _ Sample.full hstep rfl rfl
  obtain rfl : secs = 2 := hleast.unique (GatewayError.isLeast_retryAfterSecs 1100)
  exact ⟨Sample.attainable_clashing, rfl, hpos, hfrom, hleast, hheader⟩

end Rush

end Gatehouse
