import Gatehouse.Admission.Check
import Gatehouse.Proofs.Rules

/-!
# Windows of admission

A counter is the present state of a window, and a window is followed by others. This file keeps the
windows of one key in a ledger: they do not overlap, each has admitted at least one request and no
more than its limit, the last of them is the counter in the store, and the admissions so far are the
courses of all of them.

A decision may be made with an instant older than the window that it meets, and under limits that
are not those of that window. Neither matters to the ledger: a window is only ever replaced at an
instant after its end, and counted up only below its own limit.

## Main definitions

* `ThrottleCounter.course` — the counters that a window went through
* `Ledger` — the invariant of one key

## Main results

* `Config.positive_ownLimits` — an accepted configuration has limits of which a ledger can be kept
* `Ledger.tally` — a decision keeps the ledger
* `Ledger.group` — admissions with one beginning are the course of one window
* `Ledger.pairwise_admitted` — windows follow one another without overlap
-/

namespace Gatehouse

/-! ### Instants and counts -/

theorem Int64Range.toInt_saturatingAdd (a b : Int64) :
    (saturatingAdd a b).toInt =
      max Int64.minValue.toInt (min Int64.maxValue.toInt (a.toInt + b.toInt)) := by
  rw [saturatingAdd, clamp, Int64.toInt_ofInt_of_le] <;>
    simp only [Int64.toInt_minValue, Int64.toInt_maxValue] <;> omega

/-- A request that is turned away is never told a negative time. -/
theorem Decision.toInt_deny (ms : Int64) : (deny ms).retryAfterMs.toInt = max ms.toInt 0 := by
  rw [deny]
  by_cases h : ms < 0
  · have hneg := Int64.lt_iff_toInt_lt.mp h
    rw [Int64.toInt_zero] at hneg
    simp only [if_pos h, Int64.toInt_zero]
    omega
  · have hpos := Int64.le_iff_toInt_le.mp (Int64.not_lt.mp h)
    rw [Int64.toInt_zero] at hpos
    simp only [if_neg h]
    omega

/-- Limits by which a window lasts and admits something. -/
structure Limits.Positive (l : Limits) : Prop where
  limit_pos : 0 < l.limit
  window_pos : 0 < l.windowMs

/-- An oracle grants no other limits. -/
theorem OracleReply.positive_of_limits? {reply : OracleReply} {t : Nat} {l : Limits}
    (h : reply.limits? t = some l) : l.Positive := by
  rw [limits?] at h
  split at h
  · split at h
    · rw [Verdict.limits?] at h
      split at h
      · simp at h
      · split at h
        · split at h
          · rename_i hpos
            obtain rfl := Option.some.inj h
            exact ⟨Int64.lt_iff_toInt_lt.mpr hpos.1, Int64.lt_iff_toInt_lt.mpr hpos.2⟩
          · simp at h
        · simp at h
    · simp at h
  · simp at h

/-- An accepted configuration has no other limits either. -/
theorem Config.positive_ownLimits {c : Config} (h : c.violations = []) {config : ServiceConfig}
    (hc : config ∈ c.services) {generation : Nat} {consumer : Option String} {s : Subject}
    (hs : Subject.of? (Service.ofConfig config generation) consumer = some s) :
    s.ownLimits.Positive := by
  have hwell := (Config.violations_eq_nil_iff.mp h).services config hc
  obtain ⟨t, ht, hs⟩ := Option.bind_eq_some_iff.mp hs
  have hpositive : (Limits.mk t.limit t.windowMs).Positive :=
    ⟨hwell.limit_pos t ht, hwell.window_pos t ht⟩
  split at hs
  · obtain rfl := Option.some.inj hs
    exact hpositive
  · obtain ⟨k, -, rfl⟩ := Option.map_eq_some_iff.mp hs
    exact hpositive

namespace ThrottleCounter

/-- A counter of a window that began at an instant there is, and lasts. -/
structure Lasting (c : ThrottleCounter) : Prop where
  positive : c.limits.Positive
  start_nonneg : 0 ≤ c.windowStartMs

/-- A counter that has admitted something, and no more than it may. -/
structure Valid (c : ThrottleCounter) : Prop where
  positive : c.limits.Positive
  start_nonneg : 0 ≤ c.windowStartMs
  start_lt : c.windowStartMs < Int64.maxValue
  count_pos : 0 < c.count
  count_le : c.count ≤ c.limit

variable {c : ThrottleCounter}

theorem toInt_windowEndMs_of_positive (h : c.limits.Positive) :
    c.windowEndMs.toInt =
      min Int64.maxValue.toInt (c.windowStartMs.toInt + c.windowDurationMs.toInt) := by
  have hs := c.windowStartMs.minValue_le_toInt
  have hw := Int64.lt_iff_toInt_lt.mp h.window_pos
  simp only [limits, Int64.toInt_zero] at hw
  rw [windowEndMs, Int64Range.toInt_saturatingAdd]
  simp only [Int64.toInt_minValue, Int64.toInt_maxValue] at hs ⊢
  omega

theorem Lasting.toInt_windowEndMs (h : c.Lasting) :
    c.windowEndMs.toInt =
      min Int64.maxValue.toInt (c.windowStartMs.toInt + c.windowDurationMs.toInt) :=
  toInt_windowEndMs_of_positive h.positive

theorem Valid.toInt_windowEndMs (h : c.Valid) :
    c.windowEndMs.toInt =
      min Int64.maxValue.toInt (c.windowStartMs.toInt + c.windowDurationMs.toInt) :=
  Lasting.toInt_windowEndMs ⟨h.positive, h.start_nonneg⟩

/-- A window is not empty, even at the end of time. -/
theorem Valid.start_lt_end (h : c.Valid) : c.windowStartMs < c.windowEndMs := by
  have hs := Int64.lt_iff_toInt_lt.mp h.start_lt
  have hw := Int64.lt_iff_toInt_lt.mp h.positive.window_pos
  rw [Int64.lt_iff_toInt_lt, h.toInt_windowEndMs]
  simp only [limits, Int64.toInt_zero] at hw
  omega

theorem toInt_count_counted (h : c.count < c.limit) :
    c.counted.count.toInt = c.count.toInt + 1 := by
  have hlt := Int64.lt_iff_toInt_lt.mp h
  have hmax := c.limit.toInt_le
  have hmin := c.count.minValue_le_toInt
  rw [counted, Int64Range.toInt_saturatingAdd]
  simp only [Int64.toInt_one]
  omega

theorem Valid.counted (h : c.Valid) (hlt : c.count < c.limit) : c.counted.Valid where
  positive := h.positive
  start_nonneg := h.start_nonneg
  start_lt := h.start_lt
  count_pos := by
    have hpos := Int64.lt_iff_toInt_lt.mp h.count_pos
    rw [Int64.lt_iff_toInt_lt, toInt_count_counted hlt]
    rw [Int64.toInt_zero] at *
    omega
  count_le := by
    have hlt' := Int64.lt_iff_toInt_lt.mp hlt
    rw [Int64.le_iff_toInt_le, toInt_count_counted hlt]
    exact hlt'

theorem valid_opened (key : String) (consumer : Option String) {l : Limits} {now : Int64}
    (hl : l.Positive) (h0 : 0 ≤ now) (h1 : now < Int64.maxValue) :
    (opened key consumer l now).Valid where
  positive := hl
  start_nonneg := h0
  start_lt := h1
  count_pos := show (0 : Int64) < 1 by decide
  count_le := by
    have hpos := Int64.lt_iff_toInt_lt.mp hl.limit_pos
    rw [Int64.le_iff_toInt_le]
    exact hpos

/-! ### The course of a window -/

/-- How many requests a window has admitted. -/
def size (c : ThrottleCounter) : Nat := c.count.toNatClampNeg

/-- The counters that a window went through, from its opening on. -/
def course (c : ThrottleCounter) : List ThrottleCounter :=
  (List.range c.size).map fun i => { c with count := Int64.ofNat (i + 1) }

theorem course_opened (key : String) (consumer : Option String) (l : Limits) (now : Int64) :
    (opened key consumer l now).course = [opened key consumer l now] := rfl

theorem Valid.size_eq (h : c.Valid) : (c.size : Int) = c.count.toInt := by
  have hpos := Int64.lt_iff_toInt_lt.mp h.count_pos
  rw [Int64.toInt_zero] at hpos
  exact Int.toNat_of_nonneg (by omega)

theorem Valid.size_counted (h : c.Valid) (hlt : c.count < c.limit) :
    c.counted.size = c.size + 1 := by
  have hcount := toInt_count_counted hlt
  have hsize := h.size_eq
  have hsize' := (h.counted hlt).size_eq
  omega

theorem Valid.course_counted (h : c.Valid) (hlt : c.count < c.limit) :
    c.counted.course = c.course ++ [c.counted] := by
  have hlast : Int64.ofNat (c.size + 1) = c.counted.count := by
    have hpos := Int64.lt_iff_toInt_lt.mp (h.counted hlt).count_pos
    rw [← h.size_counted hlt]
    exact Int64.ofNat_toNatClampNeg _ (Int64.le_iff_toInt_le.mpr (by omega))
  rw [course, h.size_counted hlt, List.range_succ, List.map_append, List.map_singleton, hlast]
  rfl

/-- The course counts from one to the count. -/
theorem Valid.counts_course (h : c.Valid) :
    c.course.map (fun d => d.count.toInt) =
      (List.range c.size).map fun i : Nat => (i : Int) + 1 := by
  rw [course, List.map_map]
  refine List.map_congr_left fun i hi => ?_
  have hsize := h.size_eq
  have hmax := c.count.toInt_lt
  rw [List.mem_range] at hi
  exact Int64.toInt_ofNat_of_lt (by omega)

theorem mem_course {d : ThrottleCounter} (h : d ∈ c.course) :
    d.windowStartMs = c.windowStartMs ∧ d.windowDurationMs = c.windowDurationMs ∧
      d.limit = c.limit := by
  obtain ⟨i, -, rfl⟩ := List.mem_map.mp h
  exact ⟨rfl, rfl, rfl⟩

end ThrottleCounter

/-! ### The ledger of a key -/

/-- The windows of a key so far, the first one first, explain the counter that is found and the
counters after each of the admissions. -/
structure Ledger (windows : List ThrottleCounter) (found : Option ThrottleCounter)
    (admitted : List ThrottleCounter) : Prop where
  valid : ∀ w ∈ windows, w.Valid
  apart : windows.Pairwise fun v w => v.windowEndMs ≤ w.windowStartMs
  found : windows.getLast? = found
  admitted : windows.flatMap ThrottleCounter.course = admitted

namespace Ledger

variable {windows : List ThrottleCounter} {found : Option ThrottleCounter}
  {admitted : List ThrottleCounter} {w : ThrottleCounter}

theorem empty : Ledger [] none [] := ⟨by simp, .nil, rfl, rfl⟩

theorem mem_of_found (h : Ledger windows (some w) admitted) : w ∈ windows :=
  List.mem_of_getLast? h.found

theorem valid_of_found (h : Ledger windows (some w) admitted) : w.Valid :=
  h.valid w h.mem_of_found

/-- The last window goes on. -/
theorem counted (h : Ledger windows (some w) admitted) (hlt : w.count < w.limit) :
    ∃ earlier, windows = earlier ++ [w] ∧
      Ledger (earlier ++ [w.counted]) (some w.counted) (admitted ++ [w.counted]) := by
  obtain ⟨earlier, rfl⟩ := List.getLast?_eq_some_iff.mp h.found
  have hw := h.valid_of_found
  refine ⟨earlier, rfl, ?_, ?_, by simp, ?_⟩
  · intro v hv
    rcases List.mem_append.mp hv with hv | hv
    · exact h.valid v (List.mem_append_left _ hv)
    · obtain rfl := List.mem_singleton.mp hv
      exact hw.counted hlt
  · obtain ⟨he, -, hlast⟩ := List.pairwise_append.mp h.apart
    refine List.pairwise_append.mpr ⟨he, List.pairwise_singleton _ _, ?_⟩
    intro v hv u hu
    obtain rfl := List.mem_singleton.mp hu
    exact hlast v hv w (List.mem_singleton_self w)
  · have hadm := h.admitted
    rw [List.flatMap_append, List.flatMap_singleton] at hadm ⊢
    rw [hw.course_counted hlt, ← List.append_assoc, hadm]

/-- A window that begins after the last one. -/
theorem opened (h : Ledger windows found admitted) (hw : w.Valid) (hcourse : w.course = [w])
    (hlast : ∀ v ∈ found, v.windowEndMs ≤ w.windowStartMs) :
    Ledger (windows ++ [w]) (some w) (admitted ++ [w]) where
  valid v hv := by
    rcases List.mem_append.mp hv with hv | hv
    · exact h.valid v hv
    · obtain rfl := List.mem_singleton.mp hv
      exact hw
  apart := by
    refine List.pairwise_append.mpr ⟨h.apart, List.pairwise_singleton _ _, ?_⟩
    intro v hv u hu
    obtain rfl := List.mem_singleton.mp hu
    cases found with
    | none =>
      rw [List.getLast?_eq_none_iff.mp h.found] at hv
      exact absurd hv List.not_mem_nil
    | some l =>
      have hl : l.windowEndMs ≤ u.windowStartMs := hlast l rfl
      obtain ⟨earlier, rfl⟩ := List.getLast?_eq_some_iff.mp h.found
      rcases List.mem_append.mp hv with hv | hv
      · have hvl := (List.pairwise_append.mp h.apart).2.2 v hv l (List.mem_singleton_self l)
        have hstart := Int64.le_of_lt h.valid_of_found.start_lt_end
        exact Int64.le_trans hvl (Int64.le_trans hstart hl)
      · obtain rfl := List.mem_singleton.mp hv
        exact hl
  found := by simp
  admitted := by rw [List.flatMap_append, List.flatMap_singleton, h.admitted, hcourse]

/-- **A decision keeps the ledger.** An admission adds to the last window or opens a new one after
it; a refusal is by a counter that is live and has reached its limit. -/
theorem tally (h : Ledger windows found admitted) (s : Subject) {l : Limits} {now : Int64}
    (hl : l.Positive) (h0 : 0 ≤ now) (h1 : now < Int64.maxValue) :
    ((s.tally l now found).decision.allowed = true ∧
      ∃ windows', Ledger windows' (some (s.tally l now found).counter)
          (admitted ++ [(s.tally l now found).counter]) ∧
        ∀ w ∈ windows, w.limit ≤ w.count → w ∈ windows') ∨
    ((s.tally l now found).decision.allowed = false ∧ (s.tally l now found).counter ∈ windows ∧
      (s.tally l now found).counter.isLive now = true ∧
      (s.tally l now found).counter.limit ≤ (s.tally l now found).counter.count) := by
  have hopened := ThrottleCounter.valid_opened s.key s.consumer hl h0 h1
  have hcourse := ThrottleCounter.course_opened s.key s.consumer l now
  cases found with
  | none =>
    refine .inl ⟨rfl, windows ++ [_], h.opened hopened hcourse (by simp), ?_⟩
    exact fun w hw _ => List.mem_append_left _ hw
  | some w =>
    rw [Subject.tally]
    by_cases hlive : w.isLive now = true
    · rw [if_pos hlive]
      by_cases hlt : w.count < w.limit
      · rw [if_pos hlt]
        obtain ⟨earlier, rfl, hnext⟩ := h.counted hlt
        refine .inl ⟨rfl, earlier ++ [w.counted], hnext, ?_⟩
        intro v hv hfull
        rcases List.mem_append.mp hv with hv | hv
        · exact List.mem_append_left _ hv
        · obtain rfl := List.mem_singleton.mp hv
          exact absurd hlt (Int64.not_lt.mpr hfull)
      · rw [if_neg hlt]
        exact .inr ⟨rfl, h.mem_of_found, hlive, Int64.not_lt.mp hlt⟩
    · rw [if_neg hlive]
      have hend : w.windowEndMs ≤ now := by
        rw [ThrottleCounter.isLive, decide_eq_true_iff] at hlive
        exact Int64.not_lt.mp hlive
      refine .inl ⟨rfl, windows ++ [_], h.opened hopened hcourse ?_, ?_⟩
      · intro v hv
        obtain rfl := Option.some.inj hv
        exact hend
      · exact fun v hv _ => List.mem_append_left _ hv

/-! ### Reading a ledger -/

theorem filter_course (w : ThrottleCounter) (start : Int64) :
    w.course.filter (fun c => c.windowStartMs = start) =
      if w.windowStartMs = start then w.course else [] := by
  split
  · rename_i hw
    rw [List.filter_eq_self]
    intro c hc
    rw [(ThrottleCounter.mem_course hc).1]
    exact decide_eq_true hw
  · rename_i hw
    rw [List.filter_eq_nil_iff]
    intro c hc
    rw [(ThrottleCounter.mem_course hc).1]
    simpa using hw

/-- The admissions of windows that begin at one instant are the course of a single window. -/
theorem group (h : Ledger windows found admitted) (hw : w ∈ windows) :
    admitted.filter (fun c => c.windowStartMs = w.windowStartMs) = w.course := by
  rw [← h.admitted, List.filter_flatMap]
  obtain ⟨before, after, rfl⟩ := List.append_of_mem hw
  obtain ⟨-, hafter, hbefore⟩ := List.pairwise_append.mp h.apart
  have hnone : ∀ v, v ∈ before ∨ v ∈ after → v.windowStartMs ≠ w.windowStartMs := by
    intro v hv heq
    rcases hv with hv | hv
    · have hend := hbefore v hv w List.mem_cons_self
      exact Int64.not_lt.mpr (heq ▸ hend) (h.valid v (List.mem_append_left _ hv)).start_lt_end
    · have hend := (List.pairwise_cons.mp hafter).1 v hv
      exact Int64.not_lt.mpr (heq ▸ hend) (h.valid w hw).start_lt_end
  have hskip : ∀ vs : List ThrottleCounter, (∀ v ∈ vs, v.windowStartMs ≠ w.windowStartMs) →
      vs.flatMap (fun v => v.course.filter fun c => c.windowStartMs = w.windowStartMs) = [] := by
    intro vs hvs
    rw [List.flatMap_eq_nil_iff]
    intro v hv
    rw [filter_course, if_neg (hvs v hv)]
  rw [List.flatMap_append, List.flatMap_cons, filter_course, if_pos rfl,
    hskip before fun v hv => hnone v (.inl hv), hskip after fun v hv => hnone v (.inr hv),
    List.nil_append, List.append_nil]

theorem mem_admitted {c : ThrottleCounter} (h : Ledger windows found admitted)
    (hc : c ∈ admitted) : ∃ w ∈ windows, c ∈ w.course := by
  rw [← h.admitted] at hc
  exact List.mem_flatMap.mp hc

/-- Of two admissions, the later one is in the same window or in one that begins after its end. -/
theorem pairwise_admitted (h : Ledger windows found admitted) :
    admitted.Pairwise fun c d =>
      c.windowStartMs = d.windowStartMs ∨
        min Int64.maxValue.toInt (c.windowStartMs.toInt + c.windowDurationMs.toInt) ≤
          d.windowStartMs.toInt := by
  rw [← h.admitted, List.pairwise_flatMap]
  refine ⟨fun w _ => ?_, h.apart.imp_of_mem ?_⟩
  · refine List.pairwise_of_forall_mem_list fun c hc d hd => .inl ?_
    rw [(ThrottleCounter.mem_course hc).1, (ThrottleCounter.mem_course hd).1]
  · intro v w hv _ hvw c hc d hd
    obtain ⟨hstart, hduration, -⟩ := ThrottleCounter.mem_course hc
    right
    rw [hstart, hduration, (ThrottleCounter.mem_course hd).1, ← (h.valid v hv).toInt_windowEndMs]
    exact Int64.le_iff_toInt_le.mp hvw

end Ledger

end Gatehouse
