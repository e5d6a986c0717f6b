import Gatehouse.Admission.Trial
import Gatehouse.Proofs.Publications
import Gatehouse.Proofs.Windows

/-!
# A rush of checks

Any number of checks go on at once, with services whose policies may change from one check to the
next. Each decides by a clock that it read earlier and by limits that it learned earlier, and clocks
need not agree or go forward. Still no admission is lost, and none is made beyond a limit.

## Implementation notes

`Rush` keeps, besides the state of admission, the checks under way and the rulings made, the first
one first. The event of a ruling is published by the step that makes it, so the rulings tell what was
published (`Rush.published_advance`). Between two steps anything may happen that leaves the counters
as they are: events are delivered, slots removed, and the oracle changes its mind.

## Main definitions

* `Rush`, `Rush.Step`, `Rush.Reachable` — the runs
* `Rush.Sound` — the invariant: every key has a ledger

## Main results

* `Rush.Reachable.sound` — the invariant holds in every run
* `Rush.published_advance` — a ruling is published by the step that makes it
* `Rush.admissions_in_windows` — counts, limits and windows of what is published
-/

namespace Gatehouse

open StoreView (live?)

/-! ### Runs -/

/-- The state of admission, and what happened so far. -/
structure Rush (κ ω : Type) where
  admission : Admission κ ω
  ongoing : List Check
  /-- The rulings, the first one first. -/
  rulings : List Ruling

/-- The counter after a ruling, if the ruling admits a request of a key. -/
def Ruling.admits? (k : String) (r : Ruling) : Option ThrottleCounter :=
  if r.subject.key = k ∧ r.decision.allowed then r.counter else none

/-- The counters after the admissions of a key. -/
def admittedBy (k : String) (rs : List Ruling) : List ThrottleCounter :=
  rs.filterMap (Ruling.admits? k)

namespace Rush

variable {κ ω : Type}

/-- The events published of the admissions of a key in the window that begins at an instant. -/
def admissions (x : Rush κ ω) (k : String) (start : Int64) : List AdmissionEvent :=
  (x.rulings.filter fun r =>
    r.subject.key = k ∧ r.event.allowed ∧ r.event.windowStartMs = start).map Ruling.event

section Runs

variable [Store κ ThrottleCounter] [Oracle ω]

/-- A check under way makes its next step. -/
def advance (x : Rush κ ω) (c : Check) : Rush κ ω :=
  match c.advance x.admission with
  | (.inl c', a) => ⟨a, c' :: x.ongoing.erase c, x.rulings⟩
  | (.inr r, a) => ⟨a, x.ongoing.erase c, x.rulings ++ [r]⟩

variable [StoreView κ ThrottleCounter]

/-- What can happen at any time. -/
inductive Step (x : Rush κ ω) : Rush κ ω → Prop where
  | begin (service : Service) (consumer : Option String) (s : Subject) (id : Uuid) (now : Int64)
      (hs : Subject.of? service consumer = some s) (hl : s.ownLimits.Positive)
      (h0 : 0 ≤ now) (h1 : now < Int64.maxValue) :
    Step x { x with ongoing := .begun s id now :: x.ongoing }
  | advance (c : Check) (h : c ∈ x.ongoing) : Step x (x.advance c)
  /-- Something else happens, but not to the counters. -/
  | elsewhere (a : Admission κ ω)
      (h : ∀ k, live? a.counters k = live? x.admission.counters k) :
    Step x { x with admission := a }

/-- What admission can come to, from its start on a store without entries. -/
inductive Reachable : Rush κ ω → Prop where
  | start (a : Admission κ ω) (hempty : ∀ k, live? a.counters k = none) : Reachable ⟨a, [], []⟩
  | step {x x' : Rush κ ω} : Reachable x → Step x x' → Reachable x'

end Runs

end Rush

/-! ### The invariant -/

/-- What is known of a check under way. -/
structure Check.Fair (c : Check) : Prop where
  positive : c.subject.ownLimits.Positive
  now_nonneg : 0 ≤ c.now
  now_lt : c.now < Int64.maxValue
  asking : ∀ p q, c.stage = .asking p q → c.subject.question? = some (p, q)
  counting : ∀ l, c.stage = .counting l → l.Positive

/-- What is known of a ruling, given the windows of its key. -/
inductive Ruling.Founded (windows : List ThrottleCounter) (r : Ruling) : Prop where
  | admitted (c : ThrottleCounter) (ha : r.decision.allowed = true) (hc : r.counter = some c)
  | full (c : ThrottleCounter) (ha : r.decision.allowed = false) (hc : r.counter = some c)
      (hw : c ∈ windows) (hlive : c.isLive r.now = true) (hfull : c.limit ≤ c.count)
  | refused (ha : r.decision.allowed = false) (hc : r.counter = none)
      (hq : r.subject.question?.isSome = true)

@[simp] theorem Ruling.event_allowed (r : Ruling) : r.event.allowed = r.decision.allowed := rfl

theorem Ruling.event_of_counter {r : Ruling} {c : ThrottleCounter} (hc : r.counter = some c) :
    r.event.count = c.count ∧ r.event.limit = c.limit ∧
      r.event.windowStartMs = c.windowStartMs := by
  rw [event, Subject.event, hc]
  exact ⟨rfl, rfl, rfl⟩

theorem Ruling.Founded.counter_of_allowed {windows : List ThrottleCounter} {r : Ruling}
    (h : r.Founded windows) (ha : r.decision.allowed = true) : ∃ c, r.counter = some c := by
  cases h with
  | admitted c _ hc => exact ⟨c, hc⟩
  | full c _ hc _ _ _ => exact ⟨c, hc⟩
  | refused hd _ _ => exact absurd ha (by simp [hd])

theorem Ruling.Founded.mono {windows windows' : List ThrottleCounter} {r : Ruling}
    (h : r.Founded windows) (hw : ∀ w ∈ windows, w.limit ≤ w.count → w ∈ windows') :
    r.Founded windows' := by
  cases h with
  | admitted c ha hc => exact .admitted c ha hc
  | full c ha hc hm hlive hfull => exact .full c ha hc (hw c hm hfull) hlive hfull
  | refused ha hc hq => exact .refused ha hc hq

theorem Check.Fair.begun {s : Subject} {id : Uuid} {now : Int64} (hl : s.ownLimits.Positive)
    (h0 : 0 ≤ now) (h1 : now < Int64.maxValue) : (Check.begun s id now).Fair :=
  ⟨hl, h0, h1, fun _ _ h => by simp [Check.begun] at h, fun _ h => by simp [Check.begun] at h⟩

/-- The limits that a check goes on to count under are positive, if its own are and those of the
counter that it may have read. -/
theorem Check.Onward.positive {c : Check} {found : Option ThrottleCounter} {l : Limits}
    (h : c.Onward found (.counting l)) (hown : c.subject.ownLimits.Positive)
    (hf : ∀ w ∈ found, w.limits.Positive) : l.Positive := by
  rcases h with rfl | ⟨w, hw, rfl⟩ | ⟨reply, t, hr⟩
  · exact hown
  · exact hf w hw
  · exact OracleReply.positive_of_limits? hr

/-- A check goes on fairly if the counter that it may have read is valid. -/
theorem Check.Fair.onward {c : Check} (h : c.Fair) {found : Option ThrottleCounter}
    (hf : ∀ w ∈ found, w.Valid) {stage : Stage} (hs : c.Onward found stage) :
    Check.Fair { c with stage } where
  positive := h.positive
  now_nonneg := h.now_nonneg
  now_lt := h.now_lt
  asking p q hpq := by
    cases hpq
    exact hs
  counting l hl := by
    cases hl
    exact hs.positive h.positive fun w hw => (hf w hw).positive

section Rulings

variable {k : String} {rs : List Ruling} {r : Ruling} {windows : List ThrottleCounter}

theorem admittedBy_append {c : ThrottleCounter} (hk : r.subject.key = k)
    (ha : r.decision.allowed = true) (hc : r.counter = some c) :
    admittedBy k (rs ++ [r]) = admittedBy k rs ++ [c] := by
  simp [admittedBy, Ruling.admits?, List.filterMap_append, hk, ha, hc]

theorem admittedBy_append_of_denied (h : r.subject.key = k → r.decision.allowed = false) :
    admittedBy k (rs ++ [r]) = admittedBy k rs := by
  have hnot : ¬(r.subject.key = k ∧ r.decision.allowed = true) := by
    rintro ⟨hk, ha⟩
    exact absurd ha (by simp [h hk])
  simp [admittedBy, Ruling.admits?, List.filterMap_append, hnot]

/-- A founded ruling is added to others, and the windows are kept or have grown. -/
theorem Ruling.Founded.append {windows' : List ThrottleCounter}
    (h : ∀ p ∈ rs, p.subject.key = k → p.Founded windows)
    (hkeep : ∀ w ∈ windows, w.limit ≤ w.count → w ∈ windows')
    (hr : r.subject.key = k → r.Founded windows') :
    ∀ p ∈ rs ++ [r], p.subject.key = k → p.Founded windows' := by
  intro p hp hk
  rcases List.mem_append.mp hp with hp | hp
  · exact (h p hp hk).mono hkeep
  · obtain rfl := List.mem_singleton.mp hp
    exact hr hk

end Rulings

namespace Rush

variable {κ ω : Type} [StoreView κ ThrottleCounter] {x x' : Rush κ ω}

/-- Checks under way are fair, and every key has a ledger in which its rulings are founded. -/
structure Sound (x : Rush κ ω) : Prop where
  fair : ∀ c ∈ x.ongoing, c.Fair
  ledger : ∀ k, ∃ windows,
    Ledger windows (live? x.admission.counters k) (admittedBy k x.rulings) ∧
      ∀ r ∈ x.rulings, r.subject.key = k → r.Founded windows

theorem Sound.start {a : Admission κ ω} (hempty : ∀ k, live? a.counters k = none) :
    Sound ⟨a, [], []⟩ where
  fair c hc := absurd hc List.not_mem_nil
  ledger k := ⟨[], by rw [hempty]; exact Ledger.empty, fun r hr => absurd hr List.not_mem_nil⟩

theorem Sound.valid_of_live (hx : x.Sound) {k : String} {w : ThrottleCounter}
    (hw : live? x.admission.counters k = some w) : w.Valid := by
  obtain ⟨windows, hledger, -⟩ := hx.ledger k
  rw [hw] at hledger
  exact hledger.valid_of_found

/-- Where neither counters nor rulings change, it is enough to look at the checks under way. -/
theorem Sound.ongoing (hx : x.Sound) {a : Admission κ ω} {ongoing : List Check}
    (ha : ∀ k, live? a.counters k = live? x.admission.counters k)
    (hfair : ∀ c ∈ ongoing, c.Fair) : Sound ⟨a, ongoing, x.rulings⟩ where
  fair := hfair
  ledger k := by
    rw [ha k]
    exact hx.ledger k

/-- A refusal for lack of limits is added. -/
theorem Sound.refused (hx : x.Sound) {a : Admission κ ω} {c : Check} (hc : c ∈ x.ongoing)
    (ha : ∀ k, live? a.counters k = live? x.admission.counters k) {p q : String}
    (hstage : c.stage = .asking p q) :
    Sound ⟨a, x.ongoing.erase c, x.rulings ++ [c.refused]⟩ where
  fair d hd := hx.fair d (List.mem_of_mem_erase hd)
  ledger k := by
    obtain ⟨windows, hledger, hfounded⟩ := hx.ledger k
    have hq : c.subject.question?.isSome = true := by
      rw [(hx.fair c hc).asking p q hstage]
      rfl
    have hdenied : c.refused.decision.allowed = false := by
      rw [Check.refused, Subject.fallback, if_pos hq]
      rfl
    refine ⟨windows, ?_, Ruling.Founded.append hfounded (fun w hw _ => hw) fun _ => ?_⟩
    · rw [ha k, admittedBy_append_of_denied fun _ => hdenied]
      exact hledger
    · exact .refused hdenied rfl hq

/-- A check decides by the counter that it finds, and writes what it made of it. -/
theorem Sound.ruled (hx : x.Sound) {a : Admission κ ω} {c : Check} (hc : c ∈ x.ongoing)
    {l : Limits} (hstage : c.stage = .counting l)
    (ha : ∀ k, live? a.counters k =
      if k = c.subject.key then
        (c.subject.write l c.now (live? x.admission.counters c.subject.key)).or
          (live? x.admission.counters c.subject.key)
      else live? x.admission.counters k) :
    Sound ⟨a, x.ongoing.erase c,
      x.rulings ++ [c.ruled l (live? x.admission.counters c.subject.key)]⟩ where
  fair d hd := hx.fair d (List.mem_of_mem_erase hd)
  ledger k := by
    obtain ⟨windows, hledger, hfounded⟩ := hx.ledger k
    have hfair := hx.fair c hc
    rw [ha k]
    by_cases hk : k = c.subject.key
    · subst hk
      rw [if_pos rfl, Subject.write]
      rcases hledger.tally c.subject (hfair.counting l hstage) hfair.now_nonneg hfair.now_lt with
        ⟨hallowed, windows', hledger', hkeep⟩ | ⟨hdenied, hmem, hlive, hfull⟩
      · simp only [hallowed, if_true, Option.some_or]
        refine ⟨windows', ?_, Ruling.Founded.append hfounded hkeep fun _ => ?_⟩
        · rw [admittedBy_append (k := c.subject.key) (r := c.ruled l _) rfl hallowed rfl]
          exact hledger'
        · exact .admitted _ hallowed rfl
      · simp only [hdenied, Bool.false_eq_true, if_false, Option.none_or]
        refine ⟨windows, ?_, Ruling.Founded.append hfounded (fun w hw _ => hw) fun _ => ?_⟩
        · rw [admittedBy_append_of_denied fun _ => hdenied]
          exact hledger
        · exact .full _ hdenied rfl hmem hlive hfull
    · rw [if_neg hk]
      refine ⟨windows, ?_, Ruling.Founded.append hfounded (fun w hw _ => hw) fun h => ?_⟩
      · rw [admittedBy_append_of_denied fun h => absurd h.symm hk]
        exact hledger
      · exact absurd h.symm hk

variable [Store κ ThrottleCounter] [ReliableStore κ] [Oracle ω]

theorem Sound.advance (hx : x.Sound) {c : Check} (hc : c ∈ x.ongoing) : (x.advance c).Sound := by
  rw [Rush.advance]
  rcases hstep : c.advance x.admission with ⟨out, a⟩
  rcases Check.advance_cases hstep with ⟨stage, rfl, honward, ha⟩ | ⟨p, q, hstage, rfl, ha⟩ |
    ⟨l, hstage, rfl, ha⟩
  · refine hx.ongoing ha fun d hd => ?_
    rcases List.mem_cons.mp hd with rfl | hd
    · exact (hx.fair c hc).onward (fun w hw => hx.valid_of_live hw) honward
    · exact hx.fair d (List.mem_of_mem_erase hd)
  · exact hx.refused hc ha hstage
  · exact hx.ruled hc hstage ha

theorem Sound.step (hx : x.Sound) (h : Step x x') : x'.Sound := by
  cases h with
  | begin service consumer s id now hs hl h0 h1 =>
    refine hx.ongoing (fun _ => rfl) fun c hc => ?_
    rcases List.mem_cons.mp hc with rfl | hc
    · exact Check.Fair.begun hl h0 h1
    · exact hx.fair c hc
  | advance c h => exact hx.advance h
  | elsewhere a h => exact hx.ongoing h hx.fair

theorem Reachable.sound (hx : x.Reachable) : x.Sound := by
  induction hx with
  | start a hempty => exact Sound.start hempty
  | step _ hstep ih => exact ih.step hstep

/-! ### What is published -/

/-- A step of a check makes no ruling and publishes nothing, or it makes one ruling and publishes its
event. -/
theorem published_advance {κ ω : Type} [Store κ ThrottleCounter] [Oracle ω] (x : Rush κ ω)
    (c : Check) :
    ((x.advance c).rulings = x.rulings ∧ x.admission.Unpublished (x.advance c).admission) ∨
      ∃ r, (x.advance c).rulings = x.rulings ++ [r] ∧
        x.admission.Published r.event (x.advance c).admission := by
  rw [Rush.advance]
  rcases hstep : c.advance x.admission with ⟨out, a⟩
  have hpublished := Check.published_advance hstep
  cases out with
  | inl c' => exact .inl ⟨rfl, hpublished⟩
  | inr r => exact .inr ⟨r, rfl, hpublished⟩

/-- The events of admissions carry what the counters after them say. -/
theorem map_event_filter {k : String} {rs : List Ruling} {windows : List ThrottleCounter}
    (start : Int64) (h : ∀ r ∈ rs, r.subject.key = k → r.Founded windows) :
    ((rs.filter fun r => r.subject.key = k ∧ r.event.allowed ∧ r.event.windowStartMs = start).map
        Ruling.event).map (fun e => (e.count, e.limit)) =
      ((admittedBy k rs).filter fun c => c.windowStartMs = start).map
        fun c => (c.count, c.limit) := by
  induction rs with
  | nil => rfl
  | cons r rs ih =>
    have hrs := ih fun p hp => h p (List.mem_cons_of_mem r hp)
    rw [admittedBy] at hrs ⊢
    by_cases hr : r.subject.key = k ∧ r.decision.allowed = true
    · obtain ⟨c, hc⟩ := (h r List.mem_cons_self hr.1).counter_of_allowed hr.2
      obtain ⟨hcount, hlimit, hstart⟩ := Ruling.event_of_counter hc
      have hadmits : r.admits? k = some c := by rw [Ruling.admits?, if_pos hr, hc]
      rw [List.filterMap_cons_some hadmits, List.filter_cons, List.filter_cons]
      by_cases hs : c.windowStartMs = start
      · rw [if_pos (by simp [hr, hstart, hs]), if_pos (by simp [hs])]
        rw [List.map_cons, List.map_cons, List.map_cons, hrs, hcount, hlimit]
      · rw [if_neg (by simp [hstart, hs]), if_neg (by simp [hs]), hrs]
    · have hadmits : r.admits? k = none := by rw [Ruling.admits?, if_neg hr]
      rw [List.filterMap_cons_none hadmits, List.filter_cons_of_neg, hrs]
      rw [decide_eq_true_iff]
      rintro ⟨hk, ha, -⟩
      exact hr ⟨hk, ha⟩

variable {κ ω : Type} [StoreView κ ThrottleCounter] {x : Rush κ ω}

/-- The events of a window count up to its size, under its limit. -/
structure Counted (es : List AdmissionEvent) (w : ThrottleCounter) : Prop where
  length : es.length = w.size
  counts : es.map (fun e => e.count.toInt) = (List.range w.size).map fun i : Nat => (i : Int) + 1
  limit : ∀ e ∈ es, e.limit = w.limit

theorem counted_of_map {es : List AdmissionEvent} {w : ThrottleCounter} (hw : w.Valid)
    (h : es.map (fun e => (e.count, e.limit)) = w.course.map fun c => (c.count, c.limit)) :
    Counted es w where
  length := by
    rw [← List.length_map (fun e : AdmissionEvent => (e.count, e.limit)), h, List.length_map,
      ThrottleCounter.course, List.length_map, List.length_range]
  counts := by
    rw [← hw.counts_course]
    have hfst := congrArg (List.map fun p : Int64 × Int64 => p.1.toInt) h
    rw [List.map_map, List.map_map] at hfst
    exact hfst
  limit e he := by
    have hmem : (e.count, e.limit) ∈ w.course.map fun c => (c.count, c.limit) :=
      h ▸ List.mem_map_of_mem he
    obtain ⟨c, hc, heq⟩ := List.mem_map.mp hmem
    rw [← (ThrottleCounter.mem_course hc).2.2]
    exact (Prod.mk.inj heq).2.symm

theorem counted_admissions {k : String} {windows : List ThrottleCounter}
    (hledger : Ledger windows (live? x.admission.counters k) (admittedBy k x.rulings))
    (hfounded : ∀ r ∈ x.rulings, r.subject.key = k → r.Founded windows)
    {w : ThrottleCounter} (hw : w ∈ windows) :
    Counted (x.admissions k w.windowStartMs) w := by
  refine counted_of_map (hledger.valid w hw) ?_
  rw [admissions, map_event_filter _ hfounded, hledger.group hw]

variable [Store κ ThrottleCounter] [ReliableStore κ] [Oracle ω]

/-- **No admission is lost and none is extra.** However checks overlap, the admissions of a key that
are published for one window carry the counts from one on, each exactly once, and no more of them
than the limit that they carry. A check is turned away either for lack of limits from the oracle or
by a live counter, and then as many requests were admitted in its window as its limit allows. Of two
admissions in different windows, the later one's window begins after the end of the other. And the
events of the rulings are what is published: the step that makes a ruling puts its event into the
buffer, and no other step of a check puts one there. -/
theorem admissions_in_windows (hx : x.Reachable) (k : String) :
    (∀ start,
      (x.admissions k start).map (fun e => e.count.toInt) =
          (List.range (x.admissions k start).length).map (fun i : Nat => (i : Int) + 1) ∧
        ∀ e ∈ x.admissions k start, ((x.admissions k start).length : Int) ≤ e.limit.toInt) ∧
    (∀ r ∈ x.rulings, r.subject.key = k → r.event.allowed = false →
      (r.counter = none ∧ r.subject.question?.isSome = true) ∨
      ∃ c, r.counter = some c ∧ c.isLive r.now = true ∧ c.count = c.limit ∧
        ((x.admissions k c.windowStartMs).length : Int) = c.limit.toInt) ∧
    ((admittedBy k x.rulings).Pairwise fun c d =>
      c.windowStartMs = d.windowStartMs ∨
        min Int64.maxValue.toInt (c.windowStartMs.toInt + c.windowDurationMs.toInt) ≤
          d.windowStartMs.toInt) ∧
    ∀ c ∈ x.ongoing,
      ((x.advance c).rulings = x.rulings ∧ x.admission.Unpublished (x.advance c).admission) ∨
        ∃ r, (x.advance c).rulings = x.rulings ++ [r] ∧
          x.admission.Published r.event (x.advance c).admission := by
  obtain ⟨windows, hledger, hfounded⟩ := hx.sound.ledger k
  refine ⟨fun start => ?_, fun r hr hrk hdenied => ?_, hledger.pairwise_admitted,
    fun c _ => x.published_advance c⟩
  · by_cases hw : ∃ w ∈ windows, w.windowStartMs = start
    · obtain ⟨w, hw, rfl⟩ := hw
      have hcounted := counted_admissions hledger hfounded hw
      have hvalid := hledger.valid w hw
      refine ⟨by rw [hcounted.length]; exact hcounted.counts, fun e he => ?_⟩
      rw [hcounted.length, hcounted.limit e he, hvalid.size_eq]
      exact Int64.le_iff_toInt_le.mp hvalid.count_le
    · have hnone : (admittedBy k x.rulings).filter (fun c => c.windowStartMs = start) = [] := by
        rw [List.filter_eq_nil_iff]
        intro c hc
        obtain ⟨w, hwm, hcw⟩ := hledger.mem_admitted hc
        rw [(ThrottleCounter.mem_course hcw).1, decide_eq_true_iff]
        exact fun hs => hw ⟨w, hwm, hs⟩
      have hpairs := map_event_filter start hfounded
      rw [hnone, List.map_nil, List.map_eq_nil_iff] at hpairs
      rw [admissions, hpairs]
      exact ⟨rfl, fun e he => absurd he List.not_mem_nil⟩
  · cases hfounded r hr hrk with
    | admitted c ha hc => exact absurd hdenied (by simp [ha])
    | full c ha hc hw hlive hfull =>
      have hcounted := counted_admissions hledger hfounded hw
      have hvalid := hledger.valid c hw
      have heq : c.count = c.limit := Int64.le_antisymm hvalid.count_le hfull
      exact .inr ⟨c, hc, hlive, heq, by rw [hcounted.length, hvalid.size_eq, heq]⟩
    | refused ha hc hq => exact .inl ⟨hc, hq⟩

/-! ### A run

Two checks of one key overlap, the second with a clock that is behind. The first opens a window that
admits one request, and the second is turned away. A third check comes when the window is over. There is room
for two events, so that of the first check makes way then. -/

namespace Sample

def service : Service :=
  { id := "svc", nodes := [], throttle := some ⟨true, 1, 1000, none⟩ }

def subject : Subject := ⟨"svc", ⟨true, 1, 1000, none⟩, "svc", none⟩

def eventId : Uuid := Uuid.zero

def check (now : Int64) : Check := .begun subject eventId now

/-- A check that has read the counter. -/
def counting (now : Int64) : Check := { check now with stage := .counting ⟨1, 1000⟩ }

def start : Rush (MemoryStore ThrottleCounter) TrialOracle :=
  ⟨⟨⟨ExpiringMap.empty, 0⟩, none, 0, some (.start 2), Metrics.empty⟩, [], []⟩

def overlapping : Rush (MemoryStore ThrottleCounter) TrialOracle :=
  ({ start with ongoing := [check 400, check 500] }.advance (check 500)).advance (check 400)

def decided : Rush (MemoryStore ThrottleCounter) TrialOracle :=
  (overlapping.advance (counting 500)).advance (counting 400)

def deciding : Rush (MemoryStore ThrottleCounter) TrialOracle :=
  { decided with ongoing := [check 1500] }.advance (check 1500)

def later : Rush (MemoryStore ThrottleCounter) TrialOracle := deciding.advance (counting 1500)

theorem step_check {x : Rush (MemoryStore ThrottleCounter) TrialOracle} (now : Int64)
    (hx : x.Reachable) (h0 : 0 ≤ now) (h1 : now < Int64.maxValue) :
    Reachable { x with ongoing := check now :: x.ongoing } :=
  hx.step (.begin service none subject eventId now rfl ⟨by decide, by decide⟩ h0 h1)

theorem reachable_deciding : deciding.Reachable := by
  have hstart : start.Reachable := .start _ fun k => rfl
  have hbegun := step_check 400 (step_check 500 hstart (by decide) (by decide))
    (by decide) (by decide)
  have hoverlap : overlapping.Reachable :=
    (hbegun.step (.advance (check 500) (by decide))).step (.advance (check 400) (by decide))
  have hdecided : decided.Reachable :=
    (hoverlap.step (.advance (counting 500) (by decide))).step
      (.advance (counting 400) (by decide))
  have hlater := step_check 1500 hdecided (by decide) (by decide)
  exact hlater.step (.advance (check 1500) (by decide))

theorem reachable_later : later.Reachable :=
  reachable_deciding.step (.advance (counting 1500) (by decide))

end Sample

theorem admissions_of_later :
    Sample.later.Reachable ∧
      (Sample.later.rulings.map fun r => (r.event.allowed, r.event.count, r.event.windowStartMs)) =
        [(true, 1, 500), (false, 1, 500), (true, 1, 1500)] ∧
      (∀ start,
        (Sample.later.admissions "svc" start).map (fun e => e.count.toInt) =
            (List.range (Sample.later.admissions "svc" start).length).map
              (fun i : Nat => (i : Int) + 1) ∧
          ∀ e ∈ Sample.later.admissions "svc" start,
            ((Sample.later.admissions "svc" start).length : Int) ≤ e.limit.toInt) ∧
      (∀ r ∈ Sample.later.rulings, r.subject.key = "svc" → r.event.allowed = false →
        (r.counter = none ∧ r.subject.question?.isSome = true) ∨
        ∃ c, r.counter = some c ∧ c.isLive r.now = true ∧ c.count = c.limit ∧
          ((Sample.later.admissions "svc" c.windowStartMs).length : Int) = c.limit.toInt) ∧
      ((admittedBy "svc" Sample.later.rulings).Pairwise fun c d =>
        c.windowStartMs = d.windowStartMs ∨
          min Int64.maxValue.toInt (c.windowStartMs.toInt + c.windowDurationMs.toInt) ≤
            d.windowStartMs.toInt) ∧
      (∃ r, Sample.later.rulings = Sample.deciding.rulings ++ [r] ∧
        Sample.deciding.admission.Published r.event Sample.later.admission) ∧
      (Sample.later.admission.events.map fun d => d.buffer.queue.map AdmissionEvent.timestampMs) =
        some [400, 1500] := by
  obtain ⟨hcounts, hdenied, hwindows, -⟩ := admissions_in_windows Sample.reachable_later "svc"
  obtain ⟨-, -, -, hpublished⟩ := admissions_in_windows Sample.reachable_deciding "svc"
  have hnew : Sample.later.rulings ≠ Sample.deciding.rulings := by decide
  refine ⟨Sample.reachable_later, by decide, hcounts, hdenied, hwindows, ?_, by decide⟩
  exact (hpublished (Sample.counting 1500) (by decide)).resolve_left fun h => hnew h.1

end Rush

end Gatehouse
