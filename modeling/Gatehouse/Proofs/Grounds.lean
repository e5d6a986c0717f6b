import Gatehouse.Admission.Trial
import Gatehouse.Proofs.Exits

/-!
# On what grounds a consumer is admitted

The policy of a service may be replaced between checks, and with it the one who decides about the
limits of a consumer: the policy itself, or the oracle under some name of a policy. A counter keeps
the limits that it was opened under. So a check under a policy of the oracle may be decided by a
counter from before the policy came, and then this policy is not asked about.

This file follows the limits of every counter back to where they come from. However policies change
and the store fails, these are either the limits of a policy that was in force at an earlier check
of the consumer, or limits that the oracle granted the consumer, in time, for a policy that was.

## Main definitions

* `Docket`, `Docket.Step`, `Docket.Reachable` — the runs
* `Docket.Explained` — where limits come from
* `Docket.Sound` — the invariant: the limits of every counter are explained

## Main results

* `Docket.Reachable.sound` — the invariant holds in every run
* `Docket.admitted_on_grounds` — what an admission under a policy of the oracle rests on
* `Docket.admitted_unasked` — a run in which it does not rest on the oracle
-/

namespace Gatehouse

open StoreView (live?)

/-! ### Runs -/

/-- The state of admission, and the rulings made, the first one first. -/
structure Docket (κ ω : Type) where
  admission : Admission κ (LoggedOracle ω)
  rulings : List Ruling

namespace Docket

variable {κ ω : Type}

/-- The consultations of the oracle so far. -/
def consultations (x : Docket κ ω) : List Consultation := x.admission.consultations

/-- The time allowed to the oracle. -/
def timeoutMs (x : Docket κ ω) : Nat := x.admission.oracleTimeoutMs

section Runs

variable [Store κ ThrottleCounter] [Oracle ω]

/-- A request is checked. -/
def check (x : Docket κ ω) (i : Inquiry) : Docket κ ω :=
  ⟨x.admission.after i, x.rulings ++ (x.admission.ruling? i).toList⟩

variable [StoreView κ ThrottleCounter]

/-- What can happen to the service `id`, whatever its policy is at the time. -/
inductive Step (id : String) (x : Docket κ ω) : Docket κ ω → Prop where
  | check (i : Inquiry) (h : i.service.id = id) : Step id x (x.check i)
  /-- Something else happens. Counters may vanish, and the oracle may change its mind. -/
  | elsewhere (a : Admission κ (LoggedOracle ω))
      (hcounters : ∀ k w, live? a.counters k = some w → live? x.admission.counters k = some w)
      (hlog : a.consultations = x.consultations) (htime : a.oracleTimeoutMs = x.timeoutMs) :
    Step id x { x with admission := a }

/-- What checks of the service `id` can come to, from a store without counters on. -/
inductive Reachable (id : String) : Docket κ ω → Prop where
  | start (a : Admission κ (LoggedOracle ω)) (hempty : ∀ k, live? a.counters k = none)
      (hlog : a.consultations = []) : Reachable id ⟨a, []⟩
  | step {x x' : Docket κ ω} : Reachable id x → Step id x x' → Reachable id x'

end Runs

/-! ### The invariant -/

/-- What limits a policy, or the oracle asked because of it, sets in a check. -/
inductive Sets (s : Subject) (log : List Consultation) (timeoutMs : Nat) (l : Limits) : Prop where
  | own (hq : s.question? = none) (hl : l = s.ownLimits)
  | granted (p c : String) (hq : s.question? = some (p, c)) (e : Consultation) (he : e ∈ log)
      (hp : e.policyRef = p) (hc : e.consumer = c) (hl : e.Grants timeoutMs l)

theorem Sets.mono {s : Subject} {log log' : List Consultation} {t : Nat} {l : Limits}
    (h : Sets s log t l) (hlog : ∀ e ∈ log, e ∈ log') : Sets s log' t l := by
  cases h with
  | own hq hl => exact .own hq hl
  | granted p c hq e he hp hc hl => exact .granted p c hq e (hlog e he) hp hc hl

/-- Limits under a key go back to a check that was counted under this key. -/
def Explained (x : Docket κ ω) (k : String) (l : Limits) : Prop :=
  ∃ r ∈ x.rulings, r.subject.key = k ∧ Sets r.subject x.consultations x.timeoutMs l

theorem Explained.mono {x x' : Docket κ ω} {k : String} {l : Limits} (h : x.Explained k l)
    (hrulings : ∀ r ∈ x.rulings, r ∈ x'.rulings)
    (hlog : ∀ e ∈ x.consultations, e ∈ x'.consultations) (htime : x'.timeoutMs = x.timeoutMs) :
    x'.Explained k l := by
  obtain ⟨r, hr, hk, hsets⟩ := h
  exact ⟨r, hrulings r hr, hk, htime ▸ hsets.mono hlog⟩

/-- The limits of every counter are explained. -/
structure Sound [StoreView κ ThrottleCounter] (id : String) (x : Docket κ ω) : Prop where
  keyed : ∀ r ∈ x.rulings, r.subject.key = Subject.keyOf id r.subject.consumer
  explained : ∀ k w, live? x.admission.counters k = some w → x.Explained k w.limits

section Steps

variable [Store κ ThrottleCounter] [StoreView κ ThrottleCounter] [Oracle ω] {id : String}
  {x x' : Docket κ ω} {i : Inquiry} {c : Check}

omit [StoreView κ ThrottleCounter] in
theorem check_eq (x : Docket κ ω) (hc : i.check? = some c) :
    x.check i =
      ⟨(x.admission.rule c).1.record (x.admission.rule c).2,
        x.rulings ++ [(x.admission.rule c).1]⟩ := by
  rw [check, x.admission.after_of_counted hc, x.admission.ruling?_of_counted hc]
  rfl

omit [StoreView κ ThrottleCounter] in
/-- What is explained stays so. -/
theorem Explained.check {k : String} {l : Limits} (h : x.Explained k l)
    (hc : i.check? = some c) : (x.check i).Explained k l := by
  rw [check_eq x hc]
  refine h.mono (fun r hr => List.mem_append_left _ hr) (fun e he => ?_) ?_
  · rw [consultations, Admission.consultations_record]
    exact Admission.mem_consultations_rule c he
  · rw [timeoutMs, Ruling.oracleTimeoutMs_record]
    exact (x.admission.frame_rule c).2.2

/-- The limits that a check learns are set in the check itself, or they are those of the counter,
and explained already. -/
theorem Sound.learned (hx : x.Sound id) {l : Limits}
    (h : x.admission.Learns c.subject l (x.admission.rule c).2.oracle) :
    Sets c.subject (x.admission.rule c).2.consultations x.timeoutMs l ∨
      x.Explained c.subject.key l := by
  generalize ho : (x.admission.rule c).2.oracle = o at h
  cases h with
  | own hq => exact .inl (.own hq rfl)
  | kept hq hw => exact .inr (hx.explained _ _ hw)
  | @granted p q o' l hq hfree horacle hl =>
    refine .inl (.granted p q hq ⟨p, q, (Oracle.ask p q o').1⟩ ?_ rfl rfl ?_)
    · rw [Admission.consultations_of_asked horacle ho]
      exact List.mem_cons_self
    · exact Consultation.grants_iff.mpr hl

/-- So are the limits of the counter that it decides by. -/
theorem Sound.tallied (hx : x.Sound id) {l : Limits}
    (h : x.admission.Learns c.subject l (x.admission.rule c).2.oracle) :
    Sets c.subject (x.admission.rule c).2.consultations x.timeoutMs
        (c.subject.tally l c.now (live? x.admission.counters c.subject.key)).counter.limits ∨
      x.Explained c.subject.key
        (c.subject.tally l c.now (live? x.admission.counters c.subject.key)).counter.limits := by
  rcases c.subject.limits_tally l c.now (live? x.admission.counters c.subject.key) with
    hl | ⟨w, hw, hl⟩
  · rw [hl]
    exact hx.learned h
  · rw [hl]
    exact .inr (hx.explained _ _ hw)

variable [SteadyStore κ]

theorem Sound.check (hx : x.Sound id) (hi : i.service.id = id) : (x.check i).Sound id := by
  cases hc : i.check? with
  | none =>
    have hsame : x.check i = x := by
      rw [Docket.check, x.admission.after_of_uncounted hc, x.admission.ruling?_of_uncounted hc,
        Option.toList_none, List.append_nil]
    rwa [hsame]
  | some c =>
    obtain ⟨hid, -, hkey, -⟩ := Subject.of?_eq_some (Inquiry.check?_eq_some hc)
    obtain ⟨hsubject, -, htime⟩ := x.admission.frame_rule c
    constructor
    · intro r hr
      rw [check_eq x hc] at hr
      rcases List.mem_append.mp hr with hr | hr
      · exact hx.keyed r hr
      · obtain rfl := List.mem_singleton.mp hr
        rw [hsubject, hkey, hid, hi]
    · intro k w hw
      have hafter : (x.check i).admission.counters = (x.admission.rule c).2.counters := by
        rw [check_eq x hc, Ruling.counters_record]
      rw [hafter] at hw
      rcases x.admission.rule_cases c with ⟨-, hsame⟩ | ⟨l, hlearns, -, hwritten⟩
      · exact (hx.explained k w ((hsame k).symm.trans hw)).check hc
      · rcases hwritten k w hw with hw | ⟨rfl, hwrite⟩
        · exact (hx.explained k w hw).check hc
        · -- A counter that was written is the one that the decision was made by.
          obtain ⟨-, rfl⟩ := Subject.write_eq_some_iff.mp hwrite
          rcases hx.tallied hlearns with hsets | hexplained
          · rw [check_eq x hc]
            refine ⟨_, List.mem_append_right _ (List.mem_singleton_self _), ?_, ?_⟩
            · rw [hsubject]
            · rw [hsubject, consultations, timeoutMs, Admission.consultations_record,
                Ruling.oracleTimeoutMs_record, htime]
              exact hsets
          · exact hexplained.check hc

theorem Sound.step (hx : x.Sound id) (h : Step id x x') : x'.Sound id := by
  cases h with
  | check i hi => exact hx.check hi
  | elsewhere a hcounters hlog htime =>
    refine ⟨hx.keyed, fun k w hw => ?_⟩
    refine (hx.explained k w (hcounters k w hw)).mono (fun r hr => hr) (fun e he => ?_) htime
    rw [← hlog] at he
    exact he

theorem Reachable.sound (hx : x.Reachable id) : x.Sound id := by
  induction hx with
  | start a hempty hlog =>
    refine ⟨fun r hr => absurd hr List.not_mem_nil, fun k w hw => ?_⟩
    rw [hempty] at hw
    exact absurd hw (by simp)
  | step _ hstep ih => exact ih.step hstep

end Steps

/-! ### Admissions -/

section Admissions

variable [Store κ ThrottleCounter] [StoreView κ ThrottleCounter] [SteadyStore κ] [Oracle ω]
  {id : String} {x : Docket κ ω} {i : Inquiry}

/-- An admission under a policy of the oracle is by a counter, and the limits of that counter are
set in the check itself or explained already. -/
theorem Sound.tallied_of_admitted (hx : x.Sound id) {c : Check} (hc : i.check? = some c)
    (hq : c.subject.question?.isSome = true)
    (hadmitted : (x.admission.check i.service i.consumer i.id i.now).1.allowed = true) :
    ∃ w, (x.admission.ruling? i).bind Ruling.counter = some w ∧
      (Sets c.subject (x.admission.rule c).2.consultations x.timeoutMs w.limits ∨
        x.Explained c.subject.key w.limits) := by
  have hruling := x.admission.ruling?_of_counted hc
  rw [Admission.decision_check, hruling, Option.map_some, Option.getD_some] at hadmitted
  have hnot : (x.admission.rule c).1 ≠ c.refused := by
    intro hrefused
    rw [hrefused, Check.refused, Subject.fallback, if_pos hq] at hadmitted
    exact absurd hadmitted (by simp [Decision.deny])
  rcases x.admission.rule_cases c with ⟨hrefused, -⟩ | ⟨l, hlearns, hruled | hrefused, -⟩
  · exact absurd hrefused hnot
  · refine ⟨_, ?_, hx.tallied hlearns⟩
    rw [hruling, hruled]
    rfl
  · exact absurd hrefused hnot

/-- **What an admission under a policy of the oracle rests on.** A check of a consumer under a
policy of the oracle admits the request only by a counter, so never for lack of the store. The
limits of that counter were granted to the consumer by the oracle for this policy, in time and in
this check or an earlier one; or they come from an earlier check of the consumer under another
policy of the service, be it that this policy set them itself, or that the oracle granted them for
it. -/
theorem admitted_on_grounds (hx : x.Reachable id) (hi : i.service.id = id)
    {policy : ThrottlePolicy} (hpolicy : i.service.throttle = some policy)
    (hglobal : policy.globalEnabled = false) {p c : String} (href : policy.policyRef = some p)
    (hconsumer : i.consumer = some c)
    (hadmitted : (x.admission.check i.service i.consumer i.id i.now).1.allowed = true) :
    ∃ w, (x.admission.ruling? i).bind Ruling.counter = some w ∧
      ((∃ e ∈ (x.check i).consultations,
          e.policyRef = p ∧ e.consumer = c ∧ e.Grants x.timeoutMs w.limits) ∨
        ∃ r ∈ x.rulings, r.subject.consumer = some c ∧ r.subject.policy.policyRef ≠ some p ∧
          (r.subject.policy.policyRef = none ∧ w.limits = r.subject.ownLimits ∨
            ∃ q, r.subject.policy.policyRef = some q ∧ ∃ e ∈ x.consultations,
              e.policyRef = q ∧ e.consumer = c ∧ e.Grants x.timeoutMs w.limits)) := by
  have hcheck := Inquiry.check?_of_consumer hconsumer hpolicy hglobal
  have hq : (i.service.subject policy c).question? = some (p, c) := Service.question?_subject href
  have hsound := hx.sound
  obtain ⟨w, hw, hsets⟩ :=
    hsound.tallied_of_admitted hcheck (Option.isSome_iff_exists.mpr ⟨_, hq⟩) hadmitted
  refine ⟨w, hw, ?_⟩
  rcases hsets with hsets | ⟨r, hr, hrkey, hsets⟩
  · cases hsets with
    | own hnone => exact absurd (hnone.symm.trans hq) (by simp)
    | granted p' c' hq' e he hp hc hgrants =>
      obtain ⟨rfl, rfl⟩ := Prod.mk.inj (Option.some.inj (hq'.symm.trans hq))
      refine .inl ⟨e, ?_, hp, hc, hgrants⟩
      rw [check_eq x hcheck, consultations, Admission.consultations_record]
      exact he
  · have hkeys : Subject.keyOf id r.subject.consumer = Subject.keyOf id (some c) := by
      rw [← hsound.keyed r hr, hrkey, ← hi]
      rfl
    have hrc := Subject.keyOf_right_inj hkeys
    cases hsets with
    | own hnone hl =>
      have hnoref : r.subject.policy.policyRef = none := by
        simpa [Subject.question?, hrc] using hnone
      exact .inr ⟨r, hr, hrc, by simp [hnoref], .inl ⟨hnoref, hl⟩⟩
    | granted q c' hq' e he hp hc hgrants =>
      obtain ⟨hc', hqref⟩ := Subject.consumer_of_question? hq'
      obtain rfl := Option.some.inj (hc'.symm.trans hrc)
      by_cases hqp : q = p
      · refine .inl ⟨e, ?_, hp.trans hqp, hc, hgrants⟩
        rw [check_eq x hcheck, consultations, Admission.consultations_record]
        exact Admission.mem_consultations_rule _ he
      · refine .inr ⟨r, hr, hrc, ?_, .inr ⟨q, hqref, e, he, hp, hc, hgrants⟩⟩
        rw [hqref]
        exact fun h => hqp (Option.some.inj h)

end Admissions

/-! ### Two runs

A consumer is admitted under a policy that sets its limits itself, and then the service goes over to
a policy of the oracle. The oracle would refuse the consumer, but it is not asked. In the other run
the oracle grants limits for one policy, and they outlast the change to another one. -/

namespace Sample

def policy (policyRef : Option String) : ThrottlePolicy := ⟨false, 5, 1000, policyRef⟩

def service (policyRef : Option String) : Service :=
  { id := "svc", nodes := [], throttle := some (policy policyRef) }

def inquiry (policyRef : Option String) (now : Int64) : Inquiry :=
  ⟨service policyRef, some "c", .zero, now⟩

/-- No check was made yet, and the oracle always gives one answer. -/
def start (v : Verdict) : Docket (MemoryStore ThrottleCounter) TrialOracle :=
  ⟨⟨⟨ExpiringMap.empty, 0⟩, some ⟨⟨[("c", [⟨0, .ok v⟩])], []⟩, []⟩, 100, none, Metrics.empty⟩, []⟩

/-- After one check, with an oracle that refuses everything. -/
def unasked : Docket (MemoryStore ThrottleCounter) TrialOracle :=
  (start ⟨false, none, none⟩).check (inquiry none 0)

/-- After one check for which the oracle granted limits. -/
def granted : Docket (MemoryStore ThrottleCounter) TrialOracle :=
  (start ⟨true, some 2, some 500⟩).check (inquiry (some "p") 0)

theorem reachable_checked (v : Verdict) (policyRef : Option String) :
    ((start v).check (inquiry policyRef 0)).Reachable "svc" := by
  have hstart : (start v).Reachable "svc" := .start _ (fun k => rfl) rfl
  exact hstart.step (.check (inquiry policyRef 0) rfl)

end Sample

open Sample in
theorem admitted_on_other_grounds :
    granted.Reachable "svc" ∧
      (granted.admission.check (service (some "q")) (some "c") .zero 1).1.allowed = true ∧
      ∃ w, (granted.admission.ruling? (inquiry (some "q") 1)).bind Ruling.counter = some w ∧
        w.limits = ⟨2, 500⟩ ∧
        ((∃ e ∈ (granted.check (inquiry (some "q") 1)).consultations,
            e.policyRef = "q" ∧ e.consumer = "c" ∧ e.Grants 100 w.limits) ∨
          ∃ r ∈ granted.rulings,
            r.subject.consumer = some "c" ∧ r.subject.policy.policyRef ≠ some "q" ∧
            (r.subject.policy.policyRef = none ∧ w.limits = r.subject.ownLimits ∨
              ∃ q, r.subject.policy.policyRef = some q ∧ ∃ e ∈ granted.consultations,
                e.policyRef = q ∧ e.consumer = "c" ∧ e.Grants 100 w.limits)) := by
  have hreachable : granted.Reachable "svc" := reachable_checked _ (some "p")
  have hadmitted :
      (granted.admission.check (service (some "q")) (some "c") .zero 1).1.allowed = true := by rfl
  have hpolicy : (inquiry (some "q") 1).service.throttle = some (policy (some "q")) := rfl
  obtain ⟨w, hw, hgrounds⟩ := admitted_on_grounds hreachable rfl hpolicy rfl rfl rfl hadmitted
  have hcounter : (granted.admission.ruling? (inquiry (some "q") 1)).bind Ruling.counter =
      some ⟨"svc:c", some "c", 2, 500, 0, 2⟩ := by rfl
  obtain rfl := Option.some.inj (hcounter.symm.trans hw)
  exact ⟨hreachable, hadmitted, _, hw, rfl, hgrounds⟩

open Sample in
theorem admitted_unasked :
    (policy none).violations "svc" true = [] ∧ (policy (some "p")).violations "svc" true = [] ∧
      unasked.Reachable "svc" ∧
      (unasked.admission.check (service (some "p")) (some "c") .zero 1).1.allowed = true ∧
      (unasked.check (inquiry (some "p") 1)).consultations = [] :=
  ⟨by decide, by decide, Sample.reachable_checked _ none, by rfl, by rfl⟩

end Docket

end Gatehouse
