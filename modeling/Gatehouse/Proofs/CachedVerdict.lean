import Gatehouse.Admission.Trial
import Gatehouse.Proofs.Rulings

/-!
# A verdict that is kept

Where the oracle decides, it is asked about a consumer until it grants limits, and never again. From
then on the limits travel in the counter of the consumer. This file compares such a service with one
whose policy has these limits itself: from the check on that obtained them, nothing tells the two
apart, neither by their decisions and events nor by the counters that they keep.

The two differ in how a check learns its limits, and agree in everything after that. So it is enough
that the stored counter has the limits of the other policy, and that no check changes the limits of
a counter, even when it opens a new window.

## Main definitions

* `Observation`, `Admission.observe` — what is seen of each check of a run
* `Service.governed`, `Inquiry.governed` — the service whose policy has given limits itself
* `Admission.InStep` — the two hold the same counter, with these limits

## Main results

* `Admission.InStep.observe` — checks of the two, from then on
* `Admission.asked_until_granted` — every check of a consumer without a counter, before and after
-/

namespace Gatehouse

open StoreView (live?)

/-! ### What is seen of a check -/

/-- What is seen of a check. -/
structure Observation where
  decision : Decision
  /-- The event that is published of it. -/
  event : Option AdmissionEvent
  /-- The questions put to the oracle in it. -/
  asked : List Consultation
  /-- The live counters after it. -/
  counters : String → Option ThrottleCounter

/-- What is seen of a check by one who cannot see the oracle, and only one counter. -/
def Observation.at (o : Observation) (k : String) :
    Decision × Option AdmissionEvent × Option ThrottleCounter :=
  (o.decision, o.event, o.counters k)

/-- What is seen of a check for which the oracle was asked once and granted nothing: it is refused
with the policy's own window as a hint, and nothing is written. -/
structure Observation.Waits (x : Observation) (policy : ThrottlePolicy)
    (policyRef consumer : String) (timeoutMs : Nat) (before : String → Option ThrottleCounter) :
    Prop where
  refused : x.decision.allowed = false
  hint : x.decision.retryAfterMs.toInt = max policy.windowMs.toInt 0
  asked : ∃ reply, x.asked = [⟨policyRef, consumer, reply⟩] ∧
    ∀ l, ¬Consultation.Grants ⟨policyRef, consumer, reply⟩ timeoutMs l
  unwritten : x.counters = before

namespace Admission

variable {κ ω : Type}

/-- The same state, with an empty log. -/
def openLog (a : Admission κ (LoggedOracle ω)) : Admission κ (LoggedOracle ω) :=
  { a with oracle := a.oracle.map fun o => ⟨o.oracle, []⟩ }

@[simp] theorem consultations_openLog (a : Admission κ (LoggedOracle ω)) :
    a.openLog.consultations = [] := by
  rw [consultations, openLog]
  cases a.oracle <;> rfl

variable [Store κ ThrottleCounter] [StoreView κ ThrottleCounter] [Oracle ω]

/-- What is seen of each of a number of checks, one after the other. -/
def observe (a : Admission κ (LoggedOracle ω)) : List Inquiry → List Observation
  | [] => []
  | i :: is =>
    ⟨(a.openLog.check i.service i.consumer i.id i.now).1, (a.openLog.ruling? i).map Ruling.event,
      (a.openLog.after i).consultations, live? (a.openLog.after i).counters⟩ ::
        (a.openLog.after i).observe is

/-- What is seen of a check that is counted is what it rules and what it leaves. -/
theorem observe_cons (a : Admission κ (LoggedOracle ω)) {i : Inquiry} {c : Check}
    (hc : i.check? = some c) (is : List Inquiry) :
    a.observe (i :: is) =
      ⟨(a.openLog.rule c).1.decision, some (a.openLog.rule c).1.event,
        (a.openLog.rule c).2.consultations, live? (a.openLog.rule c).2.counters⟩ ::
          ((a.openLog.rule c).1.record (a.openLog.rule c).2).observe is := by
  rw [observe, a.openLog.after_of_counted hc, a.openLog.check_of_counted hc,
    a.openLog.ruling?_of_counted hc, Option.map_some, consultations_record,
    Ruling.counters_record]

end Admission

/-! ### The two services -/

/-- The service, if its policy had given limits for consumers itself. -/
def Service.governed (service : Service) (l : Limits) : Service :=
  { service with throttle := some ⟨false, l.limit, l.windowMs, none⟩ }

/-- The same request to the service whose policy has the limits itself. -/
def Inquiry.governed (i : Inquiry) (l : Limits) : Inquiry :=
  { i with service := i.service.governed l }

theorem Inquiry.check?_governed {i : Inquiry} {c : String} (hconsumer : i.consumer = some c)
    (l : Limits) :
    (i.governed l).check? =
      some (.begun (i.service.subject ⟨false, l.limit, l.windowMs, none⟩ c) i.id i.now) := by
  have hgoverned : (i.governed l).consumer = some c := hconsumer
  exact check?_of_consumer hgoverned rfl rfl

/-! ### Checks under the same limits -/

namespace Admission

section Counted

variable {κ ω : Type} [Store κ ThrottleCounter] [StoreView κ ThrottleCounter] [ReliableStore κ]
  [Oracle ω] {a : Admission κ ω} {s : Subject} {l : Limits} {o : Option ω}
  {found : Option ThrottleCounter}

/-- A check under the limits of the counter, if there is one, leaves a counter with these limits. -/
theorem rule_counted (h : a.Learns s l o) (hfound : live? a.counters s.key = found)
    (hl : ∀ w, found = some w → w.limits = l) (id : Uuid) (now : Int64) :
    (a.rule (.begun s id now)).1 = Check.ruled (.begun s id now) l found ∧
      (a.rule (.begun s id now)).2.oracle = o ∧
      live? (a.rule (.begun s id now)).2.counters s.key =
        some (s.tally l now found).counter ∧
      (s.tally l now found).counter.limits = l := by
  obtain ⟨hruling, horacle, hcounters⟩ := rule_learned (c := .begun s id now) h
  have hkey := hcounters s.key
  simp only [Check.begun, hfound] at hruling horacle hkey
  refine ⟨hruling, horacle, ?_, ?_⟩
  · rw [if_pos trivial, Subject.write_or] at hkey
    exact hkey
  · rcases s.limits_tally l now found with hw | ⟨w, hw, hw'⟩
    · exact hw
    · exact hw'.trans (hl w hw)

end Counted

section Steps

variable {κ κ' ω ω' : Type} [StoreView κ ThrottleCounter] [StoreView κ' ThrottleCounter]

/-- Both have the same counter under a key, and it has given limits. -/
def InStep (k : String) (l : Limits) (a : Admission κ ω) (b : Admission κ' ω') : Prop :=
  ∃ w, live? a.counters k = some w ∧ live? b.counters k = some w ∧ w.limits = l

variable [Store κ ThrottleCounter] [Store κ' ThrottleCounter] [ReliableStore κ]
  [ReliableStore κ'] [Oracle ω] [Oracle ω'] {a : Admission κ (LoggedOracle ω)}
  {b : Admission κ' (LoggedOracle ω')} {service : Service} {policy : ThrottlePolicy} {p c : String}
  {l : Limits} {is : List Inquiry} {i : Inquiry}

/-- A check of each that counts under the same limits and finds the same: the same is seen of both,
and they are in step from then on. -/
theorem observe_counted (hi : i.service = service ∧ i.consumer = some c)
    (hpolicy : service.throttle = some policy) (hglobal : policy.globalEnabled = false)
    {o : Option (LoggedOracle ω)} {found : Option ThrottleCounter}
    (hlearns : a.openLog.Learns (service.subject policy c) l o)
    (ha : live? a.counters (Subject.keyOf service.id (some c)) = found)
    (hb : live? b.counters (Subject.keyOf service.id (some c)) = found)
    (hl : ∀ w, found = some w → w.limits = l) :
    ∃ (x y : Observation) (a' : Admission κ (LoggedOracle ω))
      (b' : Admission κ' (LoggedOracle ω')),
      (∀ is, a.observe (i :: is) = x :: a'.observe is) ∧
        (∀ is, b.observe (i.governed l :: is) = y :: b'.observe is) ∧
        x.at (Subject.keyOf service.id (some c)) = y.at (Subject.keyOf service.id (some c)) ∧
        x.asked = a'.consultations ∧ a'.oracle = o ∧
        InStep (Subject.keyOf service.id (some c)) l a' b' := by
  obtain ⟨rfl, hconsumer⟩ := hi
  obtain ⟨hruled, horacle, hw, hwl⟩ := rule_counted hlearns ha hl i.id i.now
  obtain ⟨hruled', -, hw', -⟩ :=
    rule_counted (a := b.openLog) (s := i.service.subject ⟨false, l.limit, l.windowMs, none⟩ c)
      (.own rfl) hb hl i.id i.now
  refine ⟨_, _, _, _, a.observe_cons (Inquiry.check?_of_consumer hconsumer hpolicy hglobal),
    b.observe_cons (Inquiry.check?_governed hconsumer l), ?_, ?_, ?_, ?_⟩
  · rw [hruled, hruled']
    refine Prod.ext rfl (Prod.ext rfl ?_)
    exact hw.trans hw'.symm
  · rw [consultations_record]
  · rw [Ruling.oracle_record]
    exact horacle
  · refine ⟨_, ?_, ?_, hwl⟩
    · rw [Ruling.counters_record]
      exact hw
    · rw [Ruling.counters_record]
      exact hw'

/-- Once in step, the two do the same, and the oracle is not asked. -/
theorem InStep.observe (h : InStep (Subject.keyOf service.id (some c)) l a b)
    (hpolicy : service.throttle = some policy) (hglobal : policy.globalEnabled = false)
    (href : policy.policyRef = some p)
    (his : ∀ i ∈ is, i.service = service ∧ i.consumer = some c) :
    (a.observe is).map (·.at (Subject.keyOf service.id (some c))) =
        (b.observe (is.map (·.governed l))).map (·.at (Subject.keyOf service.id (some c))) ∧
      ∀ x ∈ a.observe is, x.asked = [] := by
  induction is generalizing a b with
  | nil => exact ⟨rfl, fun x hx => absurd hx List.not_mem_nil⟩
  | cons i is ih =>
    obtain ⟨w, ha, hb, rfl⟩ := h
    have hlearns : a.openLog.Learns (service.subject policy c) w.limits a.openLog.oracle := by
      refine .kept ?_ ha
      rw [Service.question?_subject href]
      rfl
    obtain ⟨x, y, a', b', hax, hby, hxy, hasked, horacle, hstep⟩ :=
      observe_counted (his i List.mem_cons_self) hpolicy hglobal hlearns ha hb
        (fun w' hw' => by rw [Option.some.inj hw'])
    obtain ⟨hrest, hquiet⟩ := ih hstep fun j hj => his j (List.mem_cons_of_mem i hj)
    rw [hax, List.map_cons, List.map_cons, hby, List.map_cons, hxy, hrest]
    refine ⟨rfl, fun z hz => ?_⟩
    rcases List.mem_cons.mp hz with rfl | hz
    · rw [hasked, consultations, horacle]
      exact a.consultations_openLog
    · exact hquiet z hz

/-- A check for which the oracle is asked and grants nothing. -/
theorem observe_refused (hi : i.service = service ∧ i.consumer = some c)
    (hpolicy : service.throttle = some policy) (hglobal : policy.globalEnabled = false)
    (href : policy.policyRef = some p) {o : LoggedOracle ω} (ho : a.openLog.oracle = some o)
    (hfree : live? a.counters (Subject.keyOf service.id (some c)) = none)
    (hl : (Oracle.ask p c o).1.limits? a.oracleTimeoutMs = none) :
    ∃ (x : Observation) (a' : Admission κ (LoggedOracle ω)),
      (∀ is, a.observe (i :: is) = x :: a'.observe is) ∧
        x.Waits policy p c a.oracleTimeoutMs (live? a.counters) ∧
        live? a'.counters = live? a.counters ∧ a'.oracle.isSome = true ∧
        a'.oracleTimeoutMs = a.oracleTimeoutMs := by
  obtain ⟨rfl, hconsumer⟩ := hi
  have hq : (i.service.subject policy c).question? = some (p, c) := Service.question?_subject href
  obtain ⟨hruled, horacle, hcounters⟩ := rule_refused (a := a.openLog)
    (c := .begun (i.service.subject policy c) i.id i.now) hq hfree ho hl
  have hdecision : (a.openLog.rule (.begun (i.service.subject policy c) i.id i.now)).1.decision =
      .deny policy.windowMs := by
    rw [hruled]
    exact if_pos (Option.isSome_iff_exists.mpr ⟨_, hq⟩)
  refine ⟨_, _, a.observe_cons (Inquiry.check?_of_consumer hconsumer hpolicy hglobal),
    ?_, ?_, ?_, ?_⟩
  · refine ⟨?_, ?_, ⟨(Oracle.ask p c o).1, ?_, ?_⟩, funext hcounters⟩
    · rw [hdecision]
      rfl
    · rw [hdecision]
      exact Decision.toInt_deny _
    · exact (consultations_of_asked ho horacle).trans (by rw [consultations_openLog])
    · intro l hgrants
      rw [Consultation.grants_iff, hl] at hgrants
      exact absurd hgrants (by simp)
  · rw [Ruling.counters_record]
    exact funext hcounters
  · rw [Ruling.oracle_record, horacle]
    rfl
  · rw [Ruling.oracleTimeoutMs_record]
    exact (a.openLog.frame_rule _).2.2

/-- Checks from the one on for which the oracle grants limits. -/
theorem observe_granted (his : ∀ j ∈ i :: is, j.service = service ∧ j.consumer = some c)
    (hpolicy : service.throttle = some policy) (hglobal : policy.globalEnabled = false)
    (href : policy.policyRef = some p) {o : ω} (ho : a.openLog.oracle = some ⟨o, []⟩)
    (ha : live? a.counters (Subject.keyOf service.id (some c)) = none)
    (hb : live? b.counters (Subject.keyOf service.id (some c)) = none)
    (hl : (Oracle.ask p c o).1.limits? a.oracleTimeoutMs = some l) :
    ∃ first later, a.observe (i :: is) = first :: later ∧
      first.asked = [⟨p, c, (Oracle.ask p c o).1⟩] ∧ (∀ x ∈ later, x.asked = []) ∧
      (a.observe (i :: is)).map (·.at (Subject.keyOf service.id (some c))) =
        (b.observe ((i :: is).map (·.governed l))).map
          (·.at (Subject.keyOf service.id (some c))) := by
  have hq : (service.subject policy c).question? = some (p, c) := Service.question?_subject href
  obtain ⟨x, y, a', b', hax, hby, hxy, hasked, hnow, hstep⟩ :=
    observe_counted (his i List.mem_cons_self) hpolicy hglobal (.granted hq ha ho hl) ha hb
      (by simp)
  obtain ⟨hsame, hquiet⟩ :=
    hstep.observe hpolicy hglobal href fun j hj => his j (List.mem_cons_of_mem i hj)
  refine ⟨x, a'.observe is, hax is, ?_, hquiet, ?_⟩
  · rw [hasked, consultations_of_asked ho hnow, consultations_openLog]
    rfl
  · rw [hax, List.map_cons, List.map_cons, hby, List.map_cons, hxy, hsame]

/-- **The oracle is asked until it grants limits, and then the service is as good as governed by
them.** Take any number of checks of a consumer without a counter. In each of them up to some point
the oracle is asked once and grants nothing, and the check is refused with a hint and leaves no
trace. If there are checks after that point, the oracle grants limits in the first one of them and
is not asked in any other; and all of them decide, publish and store for the consumer exactly what
they would under a policy that has these limits itself. -/
theorem asked_until_granted (hpolicy : service.throttle = some policy)
    (hglobal : policy.globalEnabled = false) (href : policy.policyRef = some p)
    (horacle : a.oracle.isSome = true)
    (his : ∀ i ∈ is, i.service = service ∧ i.consumer = some c)
    (ha : live? a.counters (Subject.keyOf service.id (some c)) = none)
    (hb : live? b.counters (Subject.keyOf service.id (some c)) = none) :
    ∃ n, (∀ x ∈ (a.observe is).take n,
        x.Waits policy p c a.oracleTimeoutMs (live? a.counters)) ∧
      (is.length = n ∨ ∃ l reply first later, (a.observe is).drop n = first :: later ∧
        Consultation.Grants ⟨p, c, reply⟩ a.oracleTimeoutMs l ∧
        first.asked = [⟨p, c, reply⟩] ∧ (∀ x ∈ later, x.asked = []) ∧
        ((a.observe is).drop n).map (·.at (Subject.keyOf service.id (some c))) =
          (b.observe ((is.drop n).map (·.governed l))).map
            (·.at (Subject.keyOf service.id (some c)))) := by
  induction is generalizing a with
  | nil => exact ⟨0, fun x hx => absurd hx (by simp), .inl rfl⟩
  | cons i is ih =>
    obtain ⟨o, ho⟩ := Option.isSome_iff_exists.mp horacle
    have ho' : a.openLog.oracle = some ⟨o.oracle, []⟩ := by
      rw [openLog, ho]
      rfl
    cases hl : (Oracle.ask p c o.oracle).1.limits? a.oracleTimeoutMs with
    | none =>
      -- One more check that waits. The rest begins with the same counters, so the bound is the same.
      obtain ⟨x, a', hax, hwaits, hsame, hsome, htime⟩ :=
        observe_refused (his i List.mem_cons_self) hpolicy hglobal href ho' ha hl
      obtain ⟨n, hwait, hthen⟩ :=
        ih hsome (fun j hj => his j (List.mem_cons_of_mem i hj)) (by rw [hsame, ha])
      refine ⟨n + 1, ?_, ?_⟩
      · rw [hax, List.take_succ_cons]
        intro y hy
        rcases List.mem_cons.mp hy with rfl | hy
        · exact hwaits
        · have hy := hwait y hy
          rwa [hsame, htime] at hy
      · rw [hax, List.length_cons, List.drop_succ_cons, List.drop_succ_cons, ← htime]
        exact hthen.imp_left (congrArg (· + 1))
    | some l =>
      obtain ⟨first, later, hfirst, hasked, hquiet, hsame⟩ :=
        observe_granted his hpolicy hglobal href ho' ha hb hl
      exact ⟨0, fun x hx => absurd hx (by simp), .inr ⟨l, _, first, later, hfirst,
        Consultation.grants_iff.mpr hl, hasked, hquiet, hsame⟩⟩

end Steps

/-! ### A run

The oracle refuses a consumer once and then grants two requests in half a second. The last of the
checks is made when this window is over. -/

namespace Sample

def service : Service :=
  { id := "svc", nodes := [], throttle := some ⟨false, 7, 1000, some "p"⟩ }

def inquiries : List Inquiry :=
  ([0, 10, 20, 30, 600] : List Int64).map fun now => ⟨service, some "c", .zero, now⟩

def asking : Admission (MemoryStore ThrottleCounter) (LoggedOracle TrialOracle) where
  counters := ⟨ExpiringMap.empty, 0⟩
  oracle := some ⟨⟨[("c", [⟨0, .ok ⟨false, none, none⟩⟩, ⟨0, .ok ⟨true, some 2, some 500⟩⟩])],
    []⟩, []⟩
  oracleTimeoutMs := 100
  events := none
  metrics := Metrics.empty

/-- The same without an oracle. -/
def unasking : Admission (MemoryStore ThrottleCounter) (LoggedOracle TrialOracle) :=
  { asking with oracle := none }

end Sample

theorem asked_twice :
    (Sample.asking.observe Sample.inquiries).map (fun x => (x.decision.allowed, x.asked.length)) =
        [(false, 1), (true, 1), (true, 0), (false, 0), (true, 0)] ∧
      ∃ n, (∀ x ∈ (Sample.asking.observe Sample.inquiries).take n,
          x.Waits ⟨false, 7, 1000, some "p"⟩ "p" "c" 100 (live? Sample.asking.counters)) ∧
        (5 = n ∨ ∃ l reply first later,
          (Sample.asking.observe Sample.inquiries).drop n = first :: later ∧
          Consultation.Grants ⟨"p", "c", reply⟩ 100 l ∧
          first.asked = [⟨"p", "c", reply⟩] ∧ (∀ x ∈ later, x.asked = []) ∧
          ((Sample.asking.observe Sample.inquiries).drop n).map (·.at "svc:c") =
            (Sample.unasking.observe ((Sample.inquiries.drop n).map (·.governed l))).map
              (·.at "svc:c")) := by
  have his : ∀ i ∈ Sample.inquiries, i.service = Sample.service ∧ i.consumer = some "c" := by
    intro i hi
    obtain ⟨now, -, rfl⟩ := List.mem_map.mp hi
    exact ⟨rfl, rfl⟩
  exact ⟨by rfl, asked_until_granted (a := Sample.asking) (b := Sample.unasking) rfl rfl rfl rfl his
    rfl rfl⟩

end Admission

end Gatehouse
