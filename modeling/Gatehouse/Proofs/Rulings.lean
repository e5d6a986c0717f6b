import Gatehouse.Proofs.SessionKeys
import Gatehouse.Proofs.StoreRecords
import Gatehouse.Proofs.Windows
import Gatehouse.Proofs.Checks

/-!
# Checks in one go

A check that nothing interrupts makes one ruling. This file takes the ruling apart from its record,
so that results about runs of such checks can speak of rulings: the decision, the counter that it
was made by, and the event that is published of it.

A ruling depends on the limits that the check counts under, and these come from one of three places:
from the policy, from the counter that is there, or from the oracle. Which one it is, is settled
when the counter has been read.

## Implementation notes

The questions to the oracle and its answers are written down by an oracle around it, `LoggedOracle`.
Admission with such an oracle does what it does with the oracle inside, `Admission.rule_unlogged`.

## Main definitions

* `Subject.account` — whom a check is counted against
* `Admission.rule` — the ruling of a check, and the state before it is recorded
* `Inquiry`, `Admission.ruling?` — a request to be checked, and the ruling if it is counted
* `LoggedOracle`, `Consultation` — the questions put to the oracle
* `Consultation.Grants` — an answer of the oracle that grants limits
* `Admission.translate` — the state with its store and its oracle translated
* `Admission.Learns` — the limits that a check counts under, and the oracle after it

## Main results

* `Subject.keyOf_inj` — different accounts have different counters
* `Admission.decision_check`, `events_check` — a check decides and publishes what its ruling says
* `Admission.rule_translate` — a check respects the translations that calls and questions respect
* `Admission.rule_learned`, `rule_refused` — what a check does on a store that never fails
-/

namespace Gatehouse

open StoreView (live?)

/-! ### Whom a check is counted against -/

namespace Subject

/-- The key of the counter of a service, or of one of its consumers. -/
def keyOf (serviceId : String) : Option String → String
  | none => serviceId
  | some c => serviceId ++ ":" ++ c

/-- Whom a check is counted against: a service, or a consumer of a service. -/
def account (s : Subject) : String × Option String := (s.serviceId, s.consumer)

theorem of?_eq_some {service : Service} {consumer : Option String} {s : Subject}
    (h : of? service consumer = some s) :
    s.serviceId = service.id ∧ service.throttle = some s.policy ∧
      s.key = keyOf s.serviceId s.consumer ∧
      s.consumer = if s.policy.globalEnabled then none else consumer := by
  obtain ⟨policy, hpolicy, h⟩ := Option.bind_eq_some_iff.mp h
  split at h
  · rename_i hglobal
    obtain rfl := Option.some.inj h
    exact ⟨rfl, hpolicy, rfl, (if_pos hglobal).symm⟩
  · rename_i hglobal
    obtain ⟨c, rfl, rfl⟩ := Option.map_eq_some_iff.mp h
    exact ⟨rfl, hpolicy, rfl, (if_neg hglobal).symm⟩

/-- A consumer that the oracle decides about is counted by itself. -/
theorem consumer_of_question? {s : Subject} {p c : String} (h : s.question? = some (p, c)) :
    s.consumer = some c ∧ s.policy.policyRef = some p := by
  obtain ⟨c', hc, h⟩ := Option.bind_eq_some_iff.mp h
  obtain ⟨p', hp, h⟩ := Option.map_eq_some_iff.mp h
  obtain ⟨rfl, rfl⟩ := Prod.mk.inj h
  exact ⟨hc, hp⟩

theorem toList_keyOf (id : String) (c : Option String) :
    (keyOf id c).toList =
      id.toList ++ (c.map fun c => ':' :: c.toList).getD [] := by
  cases c <;> simp [keyOf]

/-- Within a service no condition is needed. -/
theorem keyOf_right_inj {id : String} {c c' : Option String} (h : keyOf id c = keyOf id c') :
    c = c' := by
  have hl := congrArg String.toList h
  rw [toList_keyOf, toList_keyOf, List.append_cancel_left_eq] at hl
  cases c <;> cases c' <;> simp_all [String.toList_inj]

/-- The text of a consumer is up to the client; whatever it is, it cannot lead to the counter of
another account. -/
theorem keyOf_inj {id id' : String} {c c' : Option String} (hid : ':' ∉ id.toList)
    (hid' : ':' ∉ id'.toList) (h : keyOf id c = keyOf id' c') : id = id' ∧ c = c' := by
  have hl := congrArg String.toList h
  rw [toList_keyOf, toList_keyOf] at hl
  have hids : id = id' := by
    cases c with
    | none =>
      cases c' with
      | none => exact h
      | some d =>
        rw [Option.map_none, Option.getD_none, List.append_nil] at hl
        exact absurd (by simp [hl]) hid
    | some d =>
      cases c' with
      | none =>
        rw [Option.map_none, Option.getD_none, List.append_nil] at hl
        exact absurd (by simp [← hl]) hid'
      | some d' => exact String.toList_inj.mp (Text.eq_of_join_eq hid hid' hl).1
  subst hids
  exact ⟨rfl, keyOf_right_inj h⟩

end Subject

/-! ### Rulings -/

theorem Check.subject_settled (c : Check) (l : Limits) (u : Updated ThrottleCounter) :
    (c.settled l u).subject = c.subject := by
  cases u <;> rfl

namespace Admission

section Rule

variable {κ ω : Type} [Store κ ThrottleCounter] (a : Admission κ ω)

/-- Reads the counter that a check is about. -/
def read (c : Check) : Except StoreError (Option ThrottleCounter) × Admission κ ω :=
  let (found, counters) := Store.get c.subject.key a.counters
  (found, { a with counters })

/-- The ruling by one update under known limits, and the state before it is recorded. -/
def settle (c : Check) (l : Limits) : Ruling × Admission κ ω :=
  let (result, counters) :=
    Store.update c.subject.key l.lifetimeMs (c.subject.write l c.now) a.counters
  (c.settled l result, { a with counters })

theorem count_eq_settle (s : Subject) (id : Uuid) (now : Int64) (l : Limits) :
    a.count s id now l =
      ((a.settle (.begun s id now) l).1.decision,
        (a.settle (.begun s id now) l).1.record (a.settle (.begun s id now) l).2) := by
  rw [count, settle]
  simp only [Check.begun]
  cases (Store.update s.key l.lifetimeMs (s.write l now) a.counters).1 <;> rfl

variable [Oracle ω]

/-- The ruling of a check that nothing interrupts, and the state before it is recorded. -/
def rule (c : Check) : Ruling × Admission κ ω :=
  let (found, a) := a.read c
  match c.subject.plan found with
  | .giveUp => (c.refused, a)
  | .count l => a.settle c l
  | .ask p q =>
    let (granted, a) := a.askOracle p q
    match granted with
    | some l => a.settle c l
    | none => (c.refused, a)

variable {a} in
theorem rule_of_giveUp {c : Check} (h : c.subject.plan (a.read c).1 = .giveUp) :
    a.rule c = (c.refused, (a.read c).2) := by
  simp only [rule, h]

variable {a} in
theorem rule_of_count {c : Check} {l : Limits} (h : c.subject.plan (a.read c).1 = .count l) :
    a.rule c = (a.read c).2.settle c l := by
  simp only [rule, h]

variable {a} in
theorem rule_of_granted {c : Check} {p q : String} {l : Limits}
    (h : c.subject.plan (a.read c).1 = .ask p q)
    (hl : ((a.read c).2.askOracle p q).1 = some l) :
    a.rule c = ((a.read c).2.askOracle p q).2.settle c l := by
  simp only [rule, h, hl]

variable {a} in
theorem rule_of_refused {c : Check} {p q : String} (h : c.subject.plan (a.read c).1 = .ask p q)
    (hl : ((a.read c).2.askOracle p q).1 = none) :
    a.rule c = (c.refused, ((a.read c).2.askOracle p q).2) := by
  simp only [rule, h, hl]

/-- A check is its ruling, recorded. -/
theorem checkSubject_eq (s : Subject) (id : Uuid) (now : Int64) :
    a.checkSubject s id now =
      ((a.rule (.begun s id now)).1.decision,
        (a.rule (.begun s id now)).1.record (a.rule (.begun s id now)).2) := by
  rw [checkSubject]
  simp only
  cases hp : s.plan (Store.get s.key a.counters).1 with
  | giveUp =>
    rw [rule_of_giveUp hp]
    rfl
  | count l =>
    rw [rule_of_count hp]
    exact count_eq_settle _ s id now l
  | ask p q =>
    simp only
    cases hl : (askOracle { a with counters := (Store.get s.key a.counters).2 } p q).1 with
    | none =>
      rw [rule_of_refused hp hl]
      rfl
    | some l =>
      rw [rule_of_granted hp hl]
      exact count_eq_settle _ s id now l

/-- A ruling is about what is checked. Before it is recorded, nothing has changed but the counters
and the oracle. -/
theorem state_rule (c : Check) :
    (a.rule c).1.subject = c.subject ∧
      (a.rule c).2 =
        { a with counters := (a.rule c).2.counters, oracle := (a.rule c).2.oracle } := by
  have hask (p q : String) : ((a.read c).2.askOracle p q).2 =
      { a with
        counters := ((a.read c).2.askOracle p q).2.counters
        oracle := ((a.read c).2.askOracle p q).2.oracle } := by
    rw [askOracle]
    split <;> rfl
  cases hp : c.subject.plan (a.read c).1 with
  | giveUp =>
    rw [rule_of_giveUp hp]
    exact ⟨rfl, rfl⟩
  | count l =>
    rw [rule_of_count hp]
    exact ⟨c.subject_settled l _, rfl⟩
  | ask p q =>
    cases hl : ((a.read c).2.askOracle p q).1 with
    | none =>
      rw [rule_of_refused hp hl]
      exact ⟨rfl, hask p q⟩
    | some l =>
      rw [rule_of_granted hp hl]
      refine ⟨c.subject_settled l _, ?_⟩
      rw [settle, hask p q]

/-- Before a ruling is recorded, nothing is published. -/
theorem frame_rule (c : Check) :
    (a.rule c).1.subject = c.subject ∧ (a.rule c).2.events = a.events ∧
      (a.rule c).2.oracleTimeoutMs = a.oracleTimeoutMs := by
  obtain ⟨hsubject, hstate⟩ := a.state_rule c
  have hevents := congrArg events hstate
  have htime := congrArg oracleTimeoutMs hstate
  exact ⟨hsubject, hevents, htime⟩

/-- Nor is anything counted. -/
theorem metrics_rule (c : Check) : (a.rule c).2.metrics = a.metrics := by
  have hmetrics := congrArg metrics (a.state_rule c).2
  exact hmetrics

end Rule

end Admission

/-! ### Requests to be checked -/

/-- What is counted for a consumer of a service. -/
def Service.subject (service : Service) (policy : ThrottlePolicy) (c : String) : Subject :=
  ⟨service.id, policy, Subject.keyOf service.id (some c), some c⟩

theorem Service.question?_subject {service : Service} {policy : ThrottlePolicy} {p c : String}
    (href : policy.policyRef = some p) :
    (service.subject policy c).question? = some (p, c) := by
  simp [Subject.question?, subject, href]

/-- A request to be checked, and what the clock says then. -/
structure Inquiry where
  service : Service
  consumer : Option String
  /-- The identifier of the event that is recorded of it. -/
  id : Uuid
  now : Int64
  deriving DecidableEq

namespace Inquiry

/-- What is counted, if the request is. -/
def subject? (i : Inquiry) : Option Subject := Subject.of? i.service i.consumer

/-- The check of the request, if it is counted. -/
def check? (i : Inquiry) : Option Check := i.subject?.map fun s => .begun s i.id i.now

theorem check?_eq_some {i : Inquiry} {c : Check} (h : i.check? = some c) :
    i.subject? = some c.subject := by
  obtain ⟨s, hs, rfl⟩ := Option.map_eq_some_iff.mp h
  exact hs

/-- A consumer is counted by itself, unless the policy is for the service as a whole. -/
theorem check?_of_consumer {i : Inquiry} {policy : ThrottlePolicy} {c : String}
    (hconsumer : i.consumer = some c) (hpolicy : i.service.throttle = some policy)
    (hglobal : policy.globalEnabled = false) :
    i.check? = some (.begun (i.service.subject policy c) i.id i.now) := by
  simp [check?, subject?, Subject.of?, hconsumer, hpolicy, hglobal, Service.subject,
    Subject.keyOf]

/-- The key that a request is counted under by a policy. -/
def keyBy (i : Inquiry) (policy : ThrottlePolicy) : String :=
  Subject.keyOf i.service.id (if policy.globalEnabled then none else i.consumer)

/-- A request is counted if its service has a policy for the service as a whole, or for consumers
and there is one. -/
theorem check?_of_policy {i : Inquiry} {policy : ThrottlePolicy}
    (hpolicy : i.service.throttle = some policy)
    (hcounted : policy.globalEnabled = true ∨ i.consumer.isSome = true) :
    ∃ s, i.subject? = some s ∧ i.check? = some (.begun s i.id i.now) ∧ s.policy = policy ∧
      s.key = i.keyBy policy := by
  have hsome : i.subject?.isSome = true := by
    rw [subject?, Subject.of?, hpolicy, Option.bind_some]
    split
    · rfl
    · rename_i hglobal
      rw [Option.isSome_map]
      exact hcounted.resolve_left hglobal
  obtain ⟨s, hs⟩ := Option.isSome_iff_exists.mp hsome
  obtain ⟨hid, hthrottle, hkey, hconsumer⟩ := Subject.of?_eq_some hs
  obtain rfl := Option.some.inj (hpolicy.symm.trans hthrottle)
  exact ⟨s, hs, by rw [check?, hs, Option.map_some], rfl, by rw [hkey, keyBy, hid, hconsumer]⟩

/-- Otherwise it is not counted. -/
theorem check?_of_no_policy {i : Inquiry}
    (h : ∀ policy, i.service.throttle = some policy →
      policy.globalEnabled = false ∧ i.consumer = none) : i.check? = none := by
  rw [check?, subject?, Subject.of?]
  cases hpolicy : i.service.throttle with
  | none => rfl
  | some policy =>
    obtain ⟨hglobal, hconsumer⟩ := h policy hpolicy
    simp [hglobal, hconsumer]

end Inquiry

namespace Admission

variable {κ ω : Type} [Store κ ThrottleCounter] [Oracle ω] (a : Admission κ ω)

/-- The ruling on a request, if it is counted. -/
def ruling? (i : Inquiry) : Option Ruling := i.check?.map fun c => (a.rule c).1

/-- The state after a request was checked. -/
def after (i : Inquiry) : Admission κ ω := (a.check i.service i.consumer i.id i.now).2

theorem check_eq (i : Inquiry) :
    a.check i.service i.consumer i.id i.now =
      match i.check? with
      | none => (.allow, a)
      | some c => ((a.rule c).1.decision, (a.rule c).1.record (a.rule c).2) := by
  rw [check, Inquiry.check?, Inquiry.subject?]
  cases Subject.of? i.service i.consumer with
  | none => rfl
  | some s => exact a.checkSubject_eq s i.id i.now

section Counted

variable {i : Inquiry} {c : Check}

theorem ruling?_of_counted (hc : i.check? = some c) : a.ruling? i = some (a.rule c).1 := by
  rw [ruling?, hc, Option.map_some]

theorem ruling?_of_uncounted (hc : i.check? = none) : a.ruling? i = none := by
  rw [ruling?, hc, Option.map_none]

theorem check_of_counted (hc : i.check? = some c) :
    (a.check i.service i.consumer i.id i.now).1 = (a.rule c).1.decision := by
  rw [check_eq, hc]

theorem after_of_counted (hc : i.check? = some c) :
    a.after i = (a.rule c).1.record (a.rule c).2 := by
  rw [after, check_eq, hc]

/-- A request that is not counted leaves no trace. -/
theorem after_of_uncounted (hc : i.check? = none) : a.after i = a := by
  rw [after, check_eq, hc]

end Counted

/-- A check decides what its ruling says. What is not counted is admitted. -/
theorem decision_check (i : Inquiry) :
    (a.check i.service i.consumer i.id i.now).1 =
      ((a.ruling? i).map Ruling.decision).getD .allow := by
  rw [check_eq, ruling?]
  cases i.check? <;> rfl

/-- A check publishes the event of its ruling. -/
theorem events_check (i : Inquiry) :
    (a.after i).events =
      match a.ruling? i with
      | none => a.events
      | some r => a.events.map (·.publish r.event) := by
  rw [after, check_eq, ruling?]
  cases i.check? with
  | none => rfl
  | some c => rw [Option.map_some, Ruling.events_record, (a.frame_rule c).2.1]

end Admission

/-! ### Admission through a translation -/

/-- An oracle answers alike on both sides of a translation, and what a question leaves behind is
translated. -/
def RespectsQuestions {ω ω' : Type} [Oracle ω] [Oracle ω'] (g : ω → ω') : Prop :=
  ∀ p q o, Oracle.ask p q (g o) = (Oracle.ask p q o).map id g

namespace Admission

section Translation

variable {κ κ' ω ω' : Type} {f : κ → κ'} {g : ω → ω'}

/-- The state with its store and its oracle translated. -/
def translate (f : κ → κ') (g : ω → ω') (a : Admission κ ω) : Admission κ' ω' where
  counters := f a.counters
  oracle := a.oracle.map g
  oracleTimeoutMs := a.oracleTimeoutMs
  events := a.events
  metrics := a.metrics

/-- Recording a ruling is about neither. -/
theorem record_translate (r : Ruling) (a : Admission κ ω) :
    r.record (a.translate f g) = (r.record a).translate f g := by
  obtain ⟨counters, oracle, timeoutMs, events, metrics⟩ := a
  cases events <;> rfl

theorem askOracle_translate [Oracle ω] [Oracle ω'] (hg : RespectsQuestions g)
    (a : Admission κ ω) (p q : String) :
    (a.translate f g).askOracle p q = (a.askOracle p q).map id (translate f g) := by
  obtain ⟨counters, oracle, timeoutMs, events, metrics⟩ := a
  cases oracle with
  | none => rfl
  | some o =>
    simp only [translate, askOracle, Option.map_some, hg p q o]
    rfl

variable [Store κ ThrottleCounter] [Store κ' ThrottleCounter]

theorem read_translate (hf : RespectsCalls f) (a : Admission κ ω) (c : Check) :
    (a.translate f g).read c = (a.read c).map id (translate f g) := by
  simp only [read, translate, hf.get]
  rfl

theorem settle_translate (hf : RespectsCalls f) (a : Admission κ ω) (c : Check) (l : Limits) :
    (a.translate f g).settle c l = (a.settle c l).map id (translate f g) := by
  simp only [settle, translate, hf.update]
  rfl

variable [Oracle ω] [Oracle ω']

/-- **A check respects the translations that the calls and the questions respect.** -/
theorem rule_translate (hf : RespectsCalls f) (hg : RespectsQuestions g) (a : Admission κ ω)
    (c : Check) : (a.translate f g).rule c = (a.rule c).map id (translate f g) := by
  simp only [rule, read_translate hf, Prod.map_fst, Prod.map_snd, id]
  cases c.subject.plan (a.read c).1 with
  | giveUp => rfl
  | count l => exact settle_translate hf _ c l
  | ask p q =>
    simp only [askOracle_translate hg, Prod.map_fst, Prod.map_snd, id]
    cases ((a.read c).2.askOracle p q).1 with
    | none => rfl
    | some l => exact settle_translate hf _ c l

theorem after_translate (hf : RespectsCalls f) (hg : RespectsQuestions g) (a : Admission κ ω)
    (i : Inquiry) : (a.translate f g).after i = (a.after i).translate f g := by
  cases hc : i.check? with
  | none => rw [after_of_uncounted _ hc, after_of_uncounted _ hc]
  | some c =>
    rw [after_of_counted _ hc, after_of_counted _ hc, rule_translate hf hg]
    exact record_translate _ _

end Translation

end Admission

/-! ### The oracle under a check -/

/-- A verdict grants limits if it allows the request and names two positive numbers. -/
theorem Verdict.limits?_eq_some_iff {v : Verdict} {l : Limits} :
    v.limits? = some l ↔
      v.allowed = true ∧ v.limit = some l.limit ∧ v.windowDurationMs = some l.windowMs ∧
        l.Positive := by
  have hpositive : l.Positive ↔ 0 < l.limit.toInt ∧ 0 < l.windowMs.toInt :=
    ⟨fun h => ⟨Int64.lt_iff_toInt_lt.mp h.limit_pos, Int64.lt_iff_toInt_lt.mp h.window_pos⟩,
      fun h => ⟨Int64.lt_iff_toInt_lt.mpr h.1, Int64.lt_iff_toInt_lt.mpr h.2⟩⟩
  obtain ⟨allowed, limit, window⟩ := v
  obtain ⟨n, w⟩ := l
  rw [hpositive, limits?]
  cases allowed <;> cases limit <;> cases window <;> simp
  constructor
  · rintro ⟨h, rfl, rfl⟩
    exact ⟨rfl, rfl, h⟩
  · rintro ⟨rfl, rfl, h⟩
    exact ⟨h, rfl, rfl⟩

/-- An answer grants limits if it came in time and its verdict grants them. -/
theorem OracleReply.limits?_eq_some_iff {reply : OracleReply} {t : Nat} {l : Limits} :
    reply.limits? t = some l ↔
      reply.inTime t = true ∧ ∃ v, reply.answer = .ok v ∧ v.limits? = some l := by
  rw [limits?]
  by_cases htime : reply.inTime t = true
  · rw [if_pos htime]
    cases reply.answer <;> simp [htime]
  · rw [if_neg htime]
    simp [htime]

/-- The oracle is asked if it decides and there is no counter. -/
theorem Subject.plan_eq_ask {s : Subject} {found : Except StoreError (Option ThrottleCounter)}
    {p q : String} (h : s.plan found = .ask p q) :
    s.question? = some (p, q) ∧ found = .ok none := by
  unfold plan at h
  split at h
  · simp at h
  · split at h
    · simp at h
    · simp at h
    · rename_i hq
      rw [Plan.ask.injEq] at h
      obtain ⟨rfl, rfl⟩ := h
      exact ⟨hq, rfl⟩

/-- A check counts without a question if the oracle does not decide, or if there is a counter. -/
theorem Subject.plan_eq_count {s : Subject} {found : Except StoreError (Option ThrottleCounter)}
    {l : Limits} (h : s.plan found = .count l) :
    (s.question? = none ∧ l = s.ownLimits) ∨
      ∃ w, found = .ok (some w) ∧ s.question?.isSome = true ∧ l = w.limits := by
  unfold plan at h
  split at h
  · simp at h
  · split at h
    · rename_i hq
      rw [Plan.count.injEq] at h
      exact .inl ⟨hq, h.symm⟩
    · rename_i w hq
      rw [Plan.count.injEq] at h
      exact .inr ⟨w, rfl, by rw [hq]; rfl, h.symm⟩
    · simp at h

@[simp] theorem Ruling.oracle_record {κ ω : Type} (r : Ruling) (a : Admission κ ω) :
    (r.record a).oracle = a.oracle := by
  rw [record, Admission.finish, Admission.publish]
  simp only
  split <;> rfl

@[simp] theorem Ruling.oracleTimeoutMs_record {κ ω : Type} (r : Ruling) (a : Admission κ ω) :
    (r.record a).oracleTimeoutMs = a.oracleTimeoutMs := by
  rw [record, Admission.finish, Admission.publish]
  simp only
  split <;> rfl

/-- A question to the oracle, with its answer. -/
structure Consultation where
  policyRef : String
  consumer : String
  reply : OracleReply

/-- The oracle answered in time, allowed the requests of a consumer and named two positive numbers,
which are these limits. -/
def Consultation.Grants (e : Consultation) (timeoutMs : Nat) (l : Limits) : Prop :=
  e.reply.inTime timeoutMs = true ∧ ∃ v, e.reply.answer = .ok v ∧ v.allowed = true ∧
    v.limit = some l.limit ∧ v.windowDurationMs = some l.windowMs ∧ l.Positive

theorem Consultation.grants_iff {e : Consultation} {t : Nat} {l : Limits} :
    e.Grants t l ↔ e.reply.limits? t = some l := by
  simp only [Grants, OracleReply.limits?_eq_some_iff, Verdict.limits?_eq_some_iff]

/-- An oracle whose consultations are written down, the last one first. -/
structure LoggedOracle (ω : Type) where
  oracle : ω
  log : List Consultation

instance {ω : Type} [Oracle ω] : Oracle (LoggedOracle ω) where
  ask p q o :=
    let (reply, oracle) := Oracle.ask p q o.oracle
    (reply, ⟨oracle, ⟨p, q, reply⟩ :: o.log⟩)

theorem LoggedOracle.respectsQuestions {ω : Type} [Oracle ω] :
    RespectsQuestions fun o : LoggedOracle ω => o.oracle :=
  fun _ _ _ => rfl

namespace Admission

section Asking

variable {κ ω : Type} [Oracle ω] (a : Admission κ ω)

theorem askOracle_of_none (h : a.oracle = none) (p q : String) : a.askOracle p q = (none, a) := by
  rw [askOracle, h]

theorem askOracle_of_some {o : ω} (h : a.oracle = some o) (p q : String) :
    a.askOracle p q =
      ((Oracle.ask p q o).1.limits? a.oracleTimeoutMs,
        { a with oracle := some (Oracle.ask p q o).2 }) := by
  rw [askOracle, h]

variable [Store κ ThrottleCounter]

/-- The oracle is asked at most once, and only what the policy says. -/
theorem oracle_rule (a : Admission κ ω) (c : Check) :
    (a.rule c).2.oracle = a.oracle ∨
      ∃ p q o, c.subject.question? = some (p, q) ∧ a.oracle = some o ∧
        (a.rule c).2.oracle = some (Oracle.ask p q o).2 := by
  cases hp : c.subject.plan (a.read c).1 with
  | giveUp => exact .inl (by rw [rule_of_giveUp hp]; rfl)
  | count l => exact .inl (by rw [rule_of_count hp]; rfl)
  | ask p q =>
    have hafter : (a.rule c).2.oracle = ((a.read c).2.askOracle p q).2.oracle := by
      cases hl : ((a.read c).2.askOracle p q).1 with
      | none => rw [rule_of_refused hp hl]
      | some l => rw [rule_of_granted hp hl]; rfl
    rw [hafter]
    cases ho : a.oracle with
    | none =>
      have hread : (a.read c).2.oracle = none := ho
      rw [askOracle_of_none _ hread]
      exact .inl hread
    | some o =>
      have hread : (a.read c).2.oracle = some o := ho
      rw [askOracle_of_some _ hread]
      exact .inr ⟨p, q, o, (Subject.plan_eq_ask hp).1, rfl, rfl⟩

end Asking

section Logged

variable {κ ω : Type} (a : Admission κ (LoggedOracle ω))

/-- The consultations so far, the last one first. -/
def consultations : List Consultation :=
  match a.oracle with
  | none => []
  | some o => o.log

@[simp] theorem consultations_record (r : Ruling) :
    (r.record a).consultations = a.consultations := by
  rw [consultations, Ruling.oracle_record, consultations]

/-- A question adds one consultation to the log. -/
theorem consultations_of_asked [Oracle ω] {a a' : Admission κ (LoggedOracle ω)}
    {o : LoggedOracle ω} {p q : String} (ho : a.oracle = some o)
    (h : a'.oracle = some (Oracle.ask p q o).2) :
    a'.consultations = ⟨p, q, (Oracle.ask p q o).1⟩ :: a.consultations := by
  rw [consultations, consultations, h, ho]
  rfl

/-- No consultation is struck from the log. -/
theorem mem_consultations_rule [Store κ ThrottleCounter] [Oracle ω]
    {a : Admission κ (LoggedOracle ω)} {e : Consultation} (c : Check)
    (he : e ∈ a.consultations) : e ∈ (a.rule c).2.consultations := by
  rcases a.oracle_rule c with hsame | ⟨p, q, o, -, ho, hasked⟩
  · rwa [consultations, hsame]
  · rw [consultations_of_asked ho hasked]
    exact List.mem_cons_of_mem _ he

/-- The same state, without the log. -/
def unlogged : Admission κ ω where
  counters := a.counters
  oracle := a.oracle.map LoggedOracle.oracle
  oracleTimeoutMs := a.oracleTimeoutMs
  events := a.events
  metrics := a.metrics

/-- The log changes nothing. -/
theorem rule_unlogged [Store κ ThrottleCounter] [Oracle ω] (c : Check) :
    a.unlogged.rule c = ((a.rule c).1, (a.rule c).2.unlogged) :=
  rule_translate (f := id) ⟨fun _ _ => rfl, fun _ _ _ _ => rfl, fun _ _ => rfl,
    fun _ _ _ _ => rfl⟩ LoggedOracle.respectsQuestions a c

end Logged

end Admission

/-! ### What a check does -/

/-- What is written is the counter after an admission. -/
theorem Subject.write_eq_some_iff {s : Subject} {l : Limits} {now : Int64}
    {found : Option ThrottleCounter} {w : ThrottleCounter} :
    s.write l now found = some w ↔
      (s.tally l now found).decision.allowed = true ∧ (s.tally l now found).counter = w := by
  rw [write]
  simp

/-- The counter after a decision is the one that is stored then. -/
theorem Subject.write_or (s : Subject) (l : Limits) (now : Int64)
    (found : Option ThrottleCounter) :
    (s.write l now found).or found = some (s.tally l now found).counter := by
  cases found with
  | none => rfl
  | some w =>
    rw [write, tally]
    by_cases hlive : w.isLive now = true
    · by_cases hlt : w.count < w.limit <;> simp [hlive, hlt, Decision.allow, Decision.deny]
    · simp [hlive, Decision.allow]

/-- The counter after a decision was opened under the limits that the check learned, or goes on from
the one that was found. -/
theorem Subject.limits_tally (s : Subject) (l : Limits) (now : Int64)
    (found : Option ThrottleCounter) :
    (s.tally l now found).counter.limits = l ∨
      ∃ w, found = some w ∧ (s.tally l now found).counter.limits = w.limits := by
  cases found with
  | none => exact .inl rfl
  | some w =>
    rw [tally]
    by_cases hlive : w.isLive now = true
    · rw [if_pos hlive]
      refine .inr ⟨w, rfl, ?_⟩
      split <;> rfl
    · rw [if_neg hlive]
      exact .inl rfl

namespace Admission

section Update

variable {κ ω : Type} [Store κ ThrottleCounter] [StoreView κ ThrottleCounter]

/-- An update on a store that may fail: the ruling is by the counter that is there, or for lack of
the store, and nothing is written that the ruling by that counter does not call for. -/
theorem settle_cases [SteadyStore κ] (a : Admission κ ω) (c : Check) (l : Limits) :
    ((a.settle c l).1 = c.ruled l (live? a.counters c.subject.key) ∨
        (a.settle c l).1 = c.refused) ∧
      ∀ k w, live? (a.settle c l).2.counters k = some w →
        live? a.counters k = some w ∨ k = c.subject.key ∧
          c.subject.write l c.now (live? a.counters c.subject.key) = some w := by
  constructor
  · rcases SteadyStore.update_fst c.subject.key l.lifetimeMs (c.subject.write l c.now) a.counters
      with hmade | ⟨e, hfailed⟩
    · exact .inl (by simp only [settle, hmade, Check.settled])
    · exact .inr (by simp only [settle, hfailed, Check.settled])
  · intro k w hw
    rcases SteadyStore.update_cases c.subject.key (c.subject.write l c.now) a.counters
        l.lifetimeMs_pos with hmade | ⟨-, hlost⟩
    · have hw := (hmade k).symm.trans hw
      by_cases hk : k = c.subject.key
      · rw [if_pos hk] at hw
        rcases Option.or_eq_some_iff.mp hw with hwrite | ⟨-, hkept⟩
        · exact .inr ⟨hk, hwrite⟩
        · exact .inl (hk ▸ hkept)
      · rw [if_neg hk] at hw
        exact .inl hw
    · exact .inl ((hlost k).symm.trans hw)

/-- On a store that never fails there is no more to it. -/
theorem settle_eq [ReliableStore κ] (a : Admission κ ω) (c : Check) (l : Limits) :
    (a.settle c l).1 = c.ruled l (live? a.counters c.subject.key) ∧
      ∀ k, live? (a.settle c l).2.counters k =
        if k = c.subject.key then
          (c.subject.write l c.now (live? a.counters c.subject.key)).or
            (live? a.counters c.subject.key)
        else live? a.counters k := by
  refine ⟨?_, fun k => ReliableStore.live?_update _ k _ _ l.lifetimeMs_pos⟩
  simp only [settle, ReliableStore.update_fst, Check.settled]

end Update

variable {κ ω : Type} [Oracle ω] {a : Admission κ ω} {c : Check}

/-- Where the limits that a check counts under come from, and the oracle after they were learned. -/
inductive Learns [StoreView κ ThrottleCounter] (a : Admission κ ω) (s : Subject) :
    Limits → Option ω → Prop where
  /-- From the policy. -/
  | own (h : s.question? = none) : Learns a s s.ownLimits a.oracle
  /-- From the counter that is there, whether its window is over or not. -/
  | kept {w : ThrottleCounter} (h : s.question?.isSome = true)
      (hw : live? a.counters s.key = some w) : Learns a s w.limits a.oracle
  /-- From the oracle. -/
  | granted {p q : String} {o : ω} {l : Limits} (h : s.question? = some (p, q))
      (hfree : live? a.counters s.key = none) (ho : a.oracle = some o)
      (hl : (Oracle.ask p q o).1.limits? a.oracleTimeoutMs = some l) :
      Learns a s l (some (Oracle.ask p q o).2)

variable [Store κ ThrottleCounter]

variable [StoreView κ ThrottleCounter]

section Reliable

variable [ReliableStore κ]

/-- A check that learns its limits, on a store that never fails. -/
theorem rule_learned {l : Limits} {o : Option ω} (h : a.Learns c.subject l o) :
    (a.rule c).1 = c.ruled l (live? a.counters c.subject.key) ∧ (a.rule c).2.oracle = o ∧
      ∀ k, live? (a.rule c).2.counters k =
        if k = c.subject.key then
          (c.subject.write l c.now (live? a.counters c.subject.key)).or
            (live? a.counters c.subject.key)
        else live? a.counters k := by
  have hread (k : String) : live? (a.read c).2.counters k = live? a.counters k :=
    ReliableStore.live?_get _ _ _
  have hfound : (a.read c).1 = .ok (live? a.counters c.subject.key) := ReliableStore.get_fst _ _
  cases h with
  | own hq =>
    have hp : c.subject.plan (a.read c).1 = .count c.subject.ownLimits := by
      simp [hfound, Subject.plan, hq]
    obtain ⟨hruling, hwritten⟩ := settle_eq (a.read c).2 c c.subject.ownLimits
    simp only [hread] at hruling hwritten
    rw [rule_of_count hp]
    exact ⟨hruling, rfl, hwritten⟩
  | @kept w hq hw =>
    obtain ⟨q, hq⟩ := Option.isSome_iff_exists.mp hq
    have hp : c.subject.plan (a.read c).1 = .count w.limits := by
      simp [hfound, Subject.plan, hq, hw]
    obtain ⟨hruling, hwritten⟩ := settle_eq (a.read c).2 c w.limits
    simp only [hread] at hruling hwritten
    rw [rule_of_count hp]
    exact ⟨hruling, rfl, hwritten⟩
  | @granted p q o l hq hfree ho hl =>
    have hp : c.subject.plan (a.read c).1 = .ask p q := by
      simp [hfound, Subject.plan, hq, hfree]
    have hasked := (a.read c).2.askOracle_of_some (o := o) ho p q
    obtain ⟨hruling, hwritten⟩ := settle_eq ((a.read c).2.askOracle p q).2 c l
    simp only [counters_askOracle, hread] at hruling hwritten
    rw [rule_of_granted hp (by rw [hasked]; exact hl)]
    refine ⟨hruling, ?_, hwritten⟩
    rw [hasked]
    rfl

/-- A check to which the oracle grants nothing, on a store that never fails. -/
theorem rule_refused {p q : String} {o : ω} (hq : c.subject.question? = some (p, q))
    (hfree : live? a.counters c.subject.key = none) (ho : a.oracle = some o)
    (hl : (Oracle.ask p q o).1.limits? a.oracleTimeoutMs = none) :
    (a.rule c).1 = c.refused ∧ (a.rule c).2.oracle = some (Oracle.ask p q o).2 ∧
      ∀ k, live? (a.rule c).2.counters k = live? a.counters k := by
  have hread (k : String) : live? (a.read c).2.counters k = live? a.counters k :=
    ReliableStore.live?_get _ _ _
  have hfound : (a.read c).1 = .ok (live? a.counters c.subject.key) := ReliableStore.get_fst _ _
  have hp : c.subject.plan (a.read c).1 = .ask p q := by
    simp [hfound, Subject.plan, hq, hfree]
  have hasked := (a.read c).2.askOracle_of_some (o := o) ho p q
  rw [rule_of_refused hp (by rw [hasked]; exact hl), hasked]
  exact ⟨rfl, rfl, hread⟩

end Reliable

end Admission

end Gatehouse
