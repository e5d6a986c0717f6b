import Gatehouse.Admission.Trial
import Gatehouse.Proofs.Exits
import Gatehouse.Proofs.Publications

/-!
# Every decision is accounted for

Decisions are published as events and counted in metrics. This file shows that none is left out and
none is told twice, whatever way a check ends: the event, the count and the decision agree, and if
the check made its update, the event tells of the counter as it is stored then.

## Counted or not

A request that is not counted is admitted and leaves no trace at all. One that is counted leaves
exactly one event and one count, also if the store fails it or the oracle refuses it, since every end
of a check goes through the same last step. That the event is left means that it waits in the buffer
for events, behind all others there.

An event tells of a counter only if the update was applied. What it tells then was computed inside
of the update, from the counter that the update found, and not from the one that the check had read
before.

## Implementation notes

A run is any number of checks. Between them the store may change, begin to fail or lose counters,
the oracle may change its mind, and events may be delivered.

## Main definitions

* `Admission.Reports` — what an event tells of a check
* `Admission.Audited` — what is left of a check
* `Admission.Episode`, `Admission.undergoAll` — what happens in a run, and the runs
* `Admission.trail` — the events published in a run

## Main results

* `Admission.audited` — one check
* `Admission.count_undergoAll` — the counts of a run
* `Admission.known_undergoAll` — the events of a run, while the task delivers some of them
* `Admission.audit_complete` — the result
-/

namespace Gatehouse

open StoreView (live?)

/-- Recording a ruling counts its decision, and no other one. -/
theorem Ruling.count_record {κ ω : Type} (r : Ruling) (a : Admission κ ω) (id : String)
    (allowed : Bool) :
    (r.record a).metrics.count (.admissions id allowed) =
      a.metrics.count (.admissions id allowed) +
        if id = r.subject.serviceId ∧ allowed = r.decision.allowed then 1 else 0 := by
  have hcounted : (a.metrics.bump (.admissions r.subject.serviceId r.decision.allowed)).count
      (.admissions id allowed) = a.metrics.count (.admissions id allowed) +
        if id = r.subject.serviceId ∧ allowed = r.decision.allowed then 1 else 0 := by
    rw [Metrics.count_bump]
    by_cases h : id = r.subject.serviceId ∧ allowed = r.decision.allowed
    · obtain ⟨rfl, rfl⟩ := h
      rw [if_pos rfl, if_pos ⟨rfl, rfl⟩]
    · rw [if_neg (by simpa using h), if_neg h, Nat.add_zero]
  rw [record, Admission.finish]
  exact (Admission.count_publish _ r.event (by simp)).trans hcounted

namespace Admission

variable {κ ω : Type} [Store κ ThrottleCounter] [Oracle ω]

/-! ### The counter of a ruling -/

/-- A ruling is of its check, and it has a counter exactly if the update was applied. That is the
one that is stored then. -/
theorem Exit.counter {a : Admission κ ω} {c : Check} {r : Ruling} {store : κ} {oracle : Option ω}
    {calls : List (StoreEvent ThrottleCounter)} {asked : List Consultation}
    (h : a.Exit c r store oracle calls asked) :
    (r.subject = c.subject ∧ r.id = c.id ∧ r.now = c.now) ∧
      ((∀ e ∈ calls, e.isUpdate = false) → r.counter = none) ∧
      ∀ [StoreView κ ThrottleCounter] [FaithfulStore κ], (∃ e ∈ calls, e.isUpdate = true) →
        ∃ w, r.counter = some w ∧ live? store c.subject.key = some w := by
  rcases h.refused_or_ruled with ⟨rfl, hnone⟩ | ⟨found, l, seen, rfl, rfl, hu⟩
  · refine ⟨⟨rfl, rfl, rfl⟩, fun _ => rfl, ?_⟩
    rintro _ _ ⟨e, he, hupdate⟩
    exact absurd hupdate (by simp [hnone e he])
  · refine ⟨⟨rfl, rfl, rfl⟩, fun hnone => ?_, fun _ => ⟨_, rfl, ?_⟩⟩
    · exact absurd (hnone _ (List.mem_cons_of_mem _ (List.mem_singleton_self _)))
        (by simp [StoreEvent.isUpdate])
    · have hstored := FaithfulStore.live?_of_applied l.lifetimeMs_pos (congrArg Prod.fst hu)
      rw [hu, Subject.write_or] at hstored
      exact hstored

/-! ### One check -/

/-- The event that is published of a request, if it is counted. -/
def event? (a : Admission κ ω) (i : Inquiry) : Option AdmissionEvent :=
  (a.ruling? i).map Ruling.event

/-- The number of events of a service with an outcome. -/
def outcomes (es : List AdmissionEvent) (id : String) (allowed : Bool) : Nat :=
  es.countP fun e => id = e.serviceId ∧ allowed = e.allowed

/-- The counts of decisions after a check. -/
theorem count_after (a : Admission κ ω) (i : Inquiry) (id : String) (allowed : Bool) :
    (a.after i).metrics.count (.admissions id allowed) =
      a.metrics.count (.admissions id allowed) + outcomes (a.event? i).toList id allowed := by
  cases hc : i.check? with
  | none =>
    rw [after_of_uncounted _ hc, event?, ruling?_of_uncounted _ hc]
    rfl
  | some c =>
    rw [after_of_counted _ hc, event?, ruling?_of_counted _ hc, Ruling.count_record, metrics_rule,
      Option.map_some, Option.toList_some, outcomes, List.countP_singleton]
    simp only [decide_eq_true_eq]
    rfl

/-- Before a ruling is recorded, nothing is published. -/
theorem unpublished_rule (a : Admission κ ω) (c : Check) : a.Unpublished (a.rule c).2 :=
  ⟨(a.frame_rule c).2.1, by rw [metrics_rule]⟩

/-- What an event tells of a check by a policy. -/
structure Reports [StoreView κ ThrottleCounter] (a : Admission κ ω) (i : Inquiry)
    (policy : ThrottlePolicy) (e : AdmissionEvent) : Prop where
  eventId : e.eventId = i.id
  serviceId : e.serviceId = i.service.id
  /-- The consumer is named if it is counted by itself. -/
  consumerKey : e.consumerKey = if policy.globalEnabled then none else i.consumer
  allowed : e.allowed = (a.check i.service i.consumer i.id i.now).1.allowed
  timestampMs : e.timestampMs = i.now
  /-- Of an update that was applied the event tells the counter that is stored then. -/
  applied : (∃ x ∈ a.calls i, x.isUpdate = true) →
    ∃ w, live? (a.after i).counters (i.keyBy policy) = some w ∧ e.count = w.count ∧
      e.limit = w.limit ∧ e.windowStartMs = w.windowStartMs
  unapplied : (∀ x ∈ a.calls i, x.isUpdate = false) →
    e.count = 0 ∧ e.limit = policy.limit ∧ e.windowStartMs = i.now

/-- What is left of a check. -/
inductive Audited [StoreView κ ThrottleCounter] (a : Admission κ ω) (i : Inquiry) : Prop where
  /-- It is not counted: it is admitted and leaves no trace. -/
  | uncounted
      (hpolicy : ∀ policy, i.service.throttle = some policy →
        policy.globalEnabled = false ∧ i.consumer = none)
      (hdecision : (a.check i.service i.consumer i.id i.now).1 = .allow)
      (hafter : a.after i = a) (hcalls : a.calls i = [])
  /-- It is counted: one event is published, which the buffer receives, and one count is made. -/
  | counted {policy : ThrottlePolicy} {e : AdmissionEvent}
      (hpolicy : i.service.throttle = some policy)
      (hcounted : policy.globalEnabled = true ∨ i.consumer.isSome = true)
      (hreports : a.Reports i policy e)
      (hevents : (a.after i).events = a.events.map (·.publish e))
      (hpublished : a.Published e (a.after i))
      (hmetrics : ∀ id allowed, (a.after i).metrics.count (.admissions id allowed) =
        a.metrics.count (.admissions id allowed) +
          if id = i.service.id ∧ allowed = e.allowed then 1 else 0)

section Faithful

variable [StoreView κ ThrottleCounter] [FaithfulStore κ]

/-- The event of a check tells of it what it should. -/
theorem reports_of_counted {a : Admission κ ω} {i : Inquiry} {s : Subject}
    (hs : i.subject? = some s) (hcheck : i.check? = some (.begun s i.id i.now))
    (hkey : s.key = i.keyBy s.policy) :
    a.Reports i s.policy (a.rule (.begun s i.id i.now)).1.event := by
  obtain ⟨⟨hsubject, hid, hnow⟩, hnone, hsome⟩ := (a.exit_of_counted hcheck).counter
  obtain ⟨hservice, -, -, hconsumer⟩ := Subject.of?_eq_some hs
  have hsubject : (a.rule (.begun s i.id i.now)).1.subject = s := hsubject
  refine ⟨hid, ?_, ?_, ?_, hnow, fun happlied => ?_, fun hunapplied => ?_⟩
  · exact (congrArg Subject.serviceId hsubject).trans hservice
  · exact (congrArg Subject.consumer hsubject).trans hconsumer
  · rw [check_of_counted a hcheck]
    rfl
  · obtain ⟨w, hw, hstored⟩ := hsome happlied
    have hstored : live? (a.after i).counters s.key = some w := hstored
    rw [hkey] at hstored
    rw [Ruling.event, Subject.event, hw]
    exact ⟨w, hstored, rfl, rfl, rfl⟩
  · rw [Ruling.event, Subject.event, hnone hunapplied, hsubject, hnow]
    exact ⟨rfl, rfl, rfl⟩

/-- **A check is accounted for.** -/
theorem audited (a : Admission κ ω) (i : Inquiry) : a.Audited i := by
  by_cases hcounted : ∃ policy, i.service.throttle = some policy ∧
      (policy.globalEnabled = true ∨ i.consumer.isSome = true)
  · obtain ⟨policy, hpolicy, hcounted⟩ := hcounted
    obtain ⟨s, hs, hcheck, rfl, hkey⟩ := Inquiry.check?_of_policy hpolicy hcounted
    have hreports := reports_of_counted (a := a) hs hcheck hkey
    refine .counted hpolicy hcounted hreports ?_ ?_ fun id allowed => ?_
    · rw [events_check, ruling?_of_counted _ hcheck]
    · rw [after_of_counted _ hcheck]
      exact Ruling.published_record (a.unpublished_rule _) _
    · rw [count_after, event?, ruling?_of_counted _ hcheck, Option.map_some, Option.toList_some,
        outcomes, List.countP_singleton, hreports.serviceId]
      simp only [decide_eq_true_eq]
  · have hno : ∀ policy, i.service.throttle = some policy →
        policy.globalEnabled = false ∧ i.consumer = none := by
      intro policy hpolicy
      obtain ⟨hglobal, hconsumer⟩ := not_or.mp fun h => hcounted ⟨policy, hpolicy, h⟩
      exact ⟨Bool.eq_false_iff.mpr hglobal, Option.not_isSome_iff_eq_none.mp hconsumer⟩
    have hcheck := Inquiry.check?_of_no_policy hno
    have hdecision : (a.check i.service i.consumer i.id i.now).1 = .allow := by
      rw [check_eq, hcheck]
    exact .uncounted hno hdecision (a.after_of_uncounted hcheck) (a.calls_of_uncounted hcheck)

end Faithful

/-! ### Runs -/

/-- What happens in a run: a request is checked, or something happens between checks. -/
inductive Episode (κ ω : Type) where
  | check (i : Inquiry)
  | meanwhile (counters : κ → κ) (oracle : ω → ω) (events : Delivery → Delivery)

/-- The state after an episode. -/
def undergo (a : Admission κ ω) : Episode κ ω → Admission κ ω
  | .check i => a.after i
  | .meanwhile counters oracle events =>
    { a with
      counters := counters a.counters
      oracle := a.oracle.map oracle
      events := a.events.map events }

/-- The state after a run. -/
def undergoAll (a : Admission κ ω) (ts : List (Episode κ ω)) : Admission κ ω :=
  ts.foldl undergo a

/-- The events published in a run, in order. -/
def trail (a : Admission κ ω) : List (Episode κ ω) → List AdmissionEvent
  | [] => []
  | .check i :: ts => (a.event? i).toList ++ (a.after i).trail ts
  | .meanwhile counters oracle events :: ts =>
    (a.undergo (.meanwhile counters oracle events)).trail ts

/-- **The counts of a run are those of its events.** -/
theorem count_undergoAll (a : Admission κ ω) (ts : List (Episode κ ω)) (id : String)
    (allowed : Bool) :
    (a.undergoAll ts).metrics.count (.admissions id allowed) =
      a.metrics.count (.admissions id allowed) + outcomes (a.trail ts) id allowed := by
  induction ts generalizing a with
  | nil => rfl
  | cons t ts ih =>
    rw [undergoAll, List.foldl_cons, ← undergoAll, ih]
    cases t with
    | check i =>
      have happend : outcomes (a.trail (.check i :: ts)) id allowed =
          outcomes (a.event? i).toList id allowed + outcomes ((a.after i).trail ts) id allowed :=
        List.countP_append
      rw [happend, undergo, count_after, Nat.add_assoc]
    | meanwhile counters oracle events => rfl

/-- If nothing is delivered meanwhile, what is published is waiting in order. -/
theorem events_undergoAll (a : Admission κ ω) (ts : List (Episode κ ω))
    (hkept : ∀ counters oracle events, .meanwhile counters oracle events ∈ ts → events = id) :
    (a.undergoAll ts).events = a.events.map (·.publishAll (a.trail ts)) := by
  induction ts generalizing a with
  | nil => exact Option.map_id'.symm
  | cons t ts ih =>
    have hrest := ih (a.undergo t) fun counters oracle events h =>
      hkept counters oracle events (List.mem_cons_of_mem t h)
    rw [undergoAll, List.foldl_cons, ← undergoAll, hrest]
    cases t with
    | check i =>
      rw [undergo, events_check, trail, event?]
      cases a.ruling? i with
      | none => rfl
      | some r =>
        simp only [Option.map_map]
        rfl
    | meanwhile counters oracle events =>
      obtain rfl := hkept counters oracle events List.mem_cons_self
      have hsame : (a.undergo (.meanwhile counters oracle id)).events = a.events :=
        Option.map_id'
      rw [hsame, trail]

/-- Then the last events wait, as many as there is room for. -/
theorem gathers_undergoAll {a : Admission κ ω} {ts : List (Episode κ ω)} {d : Delivery}
    (hkept : ∀ counters oracle events, .meanwhile counters oracle events ∈ ts → events = id)
    (hd : a.events = some d) (hc : 0 < d.buffer.capacity) (hb : d.buffer.len ≤ d.buffer.capacity) :
    ∃ d', (a.undergoAll ts).events = some d' ∧ d.buffer.Gathers (a.trail ts) d'.buffer ∧
      (a.trail ts ≠ [] → d'.permit = true) := by
  refine ⟨d.publishAll (a.trail ts), ?_, ?_, d.permit_publishAll⟩
  · rw [events_undergoAll a ts hkept, hd, Option.map_some]
  · rw [Delivery.buffer_publishAll]
    exact d.buffer.gathers_publishAll (a.trail ts) hc hb

/-- The account of what was published goes on with the check of a request. -/
theorem Known.after {a : Admission κ ω} {c n : Nat} {past : List Act} (h : Known c n past a)
    (i : Inquiry) :
    ∃ acts, published acts = published past ++ (a.event? i).toList ∧ Known c n acts (a.after i) := by
  cases hcheck : i.check? with
  | none =>
    refine ⟨past, ?_, ?_⟩
    · rw [event?, ruling?_of_uncounted _ hcheck]
      exact (List.append_nil _).symm
    · rwa [after_of_uncounted _ hcheck]
  | some check =>
    refine ⟨past ++ [.push (a.rule check).1.event, .notify], ?_, ?_⟩
    · rw [event?, ruling?_of_counted _ hcheck, published_append]
      rfl
    · rw [after_of_counted _ hcheck]
      exact h.record (a.unpublished_rule check) _

/-- **The account of a run.** Whatever the task delivers meanwhile, what a run publishes are the
events of its checks. -/
theorem known_undergoAll {a : Admission κ ω} {c n : Nat} {past : List Act}
    {ts : List (Episode κ ω)} (h : Known c n past a)
    (hworks : ∀ counters oracle events, .meanwhile counters oracle events ∈ ts →
      ∀ d : Delivery, d.Works (events d)) :
    ∃ acts, published acts = published past ++ a.trail ts ∧ Known c n acts (a.undergoAll ts) := by
  induction ts generalizing a past with
  | nil => exact ⟨past, (List.append_nil _).symm, h⟩
  | cons t ts ih =>
    have hrest := fun counters oracle events hmem =>
      hworks counters oracle events (List.mem_cons_of_mem t hmem)
    cases t with
    | check i =>
      obtain ⟨acts, hacts, hknown⟩ := h.after i
      obtain ⟨acts', hacts', hknown'⟩ := ih hknown hrest
      refine ⟨acts', ?_, hknown'⟩
      rw [hacts', hacts, trail, List.append_assoc]
    | meanwhile counters oracle events =>
      have ⟨d, hd, _⟩ := h
      have hbetween : (a.undergo (.meanwhile counters oracle events)).events = some (events d) := by
        rw [undergo, hd, Option.map_some]
      obtain ⟨acts, hacts, hknown⟩ :=
        Known.works h hd (hworks counters oracle events List.mem_cons_self d) hbetween rfl
      obtain ⟨acts', hacts', hknown'⟩ := ih hknown hrest
      refine ⟨acts', ?_, hknown'⟩
      rw [hacts', hacts, trail]

/-! ### The result -/

/-- **Every decision is accounted for.** In any run, from any state, and on any store in which an
update that was made can be seen afterwards: a request that is not counted is admitted without a
call of the store, an event or a count. Every other check publishes one event and makes one count,
of the decision that is returned; the event names the instant of the check, and the consumer if it
is counted by itself. If the update was applied, the event tells of the counter that is stored under
the key right after the check, and otherwise it tells of no requests, the limit of the policy, and
the instant. An event that is published waits in the buffer, behind all others; if there was no room
for it, the oldest one has made way and is counted as dropped.

So all counts of a run are those of the events published in it, and these are all the events there
are: if none is delivered meanwhile, the last of them wait, as many as there is room for; and if the
task is at work meanwhile, each of them was handed out, waits, or is counted as dropped. -/
theorem audit_complete [StoreView κ ThrottleCounter] [FaithfulStore κ] (a : Admission κ ω)
    (ts : List (Episode κ ω)) :
    (∀ i, (a.undergoAll ts).Audited i) ∧
      (∀ id allowed, (a.undergoAll ts).metrics.count (.admissions id allowed) =
        a.metrics.count (.admissions id allowed) + outcomes (a.trail ts) id allowed) ∧
      ((∀ counters oracle events, .meanwhile counters oracle events ∈ ts → events = id) →
        (a.undergoAll ts).events = a.events.map (·.publishAll (a.trail ts)) ∧
          ∀ d, a.events = some d → 0 < d.buffer.capacity → d.buffer.len ≤ d.buffer.capacity →
            ∃ d', (a.undergoAll ts).events = some d' ∧
              d.buffer.Gathers (a.trail ts) d'.buffer ∧
              (a.trail ts ≠ [] → d'.permit = true)) ∧
      ((∀ counters oracle events, .meanwhile counters oracle events ∈ ts →
          ∀ d : Delivery, d.Works (events d)) →
        ∀ c, a.events = some (.start c) →
          ∃ d, (a.undergoAll ts).events = some d ∧ d.Accounts c (a.trail ts) ∧
            (a.undergoAll ts).metrics.count .eventsDropped =
              a.metrics.count .eventsDropped + d.buffer.dropped) := by
  refine ⟨fun i => audited _ i, fun id allowed => a.count_undergoAll ts id allowed, fun hkept => ?_,
    fun hworks c hstart => ?_⟩
  · exact ⟨a.events_undergoAll ts hkept, fun d hd hc hb => gathers_undergoAll hkept hd hc hb⟩
  · have hnone : Known c (a.metrics.count .eventsDropped) [] a :=
      ⟨.start c, hstart, .start c, rfl⟩
    obtain ⟨acts, hacts, d, hd, haccounts, hcount⟩ := known_undergoAll hnone hworks
    rw [hacts] at haccounts
    exact ⟨d, hd, haccounts, hcount⟩

/-! ### A run

A consumer is admitted. Then the updates of the store begin to fail, and the consumer is turned
away, because the oracle decides about it. A request without a consumer is admitted in any case.
There is room for two events, so the next one pushes out the first, unless the task took it out
meanwhile. -/

namespace AuditSample

def service : Service :=
  { id := "svc", nodes := [], throttle := some ⟨false, 7, 1000, some "p"⟩ }

def inquiry (consumer : Option String) (now : Int64) : Inquiry := ⟨service, consumer, .zero, now⟩

def start : Admission (TrialStore ThrottleCounter) TrialOracle where
  counters := TrialStore.empty
  oracle := some ⟨[("c", [⟨0, .ok ⟨true, some 2, some 500⟩⟩])], []⟩
  oracleTimeoutMs := 100
  events := some (.start 2)
  metrics := Metrics.empty

def episodes : List (Episode (TrialStore ThrottleCounter) TrialOracle) :=
  [.check (inquiry (some "c") 10),
    .meanwhile (fun s => { s with failing := [.update] }) id id,
    .check (inquiry none 20),
    .check (inquiry (some "c") 30)]

/-- The task wakes, if it is notified, and takes an event. -/
def take (d : Delivery) : Delivery := ((d.act? .wake).bind (·.act? .take)).getD d

def delivering : List (Episode (TrialStore ThrottleCounter) TrialOracle) :=
  episodes ++ [.meanwhile id id take]

def admitted : AdmissionEvent := ⟨.zero, "svc", some "c", true, 1, 2, 10, 10⟩

def refused (now : Int64) : AdmissionEvent := ⟨.zero, "svc", some "c", false, 0, 7, now, now⟩

theorem events_of_meanwhile (counters : TrialStore ThrottleCounter → TrialStore ThrottleCounter)
    (oracle : TrialOracle → TrialOracle) (events : Delivery → Delivery)
    (h : .meanwhile counters oracle events ∈ episodes) : events = id := by
  simp only [episodes, List.mem_cons, reduceCtorEq, Episode.meanwhile.injEq, List.not_mem_nil,
    or_false, false_or] at h
  exact h.2.2

theorem works_take (d : Delivery) : d.Works (take d) := by
  rw [take]
  cases hwake : d.act? .wake with
  | none => exact .rest d
  | some d₁ =>
    rw [Option.bind_some]
    cases htake : d₁.act? .take with
    | none => exact .rest d
    | some d₂ => exact .act rfl hwake (.act rfl htake (.rest d₂))

theorem works_of_meanwhile (counters : TrialStore ThrottleCounter → TrialStore ThrottleCounter)
    (oracle : TrialOracle → TrialOracle) (events : Delivery → Delivery)
    (h : .meanwhile counters oracle events ∈ delivering) (d : Delivery) : d.Works (events d) := by
  rcases List.mem_append.mp h with h | h
  · rw [events_of_meanwhile counters oracle events h]
    exact .rest d
  · rw [List.mem_singleton, Episode.meanwhile.injEq] at h
    rw [h.2.2]
    exact works_take d

end AuditSample

theorem audit_of_failing_updates :
    AuditSample.start.trail AuditSample.episodes =
        [AuditSample.admitted, AuditSample.refused 30] ∧
      (AuditSample.start.undergoAll AuditSample.episodes).Audited
        (AuditSample.inquiry (some "c") 40) ∧
      (AuditSample.start.undergoAll AuditSample.episodes).metrics.count (.admissions "svc" true) =
        1 ∧
      (∃ d, (AuditSample.start.undergoAll AuditSample.episodes).events = some d ∧
        d.buffer.queue = [AuditSample.admitted, AuditSample.refused 30] ∧ d.buffer.dropped = 0 ∧
        d.permit = true) ∧
      (∃ d, ((AuditSample.start.undergoAll AuditSample.episodes).after
          (AuditSample.inquiry (some "c") 40)).events = some d ∧
        d.buffer.queue = [AuditSample.refused 30, AuditSample.refused 40] ∧
        d.buffer.dropped = 1) ∧
      ∃ d, (AuditSample.start.undergoAll AuditSample.delivering).events = some d ∧
        d.Accounts 2 [AuditSample.admitted, AuditSample.refused 30] ∧
        d.sent = [AuditSample.admitted] ∧ d.buffer.queue = [AuditSample.refused 30] := by
  obtain ⟨haudited, hcounts, hkept, -⟩ := audit_complete AuditSample.start AuditSample.episodes
  obtain ⟨-, -, -, hworks⟩ := audit_complete AuditSample.start AuditSample.delivering
  have htrail : AuditSample.start.trail AuditSample.episodes =
      [AuditSample.admitted, AuditSample.refused 30] := by rfl
  refine ⟨htrail, haudited _, ?_, ?_, ⟨_, rfl, rfl, rfl⟩, ?_⟩
  · rw [hcounts]
    rfl
  · obtain ⟨d, hd, hgathers, hpermit⟩ :=
      (hkept AuditSample.events_of_meanwhile).2 _ rfl (by decide) (by decide)
    rw [htrail] at hgathers hpermit
    exact ⟨d, hd, hgathers.queue_eq, hgathers.dropped_eq, hpermit (by simp)⟩
  · obtain ⟨d, hd, haccounts, -⟩ := hworks AuditSample.works_of_meanwhile 2 rfl
    have hd' : some _ = some d := hd
    obtain rfl := Option.some.inj hd'
    exact ⟨_, rfl, haccounts, rfl, rfl⟩

end Admission

end Gatehouse
