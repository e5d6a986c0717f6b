import Gatehouse.Proofs.Checks
import Gatehouse.Proofs.Deliveries

/-!
# What a publication leaves behind

To publish an event is to put it into the buffer and to notify the task that delivers events. This
file says what is in the buffer then, for one event and for many, so that results about checks can
speak of the buffer instead of the function that publishes.

## Room and no room

An event that is published always waits, behind all others. If there is no room for it, the oldest
event that waits makes way and is counted as dropped, in the buffer and in the metrics alike. So of
many events that nobody takes the last ones wait, and only how many came decides how many are lost.

## Main definitions

* `Delivery.Receives` — what one publication changes
* `EventBuffer.Gathers` — what many publications change while nothing is delivered
* `Delivery.Works` — what the task does while nothing is published
* `Admission.Published` — one publication, with the count of what is dropped

## Main results

* `EventBuffer.gathers_publishAll` — many publications
* `Admission.Known.publish`, `Known.works` — the account of all events goes on
* `Check.published_advance` — the step of a check that makes a ruling publishes its event
-/

namespace Gatehouse

/-! ### Many events -/

namespace EventBuffer

/-- Events came in one after another while none was taken out. Of all of them the last ones wait, as
many as there is room for, and the others are counted as dropped. -/
structure Gathers (b : EventBuffer) (es : List AdmissionEvent) (b' : EventBuffer) : Prop where
  capacity_eq : b'.capacity = b.capacity
  queue_eq : b'.queue = (b.queue ++ es).drop (b.len + es.length - b.capacity)
  dropped_eq : b'.dropped = b.dropped + (b.len + es.length - b.capacity)

theorem capacity_publishAll (b : EventBuffer) (es : List AdmissionEvent) :
    (b.publishAll es).capacity = b.capacity := by
  induction es generalizing b with
  | nil => rfl
  | cons e es ih => exact (ih (b.publish e)).trans (b.capacity_publish e)

/-- What is published one after another is waiting or counted as dropped. -/
theorem publishAll_conserved (b : EventBuffer) (es : List AdmissionEvent) (hc : 0 < b.capacity) :
    (b.publishAll es).len + (b.publishAll es).dropped = b.len + b.dropped + es.length := by
  induction es generalizing b with
  | nil => rfl
  | cons e es ih =>
    have hone := b.published_conserved e hc
    have hrest := ih (b.publish e) (by rwa [capacity_publish])
    rw [List.length_cons, publishAll, List.foldl_cons, ← publishAll]
    omega

/-- An event that finds no room makes the oldest one drop out. -/
theorem queue_publish_of_isFull (b : EventBuffer) (e : AdmissionEvent) (es : List AdmissionEvent)
    (hc : 0 < b.capacity) (hf : b.isFull = true) :
    (b.publish e).queue ++ es = (b.queue ++ e :: es).drop 1 := by
  have hlen : b.capacity ≤ b.queue.length := of_decide_eq_true hf
  rw [publish, if_pos hf, List.append_assoc, List.singleton_append,
    List.drop_append_of_le_length (Nat.le_trans hc hlen)]

/-- Of all events the last ones wait, as many as there is room for. -/
theorem queue_publishAll (b : EventBuffer) (es : List AdmissionEvent) (hc : 0 < b.capacity)
    (hb : b.len ≤ b.capacity) :
    (b.publishAll es).queue = (b.queue ++ es).drop (b.len + es.length - b.capacity) := by
  induction es generalizing b with
  | nil =>
    have hnone : b.len + ([] : List AdmissionEvent).length - b.capacity = 0 := by
      rw [List.length_nil]
      omega
    rw [hnone, List.append_nil, List.drop_zero]
    rfl
  | cons e es ih =>
    have hrest := ih (b.publish e) (by rwa [capacity_publish]) (b.length_publish_le e hc hb)
    rw [capacity_publish, len_publish b e hc] at hrest
    rw [publishAll, List.foldl_cons, ← publishAll, hrest, List.length_cons]
    by_cases hf : b.isFull = true
    -- without room, one event more is dropped in all
    · have hlen : b.capacity ≤ b.len := of_decide_eq_true hf
      have hmore : b.len + (es.length + 1) - b.capacity = 1 + (b.len + es.length - b.capacity) := by
        omega
      rw [if_pos hf, queue_publish_of_isFull b e es hc hf, List.drop_drop, hmore]
    · have hmore : b.len + (es.length + 1) - b.capacity = b.len + 1 + es.length - b.capacity := by
        omega
      rw [if_neg hf, hmore, publish, if_neg hf, List.append_assoc, List.singleton_append]

/-- **What many events leave behind.** -/
theorem gathers_publishAll (b : EventBuffer) (es : List AdmissionEvent) (hc : 0 < b.capacity)
    (hb : b.len ≤ b.capacity) : b.Gathers es (b.publishAll es) := by
  have hqueue := b.queue_publishAll es hc hb
  refine ⟨b.capacity_publishAll es, hqueue, ?_⟩
  have htotal := b.publishAll_conserved es hc
  have hlen : (b.publishAll es).len = b.len + es.length - (b.len + es.length - b.capacity) := by
    rw [len, hqueue, List.length_drop, List.length_append, len]
  omega

end EventBuffer

/-! ### One event -/

namespace Delivery

/-- An event is published: it waits behind all others, at the expense of the oldest one if there is
no room, and the task is notified. What the task is doing, and what it did, stays as it is. -/
structure Receives (d : Delivery) (e : AdmissionEvent) (d' : Delivery) : Prop where
  roomy : d.buffer.queue.length < d.buffer.capacity →
    d'.buffer.queue = d.buffer.queue ++ [e] ∧ d'.buffer.dropped = d.buffer.dropped
  full : d.buffer.capacity ≤ d.buffer.queue.length →
    d'.buffer.queue = d.buffer.queue.tail ++ [e] ∧ d'.buffer.dropped = d.buffer.dropped + 1
  capacity_eq : d'.buffer.capacity = d.buffer.capacity
  permit : d'.permit = true
  frame : d'.unnotified = d.unnotified ∧ d'.stopping = d.stopping ∧ d'.worker = d.worker ∧
    d'.handed = d.handed
  /-- These are the two acts of which a publication consists. -/
  acts : (d.act? (.push e)).bind (·.act? .notify) = some d'

theorem receives_publish (d : Delivery) (e : AdmissionEvent) : d.Receives e (d.publish e) where
  roomy h := by
    have hroom : ¬ d.buffer.isFull = true := fun hf => Nat.not_le.mpr h (of_decide_eq_true hf)
    rw [publish, EventBuffer.publish, if_neg hroom]
    exact ⟨rfl, rfl⟩
  full h := by
    have hf : d.buffer.isFull = true := decide_eq_true h
    rw [publish, EventBuffer.publish, if_pos hf, List.drop_one]
    exact ⟨rfl, rfl⟩
  capacity_eq := d.buffer.capacity_publish e
  permit := rfl
  frame := ⟨rfl, rfl, rfl, rfl⟩
  acts := d.publish_eq e

theorem buffer_publishAll (d : Delivery) (es : List AdmissionEvent) :
    (d.publishAll es).buffer = d.buffer.publishAll es := by
  induction es generalizing d with
  | nil => rfl
  | cons e es ih => exact ih (d.publish e)

/-- The task is notified, however many events were published. -/
theorem permit_publishAll (d : Delivery) {es : List AdmissionEvent} (hes : es ≠ []) :
    (d.publishAll es).permit = true := by
  obtain ⟨before, e, rfl⟩ := (List.eq_nil_or_concat es).resolve_left hes
  rw [publishAll, List.concat_eq_append, List.foldl_append]
  rfl

/-- What the task and its signals make of a state while nothing is published. -/
inductive Works : Delivery → Delivery → Prop where
  | rest (d : Delivery) : Works d d
  | act {d d₁ d' : Delivery} {t : Act} (ht : t.event? = none) (h : d.act? t = some d₁)
      (hworks : Works d₁ d') : Works d d'

end Delivery

/-! ### With the count of what is dropped -/

namespace Admission

variable {κ ω : Type} {a b : Admission κ ω}

/-- An event is published between two states, if there is a place for events at all. If an old one
makes way for it, that is counted. -/
inductive Published (a : Admission κ ω) (e : AdmissionEvent) (a' : Admission κ ω) : Prop where
  | nowhere (hnone : a.events = none) (hnone' : a'.events = none)
      (hcount : a'.metrics.count .eventsDropped = a.metrics.count .eventsDropped)
  | received {d d' : Delivery} (hd : a.events = some d) (hd' : a'.events = some d')
      (hreceives : d.Receives e d')
      (hcount : a'.metrics.count .eventsDropped + d.buffer.dropped =
        a.metrics.count .eventsDropped + d'.buffer.dropped)

/-- Nothing is published between two states, and nothing is dropped. -/
structure Unpublished (a b : Admission κ ω) : Prop where
  events_eq : b.events = a.events
  count_eq : b.metrics.count .eventsDropped = a.metrics.count .eventsDropped

theorem Unpublished.published (h : a.Unpublished b) (e : AdmissionEvent) :
    a.Published e (b.publish e) := by
  cases hd : a.events with
  | none =>
    have hsame : b.publish e = b := by rw [publish, h.events_eq.trans hd]
    rw [hsame]
    exact .nowhere hd (h.events_eq.trans hd) h.count_eq
  | some d =>
    obtain ⟨hevents, hcount⟩ := publish_spec (h.events_eq.trans hd) e
    rw [h.count_eq] at hcount
    exact .received hd hevents (d.receives_publish e) hcount

/-- The account of the events goes on with one that is published. -/
theorem Known.publish {c n : Nat} {past : List Act} (h : Known c n past a) (hab : a.Unpublished b)
    (e : AdmissionEvent) : Known c n (past ++ [.push e, .notify]) (b.publish e) := by
  obtain ⟨d, hd, haccounts, hcount⟩ := h
  have hb : Known c n past b :=
    ⟨d, hab.events_eq.trans hd, haccounts, hab.count_eq.trans hcount⟩
  obtain ⟨b₁, hpush, hnotify⟩ :=
    Option.bind_eq_some_iff.mp (act?_push_notify (hab.events_eq.trans hd) e)
  have hthen := Known.act? _ b₁ .notify _ (Known.act? past b (.push e) b₁ hb hpush) hnotify
  rwa [List.append_assoc] at hthen

/-- What the task does meanwhile adds nothing to the account. -/
theorem Known.works {c n : Nat} {past : List Act} {d d' : Delivery} (h : Known c n past a)
    (hd : a.events = some d) (hworks : d.Works d') (hb : b.events = some d')
    (hcount : b.metrics = a.metrics) :
    ∃ acts, published acts = published past ∧ Known c n acts b := by
  induction hworks generalizing a past with
  | rest d =>
    obtain ⟨d₀, hd₀, haccounts, hn⟩ := h
    obtain rfl := Option.some.inj (hd.symm.trans hd₀)
    exact ⟨past, rfl, d, hb, haccounts, by rw [hcount, hn]⟩
  | @act d d₁ d' t ht hact hworks ih =>
    have hstep : a.act? t = some { a with events := some d₁ } := by
      rw [Admission.act?, hd, Option.bind_some, hact, Option.map_some]
      cases t <;> first | rfl | cases ht
    obtain ⟨acts, hacts, hknown⟩ := ih (Known.act? past a t _ h hstep) rfl hb hcount
    refine ⟨acts, ?_, hknown⟩
    rw [hacts, published_append, published_of_none ht, List.append_nil]

end Admission

/-! ### Checks -/

section Checks

variable {κ ω : Type} {a b : Admission κ ω}

/-- A ruling is counted, and then its event is published. -/
theorem Ruling.record_eq_publish (hab : a.Unpublished b) (r : Ruling) :
    ∃ b', a.Unpublished b' ∧ r.record b = b'.publish r.event := by
  let counted := b.metrics.bump (.admissions r.subject.serviceId r.decision.allowed)
  refine ⟨{ b with metrics := counted }, ⟨hab.events_eq, ?_⟩, rfl⟩
  rw [Metrics.count_bump, if_neg (by simp), hab.count_eq]

theorem Ruling.published_record (hab : a.Unpublished b) (r : Ruling) :
    a.Published r.event (r.record b) := by
  obtain ⟨b', hab', heq⟩ := r.record_eq_publish hab
  rw [heq]
  exact hab'.published r.event

theorem Admission.Known.record {c n : Nat} {past : List Act} (h : Known c n past a)
    (hab : a.Unpublished b) (r : Ruling) :
    Known c n (past ++ [.push r.event, .notify]) (r.record b) := by
  obtain ⟨b', hab', heq⟩ := r.record_eq_publish hab
  rw [heq]
  exact h.publish hab' r.event

theorem Admission.unpublished_askOracle [Oracle ω] (a : Admission κ ω) (p q : String) :
    a.Unpublished (a.askOracle p q).2 := by
  rw [askOracle]
  split <;> exact ⟨rfl, rfl⟩

/-- **The step of a check that makes a ruling publishes its event**, and no other step publishes
anything. -/
theorem Check.published_advance [Store κ ThrottleCounter] [Oracle ω] {c : Check}
    {a' : Admission κ ω} {out : Check ⊕ Ruling} (h : c.advance a = (out, a')) :
    match out with
    | .inl _ => a.Unpublished a'
    | .inr r => a.Published r.event a' := by
  rw [advance] at h
  split at h
  · simp only at h
    split at h <;> obtain ⟨rfl, rfl⟩ := Prod.mk.inj h
    · refine Ruling.published_record ?_ c.refused
      exact ⟨rfl, rfl⟩
    · exact ⟨rfl, rfl⟩
    · exact ⟨rfl, rfl⟩
  · simp only at h
    split at h <;> obtain ⟨rfl, rfl⟩ := Prod.mk.inj h
    · exact a.unpublished_askOracle _ _
    · exact Ruling.published_record (a.unpublished_askOracle _ _) c.refused
  · obtain ⟨rfl, rfl⟩ := Prod.mk.inj h
    refine Ruling.published_record ?_ _
    exact ⟨rfl, rfl⟩

end Checks

end Gatehouse
