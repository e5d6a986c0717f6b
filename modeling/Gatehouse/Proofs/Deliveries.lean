import Gatehouse.Admission.Check

/-!
# What becomes of published events

Any number of publishers put events into a buffer of bounded length, and one task takes them out and
delivers them. This file accounts for every event at every moment of every run: it is handed out, or
it waits, or it is counted as dropped.

## A line of events

An event counts as handed out from the moment it is taken, although its delivery goes on while others
publish. The events handed out, and behind them those that wait, then form one *line*. Taking an event
moves the border inside the line and leaves the line itself alone. So only a publication changes the
line, at its end; and one that finds the buffer full, also behind the border, where the oldest event
that waits makes way. What happens in the middle of a delivery is no special case.

## Main definitions

* `Admission.act?`, `Admission.run?` — what can happen, with the count of what is dropped
* `Delivery.line` — the events that are not lost, in order
* `Delivery.Turn` — what an act can do to the events
* `Delivery.Accounts` — the account of the events published so far
* `Delivery.Careful` — an act that loses an event only where it must

## Main results

* `Delivery.turn_of_act?` — every act is one of the turns
* `Delivery.Accounts.turn` — the account is kept
* `Admission.events_accounted_for` — the account at every moment of a run
-/

namespace Gatehouse

/-! ### Runs -/

/-- The event that an act publishes. -/
def Act.event? : Act → Option AdmissionEvent
  | .push e => some e
  | _ => none

/-- The events that acts publish, in order. -/
def published (acts : List Act) : List AdmissionEvent := acts.filterMap Act.event?

@[simp] theorem published_push (e : AdmissionEvent) : published [.push e] = [e] := rfl

@[simp] theorem published_take : published [.take] = [] := rfl

theorem published_of_none {t : Act} (h : t.event? = none) : published [t] = [] := by
  rw [published, List.filterMap_cons, h, List.filterMap_nil]

theorem published_append (acts acts' : List Act) :
    published (acts ++ acts') = published acts ++ published acts' :=
  List.filterMap_append

/-- What holds of the history and the state, whichever step comes next, holds after a run. -/
theorem foldlM_induction {S A : Type} {step : S → A → Option S} {I : List A → S → Prop}
    (hstep : ∀ past s t s', I past s → step s t = some s' → I (past ++ [t]) s')
    {past acts : List A} {s s' : S} (h : I past s) (hrun : acts.foldlM step s = some s') :
    I (past ++ acts) s' := by
  induction acts generalizing past s with
  | nil =>
    obtain rfl := Option.some.inj hrun
    rwa [List.append_nil]
  | cons t acts ih =>
    obtain ⟨s₁, ht, hacts⟩ := Option.bind_eq_some_iff.mp hrun
    have hthen := ih (hstep past s t s₁ h ht) hacts
    rwa [List.append_assoc] at hthen

/-! ### What an act does to the events -/

namespace Delivery

variable {d d' : Delivery} {t : Act}

/-- The events handed out, and behind them those that wait. -/
def line (d : Delivery) : List AdmissionEvent := d.sent ++ d.buffer.queue

theorem length_line (d : Delivery) : d.line.length = d.sent.length + d.buffer.len :=
  List.length_append

/-- What an act can do to the events. -/
inductive Turn (d : Delivery) : Act → Delivery → Prop where
  /-- An event is published while there is room. -/
  | joins {e : AdmissionEvent} {d' : Delivery} (hroom : d.buffer.isFull = false)
      (hbuffer : d'.buffer = { d.buffer with queue := d.buffer.queue ++ [e] })
      (hhanded : d'.handed = d.handed) : Turn d (.push e) d'
  /-- An event is published, and the oldest one that waits makes way. -/
  | replaces {e oldest : AdmissionEvent} {rest : List AdmissionEvent} {d' : Delivery}
      (hfull : d.buffer.isFull = true) (hqueue : d.buffer.queue = oldest :: rest)
      (hbuffer : d'.buffer =
        { d.buffer with queue := rest ++ [e], dropped := d.buffer.dropped + 1 })
      (hhanded : d'.handed = d.handed) : Turn d (.push e) d'
  /-- The task takes the oldest event that waits. -/
  | leaves {e : AdmissionEvent} {rest : List AdmissionEvent} {d' : Delivery}
      (hqueue : d.buffer.queue = e :: rest)
      (hbuffer : d'.buffer = { d.buffer with queue := rest })
      (hhanded : d'.handed = e :: d.handed) : Turn d .take d'
  /-- The events stay where they are. -/
  | rests {t : Act} {d' : Delivery} (ht : t.event? = none) (hbuffer : d'.buffer = d.buffer)
      (hhanded : d'.handed = d.handed) : Turn d t d'

theorem turn_push (hc : 0 < d.buffer.capacity) (e : AdmissionEvent)
    (h : d.act? (.push e) = some d') : d.Turn (.push e) d' := by
  obtain rfl := Option.some.inj h
  cases hfull : d.buffer.isFull with
  | false => exact .joins hfull (by simp [EventBuffer.publish, hfull]) rfl
  | true =>
    cases hqueue : d.buffer.queue with
    | nil =>
      have hlen : d.buffer.capacity ≤ d.buffer.queue.length := of_decide_eq_true hfull
      rw [hqueue, List.length_nil] at hlen
      omega
    | cons oldest rest =>
      exact .replaces hfull hqueue (by simp [EventBuffer.publish, hfull, hqueue]) rfl

theorem turn_take (h : d.act? .take = some d') : d.Turn .take d' := by
  simp only [act?] at h
  split at h
  · rename_i last _
    cases hqueue : d.buffer.queue with
    | nil =>
      simp only [EventBuffer.pop?, hqueue, Option.some.injEq] at h
      exact .rests rfl (h ▸ rfl) (h ▸ rfl)
    | cons e rest =>
      simp only [EventBuffer.pop?, hqueue, Option.some.injEq] at h
      exact .leaves hqueue (h ▸ rfl) (h ▸ rfl)
  · cases h

/-- All other acts are about the task and its signals. -/
theorem act?_same (hpush : t.event? = none) (htake : t ≠ .take) (h : d.act? t = some d') :
    d'.buffer = d.buffer ∧ d'.handed = d.handed := by
  cases t <;> grind [act?, Act.event?]

/-- **Every act is one of the turns**, if there is room for an event at all. -/
theorem turn_of_act? (hc : 0 < d.buffer.capacity) (h : d.act? t = some d') : d.Turn t d' := by
  cases hpush : t.event? with
  | some e =>
    obtain rfl : t = .push e := by cases t <;> simp_all [Act.event?]
    exact turn_push hc e h
  | none =>
    by_cases htake : t = .take
    · subst htake
      exact turn_take h
    · obtain ⟨hbuffer, hhanded⟩ := act?_same hpush htake h
      exact .rests hpush hbuffer hhanded

/-- An act loses an event only if it publishes one into a full buffer. Then the oldest event that
waits is lost. -/
def Careful (d : Delivery) (t : Act) (d' : Delivery) : Prop :=
  (d'.buffer.dropped = d.buffer.dropped ∧ d'.line = d.line ++ published [t]) ∨
    ∃ e oldest rest, t = .push e ∧ d.buffer.queue = oldest :: rest ∧
      d.buffer.capacity ≤ d.buffer.len ∧ d'.buffer.dropped = d.buffer.dropped + 1 ∧
      d'.line = d.sent ++ (rest ++ [e])

theorem Turn.careful (h : d.Turn t d') : d.Careful t d' := by
  cases h with
  | joins hroom hbuffer hhanded =>
    refine .inl ⟨by rw [hbuffer], ?_⟩
    simp [line, sent, hbuffer, hhanded]
  | replaces hfull hqueue hbuffer hhanded =>
    refine .inr ⟨_, _, _, rfl, hqueue, of_decide_eq_true hfull, by rw [hbuffer], ?_⟩
    rw [line, sent, hbuffer, hhanded, sent]
  | leaves hqueue hbuffer hhanded =>
    refine .inl ⟨by rw [hbuffer], ?_⟩
    simp [line, sent, hqueue, hbuffer, hhanded]
  | rests ht hbuffer hhanded =>
    refine .inl ⟨by rw [hbuffer], ?_⟩
    simp [line, sent, hbuffer, hhanded, published_of_none ht]

/-! ### The account -/

/-- The account of the events published so far, with a buffer set up for `c` events. -/
structure Accounts (c : Nat) (past : List AdmissionEvent) (d : Delivery) : Prop where
  capacity_eq : d.buffer.capacity = max c 1
  bounded : d.buffer.len ≤ max c 1
  /-- Those that wait are the last ones. -/
  recent : d.buffer.queue <:+ past
  /-- Those that are not lost are in order. -/
  ordered : d.line.Sublist past
  total : past.length = d.sent.length + d.buffer.len + d.buffer.dropped

namespace Accounts

variable {c : Nat} {past : List AdmissionEvent}

theorem start (c : Nat) : (Delivery.start c).Accounts c [] :=
  ⟨rfl, Nat.zero_le _, List.suffix_refl _, .slnil, rfl⟩

/-- What is not lost stays in order, and what is lost is counted. -/
theorem careful (hordered : d.line.Sublist past)
    (htotal : past.length = d.line.length + d.buffer.dropped) (h : d.Careful t d') :
    d'.line.Sublist (past ++ published [t]) ∧
      (past ++ published [t]).length = d'.line.length + d'.buffer.dropped := by
  obtain ⟨hdropped, hline⟩ | ⟨e, oldest, rest, rfl, hqueue, -, hdropped, hline⟩ := h
  · rw [hline, hdropped, List.length_append, List.length_append, htotal]
    exact ⟨hordered.append_right _, by omega⟩
  · have hrest : (d.sent ++ rest).Sublist d.line := by
      rw [line, hqueue]
      exact (List.sublist_cons_self oldest rest).append_left _
    have hlen : d.line.length = (d.sent ++ rest).length + 1 := by
      simp only [line, hqueue, List.length_append, List.length_cons]
      omega
    rw [hline, hdropped, ← List.append_assoc, List.length_append, List.length_append, htotal, hlen]
    exact ⟨(hrest.trans hordered).append_right _, by rw [published_push, List.length_singleton]; omega⟩

/-- **The account is kept** by every turn. -/
theorem turn (h : d.Accounts c past) (hturn : d.Turn t d') :
    d'.Accounts c (past ++ published [t]) := by
  have htotal := h.total
  rw [← length_line] at htotal
  obtain ⟨hordered, htotal'⟩ := careful h.ordered htotal hturn.careful
  rw [length_line] at htotal'
  -- What was published and no longer waits. It grows by the event that leaves the queue, if one does.
  obtain ⟨before, hbefore⟩ := h.recent
  have hbounded := h.bounded
  cases hturn with
  | joins hroom hbuffer hhanded =>
    have hlt : ¬ d.buffer.capacity ≤ d.buffer.len := of_decide_eq_false hroom
    rw [h.capacity_eq] at hlt
    refine ⟨hbuffer ▸ h.capacity_eq, ?_, ⟨before, ?_⟩, hordered, htotal'⟩
    · rw [hbuffer, EventBuffer.len, List.length_append]
      exact Nat.not_le.mp hlt
    · rw [hbuffer, ← hbefore, List.append_assoc]
      rfl
  | replaces hfull hqueue hbuffer hhanded =>
    rename_i oldest rest
    refine ⟨hbuffer ▸ h.capacity_eq, ?_, ⟨before ++ [oldest], ?_⟩, hordered, htotal'⟩
    · rw [EventBuffer.len, hqueue] at hbounded
      rw [hbuffer, EventBuffer.len, List.length_append]
      exact hbounded
    · rw [hbuffer, ← hbefore, hqueue]
      simp
  | leaves hqueue hbuffer hhanded =>
    rename_i e rest
    refine ⟨hbuffer ▸ h.capacity_eq, ?_, ⟨before ++ [e], ?_⟩, hordered, htotal'⟩
    · rw [EventBuffer.len, hqueue] at hbounded
      rw [hbuffer]
      exact Nat.le_trans (Nat.le_succ _) hbounded
    · rw [hbuffer, ← hbefore, hqueue]
      simp
  | rests ht hbuffer hhanded =>
    refine ⟨hbuffer ▸ h.capacity_eq, hbuffer ▸ hbounded, ⟨before, ?_⟩, hordered, htotal'⟩
    rw [hbuffer, hbefore, published_of_none ht, List.append_nil]

end Accounts

end Delivery

/-! ### With the count of what is dropped -/

namespace Admission

variable {κ ω : Type} {a b b' : Admission κ ω} {d : Delivery} {t : Act}

/-- What an act makes of the place where events are published, if it can happen there. -/
def act? (a : Admission κ ω) (t : Act) : Option (Admission κ ω) :=
  a.events.bind fun d => (d.act? t).map fun d' =>
    match t with
    | .push e => { a.publish e with events := some d' }
    | _ => { a with events := some d' }

/-- The place after a run of acts, if each of them can happen in its turn. -/
def run? (a : Admission κ ω) (acts : List Act) : Option (Admission κ ω) := acts.foldlM act? a

/-- Publishing an event is to put it into the buffer and then to notify the task. -/
theorem act?_push_notify (hd : a.events = some d) (e : AdmissionEvent) :
    (a.act? (.push e)).bind (·.act? .notify) = some (a.publish e) := by
  simp [act?, hd, publish, Delivery.act?, Delivery.publish]

/-- What a publication drops is counted. -/
theorem publish_spec (hd : b.events = some d) (e : AdmissionEvent) :
    (b.publish e).events = some (d.publish e) ∧
      (b.publish e).metrics.count .eventsDropped + d.buffer.dropped =
        b.metrics.count .eventsDropped + (d.publish e).buffer.dropped := by
  cases hf : d.buffer.isFull with
  | false => simp [publish, hd, Delivery.publish, EventBuffer.publish, hf]
  | true =>
    simp only [publish, hd, Delivery.publish, EventBuffer.publish, hf, if_true,
      Metrics.count_bump, true_and]
    omega

theorem count_publish (a : Admission κ ω) (e : AdmissionEvent) {x : Series}
    (hx : x ≠ .eventsDropped) : (a.publish e).metrics.count x = a.metrics.count x := by
  rw [publish]
  split
  · rfl
  · simp only
    split
    · rw [Metrics.count_bump, if_neg hx]
    · rfl

/-- One act: the task does its own, and what it drops is counted. -/
theorem act?_spec (hd : b.events = some d) (hc : 0 < d.buffer.capacity)
    (h : b.act? t = some b') :
    ∃ d', b'.events = some d' ∧ d.Turn t d' ∧
      b'.metrics.count .eventsDropped + d.buffer.dropped =
        b.metrics.count .eventsDropped + d'.buffer.dropped := by
  rw [act?, hd, Option.bind_some] at h
  obtain ⟨d', hact, rfl⟩ := Option.map_eq_some_iff.mp h
  have hturn := Delivery.turn_of_act? hc hact
  refine ⟨d', ?_, hturn, ?_⟩
  · cases t <;> rfl
  · cases hturn with
    | joins _ _ _ | replaces _ _ _ _ =>
      obtain rfl := Option.some.inj hact
      exact (publish_spec hd _).2
    | leaves hqueue hbuffer hhanded => rw [hbuffer]
    | rests ht hbuffer hhanded =>
      rw [hbuffer]
      cases t <;> first | rfl | cases ht

/-- What is known at any moment: the account of the events that `past` published, and how many of
them were counted as dropped on top of `n`. -/
def Known (c n : Nat) (past : List Act) (b : Admission κ ω) : Prop :=
  ∃ d, b.events = some d ∧ d.Accounts c (published past) ∧
    b.metrics.count .eventsDropped = n + d.buffer.dropped

theorem Known.act? {c n : Nat} (past : List Act) (b : Admission κ ω) (t : Act)
    (b' : Admission κ ω) (h : Known c n past b) (hact : b.act? t = some b') :
    Known c n (past ++ [t]) b' := by
  obtain ⟨d, hd, haccounts, hcount⟩ := h
  have hc : 0 < d.buffer.capacity := haccounts.capacity_eq ▸ Nat.le_max_right c 1
  obtain ⟨d', hd', hturn, hcount'⟩ := act?_spec hd hc hact
  refine ⟨d', hd', ?_, by omega⟩
  rw [published_append]
  exact haccounts.turn hturn

/-- **Every published event is accounted for**, at every moment of every run from an empty buffer:
it is handed out, or it waits, or it is counted as dropped. Those that wait are the last ones and
never too many, those that are not lost are in order, and only a publication that finds the buffer
full loses one, the oldest that waits. -/
theorem events_accounted_for {c : Nat} {acts : List Act}
    (hstart : a.events = some (.start c)) (hrun : a.run? acts = some b) :
    ∃ d, b.events = some d ∧ d.Accounts c (published acts) ∧
      (∀ e, d.line.count e ≤ (published acts).count e) ∧
      b.metrics.count .eventsDropped = a.metrics.count .eventsDropped + d.buffer.dropped ∧
      ∀ t d', d.act? t = some d' → d.Careful t d' := by
  have hnone : Known c (a.metrics.count .eventsDropped) [] a :=
    ⟨.start c, hstart, .start c, rfl⟩
  obtain ⟨d, hd, haccounts, hcount⟩ := foldlM_induction Known.act? hnone hrun
  have hc : 0 < d.buffer.capacity := haccounts.capacity_eq ▸ Nat.le_max_right c 1
  exact ⟨d, hd, haccounts, haccounts.ordered.count_le, hcount,
    fun t d' hact => (Delivery.turn_of_act? hc hact).careful⟩

/-! ### A run

A buffer for two events. The third event arrives before the task took any, the fourth and the fifth
while the second one is being delivered. -/

namespace Sample

def event (n : Int64) : AdmissionEvent := ⟨.zero, "svc", none, true, n, 5, 0, n⟩

def place : Admission Unit Unit where
  counters := ()
  oracle := none
  oracleTimeoutMs := 0
  events := some (.start 2)
  metrics := Metrics.empty

def acts : List Act :=
  [.push (event 1), .push (event 2), .notify, .push (event 3), .wake, .take, .push (event 4),
    .notify, .push (event 5), .sent]

end Sample

theorem events_accounted_for_overflow :
    ∃ b d, Sample.place.run? Sample.acts = some b ∧ b.events = some d ∧
      d.sent = [Sample.event 2] ∧ d.buffer.queue = [Sample.event 4, Sample.event 5] ∧
      d.Accounts 2 (published Sample.acts) ∧ b.metrics.count .eventsDropped = 2 ∧
      ∀ t d', d.act? t = some d' → d.Careful t d' := by
  have hrun : Sample.place.run? Sample.acts = some _ := rfl
  obtain ⟨d, hd, haccounts, -, hcount, hcareful⟩ := events_accounted_for (c := 2) rfl hrun
  have hd' : some _ = some d := hd
  obtain rfl := Option.some.inj hd'
  exact ⟨_, _, hrun, rfl, rfl, rfl, haccounts, hcount, hcareful⟩

end Admission

end Gatehouse
