import Gatehouse.Proofs.Deliveries

/-!
# No event is left behind

The task that delivers events sleeps while nothing waits. Whoever publishes an event puts it into the
buffer first and notifies the task afterwards, and both can happen at any moment: right after the task
has found the buffer empty, while it delivers another event, or after it was told to stop. This file
shows that nothing is forgotten beside a sleeping task, and that nothing that was there when the task
was told to stop is left when it stops.

## Notifications that are still to come

Whether a notification is still to come. The task lies down only beside an empty buffer. An event that
arrives afterwards brings a notification of its own, so that beside a task that sleeps without a permit
no more events can wait than there are notifications to come. A wake-up is pending exactly as long as
the task has a permit or somebody has yet to give it one. A permit does not say how many events there
are, and need not: the task takes one event after another until it finds none.

Stopping is different, since there is no notification to rely on. What counts there is that the
buffer is first in, first out: once it was found empty, all that waits has come since.

## Main definitions

* `Delivery.run?` — runs of the task and of all who publish
* `Delivery.Watched` — no more events wait beside a sleeping task than notifications are to come
* `Delivery.Told` — what is known of the history of a task, told to stop or not
* `Delivery.Splits` — what became of some of the events published

## Main results

* `Delivery.Watched.act?`, `Told.act?` — what each act keeps
* `Delivery.no_event_stranded` — the result
-/

namespace Gatehouse

/-- Whether the task was told to stop, and heard it. -/
def Worker.isEnding : Worker → Bool
  | .waiting => false
  | .draining last => last
  | .sending _ last => last
  | .stopped => true

namespace Delivery

variable {d d' : Delivery} {t : Act} {c : Nat}

/-- The state after a run of acts, if each of them can happen in its turn. -/
def run? (d : Delivery) (acts : List Act) : Option Delivery := acts.foldlM act? d

/-! ### Beside a sleeping task -/

/-- Beside a task that sleeps without a permit, no more events wait than notifications are to come. -/
def Watched (d : Delivery) : Prop :=
  d.worker = .waiting → d.permit = false → d.buffer.len ≤ d.unnotified

theorem watched_start (c : Nat) : (start c).Watched := fun _ _ => Nat.zero_le _

theorem len_publish_le_succ (b : EventBuffer) (e : AdmissionEvent) :
    (b.publish e).len ≤ b.len + 1 := by
  rw [EventBuffer.publish]
  split <;> simp [EventBuffer.len]

/-- A task that finds no event lies down beside an empty buffer, or stops there. -/
theorem queue_of_take (h : d.act? .take = some d')
    (hrest : d'.worker = .waiting ∨ d'.worker = .stopped) : d'.buffer.queue = [] := by
  simp only [act?] at h
  split at h
  · cases hqueue : d.buffer.queue with
    | nil =>
      simp only [EventBuffer.pop?, hqueue, Option.some.injEq] at h
      rw [← h]
      exact hqueue
    | cons e rest =>
      simp only [EventBuffer.pop?, hqueue, Option.some.injEq] at h
      rw [← h] at hrest
      simp at hrest
  · cases h

theorem Watched.act? (h : d.Watched) (hact : d.act? t = some d') : d'.Watched := by
  intro hwaiting hpermit
  cases t with
  | push e =>
    obtain rfl := Option.some.inj hact
    have hle := h hwaiting hpermit
    have hpush := len_publish_le_succ d.buffer e
    show (d.buffer.publish e).len ≤ d.unnotified + 1
    omega
  | notify =>
    -- Afterwards there is a permit.
    simp only [Delivery.act?] at hact
    split at hact
    · cases hact
    · obtain rfl := Option.some.inj hact
      cases hpermit
  | stop =>
    obtain rfl := Option.some.inj hact
    exact h hwaiting hpermit
  | take =>
    have hqueue := queue_of_take hact (.inl hwaiting)
    rw [EventBuffer.len, hqueue]
    exact Nat.zero_le _
  | wake | wakeToStop | sent =>
    -- Afterwards the task is awake.
    grind [Delivery.act?]

/-! ### Until the task stops -/

/-- What waits was waiting, or has just been published. -/
theorem Turn.queue_suffix (h : d.Turn t d') :
    d'.buffer.queue <:+ d.buffer.queue ++ published [t] := by
  cases h with
  | joins hroom hbuffer hhanded => simp [hbuffer]
  | replaces hfull hqueue hbuffer hhanded =>
    rw [hbuffer, hqueue]
    exact List.suffix_cons _ _
  | leaves hqueue hbuffer hhanded =>
    rw [hbuffer, hqueue, published_take, List.append_nil]
    exact List.suffix_cons _ _
  | rests ht hbuffer hhanded => simp [hbuffer, published_of_none ht]

/-- The task is told to stop by one act, and once. -/
theorem isEnding_act? (h : d.act? t = some d') :
    d'.worker.isEnding = (d.worker.isEnding || decide (t = .wakeToStop)) ∧
      (t = .wakeToStop → d.worker.isEnding = false ∧ d'.worker ≠ .stopped) := by
  cases t <;> grind [act?, Worker.isEnding]

/-- The task is stopped where it was stopped before, or where it finds no event. -/
theorem stopped_act? (h : d.act? t = some d') (hstopped : d'.worker = .stopped) :
    d.worker = .stopped ∨ t = .take := by
  cases t <;> grind [act?]

/-- What is known after the acts `past`. Once the task has stopped, all that waits was published after
it was told to. -/
inductive Told (past : List Act) (d : Delivery) : Prop where
  | notYet (hworker : d.worker.isEnding = false) (hpast : .wakeToStop ∉ past)
  | since {before after : List Act} (hpast : past = before ++ .wakeToStop :: after)
      (hbefore : .wakeToStop ∉ before) (hafter : .wakeToStop ∉ after)
      (hworker : d.worker.isEnding = true)
      (hstopped : d.worker = .stopped → d.buffer.queue <:+ published after)

theorem Told.act? {past : List Act} (h : d.Told past) (hc : 0 < d.buffer.capacity)
    (hact : d.act? t = some d') : d'.Told (past ++ [t]) := by
  obtain ⟨hending, htold⟩ := isEnding_act? hact
  cases h with
  | notYet hworker hpast =>
    rw [hworker, Bool.false_or] at hending
    by_cases ht : t = .wakeToStop
    · subst ht
      exact .since rfl hpast List.not_mem_nil (hending.trans rfl)
        fun hstopped => absurd hstopped (htold rfl).2
    · refine .notYet (hending.trans (decide_eq_false ht)) fun hmem => ?_
      rcases List.mem_append.mp hmem with hmem | hmem
      · exact hpast hmem
      · exact ht (List.mem_singleton.mp hmem).symm
  | @since before after hpast hbefore hafter hworker hstopped =>
    have ht : t ≠ .wakeToStop := fun ht => by
      rw [(htold ht).1] at hworker
      cases hworker
    have hpast' : past ++ [t] = before ++ .wakeToStop :: (after ++ [t]) := by simp [hpast]
    refine .since hpast' hbefore ?_ ?_ ?_
    · simp [hafter, ht.symm]
    · rw [hending, hworker, Bool.true_or]
    · intro hstopped'
      rw [published_append]
      rcases stopped_act? hact hstopped' with hwas | rfl
      · have hsuffix := (turn_of_act? hc hact).queue_suffix
        exact hsuffix.trans (List.suffix_append_self_iff.mpr (hstopped hwas))
      · rw [queue_of_take hact (.inr hstopped')]
        exact List.nil_suffix

/-! ### The events of a run -/

/-- Of the events `all`, `handed` were handed out and `waiting` still wait, each of them once and in
order, and the others, `lost` in number, are lost. -/
structure Splits (all handed waiting : List AdmissionEvent) (lost : Nat) : Prop where
  ordered : (handed ++ waiting).Sublist all
  total : all.length = handed.length + waiting.length + lost

/-- Where none of the earlier events waits any more, each of them was handed out or dropped. -/
theorem Accounts.splits {early late : List AdmissionEvent} (h : d.Accounts c (early ++ late))
    (hqueue : d.buffer.queue <:+ late) :
    ∃ handed rest lost more, d.sent = handed ++ rest ∧ d.buffer.dropped = lost + more ∧
      Splits early handed [] lost ∧ Splits late rest d.buffer.queue more := by
  obtain ⟨between, rfl⟩ := hqueue
  have hordered := h.ordered
  rw [line, ← List.append_assoc, List.append_sublist_append_right] at hordered
  obtain ⟨handed, rest, hsent, hhanded, hrest⟩ := List.sublist_append_iff.mp hordered
  have htotal := h.total
  have hlen := hhanded.length_le
  have hlen' := hrest.length_le
  simp only [hsent, List.length_append, EventBuffer.len] at htotal
  refine ⟨handed, rest, early.length - handed.length, between.length - rest.length, hsent, ?_,
    ⟨?_, ?_⟩, ⟨hrest.append_right _, ?_⟩⟩
  · omega
  · rwa [List.append_nil]
  · rw [List.length_nil]
    omega
  · rw [List.length_append]
    omega

/-- What is known after the acts `past`. -/
structure Known (c : Nat) (past : List Act) (d : Delivery) : Prop where
  accounts : d.Accounts c (published past)
  watched : d.Watched
  told : d.Told past

theorem Known.act? (past : List Act) (d : Delivery) (t : Act) (d' : Delivery) (h : d.Known c past)
    (hact : d.act? t = some d') : d'.Known c (past ++ [t]) := by
  have hc : 0 < d.buffer.capacity := h.accounts.capacity_eq ▸ Nat.le_max_right c 1
  refine ⟨?_, h.watched.act? hact, h.told.act? hc hact⟩
  rw [published_append]
  exact h.accounts.turn (turn_of_act? hc hact)

/-- **No event is left behind.** Whenever the task sleeps and no permit waits for it, no more events
wait than notifications are to come, so none if every publication is complete. When the task has
stopped, it was told to at one point of the run, and every event published before that point was
handed out, once, or counted as dropped. -/
theorem no_event_stranded {acts : List Act} (hrun : (start c).run? acts = some d) :
    (d.worker = .waiting → d.permit = false →
      d.buffer.len ≤ d.unnotified ∧ (d.unnotified = 0 → d.buffer.queue = [])) ∧
    (d.worker = .stopped → ∃ before after, acts = before ++ .wakeToStop :: after ∧
      .wakeToStop ∉ before ∧ .wakeToStop ∉ after ∧
      ∃ handed rest lost more, d.sent = handed ++ rest ∧ d.buffer.dropped = lost + more ∧
        Splits (published before) handed [] lost ∧
        Splits (published after) rest d.buffer.queue more) := by
  have hstart : (start c).Known c [] :=
    ⟨.start c, watched_start c, .notYet rfl List.not_mem_nil⟩
  obtain ⟨haccounts, hwatched, htold⟩ := foldlM_induction Known.act? hstart hrun
  rw [List.nil_append] at haccounts htold
  constructor
  · intro hwaiting hpermit
    have hle := hwatched hwaiting hpermit
    refine ⟨hle, fun hnone => List.length_eq_zero_iff.mp ?_⟩
    exact Nat.le_zero.mp (hnone ▸ hle)
  · intro hstopped
    cases htold with
    | notYet hworker _ =>
      rw [hstopped] at hworker
      cases hworker
    | @since before after hpast hbefore hafter hworker hqueue =>
      refine ⟨before, after, hpast, hbefore, hafter, ?_⟩
      rw [hpast, published_append] at haccounts
      exact haccounts.splits (hqueue hstopped)

/-! ### A run

A buffer for one event. The second event pushes the first one out. The third is published while the
second is being delivered, and the fourth while the task sleeps, right before it hears the signal to
stop. The others come later, and the last one when the task has stopped. -/

namespace Sample

open Admission.Sample (event)

def untilStop : List Act :=
  [.push (event 1), .push (event 2), .notify, .wake, .take, .stop, .push (event 3), .sent, .take,
    .sent, .take, .push (event 4)]

def fromStop : List Act :=
  [.take, .push (event 5), .push (event 6), .sent, .take, .sent, .take, .push (event 7)]

def acts : List Act := untilStop ++ .wakeToStop :: fromStop

def left : List AdmissionEvent := [event 4]

def delivered : List AdmissionEvent := [event 2, event 3, event 4, event 6]

end Sample

theorem no_event_stranded_at_stop :
    (∃ d, (start 1).run? Sample.untilStop = some d ∧ d.worker = .waiting ∧ d.permit = false ∧
      d.buffer.queue = Sample.left ∧ d.unnotified = 3 ∧
      d.buffer.len ≤ d.unnotified ∧ (d.unnotified = 0 → d.buffer.queue = [])) ∧
    ∃ d, (start 1).run? Sample.acts = some d ∧ d.worker = .stopped ∧
      d.sent = Sample.delivered ∧
      ∃ before after, Sample.acts = before ++ .wakeToStop :: after ∧
        .wakeToStop ∉ before ∧ .wakeToStop ∉ after ∧
        ∃ handed rest lost more, d.sent = handed ++ rest ∧ d.buffer.dropped = lost + more ∧
          Splits (published before) handed [] lost ∧
          Splits (published after) rest d.buffer.queue more := by
  have hsleeps : (start 1).run? Sample.untilStop = some _ := rfl
  have hstops : (start 1).run? Sample.acts = some _ := rfl
  exact ⟨⟨_, hsleeps, rfl, rfl, rfl, rfl, (no_event_stranded hsleeps).1 rfl rfl⟩,
    _, hstops, rfl, rfl, (no_event_stranded hstops).2 rfl⟩

end Delivery

end Gatehouse
