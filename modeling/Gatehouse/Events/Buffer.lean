import Gatehouse.Events.Event

/-!
# The event buffer

Events wait in a queue of bounded length for the task that delivers them. Whoever publishes an event
never waits: a full queue gives up its oldest event.

## Main results

* `length_publish_le` — the queue stays within its capacity.
* `published_conserved` — what is published is waiting or counted as dropped.
-/

namespace Gatehouse

/-- Events waiting for delivery. -/
structure EventBuffer where
  /-- Greatest number of events waiting. -/
  capacity : Nat
  /-- The events waiting, the oldest first. -/
  queue : List AdmissionEvent
  /-- Number of events given up. It is unbounded here, and kept modulo `2 ^ 64` on the machine. -/
  dropped : Nat
  deriving Repr

namespace EventBuffer

/-- The empty buffer of a capacity, which is at least one. -/
def ofCapacity (n : Nat) : EventBuffer := ⟨max n 1, [], 0⟩

/-- The number of events waiting. -/
def len (b : EventBuffer) : Nat := b.queue.length

/-- Whether no event is waiting. -/
def isEmpty (b : EventBuffer) : Bool := b.len == 0

/-- Whether the next event will push out the oldest one. -/
def isFull (b : EventBuffer) : Bool := b.capacity ≤ b.len

/-- Adds an event, at the expense of the oldest one if the buffer is full. -/
def publish (b : EventBuffer) (e : AdmissionEvent) : EventBuffer :=
  if b.isFull then { b with queue := b.queue.drop 1 ++ [e], dropped := b.dropped + 1 }
  else { b with queue := b.queue ++ [e] }

/-- Adds events in order. -/
def publishAll (b : EventBuffer) (es : List AdmissionEvent) : EventBuffer := es.foldl publish b

/-- Takes the oldest event. -/
def pop? (b : EventBuffer) : Option (AdmissionEvent × EventBuffer) :=
  match b.queue with
  | [] => none
  | e :: r => some (e, { b with queue := r })

theorem capacity_publish (b : EventBuffer) (e : AdmissionEvent) :
    (b.publish e).capacity = b.capacity := by
  unfold publish
  split <;> rfl

theorem len_publish (b : EventBuffer) (e : AdmissionEvent) (hc : 0 < b.capacity) :
    (b.publish e).len = if b.isFull then b.len else b.len + 1 := by
  by_cases h : b.isFull = true
  · have hl : b.capacity ≤ b.queue.length := of_decide_eq_true h
    simp only [publish, len, h, if_true, List.length_append, List.length_drop,
      List.length_singleton]
    omega
  · simp [publish, len, h]

theorem length_publish_le (b : EventBuffer) (e : AdmissionEvent) (hc : 0 < b.capacity)
    (h : b.len ≤ b.capacity) : (b.publish e).len ≤ (b.publish e).capacity := by
  rw [capacity_publish, len_publish b e hc]
  by_cases hf : b.isFull = true
  · simpa [hf] using h
  · have hl : ¬ b.capacity ≤ b.len := fun hle => hf (decide_eq_true hle)
    simp only [hf]
    simp
    omega

theorem published_conserved (b : EventBuffer) (e : AdmissionEvent) (hc : 0 < b.capacity) :
    (b.publish e).len + (b.publish e).dropped = b.len + b.dropped + 1 := by
  rw [len_publish b e hc]
  by_cases hf : b.isFull = true
  · simp [publish, hf]
    omega
  · simp [publish, hf]
    omega

end EventBuffer

end Gatehouse
