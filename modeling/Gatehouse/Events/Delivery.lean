import Gatehouse.Events.Buffer

/-!
# Delivering events

One task delivers the events that wait in the buffer. It sleeps until it is notified of new events or
told to stop, and then delivers one event after another until none is left; told to stop, it does so
a last time. Events can arrive while one is being delivered, and a delivery that fails is not
repeated.

## Implementation notes

The task, its wake-up permit and the signal to stop are one state, `Delivery`, and everything that can
happen to it is an `Act`. Publishing is two acts, since the event is in the buffer before the task is
notified. Notification is a permit: one is kept however often it is given, and taken by the task when
it wakes. `Delivery.act?` says what each act does where it can happen; every run of the gateway is a
sequence of acts, and `runDown` is the run in which the task is let work until it stops or sleeps.
-/

namespace Gatehouse

/-- What the task is doing. -/
inductive Worker where
  /-- Asleep. -/
  | waiting
  /-- About to take the next event; `last` if told to stop. -/
  | draining (last : Bool)
  /-- Delivering an event. -/
  | sending (e : AdmissionEvent) (last : Bool)
  /-- At its end. -/
  | stopped
  deriving DecidableEq, Repr

/-- The buffer and the task that empties it. -/
structure Delivery where
  buffer : EventBuffer
  /-- Publications whose notification is still to come. -/
  unnotified : Nat
  /-- Whether a notification is waiting for the task. -/
  permit : Bool
  /-- Whether the signal to stop was given. -/
  stopping : Bool
  worker : Worker
  /-- The events handed out, the last first. -/
  handed : List AdmissionEvent

/-- What can happen. -/
inductive Act where
  /-- An event is put into the buffer. -/
  | push (e : AdmissionEvent)
  /-- The notification of an event put there. -/
  | notify
  /-- The signal to stop. -/
  | stop
  /-- The task wakes at a notification. -/
  | wake
  /-- The task wakes at the signal to stop. -/
  | wakeToStop
  /-- The task takes the next event, or finds none. -/
  | take
  /-- The delivery of an event ends, well or not. -/
  | sent
  deriving DecidableEq, Repr

namespace Delivery

/-- A task asleep beside an empty buffer. -/
def start (capacity : Nat) : Delivery :=
  ⟨EventBuffer.ofCapacity capacity, 0, false, false, .waiting, []⟩

/-- What an act makes of a state, if it can happen there. -/
def act? (d : Delivery) : Act → Option Delivery
  | .push e => some { d with buffer := d.buffer.publish e, unnotified := d.unnotified + 1 }
  | .notify =>
    match d.unnotified with
    | 0 => none
    | n + 1 => some { d with unnotified := n, permit := true }
  | .stop => some { d with stopping := true }
  | .wake =>
    match d.worker with
    | .waiting =>
      if d.permit then some { d with permit := false, worker := .draining false } else none
    | _ => none
  | .wakeToStop =>
    match d.worker with
    | .waiting => if d.stopping then some { d with worker := .draining true } else none
    | _ => none
  | .take =>
    match d.worker with
    | .draining last =>
      match d.buffer.pop? with
      | some (e, buffer) =>
        some { d with buffer, worker := .sending e last, handed := e :: d.handed }
      | none => some { d with worker := if last then .stopped else .waiting }
    | _ => none
  | .sent =>
    match d.worker with
    | .sending _ last => some { d with worker := .draining last }
    | _ => none

/-- Publishes an event: it is put into the buffer, and the task is notified. -/
def publish (d : Delivery) (e : AdmissionEvent) : Delivery :=
  { d with buffer := d.buffer.publish e, permit := true }

/-- Publishes events in order. -/
def publishAll (d : Delivery) (es : List AdmissionEvent) : Delivery := es.foldl publish d

/-- The next act of a task that is let work. It heeds the signal to stop first. -/
def next? (d : Delivery) : Option Act :=
  match d.worker with
  | .waiting => if d.stopping then some .wakeToStop else if d.permit then some .wake else none
  | .draining _ => some .take
  | .sending .. => some .sent
  | .stopped => none

/-- Lets the task work for at most `fuel` acts. While an event is being delivered, the events that
`arriving` gives for it are published. -/
def runDown (arriving : AdmissionEvent → List AdmissionEvent) : (fuel : Nat) → Delivery → Delivery
  | 0, d => d
  | fuel + 1, d =>
    match d.next? with
    | none => d
    | some a =>
      let d := match a, d.worker with
        | .sent, .sending e _ => d.publishAll (arriving e)
        | _, _ => d
      match d.act? a with
      | some d => runDown arriving fuel d
      | none => d

theorem publish_eq (d : Delivery) (e : AdmissionEvent) :
    (d.act? (.push e)).bind (·.act? .notify) = some (d.publish e) := rfl

/-- The events handed out, in order. -/
def sent (d : Delivery) : List AdmissionEvent := d.handed.reverse

end Delivery

end Gatehouse
