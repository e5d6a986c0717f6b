import Gatehouse.Shape

/-!
# Counters of a window

How many requests of one kind were admitted in the window that is open. A window is a stretch of time
of a fixed length; a new one is opened by the first request after the end of the one before.
-/

namespace Gatehouse

/-- How many requests are admitted in how long a window. -/
structure Limits where
  limit : Int64
  windowMs : Int64
  deriving DecidableEq, Repr

/-- The count of a window, as it is stored. -/
structure ThrottleCounter where
  /-- What is counted. -/
  key : String
  /-- The consumer, if the count is kept for each consumer. -/
  consumerKey : Option String
  limit : Int64
  windowDurationMs : Int64
  windowStartMs : Int64
  count : Int64
  deriving DecidableEq, Repr

namespace Int64Range

/-- The nearest number that 64 bits hold. -/
def clamp (i : Int) : Int64 :=
  Int64.ofInt (max Int64.minValue.toInt (min Int64.maxValue.toInt i))

/-- The sum, or the nearest number that 64 bits hold. -/
def saturatingAdd (a b : Int64) : Int64 := clamp (a.toInt + b.toInt)

end Int64Range

namespace ThrottleCounter

/-- The counter of a window that a request opens. -/
def opened (key : String) (consumerKey : Option String) (l : Limits) (now : Int64) :
    ThrottleCounter :=
  { key, consumerKey, limit := l.limit, windowDurationMs := l.windowMs, windowStartMs := now,
    count := 1 }

/-- The end of the window, no later than the last instant there is. -/
def windowEndMs (c : ThrottleCounter) : Int64 :=
  Int64Range.saturatingAdd c.windowStartMs c.windowDurationMs

/-- Whether an instant is before the end of the window. -/
def isLive (c : ThrottleCounter) (now : Int64) : Bool := now < c.windowEndMs

/-- The limits that the counter was opened under. -/
def limits (c : ThrottleCounter) : Limits := ⟨c.limit, c.windowDurationMs⟩

/-- The counter after one more request. -/
def counted (c : ThrottleCounter) : ThrottleCounter :=
  { c with count := Int64Range.saturatingAdd c.count 1 }

/-- Reads a counter. -/
def ofDatum (d : Datum) : Except Mismatch ThrottleCounter := do
  let p ← Shape.parts .json
    ["key", "consumer_key", "limit", "window_duration_ms", "window_start_ms", "count"] d
  let key ← p.required "key" Shape.text
  let consumerKey ← p.optional "consumer_key" Shape.text
  let limit ← p.required "limit" Shape.int64
  let windowDurationMs ← p.required "window_duration_ms" Shape.int64
  let windowStartMs ← p.required "window_start_ms" Shape.int64
  let count ← p.required "count" Shape.int64
  return { key, consumerKey, limit, windowDurationMs, windowStartMs, count }

/-- Writes a counter. -/
def toDatum (c : ThrottleCounter) : Datum :=
  .record [("key", .text c.key), ("consumer_key", .ofText? c.consumerKey),
    ("limit", .int c.limit.toInt), ("window_duration_ms", .int c.windowDurationMs.toInt),
    ("window_start_ms", .int c.windowStartMs.toInt), ("count", .int c.count.toInt)]

end ThrottleCounter

end Gatehouse
