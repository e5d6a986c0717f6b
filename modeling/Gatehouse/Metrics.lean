import Gatehouse.Table

/-!
# Counters

What the gateway counts: requests answered, admission decisions, failovers, evicted sessions, and
events lost. Each counter is a series with labels, and starts to be reported with its first count.
-/

namespace Gatehouse

/-- A counter with its labels. -/
inductive Series where
  /-- Requests answered. -/
  | requests (method : String) (status : Nat) (service : String)
  /-- Admission decisions. -/
  | admissions (service : String) (allowed : Bool)
  /-- Attempts repeated elsewhere. -/
  | failovers (service : String)
  /-- Sessions that lost their binding to a failure. -/
  | evictions (service : String)
  /-- Events lost because too many were waiting. -/
  | eventsDropped
  deriving DecidableEq, Repr

namespace Series

/-- The name of a counter. -/
def name : Series → String
  | requests .. => "gateway_requests_total"
  | admissions .. => "gateway_admission_total"
  | failovers _ => "gateway_failover_total"
  | evictions _ => "gateway_sticky_evictions_total"
  | eventsDropped => "gateway_admission_events_dropped_total"

/-- The labels of a counter, in order. -/
def labels : Series → List (String × String)
  | requests method status service =>
    [("method", method), ("status", toString status), ("service", service)]
  | admissions service allowed =>
    [("service", service), ("outcome", if allowed then "admitted" else "rejected")]
  | failovers service | evictions service => [("service", service)]
  | eventsDropped => []

end Series

/-! ## Exposition -/

/-- A label value with quotes, backslashes and line ends escaped. A backslash is held back until the
next character shows whether it is there to escape that one: before a quote or another backslash it
is. -/
def escapeLabel (held : Bool) : List Char → List Char
  | [] => if held then ['\\', '\\'] else []
  | '\n' :: r => '\\' :: 'n' :: escapeLabel held r
  | '"' :: r => '\\' :: '"' :: escapeLabel false r
  | '\\' :: r => (if held then ['\\', '\\'] else []) ++ escapeLabel (!held) r
  | c :: r => (if held then ['\\', '\\'] else []) ++ c :: escapeLabel false r

/-- A label and its value. -/
def labelText (label : String × String) : String :=
  label.1 ++ "=\"" ++ String.ofList (escapeLabel false label.2.toList) ++ "\""

/-- A counter with its labels, as one word. -/
def Series.text (s : Series) : String :=
  match s.labels with
  | [] => s.name
  | ls => s.name ++ "\x7b" ++ ",".intercalate (ls.map labelText) ++ "\x7d"

/-- The counters. -/
structure Metrics where
  counts : Table Series Nat

namespace Metrics

/-- Nothing counted. -/
def empty : Metrics := ⟨Table.empty⟩

instance : Inhabited Metrics := ⟨empty⟩

/-- The count of a series. -/
def count (m : Metrics) (s : Series) : Nat := (m.counts.get? s).getD 0

/-- Counts a series `n` times more. -/
def add (m : Metrics) (s : Series) (n : Nat) : Metrics := ⟨m.counts.set s (m.count s + n)⟩

/-- Counts a series once more. -/
def bump (m : Metrics) (s : Series) : Metrics := m.add s 1

/-- What two sets of counters count together. -/
def merge (a b : Metrics) : Metrics := b.counts.entries.foldl (fun m e => m.add e.1 e.2) a

/-- The counters, a line each, in the order of their text. -/
def lines (m : Metrics) : List String :=
  (m.counts.entries.map fun e => e.1.text ++ " " ++ toString e.2).mergeSort fun a b => a ≤ b

theorem count_add (m : Metrics) (s x : Series) (n : Nat) :
    (m.add s n).count x = if x = s then m.count s + n else m.count x := by
  simp only [count, add, Table.get?_set]
  by_cases h : x = s <;> simp [h]

theorem count_bump (m : Metrics) (s x : Series) :
    (m.bump s).count x = if x = s then m.count s + 1 else m.count x :=
  count_add m s x 1

end Metrics

end Gatehouse
