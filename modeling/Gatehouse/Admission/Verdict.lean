import Gatehouse.Admission.Counter
import Gatehouse.Text.Chars

/-!
# The policy oracle

A policy can be kept outside the gateway. The oracle that keeps it is asked for a consumer, and its
verdict is a refusal or the limits for that consumer. Every answer has to come in time.
-/

namespace Gatehouse

/-! ## Verdicts -/

/-- The oracle's answer for a consumer. -/
structure Verdict where
  allowed : Bool
  limit : Option Int64 := none
  windowDurationMs : Option Int64 := none
  deriving DecidableEq, Repr

namespace Verdict

/-- The limits that a verdict grants. Without two positive numbers it grants none. -/
def limits? (v : Verdict) : Option Limits :=
  if !v.allowed then none
  else
    match v.limit, v.windowDurationMs with
    | some l, some w => if 0 < l.toInt ∧ 0 < w.toInt then some ⟨l, w⟩ else none
    | _, _ => none

/-- Reads a verdict. -/
def ofDatum (d : Datum) : Except Mismatch Verdict := do
  let p ← Shape.parts .json ["allowed", "limit", "window_duration_ms"] d
  let allowed ← p.required "allowed" Shape.bool
  let limit ← p.withDefault "limit" none (Shape.optional Shape.int64)
  let windowDurationMs ← p.withDefault "window_duration_ms" none (Shape.optional Shape.int64)
  return { allowed, limit, windowDurationMs }

/-- Writes a verdict. -/
def toDatum (v : Verdict) : Datum :=
  .record [("allowed", .bool v.allowed), ("limit", .ofOption (fun i => .int i.toInt) v.limit),
    ("window_duration_ms", .ofOption (fun i => .int i.toInt) v.windowDurationMs)]

end Verdict

/-! ## Errors -/

/-- Why the oracle gave no verdict. -/
inductive OracleError where
  /-- It did not answer within this many milliseconds. -/
  | timeout (ms : Nat)
  | transport (reason : String)
  | unusable (reason : String)
  deriving DecidableEq, Repr

/-- The digits of a fraction of a thousand, without zeros at the end. -/
def thousandths (n : Nat) : List Char :=
  Text.dropEndWhile (· == '0')
    [Char.ofNat (48 + n / 100 % 10), Char.ofNat (48 + n / 10 % 10), Char.ofNat (48 + n % 10)]

/-- A length of time in seconds, or in milliseconds when it is shorter than a second. -/
def durationText (ms : Nat) : String :=
  if ms = 0 then "0ns"
  else if ms < 1000 then toString ms ++ "ms"
  else
    match thousandths (ms % 1000) with
    | [] => toString (ms / 1000) ++ "s"
    | ds => toString (ms / 1000) ++ "." ++ String.ofList ds ++ "s"

/-- The error in words. -/
def OracleError.message : OracleError → String
  | .timeout ms => "policy oracle timed out after " ++ durationText ms
  | .transport reason => "policy oracle transport error: " ++ reason
  | .unusable reason => "policy oracle returned an unusable response: " ++ reason

/-! ## Asking -/

/-- An answer of the oracle, and how long it took to come. -/
structure OracleReply where
  delayMs : Nat
  answer : Except OracleError Verdict

/-- Whether an answer comes in time. The last instant is in time. -/
def OracleReply.inTime (r : OracleReply) (timeoutMs : Nat) : Bool := r.delayMs ≤ timeoutMs

/-- The limits that an answer grants, given the time allowed. -/
def OracleReply.limits? (r : OracleReply) (timeoutMs : Nat) : Option Limits :=
  if r.inTime timeoutMs then
    match r.answer with
    | .ok v => v.limits?
    | .error _ => none
  else none

/-- Oracles in states `ω`. -/
class Oracle (ω : Type) where
  /-- Asks about a policy and a consumer. -/
  ask : (policyRef consumer : String) → ω → OracleReply × ω

end Gatehouse
