import Gatehouse.Text.Chars

/-!
# Network addresses

Addresses of 32 and of 128 bits, and how they are written. A long address is written in eight groups
of hexadecimal digits, and the longest run of zero groups, if it is longer than one, as two colons.

## Contract

* A short address is four numbers below 256 without leading zeros.
* In a long address two colons may stand once, for at least one group, and a short address may stand
  for the last two groups.
-/

namespace Gatehouse

namespace Net

/-- A network address. -/
inductive Address where
  /-- A short address: four bytes. -/
  | v4 (a b c d : Nat)
  /-- A long address: eight groups of 16 bits. -/
  | v6 (groups : List Nat)
  deriving DecidableEq, Repr

/-! ## Writing -/

/-- The lower-case hexadecimal digits of a group. -/
def hexText (n : Nat) : String := String.ofList (Nat.toDigits 16 n)

/-- The lengths of the runs of zeros that begin at each position. -/
def zeroRuns : List Nat → List Nat
  | [] => []
  | g :: r =>
    let runs := zeroRuns r
    (if g = 0 then 1 + runs.headD 0 else 0) :: runs

/-- Position and length of the first longest run of zeros. -/
def longestZeros (groups : List Nat) : Nat × Nat :=
  let runs := zeroRuns groups
  let most := runs.foldl max 0
  (runs.findIdx (· == most), most)

/-- Groups with colons between. -/
def colonText (groups : List Nat) : String := ":".intercalate (groups.map hexText)

/-- The groups of a long address, shortened. -/
def groupsText (groups : List Nat) : String :=
  let (start, len) := longestZeros groups
  if 1 < len then
    colonText (groups.take start) ++ "::" ++ colonText (groups.drop (start + len))
  else colonText groups

/-- A short address in its usual form. -/
def dottedText (a b c d : Nat) : String :=
  ".".intercalate ([a, b, c, d].map toString)

/-- The text of an address. A long address that stands for a short one shows it. -/
def Address.text : Address → String
  | .v4 a b c d => dottedText a b c d
  | .v6 [0, 0, 0, 0, 0, 0xffff, x, y] =>
    "::ffff:" ++ dottedText (x / 256) (x % 256) (y / 256) (y % 256)
  | .v6 groups => groupsText groups

/-! ## Reading -/

/-- A number below 256 without leading zeros. -/
def byte? (s : List Char) : Option Nat :=
  match s with
  | ['0'] => some 0
  | '0' :: _ | [] => none
  | _ => if s.all Text.isDigit && s.length ≤ 3 && Text.decimal s < 256 then some (Text.decimal s)
    else none

/-- Four numbers with dots between. -/
def dotted? (s : List Char) : Option (Nat × Nat × Nat × Nat) :=
  match (List.splitOn '.' s).map byte? with
  | [some a, some b, some c, some d] => some (a, b, c, d)
  | _ => none

/-- A group of one to four hexadecimal digits. -/
def group? (s : List Char) : Option Nat :=
  if s ≠ [] && s.length ≤ 4 then
    (s.mapM Text.hexValue?).map fun ds => ds.foldl (fun n d => 16 * n + d) 0
  else none

/-- Groups with colons between; the last one may be a short address, if `dots`. -/
def groups? (dots : Bool) : List (List Char) → Option (List Nat)
  | [] => some []
  | [s] =>
    match group? s with
    | some g => some [g]
    | none =>
      if dots then (dotted? s).map fun (a, b, c, d) => [256 * a + b, 256 * c + d] else none
  | s :: r => do return (← group? s) :: (← groups? dots r)

/-- The groups in one side of a long address. An empty side has none. -/
def side? (dots : Bool) (s : List Char) : Option (List Nat) :=
  if s = [] then some [] else groups? dots (List.splitOn ':' s)

/-- The parts before and after the first two colons, if there are any. -/
def cutGap : List Char → Option (List Char × List Char)
  | ':' :: ':' :: r => some ([], r)
  | c :: r => (cutGap r).map fun p => (c :: p.1, p.2)
  | [] => none

/-- The groups of a long address. -/
def v6Groups? (s : List Char) : Option (List Nat) := do
  match cutGap s with
  | none =>
    let gs ← side? true s
    if gs.length = 8 then some gs else none
  | some (before, after) =>
    let left ← side? false before
    let right ← side? true after
    if left.length + right.length ≤ 7 then
      some (left ++ List.replicate (8 - left.length - right.length) 0 ++ right)
    else none

/-- Reads a short address. -/
def v4? (s : List Char) : Option Address := (dotted? s).map fun (a, b, c, d) => .v4 a b c d

/-- Reads a long address. -/
def v6? (s : List Char) : Option Address := (v6Groups? s).map .v6

/-- Reads a port. -/
def port? (s : List Char) : Option UInt16 :=
  if s ≠ [] && s.all Text.isDigit && Text.decimal s < UInt16.size then
    some (UInt16.ofNat (Text.decimal s))
  else none

/-- A long address without its scope, if that is a number. -/
def withoutScope? (s : List Char) : Option (List Char) :=
  match Text.cutFirst '%' s with
  | none => some s
  | some (address, scope) =>
    if scope ≠ [] && scope.all Text.isDigit && Text.decimal scope < UInt32.size then some address
    else none

/-- Reads an address and a port, with a colon between and a long address in brackets. -/
def endpoint? (s : String) : Option (Address × UInt16) := do
  match s.toList with
  | '[' :: r =>
    let (address, rest) ← Text.cutFirst ']' r
    match rest with
    | ':' :: port => return (← v6? (← withoutScope? address), ← port? port)
    | _ => none
  | cs =>
    let (address, port) ← Text.cutFirst ':' cs
    return (← v4? address, ← port? port)

end Net

end Gatehouse
