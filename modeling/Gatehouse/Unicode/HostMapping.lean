import Gatehouse.Unicode.HostMappingData
import Gatehouse.Unicode.Rows

/-!
# The mapping for host names

Host names are compared without regard to case, width and other differences of form. Every character
is mapped to the form that is compared, some to nothing and some to several characters, and a few
stand in no host name.
-/

namespace Gatehouse

namespace Unicode

/-- Runs of characters that are mapped alike. -/
def mappedRuns : List (List Nat) := readRows mappedRunRows

/-- Other characters that are mapped. -/
def mappedChars : List (List Nat) := readRows mappedRows

/-- Ranges of characters that no host name holds. -/
def disallowedRanges : List (List Nat) := readRows disallowedRows

/-- What a character is mapped to by a run, if it is in it. -/
def runTarget? (c : Nat) : List Nat → Option (List Nat)
  | [start, count, step, target] =>
    if start ≤ c && (c - start) % step == 0 && (c - start) / step < count then
      some [target + (c - start)]
    else none
  | _ => none

/-- What a character is mapped to, if it is not compared as it is. -/
def mapped? (c : Nat) : Option (List Nat) :=
  match mappedRuns.findSome? (runTarget? c) with
  | some t => some t
  | none =>
    mappedChars.findSome? fun
      | k :: t => if k = c then some t else none
      | [] => none

/-- The form of a text that is compared. -/
def mapHost (s : List Nat) : List Nat := s.flatMap fun c => (mapped? c).getD [c]

/-- Whether a character stands in no host name. -/
def isDisallowed (c : Nat) : Bool :=
  disallowedRanges.any fun
    | [c'] => c' == c
    | [first, last] => first ≤ c && c ≤ last
    | _ => false

/-- Whether a character stands in host names as it is. -/
def isHostChar (c : Nat) : Bool := (mapped? c).isNone && !isDisallowed c

end Unicode

end Gatehouse
