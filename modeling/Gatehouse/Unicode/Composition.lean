import Gatehouse.Unicode.CompositionData
import Gatehouse.Unicode.Rows

/-!
# Composition

The composed form of a text: letters and the marks on them as one character where there is one, and
marks in their canonical order. Only characters that host names can hold are in the data.
-/

namespace Gatehouse

namespace Unicode

/-- The composites and their parts. -/
def composites : List (List Nat) := readRows compositeRows

/-- The combining classes of ranges of characters. -/
def combiningRanges : List (List Nat) := readRows combiningRows

/-- The combining class of a character; zero for those that do not combine. -/
def combiningClass (c : Nat) : Nat := (rangeValue? combiningRanges c).getD 0

/-! ## Taking apart -/

/-- The two parts of a composite. -/
def parts? (c : Nat) : Option (Nat × Nat) :=
  if 0xac00 ≤ c && c < 0xac00 + 11172 then
    let i := c - 0xac00
    if i % 28 = 0 then some (0x1100 + i / 588, 0x1161 + i % 588 / 28)
    else some (c - i % 28, 0x11a7 + i % 28)
  else
    composites.findSome? fun
      | [k, a, b] => if k = c then some (a, b) else none
      | _ => none

/-- Greatest number of parts of a composite. -/
def maxParts : Nat := 4

/-- A character in its last parts, taken apart at most `fuel` times. -/
def takeApart : (fuel : Nat) → Nat → List Nat
  | 0, c => [c]
  | fuel + 1, c =>
    match parts? c with
    | some (a, b) => takeApart fuel a ++ takeApart fuel b
    | none => [c]

/-- Puts a mark behind the marks of its class and of lower ones. -/
def insertMark (c : Nat) : List Nat → List Nat
  | [] => [c]
  | d :: r =>
    if combiningClass d ≤ combiningClass c then d :: insertMark c r else c :: d :: r

/-- Marks in the order of their classes, those of one class in their order. -/
def orderMarks (marks : List Nat) : List Nat := marks.foldl (fun out c => insertMark c out) []

/-- A text with the marks on each letter in canonical order; `marks` are those read so far. -/
def reorder (marks : List Nat) : List Nat → List Nat
  | [] => orderMarks marks
  | c :: r =>
    if combiningClass c = 0 then orderMarks marks ++ c :: reorder [] r
    else reorder (marks ++ [c]) r

/-! ## Putting together -/

/-- The composite of two parts. -/
def composite? (a b : Nat) : Option Nat :=
  if 0x1100 ≤ a && a < 0x1113 && 0x1161 ≤ b && b < 0x1176 then
    some (0xac00 + ((a - 0x1100) * 21 + (b - 0x1161)) * 28)
  else if 0xac00 ≤ a && a < 0xac00 + 11172 && (a - 0xac00) % 28 == 0 && 0x11a8 ≤ b && b < 0x11c3 then
    some (a + (b - 0x11a7))
  else
    composites.findSome? fun
      | [k, x, y] => if x = a && y = b then some k else none
      | _ => none

/-- How far a text is put together. -/
structure Composing where
  /-- What is done, the last first. -/
  done : List Nat
  /-- The letter to which parts can still be added. -/
  letter : Option Nat
  /-- The marks after it, the last first. -/
  marks : List Nat

/-- Everything put together. -/
def Composing.all (s : Composing) : List Nat := s.marks ++ s.letter.toList ++ s.done

/-- Adds a character: to the letter if they have a composite and no mark is in the way. -/
def Composing.add (s : Composing) (c : Nat) : Composing :=
  let k := combiningClass c
  match s.letter with
  | none => if k = 0 then { s with letter := some c } else { s with done := c :: s.done }
  | some l =>
    let free := match s.marks with
      | [] => true
      | m :: _ => combiningClass m < k
    match if free then composite? l c else none with
    | some p => { s with letter := some p }
    | none =>
      if k = 0 then ⟨s.all, some c, []⟩ else { s with marks := c :: s.marks }

/-- The composed form of a text. -/
def compose (s : List Nat) : List Nat :=
  let apart := reorder [] (s.flatMap (takeApart maxParts))
  (apart.foldl Composing.add ⟨[], none, []⟩).all.reverse

end Unicode

end Gatehouse
