import Gatehouse.Text.Chars

/-!
# Punycode

Text of any characters as letters, digits and hyphens. The ASCII characters come first as they are;
the others follow, from the least to the greatest, each as the number of places to skip since the
one before, where a place is a position in the text so far together with a character. The numbers are
written with digits in base 36, of a length that adapts to the numbers before.

## Contract

* `encode` writes, `decode?` reads; `decode?` refuses what is no number or no character.
-/

namespace Gatehouse

namespace Punycode

/-! ## Digits -/

/-- A digit below 36: a letter, or behind the letters a decimal digit. -/
def digitChar (d : Nat) : Char := if d < 26 then Char.ofNat (97 + d) else Char.ofNat (22 + d)

/-- The value of a digit. -/
def digit? (c : Char) : Option Nat :=
  if Text.isDigit c then some (c.toNat - 22)
  else if 'a' ≤ c && c ≤ 'z' then some (c.toNat - 97)
  else if 'A' ≤ c && c ≤ 'Z' then some (c.toNat - 65)
  else none

/-- The least value of a digit, at a place of the number, after which no digit follows. -/
def threshold (place bias : Nat) : Nat :=
  if place ≤ bias then 1 else if bias + 26 ≤ place then 26 else place - bias

theorem threshold_pos (place bias : Nat) : 1 ≤ threshold place bias := by
  unfold threshold
  split
  · omega
  · split <;> omega

/-- Divides by 35 until what is left is small, and counts the divisions by 36. -/
def reduce (delta count : Nat) : Nat × Nat :=
  if 455 < delta then reduce (delta / 35) (count + 36) else (delta, count)
termination_by delta
decreasing_by exact Nat.div_lt_self (by omega) (by omega)

/-- The bias after a number, given how many characters there are then. -/
def adapt (delta size : Nat) (first : Bool) : Nat :=
  let d := if first then delta / 700 else delta / 2
  let (rest, count) := reduce (d + d / size) 0
  count + 36 * rest / (rest + 38)

/-! ## Encoding -/

/-- A number, from a place on. -/
def encodeNumber (bias place q : Nat) : List Char :=
  let t := threshold place bias
  if q < t then [digitChar q]
  else digitChar (t + (q - t) % (36 - t)) :: encodeNumber bias (place + 36) ((q - t) / (36 - t))
termination_by q
decreasing_by
  have h := threshold_pos place bias
  exact Nat.lt_of_le_of_lt (Nat.div_le_self _ _) (by omega)

/-- How far an encoding is. -/
structure Encoding where
  out : List Char
  /-- Places skipped since the last number. -/
  delta : Nat
  bias : Nat
  /-- Number of characters handled. -/
  size : Nat

/-- Passes a character of the text while those equal to `m` are handled. -/
def Encoding.pass (basic m : Nat) (s : Encoding) (c : Char) : Encoding :=
  if c.toNat < m then { s with delta := s.delta + 1 }
  else if c.toNat = m then
    { out := s.out ++ encodeNumber s.bias 36 s.delta, delta := 0,
      bias := adapt s.delta (s.size + 1) (s.size = basic), size := s.size + 1 }
  else s

/-- Handles the characters of `text` that are listed, in ascending order; `n` is the least that may
come. -/
def encodeFrom (text : List Char) (basic : Nat) : List Nat → Nat → Encoding → Encoding
  | [], _, s => s
  | m :: r, n, s =>
    let s := { s with delta := s.delta + (m - n) * (s.size + 1) }
    let s := text.foldl (Encoding.pass basic m) s
    encodeFrom text basic r (m + 1) { s with delta := s.delta + 1 }

/-- A text in letters, digits and hyphens. -/
def encode (text : List Char) : List Char :=
  let basic := text.filter fun c => c.toNat < 0x80
  let others := ((text.map Char.toNat).filter fun n => 0x80 ≤ n).mergeSort.eraseDups
  let s := encodeFrom text basic.length others 0x80 ⟨[], 0, 72, basic.length⟩
  (if basic = [] then [] else basic ++ ['-']) ++ s.out

/-! ## Decoding -/

/-- How far a decoding is. -/
structure Decoding where
  /-- The characters so far, by number. -/
  out : List Nat
  /-- The character of the present place. -/
  char : Nat
  /-- The position of the present place. -/
  position : Nat
  bias : Nat
  /-- The position when the present number began. -/
  began : Nat
  /-- What a digit counts at its place of the number. -/
  weight : Nat
  place : Nat
  /-- Whether a number is under way. -/
  inNumber : Bool

/-- Puts a character at its position. -/
def insertAt (out : List Nat) (i c : Nat) : List Nat := out.take i ++ c :: out.drop i

/-- Takes a digit into account. -/
def Decoding.digit (s : Decoding) (d : Nat) : Decoding :=
  let position := s.position + d * s.weight
  let t := threshold s.place s.bias
  if d < t then
    let size := s.out.length + 1
    let char := s.char + position / size
    let i := position % size
    { out := insertAt s.out i char, char, position := i + 1,
      bias := adapt (position - s.began) size (s.began = 0), began := i + 1,
      weight := 1, place := 36, inNumber := false }
  else
    { s with position, weight := s.weight * (36 - t), place := s.place + 36, inNumber := true }

/-- A number as a character, if it is one. -/
def char? (n : Nat) : Option Char :=
  if n < 0xd800 || (0xe000 ≤ n && n < 0x110000) then some (Char.ofNat n) else none

/-- The text that was encoded as `s`, if any was. -/
def decode? (s : List Char) : Option (List Char) := do
  let (basic, digits) := match Text.cutLast '-' s with
    | some ([], _) | none => ([], s)
    | some (b, r) => (b, r)
  let ds ← digits.mapM digit?
  let start : Decoding := ⟨basic.map Char.toNat, 0x80, 0, 72, 0, 1, 36, false⟩
  let d := ds.foldl Decoding.digit start
  if d.inNumber then none else d.out.mapM char?

end Punycode

end Gatehouse
