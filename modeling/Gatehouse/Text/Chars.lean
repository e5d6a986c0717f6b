/-!
# Cutting and trimming text

Text is cut as a list of characters, so that every rule about a piece of a name, a header or a path
is a rule about lists. The functions on `String` at the end only wrap those on lists.

## Contract

* Trimming removes characters at the ends and nothing inside (`trimWhere`).
* Cutting at a separator loses exactly that separator: `cutFirst_eq_some`. Where all separators cut,
  that is `List.splitOn`.
-/

namespace Gatehouse

namespace Text

/-! ## Classes of characters -/

/-- The characters with the Unicode property `White_Space`. Text that a person typed is trimmed of
these, wherever it comes from. -/
def isBlank (c : Char) : Bool :=
  let n := c.toNat
  (0x09 ≤ n && n ≤ 0x0d) || n == 0x20 || n == 0x85 || n == 0xa0 || n == 0x1680 ||
    (0x2000 ≤ n && n ≤ 0x200a) || n == 0x2028 || n == 0x2029 || n == 0x202f || n == 0x205f ||
    n == 0x3000

/-- The ten decimal digits of ASCII. -/
def isDigit (c : Char) : Bool := '0' ≤ c && c ≤ '9'

/-- The letters of ASCII. -/
def isAlpha (c : Char) : Bool := ('a' ≤ c && c ≤ 'z') || ('A' ≤ c && c ≤ 'Z')

/-- The value of a hexadecimal digit in either case. -/
def hexValue? (c : Char) : Option Nat :=
  if isDigit c then some (c.toNat - 48)
  else if 'a' ≤ c && c ≤ 'f' then some (c.toNat - 87)
  else if 'A' ≤ c && c ≤ 'F' then some (c.toNat - 55)
  else none

/-! ## Letter case -/

/-- The lower-case form of an ASCII letter; every other character is its own. -/
def lowerAscii (c : Char) : Char :=
  if 'A' ≤ c && c ≤ 'Z' then Char.ofNat (c.toNat + 32) else c

/-- Lower case as far as a comparison with ASCII text can tell. Besides the letters A to Z there is
one character whose lower-case form is an ASCII letter, the Kelvin sign. -/
def lowerToAscii (c : Char) : Char :=
  if c.toNat == 0x212a then 'k' else lowerAscii c

/-! ## Trimming -/

/-- Drops the longest end part whose members all satisfy `p`. -/
def dropEndWhile (p : Char → Bool) (s : List Char) : List Char :=
  (s.reverse.dropWhile p).reverse

/-- Drops the members satisfying `p` at both ends. -/
def trimWhere (p : Char → Bool) (s : List Char) : List Char :=
  dropEndWhile p (s.dropWhile p)

/-! ## Cutting at a separator -/

/-- The parts before and after the first `sep`, if there is one. -/
def cutFirst (sep : Char) : List Char → Option (List Char × List Char)
  | [] => none
  | c :: r => if c = sep then some ([], r) else (cutFirst sep r).map fun p => (c :: p.1, p.2)

/-- The parts before and after the last `sep`, if there is one. -/
def cutLast (sep : Char) : List Char → Option (List Char × List Char)
  | [] => none
  | c :: r =>
    match cutLast sep r with
    | some (a, b) => some (c :: a, b)
    | none => if c = sep then some ([], r) else none

/-- What is left of `s` after `start`, if `s` begins with it. -/
def after? (start s : List Char) : Option (List Char) := start.isPrefixOf? s

theorem cutFirst_eq_some {sep : Char} {s a b : List Char} (h : cutFirst sep s = some (a, b)) :
    s = a ++ sep :: b ∧ sep ∉ a := by
  induction s generalizing a with
  | nil => simp [cutFirst] at h
  | cons c r ih =>
    by_cases hc : c = sep
    · simp [cutFirst, hc] at h
      obtain ⟨rfl, rfl⟩ := h
      simp [hc]
    · simp only [cutFirst, hc, if_false, Option.map_eq_some_iff] at h
      obtain ⟨⟨a', b'⟩, hr, he⟩ := h
      simp only [Prod.mk.injEq] at he
      obtain ⟨rfl, rfl⟩ := he
      obtain ⟨h1, h2⟩ := ih hr
      exact ⟨by rw [h1, List.cons_append], by simp [h2, Ne.symm hc]⟩

/-! ## On strings -/

/-- Text without the blanks at its ends. -/
def trim (s : String) : String := String.ofList (trimWhere isBlank s.toList)

/-- Text without the characters `c` at its start. -/
def trimStartOf (c : Char) (s : String) : String := String.ofList (s.toList.dropWhile (· == c))

/-- Text without the characters `c` at its end. -/
def trimEndOf (c : Char) (s : String) : String := String.ofList (dropEndWhile (· == c) s.toList)

/-- Lower case, as far as a comparison with ASCII text can tell. -/
def lower (s : String) : String := String.ofList (s.toList.map lowerToAscii)

/-- Equality up to the case of ASCII letters. -/
def sameButCase (a b : String) : Bool := a.toList.map lowerAscii == b.toList.map lowerAscii

/-- The number that a run of decimal digits denotes. -/
def decimal (ds : List Char) : Nat := ds.foldl (fun n d => 10 * n + (d.toNat - 48)) 0

/-- An unsigned number written in decimal, with an optional plus sign, if it is below `bound`. -/
def natBelow? (bound : Nat) (s : String) : Option Nat :=
  let ds := match s.toList with
    | '+' :: r => r
    | r => r
  if ds ≠ [] && ds.all isDigit && decimal ds < bound then some (decimal ds) else none

end Text

end Gatehouse
