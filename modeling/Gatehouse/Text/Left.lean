/-!
# What a reader leaves

A reader of a text answers what it read and what is left of the text. That the rest is shorter is
part of its type, which is why readers of nested values end.
-/

namespace Gatehouse

namespace Text

/-- What is left of `s` after something was read. -/
abbrev Left (s : List Char) := { r : List Char // r.length < s.length }

namespace Left

/-- What is left of a part is left of the whole. -/
def of {s t : List Char} (r : Left s) (h : s.length ≤ t.length) : Left t :=
  ⟨r.1, Nat.lt_of_lt_of_le r.2 h⟩

/-- What is left of what is left. -/
def within {s : List Char} (a : Left s) (b : Left a.1) : Left s := b.of (Nat.le_of_lt a.2)

/-- What is left of a text is left of it with another character before it. -/
def after (c : Char) {r : List Char} (x : Left r) : Left (c :: r) := x.of (Nat.le_succ _)

/-- What is left of what is left, when the character before that was read again. -/
def again {s : List Char} (a : Left s) {c : Char} (b : Left (c :: a.1)) : Left s := b.of a.2

/-- What is left after one character. -/
def tail (c : Char) (r : List Char) : Left (c :: r) := ⟨r, Nat.lt_succ_self _⟩

/-- What is left after `n` more characters. -/
def drop {s : List Char} (a : Left s) (n : Nat) : Left s :=
  ⟨a.1.drop n, Nat.lt_of_le_of_lt (List.drop_suffix n a.1).length_le a.2⟩

/-- What is left when more is skipped. -/
def skip {s : List Char} (a : Left s) (p : Char → Bool) : Left s :=
  ⟨a.1.dropWhile p, Nat.lt_of_le_of_lt (List.dropWhile_suffix p).length_le a.2⟩

/-- The first character of a text that is no longer than `s`, and what is left after it. -/
def first? {s : List Char} : (t : List Char) → t.length ≤ s.length → Option (Char × Left s)
  | [], _ => none
  | c :: r, h => some (c, ⟨r, h⟩)

/-- A text with the character before it again is no longer than the whole, so what is read in it
comes first if it ranks lower. -/
theorem lex_again {s : List Char} (a : Left s) {c : Char} {i j : Nat} (h : i < j) :
    Prod.Lex (· < ·) (· < ·) ((c :: a.1).length, i) (s.length, j) := by
  have ha : (c :: a.1).length ≤ s.length := a.2
  rcases Nat.lt_or_eq_of_le ha with hl | he
  · exact .left _ _ hl
  · rw [he]
    exact .right _ h

end Left

/-- Leaving out a leading part makes a text no longer. -/
theorem length_dropWhile_le (p : Char → Bool) (s : List Char) :
    (s.dropWhile p).length ≤ s.length :=
  (List.dropWhile_suffix p).length_le

end Text

end Gatehouse
