import Gatehouse.Text.Chars

/-!
# Rows of numbers

Data of the character database are kept as rows of text: entries with spaces between, each of them
hexadecimal numbers with dots between.
-/

namespace Gatehouse

namespace Unicode

/-- The number that hexadecimal digits denote. -/
def hexNumber (ds : List Char) : Nat :=
  ds.foldl (fun n d => 16 * n + (Text.hexValue? d).getD 0) 0

/-- The numbers of an entry. -/
def readEntry (s : List Char) : List Nat := (List.splitOn '.' s).map hexNumber

/-- The entries of rows. -/
def readRows (rows : List String) : List (List Nat) :=
  rows.flatMap fun row => (List.splitOn ' ' row.toList).map readEntry

/-- The third number of the entry in whose range, from its first number to its second, `n` lies. -/
def rangeValue? (entries : List (List Nat)) (n : Nat) : Option Nat :=
  entries.findSome? fun
    | [first, last, value] => if first ≤ n && n ≤ last then some value else none
    | _ => none

end Unicode

end Gatehouse
