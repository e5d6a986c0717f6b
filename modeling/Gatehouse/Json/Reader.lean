import Gatehouse.Datum
import Gatehouse.Text.Chars
import Gatehouse.Text.Left

/-!
# Reading JSON

The text of a JSON value, with nothing but blanks around it, read into a data tree.

## Contract

* A whole number that 64 bits hold, signed or unsigned, is an `int`; every other number is a
  `real`, minus zero included.
* A string escape for half of a surrogate pair must be followed by the escape for the other half.
* Control characters do not stand in a string unescaped.

## Implementation notes

A parser takes the text and answers the value read with the text left over. What is left is shorter
than what was given, and the type says so (`Left`): that is why the readers of values inside values
end.
-/

namespace Gatehouse

namespace Json

open Text (Left)

/-! ## Layout -/

/-- The characters that may stand between tokens. -/
def isSpace (c : Char) : Bool := c == ' ' || c == '\t' || c == '\n' || c == '\r'

/-- The text from the next token on. -/
def skip (s : List Char) : List Char := s.dropWhile isSpace

theorem length_skip_le (s : List Char) : (skip s).length ≤ s.length :=
  Text.length_dropWhile_le _ _

/-- The first character of the next token, and what is left after it. -/
def token? (s : List Char) : Option (Char × Left s) := Left.first? (skip s) (length_skip_le s)

/-! ## Strings -/

/-- A character of a string, or a code unit given by an escape. -/
inductive Piece where
  /-- A character that stands for itself or has an escape of its own. -/
  | char (c : Char)
  /-- A UTF-16 code unit. -/
  | unit (n : Nat)

/-- The character that a one-letter escape stands for. -/
def escaped? (c : Char) : Option Char :=
  if c = '"' ∨ c = '\\' ∨ c = '/' then some c
  else if c = 'b' then some (Char.ofNat 8)
  else if c = 'f' then some (Char.ofNat 12)
  else if c = 'n' then some '\n'
  else if c = 'r' then some '\r'
  else if c = 't' then some '\t'
  else none

/-- The code unit written by four hexadecimal digits. -/
def unit? (a b c d : Char) : Option Nat := do
  let a ← Text.hexValue? a
  let b ← Text.hexValue? b
  let c ← Text.hexValue? c
  let d ← Text.hexValue? d
  return ((a * 16 + b) * 16 + c) * 16 + d

/-- Reads a string from after its opening quote to its closing one. -/
def pieces : (s : List Char) → Option (List Piece × Left s)
  | [] => none
  | c :: r =>
    if c = '"' then some ([], .tail c r)
    else if c = '\\' then
      match r with
      | 'u' :: a :: b :: c :: d :: r => do
        let n ← unit? a b c d
        let (ps, rest) ← pieces r
        return (.unit n :: ps, rest.of (by simp only [List.length_cons]; omega))
      | e :: r => do
        let c ← escaped? e
        let (ps, rest) ← pieces r
        return (.char c :: ps, rest.of (by simp only [List.length_cons]; omega))
      | [] => none
    else if c.toNat < 0x20 then none
    else do
      let (ps, rest) ← pieces r
      return (.char c :: ps, rest.after c)

/-- Joins the halves of surrogate pairs. A half on its own is no character. -/
def join? : List Piece → Option (List Char)
  | [] => some []
  | .char c :: r => (join? r).map (c :: ·)
  | .unit n :: r =>
    if 0xd800 ≤ n && n < 0xdc00 then
      match r with
      | .unit m :: r =>
        if 0xdc00 ≤ m && m < 0xe000 then
          (join? r).map (Char.ofNat (0x10000 + (n - 0xd800) * 0x400 + (m - 0xdc00)) :: ·)
        else none
      | _ => none
    else if 0xdc00 ≤ n && n < 0xe000 then none
    else (join? r).map (Char.ofNat n :: ·)

/-- Reads a string from after its opening quote. -/
def string (s : List Char) : Option (String × Left s) := do
  let (ps, rest) ← pieces s
  let cs ← join? ps
  return (String.ofList cs, rest)

/-! ## Numbers -/

/-- The digits that `s` begins with. -/
def digits (s : List Char) : List Char := s.takeWhile Text.isDigit

/-- The whole number with the given sign and digits, if 64 bits hold it. Minus zero is none. -/
def whole? (negative : Bool) (ds : List Char) : Option Int :=
  let n := Text.decimal ds
  if negative then
    if n = 0 then none else if Int64.minValue.toInt ≤ -(n : Int) then some (-(n : Int)) else none
  else if n < UInt64.size then some n else none

/-- Reads the digits after a point, with the point; nothing if there is no point. -/
def fraction? (s : List Char) : Option (List Char) :=
  match s with
  | '.' :: r => if digits r = [] then none else some ('.' :: digits r)
  | _ => some []

/-- Reads an exponent with its letter and sign; nothing if there is no such letter. -/
def exponent? (s : List Char) : Option (List Char) :=
  match s with
  | e :: r =>
    if e = 'e' ∨ e = 'E' then
      let (sign, r) := match r with
        | '+' :: r => (['+'], r)
        | '-' :: r => (['-'], r)
        | r => ([], r)
      if digits r = [] then none else some (e :: sign ++ digits r)
    else some []
  | [] => some []

/-- Reads a number: its value and its length. -/
def number (s : List Char) : Option (Datum × Nat) := do
  let (sign, r) := match s with
    | '-' :: r => (['-'], r)
    | r => ([], r)
  let ds := digits r
  if ds = [] || (ds.head? = some '0' && ds.length > 1) then none
  let r := r.drop ds.length
  let frac ← fraction? r
  let expo ← exponent? (r.drop frac.length)
  let literal := sign ++ ds ++ frac ++ expo
  let real := Datum.real (String.ofList literal)
  if frac = [] && expo = [] then
    match whole? (sign ≠ []) ds with
    | some i => return (.int i, literal.length)
    | none => return (real, literal.length)
  else
    return (real, literal.length)

/-! ## Values -/

/-- Reads the key of a field from after its opening quote to its colon. -/
def key? (s : List Char) : Option (String × Left s) := do
  let (k, r) ← string s
  let (c, r2) ← token? r.1
  if c = ':' then return (k, r.within r2) else none

mutual

/-- Reads one value. -/
def value (s : List Char) : Option (Datum × Left s) :=
  match token? s with
  | none => none
  | some (c, r) =>
    if c = '"' then (string r.1).map fun p => (.text p.1, r.within p.2)
    else if c = '[' then (items r.1 true).map fun p => (.list p.1, r.within p.2)
    else if c = '\x7b' then (members r.1 true).map fun p => (.record p.1, r.within p.2)
    else if c = 'n' ∧ r.1.take 3 = ['u', 'l', 'l'] then some (.null, r.drop 3)
    else if c = 't' ∧ r.1.take 3 = ['r', 'u', 'e'] then some (.bool true, r.drop 3)
    else if c = 'f' ∧ r.1.take 4 = ['a', 'l', 's', 'e'] then some (.bool false, r.drop 4)
    else
      match number (c :: r.1) with
      | some (d, n + 1) => some (d, r.drop n)
      | _ => none
termination_by (s.length, 0)
decreasing_by all_goals exact Prod.Lex.left _ _ r.2

/-- Reads the items of a list from after its bracket, or from after a comma if it is not the
`first`, to the closing bracket. -/
def items (s : List Char) (first : Bool) : Option (List Datum × Left s) :=
  match token? s with
  | none => none
  | some (c, r) =>
    if c = ']' ∧ first then some ([], r)
    else do
      let (d, rest) ← value s
      let (c2, r2) ← token? rest.1
      let rest := rest.within r2
      if c2 = ',' then
        let (ds, r3) ← items rest.1 false
        return (d :: ds, rest.within r3)
      else if c2 = ']' then return ([d], rest)
      else none
termination_by (s.length, 1)
decreasing_by
  · exact Prod.Lex.right _ Nat.zero_lt_one
  · exact Prod.Lex.left _ _ rest.2

/-- Reads the fields of a record from after its brace, or from after a comma if it is not the
`first`, to the closing brace. -/
def members (s : List Char) (first : Bool) : Option (List (String × Datum) × Left s) :=
  match token? s with
  | none => none
  | some (c, r) =>
    if c = '\x7d' ∧ first then some ([], r)
    else if c = '"' then do
      let (k, r1) ← key? r.1
      let (d, r2) ← value (r.within r1).1
      let (c3, r3) ← token? r2.1
      let rest := ((r.within r1).within r2).within r3
      if c3 = ',' then
        let (ms, r4) ← members rest.1 false
        return ((k, d) :: ms, rest.within r4)
      else if c3 = '\x7d' then return ([(k, d)], rest)
      else none
    else none
termination_by (s.length, 1)
decreasing_by
  · exact Prod.Lex.left _ _ (r.within r1).2
  · exact Prod.Lex.left _ _ rest.2

end

/-- The value that a whole text denotes. -/
def read? (s : String) : Option Datum :=
  match value s.toList with
  | some (d, rest) => if skip rest.1 = [] then some d else none
  | none => none

end Json

end Gatehouse
