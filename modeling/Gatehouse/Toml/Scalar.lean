import Gatehouse.Datum
import Gatehouse.Text.Chars
import Gatehouse.Text.Left

/-!
# The scalars of TOML

Strings, keys, numbers, dates and times (TOML 1.0). A reader here takes the text from the first
character of a scalar on and answers the value with the text left over; what may follow a scalar is
for the reader of documents to say.

## Contract

* A line break in a string is a line feed, however it was written.
* A whole number fits 64 bits with sign, and a number with a fraction or exponent is finite or
  negative.
* A date is one of the calendar.
-/

namespace Gatehouse

namespace Toml

open Text (Left)

/-! ## Layout -/

/-- Blanks within a line. -/
def isBlank (c : Char) : Bool := c == ' ' || c == '\t'

/-- The text from the first character that is no blank on. -/
def skipBlanks (s : List Char) : List Char := s.dropWhile isBlank

theorem length_skipBlanks_le (s : List Char) : (skipBlanks s).length ≤ s.length :=
  Text.length_dropWhile_le _ _

/-- Characters that may stand in a comment or a string: no control character but the tab. -/
def isPlain (c : Char) : Bool := c == '\t' || (0x20 ≤ c.toNat && c.toNat ≠ 0x7f)

/-- What is left after a line break, if `s` begins with one. -/
def newline? : (s : List Char) → Option (Left s)
  | '\n' :: r => some (.tail '\n' r)
  | '\r' :: '\n' :: r => some (.after '\r' (.tail '\n' r))
  | _ => none

/-- The text from the first character on that is no blank or line break. -/
def skipGap (s : List Char) : List Char :=
  match newline? (skipBlanks s) with
  | some r =>
    have := r.2
    have := length_skipBlanks_le s
    skipGap r.1
  | none => skipBlanks s
termination_by s.length

theorem length_skipGap_le (s : List Char) : (skipGap s).length ≤ s.length := by
  fun_induction skipGap s with
  | case1 s r _ h1 h2 ih =>
    have := r.2
    omega
  | case2 s => exact length_skipBlanks_le s

theorem length_skipGap_lt {s : List Char} (r : Left (skipBlanks s)) :
    (skipGap r.1).length < s.length :=
  Nat.lt_of_le_of_lt (length_skipGap_le r.1) (Nat.lt_of_lt_of_le r.2 (length_skipBlanks_le s))

/-- The text from the first character on that is no blank, line break or comment. A comment ends at
the first control character. -/
def skipLines (s : List Char) : List Char :=
  match h : skipBlanks s with
  | '#' :: r =>
    have : (r.dropWhile isPlain).length < s.length := by
      have h1 := length_skipBlanks_le s
      have h2 := Text.length_dropWhile_le isPlain r
      rw [h] at h1
      simp only [List.length_cons] at h1
      omega
    skipLines (r.dropWhile isPlain)
  | t =>
    match newline? t with
    | some r =>
      have : r.1.length < s.length := by
        have h1 := length_skipBlanks_le s
        have h2 := r.2
        rw [h] at h1
        omega
      skipLines r.1
    | none => t
termination_by s.length

theorem length_skipLines_le (s : List Char) : (skipLines s).length ≤ s.length := by
  fun_induction skipLines s with
  | case1 s r _ h ih => omega
  | case2 _ _ _ _ _ ih => omega
  | case3 s => exact length_skipBlanks_le s

/-! ## Strings -/

/-- The character with a code point, which no surrogate is. -/
def charOf? (n : Nat) : Option Char :=
  if n < 0xd800 ∨ (0xe000 ≤ n ∧ n < 0x110000) then some (Char.ofNat n) else none

/-- The number written by hexadecimal digits. -/
def hexNumber? (ds : List Char) : Option Nat :=
  ds.foldlM (fun n d => (Text.hexValue? d).map (16 * n + ·)) 0

/-- Reads an escape from after its backslash. -/
def escape? : (s : List Char) → Option (Char × Left s)
  | [] => none
  | c :: r =>
    let one (e : Char) : Option (Char × Left (c :: r)) := some (e, .tail c r)
    let coded (n : Nat) : Option (Char × Left (c :: r)) :=
      if (r.take n).length = n then do
        let code ← hexNumber? (r.take n)
        let e ← charOf? code
        return (e, (Left.tail c r).drop n)
      else none
    if c = 'b' then one (Char.ofNat 8)
    else if c = 't' then one '\t'
    else if c = 'n' then one '\n'
    else if c = 'f' then one (Char.ofNat 12)
    else if c = 'r' then one '\r'
    else if c = '"' then one '"'
    else if c = '\\' then one '\\'
    else if c = 'u' then coded 4
    else if c = 'U' then coded 8
    else none

/-- Reads a one-line string with escapes from after its opening quote. -/
def basic (s : List Char) : Option (List Char × Left s) :=
  match s with
  | [] => none
  | c :: r =>
    if c = '"' then some ([], .tail c r)
    else if c = '\\' then do
      let (e, rest) ← escape? r
      let (cs, rest2) ← basic rest.1
      return (e :: cs, (rest.within rest2).after c)
    else if isPlain c then do
      let (cs, rest) ← basic r
      return (c :: cs, rest.after c)
    else none
termination_by s.length
decreasing_by
  · exact (rest.after c).2
  · exact Nat.lt_succ_self _

/-- Reads a one-line string without escapes from after its opening quote. -/
def literal : (s : List Char) → Option (List Char × Left s)
  | [] => none
  | c :: r =>
    if c.toNat = 39 then some ([], .tail c r)
    else if isPlain c then do
      let (cs, rest) ← literal r
      return (c :: cs, rest.after c)
    else none

/-- What is left after a line break, and the blanks before and the gap after it. -/
def afterBreak? (s : List Char) : Option (Left s) :=
  (newline? (skipBlanks s)).map fun r => ⟨skipGap r.1, length_skipGap_lt r⟩

/-- Reads a string of several lines from after its opening quotes. Fewer than three quotes in a row
are part of the string, and so are up to two before the three that close it. -/
def manyLines (quote : Char) (escapes : Bool) (s : List Char) : Option (List Char × Left s) :=
  match s with
  | [] => none
  | c :: r =>
    if c = quote then
      let run := (c :: r).takeWhile (· == quote)
      if 3 ≤ run.length then
        let extra := min 2 (run.length - 3)
        some (List.replicate extra quote, (Left.tail c r).drop (extra + 2))
      else do
        let (cs, rest) ← manyLines quote escapes r
        return (c :: cs, rest.after c)
    else if c = '\\' ∧ escapes then
      match afterBreak? r with
      | some text => do
        let (cs, rest) ← manyLines quote escapes text.1
        return (cs, (text.within rest).after c)
      | none => do
        let (e, text) ← escape? r
        let (cs, rest) ← manyLines quote escapes text.1
        return (e :: cs, (text.within rest).after c)
    else
      match newline? (c :: r) with
      | some text => do
        let (cs, rest) ← manyLines quote escapes text.1
        return ('\n' :: cs, text.within rest)
      | none =>
        if isPlain c then do
          let (cs, rest) ← manyLines quote escapes r
          return (c :: cs, rest.after c)
        else none
termination_by s.length
decreasing_by
  · exact Nat.lt_succ_self _
  · exact (text.after c).2
  · exact (text.after c).2
  · exact text.2
  · exact Nat.lt_succ_self _

/-- The apostrophe, which quotes strings without escapes. -/
def apostrophe : Char := Char.ofNat 39

/-- Reads a string of several lines from after its opening quotes. A line break right after them is
not part of it. -/
def openManyLines (quote : Char) (escapes : Bool) (s : List Char) : Option (List Char × Left s) :=
  match newline? s with
  | some after => (manyLines quote escapes after.1).map fun p =>
      (p.1, after.within p.2)
  | none => manyLines quote escapes s

/-- Reads a string of any of the four kinds. -/
def string? (s : List Char) : Option (String × Left s) :=
  match s with
  | '"' :: '"' :: '"' :: r => (openManyLines '"' true r).map fun p =>
      (String.ofList p.1, ((p.2.after '"').after '"').after '"')
  | '"' :: r => (basic r).map fun p => (String.ofList p.1, p.2.after '"')
  | c :: r =>
    if c = apostrophe then
      match r with
      | d :: e :: r2 =>
        if d = apostrophe ∧ e = apostrophe then
          (openManyLines apostrophe false r2).map fun p =>
            (String.ofList p.1, ((p.2.after e).after d).after c)
        else (literal (d :: e :: r2)).map fun p => (String.ofList p.1, p.2.after c)
      | r => (literal r).map fun p => (String.ofList p.1, p.2.after c)
    else none
  | [] => none

/-! ## Keys -/

/-- Characters of a key that is not quoted. -/
def isBare (c : Char) : Bool := Text.isAlpha c || Text.isDigit c || c == '-' || c == '_'

/-- Reads a key that is one name. -/
def simpleKey? (s : List Char) : Option (String × Left s) :=
  match s with
  | [] => none
  | c :: r =>
    if c = '"' then (basic r).map fun p => (String.ofList p.1, p.2.after c)
    else if c = apostrophe then (literal r).map fun p => (String.ofList p.1, p.2.after c)
    else if isBare c then
      some (String.ofList (c :: r.takeWhile isBare), (Left.tail c r).skip isBare)
    else none

/-- Reads a name after blanks. -/
def nameAfterBlanks? (s : List Char) : Option (String × Left s) :=
  (simpleKey? (skipBlanks s)).map fun p => (p.1, p.2.of (length_skipBlanks_le s))

/-- The first character that is no blank, and what is left after it. -/
def symbol? (s : List Char) : Option (Char × Left s) :=
  Left.first? (skipBlanks s) (length_skipBlanks_le s)

/-- Reads a key: names with dots between, and blanks around each. -/
def key? (s : List Char) : Option (List String × Left s) := do
  let (name, rest) ← nameAfterBlanks? s
  match symbol? rest.1 with
  | some ('.', r) =>
    let (names, rest2) ← key? (rest.within r).1
    return (name :: names, (rest.within r).within rest2)
  | _ => return ([name], rest.skip isBlank)
termination_by s.length
decreasing_by exact (rest.within r).2

/-! ## Numbers -/

/-- Reads digits of a base with single underscores between them: the digits and how many
characters they take. -/
def groups? (isOne : Char → Bool) : List Char → Option (List Char × Nat)
  | [] => none
  | c :: r =>
    if isOne c then
      match r with
      | '_' :: r2 => (groups? isOne r2).map fun p => (c :: p.1, p.2 + 2)
      | r2 =>
        match groups? isOne r2 with
        | some p => some (c :: p.1, p.2 + 1)
        | none => some ([c], 1)
    else none

/-- Reads an optional sign: whether it is a minus, and its length. -/
def sign (s : List Char) : Bool × Nat :=
  match s with
  | '-' :: _ => (true, 1)
  | '+' :: _ => (false, 1)
  | _ => (false, 0)

/-- Reads the digits of a decimal whole number. A number of several digits does not begin with
zero. -/
def decimalDigits? (s : List Char) : Option (List Char × Nat) :=
  match s with
  | '0' :: _ => some (['0'], 1)
  | _ => groups? Text.isDigit s

/-- The value of hexadecimal, octal or binary digits. -/
def inBase (base : Nat) (ds : List Char) : Nat :=
  ds.foldl (fun n d => base * n + (Text.hexValue? d).getD 0) 0

/-- Reads a number in another base than ten from after its leading `0x`, `0o` or `0b`. -/
def based? (base : Nat) (s : List Char) : Option (Int × Nat) := do
  let isOne (c : Char) : Bool := match Text.hexValue? c with
    | some v => v < base
    | none => false
  let (ds, n) ← groups? isOne s
  let v := inBase base ds
  if (v : Int) ≤ Int64.maxValue.toInt then some ((v : Int), n + 2) else none

/-- Reads a whole number: its value and its length. -/
def integer? (s : List Char) : Option (Int × Nat) :=
  match s with
  | '0' :: 'x' :: r => based? 16 r
  | '0' :: 'o' :: r => based? 8 r
  | '0' :: 'b' :: r => based? 2 r
  | _ => do
    let (negative, n) := sign s
    let (ds, m) ← decimalDigits? (s.drop n)
    let v : Int := Text.decimal ds
    let v := if negative then -v else v
    if Int64.minValue.toInt ≤ v ∧ v ≤ Int64.maxValue.toInt then some (v, n + m) else none

/-- Whether a decimal number is too large to be a finite 64-bit binary fraction, from its digits and
the power of ten that multiplies them. The bound is half a step above the largest such fraction. -/
def overflows (ds : List Char) (power : Int) : Bool :=
  let m := Text.decimal ds
  let bound := Nat.pow 2 1024 - Nat.pow 2 970
  let size := (toString m).length + power
  if m = 0 ∨ size < 300 then false
  else if 320 < size then true
  else if 0 ≤ power then bound ≤ m * Nat.pow 10 power.toNat
  else bound * Nat.pow 10 (-power).toNat ≤ m

/-- Reads an exponent: its value and its length. -/
def exponent? (s : List Char) : Option (Int × Nat) :=
  match s with
  | c :: r =>
    if c = 'e' ∨ c = 'E' then do
      let (negative, n) := sign r
      let (ds, m) ← groups? Text.isDigit (r.drop n)
      let v : Int := Text.decimal ds
      return (if negative then -v else v, n + m + 1)
    else none
  | [] => none

/-- Reads a number with a fraction or an exponent, or one of the names of numbers that are not
finite: its length. -/
def float? (s : List Char) : Option Nat := do
  let (negative, n) := sign s
  let r := s.drop n
  if r.take 3 = ['i', 'n', 'f'] ∨ r.take 3 = ['n', 'a', 'n'] then return n + 3
  let (whole, m) ← decimalDigits? r
  let r := r.drop m
  match r with
  | '.' :: r2 =>
    let (frac, k) ← groups? Text.isDigit r2
    let (power, l) := (exponent? (r2.drop k)).getD (0, 0)
    if !negative && overflows (whole ++ frac) (power - frac.length) then none
    else return n + m + 1 + k + l
  | r =>
    let (power, l) ← exponent? r
    if !negative && overflows whole power then none else return n + m + l

/-! ## Dates and times -/

/-- Reads exactly `n` digits, as a number from `least` to `most`. -/
def fixed? (n least most : Nat) (s : List Char) : Option (Nat × List Char) :=
  let ds := s.take n
  if ds.length = n ∧ ds.all Text.isDigit ∧ least ≤ Text.decimal ds ∧ Text.decimal ds ≤ most then
    some (Text.decimal ds, s.drop n)
  else none

/-- What is left after the character `c`. -/
def char? (c : Char) (s : List Char) : Option (List Char) :=
  match s with
  | d :: r => if c = d then some r else none
  | [] => none

/-- How many days a month has. -/
def daysIn (year month : Nat) : Nat :=
  if month = 2 then
    if year % 4 = 0 ∧ (year % 100 ≠ 0 ∨ year % 400 = 0) then 29 else 28
  else if month = 4 ∨ month = 6 ∨ month = 9 ∨ month = 11 then 30
  else 31

/-- What is left after a date. -/
def date? (s : List Char) : Option (List Char) := do
  let (year, r) ← fixed? 4 0 9999 s
  let r ← char? '-' r
  let (month, r) ← fixed? 2 1 12 r
  let r ← char? '-' r
  let (_, r) ← fixed? 2 1 (daysIn year month) r
  return r

/-- What is left after a time of day. -/
def time? (s : List Char) : Option (List Char) := do
  let (_, r) ← fixed? 2 0 23 s
  let r ← char? ':' r
  let (_, r) ← fixed? 2 0 59 r
  let r ← char? ':' r
  let (_, r) ← fixed? 2 0 60 r
  match r with
  | '.' :: d :: r2 => if Text.isDigit d then return r2.dropWhile Text.isDigit else return r
  | r => return r

/-- What is left after an offset from universal time, which may be absent. -/
def offset (s : List Char) : Option (List Char) :=
  match s with
  | c :: r =>
    if c = 'Z' ∨ c = 'z' then some r
    else if c = '+' ∨ c = '-' then do
      let (_, r) ← fixed? 2 0 23 r
      let r ← char? ':' r
      let (_, r) ← fixed? 2 0 59 r
      return r
    else some (c :: r)
  | [] => some []

/-- Reads a date, a time of day or both: its length. -/
def moment? (s : List Char) : Option Nat :=
  match date? s with
  | some r =>
    match r with
    | c :: r2 =>
      if c = 'T' ∨ c = 't' ∨ c = ' ' then
        match time? r2 with
        | some r3 => (offset r3).map fun r4 => s.length - r4.length
        | none => some (s.length - r.length)
      else some (s.length - r.length)
    | [] => some s.length
  | none => (time? s).map fun r => s.length - r.length

/-! ## Scalars -/

/-- Reads a scalar that is no string: its value and its length. -/
def scalar? (s : List Char) : Option (Datum × Nat) :=
  match s with
  | [] => none
  | c :: r =>
    if c = 't' then
      if r.take 3 = ['r', 'u', 'e'] then some (.bool true, 4) else none
    else if c = 'f' then
      if r.take 4 = ['a', 'l', 's', 'e'] then some (.bool false, 5) else none
    else if c = 'i' ∨ c = 'n' ∨ c = '+' ∨ c = '-' ∨ Text.isDigit c then
      match moment? s with
      | some n => some (.moment (String.ofList (s.take n)), n)
      | none =>
        match float? s with
        | some n => some (.real (String.ofList (s.take n)), n)
        | none => (integer? s).map fun p => (.int p.1, p.2)
    else none

end Toml

end Gatehouse
