import Gatehouse.Toml.Scalar
import Gatehouse.Toml.Table

/-!
# Reading TOML

The text of a TOML document (version 1.0), read into a data tree.

## Contract

* A document is its lines in order: each opens a table, sets a value in the table opened last, or
  does nothing.
* Values nest at most `maxDepth - 1` deep, and a key has at most as many names.

## Implementation notes

A key goes as far as its equals sign and a value ends at the first character that cannot continue
it, so no line is read twice. Lines are read first and then carried out (`Toml.Table`).
-/

namespace Gatehouse

namespace Toml

open Text (Left)

/-- One more than the depth to which arrays and inline tables may nest. -/
def maxDepth : Nat := 80

/-- Splits a key into the tables on its way and its last name. A key of too many names is refused,
for its tables would nest too deep. -/
def lastName? (names : List String) : Option (List String × String) :=
  if maxDepth ≤ names.length then none
  else names.getLast?.map fun k => (names.dropLast, k)

/-! ## Values -/

/-- The first character that is no blank, line break or part of a comment, and what is left after
it. -/
def symbolOnLines? (s : List Char) : Option (Char × Left s) :=
  Left.first? (skipLines s) (length_skipLines_le s)

/-- The path and last name of a key, and what is left after its equals sign. -/
def keyOfField? (s : List Char) : Option ((List String × String) × Left s) := do
  let (names, rest) ← key? s
  let k ← lastName? names
  match Left.first? rest.1 (Nat.le_refl _) with
  | some ('=', r) => return (k, rest.within r)
  | _ => none

mutual

/-- Reads a value inside `depth` others. -/
def value (s : List Char) (depth : Nat) : Option (Datum × Left s) :=
  match s with
  | [] => none
  | c :: r =>
    if c = '"' ∨ c = apostrophe then (string? (c :: r)).map fun p => (.text p.1, p.2)
    else if c = '[' then
      if maxDepth ≤ depth + 1 then none
      else (items r (depth + 1)).map fun p => (.list p.1, p.2.after c)
    else if c = '\x7b' then
      if maxDepth ≤ depth + 1 then none
      else do
        let (pairs, rest) ← members r (depth + 1) true
        let d ← tableOf pairs
        return (d, rest.after c)
    else
      match scalar? (c :: r) with
      | some (d, n + 1) => some (d, (Left.tail c r).drop n)
      | _ => none
termination_by (s.length, 0)
decreasing_by all_goals exact Prod.Lex.left _ _ (Nat.lt_succ_self _)

/-- Reads the items of an array from after its bracket or a comma to its closing bracket, which may
follow a comma. -/
def items (s : List Char) (depth : Nat) : Option (List Datum × Left s) := do
  let (c, r) ← symbolOnLines? s
  if c = ']' then return ([], r)
  else
    let (d, rest) ← value (c :: r.1) depth
    let (c2, r2) ← symbolOnLines? rest.1
    let rest := (r.again rest).within r2
    if c2 = ',' then
      let (ds, r3) ← items rest.1 depth
      return (d :: ds, rest.within r3)
    else if c2 = ']' then return ([d], rest)
    else none
termination_by (s.length, 1)
decreasing_by
  · exact r.lex_again Nat.zero_lt_one
  · exact Prod.Lex.left _ _ rest.2

/-- Reads the fields of an inline table from after its brace, or from after a comma if it is not
the `first`, to its closing brace. An inline table stands on one line. -/
def members (s : List Char) (depth : Nat) (first : Bool) :
    Option (List ((List String × String) × Datum) × Left s) :=
  match symbol? s, first with
  | some ('\x7d', r), true => some ([], r)
  | _, _ => do
    let (k, r) ← keyOfField? s
    let (c, r1) ← symbol? r.1
    let (d, r2) ← value (c :: r1.1) depth
    let (c3, r3) ← symbol? r2.1
    let rest := ((r.within r1).again r2).within r3
    if c3 = ',' then
      let (more, r4) ← members rest.1 depth false
      return ((k, d) :: more, rest.within r4)
    else if c3 = '\x7d' then return ([(k, d)], rest)
    else none
termination_by (s.length, 1)
decreasing_by
  · exact (r.within r1).lex_again Nat.zero_lt_one
  · exact Prod.Lex.left _ _ rest.2

end

/-! ## Lines -/

/-- What a line of a document does. -/
inductive Line where
  /-- Sets the value of a key. -/
  | set (path : List String) (k : String) (d : Datum)
  /-- Opens a table. -/
  | table (path : List String) (k : String)
  /-- Opens the next table of a sequence. -/
  | row (path : List String) (k : String)

/-- What is left after the rest of a line, which must be blank but for a comment. -/
def endOfLine? (s : List Char) : Option (List Char) :=
  let t := skipBlanks s
  let t := match t with
    | '#' :: r => r.dropWhile isPlain
    | t => t
  match t with
  | [] => some []
  | t => (newline? t).map (·.1)

/-- Reads one line that is not blank. -/
def line? (s : List Char) : Option (Line × List Char) :=
  match s with
  | '[' :: '[' :: r => do
    let (names, rest) ← key? r
    let (path, k) ← lastName? names
    match rest.1 with
    | ']' :: ']' :: t => return (.row path k, ← endOfLine? t)
    | _ => none
  | '[' :: r => do
    let (names, rest) ← key? r
    let (path, k) ← lastName? names
    match rest.1 with
    | ']' :: t => return (.table path k, ← endOfLine? t)
    | _ => none
  | s => do
    let (names, rest) ← key? s
    let (path, k) ← lastName? names
    match rest.1 with
    | '=' :: t =>
      let (d, rest) ← value (skipBlanks t) 0
      return (.set path k d, ← endOfLine? rest.1)
    | _ => none

/-- Reads the lines of a document, of which there are at most `fuel`. -/
def lines? : (fuel : Nat) → List Char → Option (List Line)
  | 0, _ => none
  | fuel + 1, s =>
    match skipBlanks s with
    | [] => some []
    | c :: r =>
      if c = '#' ∨ c = '\n' ∨ c = '\r' then
        match endOfLine? (c :: r) with
        | some t => lines? fuel t
        | none => none
      else do
        let (l, t) ← line? (c :: r)
        let ls ← lines? fuel t
        return l :: ls

/-! ## Documents -/

/-- A document as far as it was read. -/
structure Document where
  /-- The path of the table opened last. -/
  current : List String
  /-- All that was set. -/
  fields : Fields

/-- Carries out one line. -/
def Document.carryOut (doc : Document) : Line → Option Document
  | .set path k d => do
    let fields ← modifyOpen (setValue path k d) doc.current doc.fields
    return { doc with fields }
  | .table path k => do
    let fields ← openTable path k doc.fields
    return ⟨path ++ [k], fields⟩
  | .row path k => do
    let fields ← openRow path k doc.fields
    return ⟨path ++ [k], fields⟩

/-- The data that a document denotes. A byte order mark before it is no part of it. -/
def read? (s : String) : Option Datum := do
  let s := match s.toList with
    | c :: r => if c.toNat = 0xfeff then r else c :: r
    | [] => []
  let ls ← lines? (s.length + 1) s
  let doc ← ls.foldlM Document.carryOut ⟨[], []⟩
  return .record (fieldData doc.fields)

end Toml

end Gatehouse
