import Gatehouse.Datum

/-!
# Values read from and written to data trees

How a value of one of the gateway's types stands in a data tree. A structure is a record of its
fields, or the list of its fields in their order; an enumeration is the name of one of its cases; a
field that may be absent is `null` or left out.

## Contract

* Unknown fields are ignored and repeated known fields are refused.
* A whole number is refused when it is outside the range of its field.
* `null` is read only where a value may be absent.

## Implementation notes

The two written formats differ in three places, collected in `Dialect`: whether a list may be longer
than the structure it is read as, what may stand beside the name of a case, and whether a date can
occur, which is then read as a record of no known field.
-/

namespace Gatehouse

/-- Why a data tree is not a value of the type asked for. -/
inductive Mismatch where
  /-- The tree has another shape: a string for a number, say. -/
  | shape
  /-- A whole number is outside the range of its field. -/
  | range
  /-- A field that has no default is absent. -/
  | missing (field : String)
  /-- A field stands twice. -/
  | repeated (field : String)
  /-- A list is longer than the structure read from it. -/
  | excess
  /-- No case of the enumeration has this name. -/
  | unknownCase (name : String)
  deriving DecidableEq, Repr

/-- A written format. -/
inductive Dialect where
  | json
  | toml
  deriving DecidableEq, Repr

/-- A way to read a value from a data tree. -/
abbrev Shape (α : Type) := Datum → Except Mismatch α

namespace Shape

/-! ## Scalars -/

/-- Reads a string. -/
def text : Shape String
  | .text s => .ok s
  | _ => .error .shape

/-- Reads a truth value. -/
def bool : Shape Bool
  | .bool b => .ok b
  | _ => .error .shape

/-- Reads a whole number from `least` to `most`. -/
def intIn (least most : Int) : Shape Int
  | .int i => if least ≤ i ∧ i ≤ most then .ok i else .error .range
  | _ => .error .shape

/-- Reads a signed 64-bit number. -/
def int64 (d : Datum) : Except Mismatch Int64 :=
  (intIn Int64.minValue.toInt Int64.maxValue.toInt d).map Int64.ofInt

/-- Reads a number from zero to `most`. -/
def natTo (most : Nat) (d : Datum) : Except Mismatch Nat :=
  (intIn 0 most d).map Int.toNat

/-- Reads an unsigned 64-bit number. -/
def uint64 (d : Datum) : Except Mismatch UInt64 := (natTo (UInt64.size - 1) d).map UInt64.ofNat

/-- Reads an unsigned 32-bit number. -/
def uint32 (d : Datum) : Except Mismatch UInt32 := (natTo (UInt32.size - 1) d).map UInt32.ofNat

/-- Reads an unsigned 16-bit number. -/
def uint16 (d : Datum) : Except Mismatch UInt16 := (natTo (UInt16.size - 1) d).map UInt16.ofNat

/-! ## Values that may be absent, and sequences -/

/-- Reads a value, or its absence. -/
def optional (item : Shape α) : Shape (Option α)
  | .null => .ok none
  | d => (item d).map some

/-- Reads every item in turn. -/
def mapItems (item : Shape α) : List Datum → Except Mismatch (List α)
  | [] => .ok []
  | d :: r => do
    let a ← item d
    let as ← mapItems item r
    return a :: as

/-- Reads a sequence. -/
def list (item : Shape α) : Shape (List α)
  | .list ds => mapItems item ds
  | _ => .error .shape

/-! ## Enumerations -/

/-- Whether a tree is what may stand beside the name of a case that carries nothing. -/
def isNothing (dialect : Dialect) : Datum → Bool
  | .null => dialect == .json
  | .record [] => dialect == .toml
  | .list [] => dialect == .toml
  | _ => false

/-- Reads the name of a case: as a string, or as the only field of a record. -/
def caseName (dialect : Dialect) : Shape String
  | .text name => .ok name
  | .record [(name, d)] => if isNothing dialect d then .ok name else .error .shape
  | _ => .error .shape

/-- Reads one of the listed cases by its name. -/
def oneOf (dialect : Dialect) (cases : List (String × α)) (d : Datum) : Except Mismatch α := do
  let name ← caseName dialect d
  match cases.lookup name with
  | some a => .ok a
  | none => .error (.unknownCase name)

/-! ## Structures -/

/-- The fields of a structure as they were written. -/
structure Parts where
  /-- Whether the fields were listed in order and without names. -/
  positional : Bool
  /-- The fields, by name. -/
  fields : List (String × Datum)

/-- The first of `names` that is the name of two fields. -/
def repeated? (names : List String) (fields : List (String × Datum)) : Option String :=
  names.find? fun n => 1 < (fields.filter fun f => f.1 = n).length

/-- Takes a structure with the given fields apart. -/
def parts (dialect : Dialect) (names : List String) : Datum → Except Mismatch Parts
  | .record fields =>
    match repeated? names fields with
    | some n => .error (.repeated n)
    | none => .ok ⟨false, fields⟩
  | .list items =>
    if dialect = .json ∧ names.length < items.length then .error .excess
    else .ok ⟨true, names.zip items⟩
  | .moment _ => .ok ⟨false, []⟩
  | _ => .error .shape

/-- Reads a field that must be present. -/
def Parts.required (p : Parts) (name : String) (item : Shape α) : Except Mismatch α :=
  match Datum.field? name p.fields with
  | some d => item d
  | none => .error (.missing name)

/-- Reads a field that has a default. -/
def Parts.withDefault (p : Parts) (name : String) (default : α) (item : Shape α) :
    Except Mismatch α :=
  match Datum.field? name p.fields with
  | some d => item d
  | none => .ok default

/-- Reads a field that may be left out of a record, though not out of a list. -/
def Parts.optional (p : Parts) (name : String) (item : Shape α) : Except Mismatch (Option α) :=
  match Datum.field? name p.fields with
  | some d => Shape.optional item d
  | none => if p.positional then .error (.missing name) else .ok none

end Shape

/-! ## Writing -/

namespace Datum

/-- A value that may be absent, as `null` when it is. -/
def ofOption (write : α → Datum) : Option α → Datum
  | none => null
  | some a => write a

/-- A natural number. -/
def nat (n : Nat) : Datum := int n

/-- A text that may be absent. -/
def ofText? (s : Option String) : Datum := ofOption text s

end Datum

end Gatehouse
