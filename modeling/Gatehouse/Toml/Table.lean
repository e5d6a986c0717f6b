import Gatehouse.Datum

/-!
# Tables under construction

A TOML document names its tables in several ways, and what may still be added to a table depends on
how it came to be. This module holds the tables while a document is read and says which additions
are allowed; `Toml.Reader` reads the document.

## Contract

* No key is set twice.
* A header opens a table at most once. A table that exists only because a header named a table
  inside it may still be opened.
* A dotted key adds to a table only if a dotted key made it.
* A finished value, inline tables included, is never added to.
-/

namespace Gatehouse

namespace Toml

/-- How a table came to be. -/
inductive Origin where
  /-- Opened by its own header. -/
  | header
  /-- Named on the way to another table's header. -/
  | implied
  /-- Named on the way to a value, in a dotted key. -/
  | dotted
  deriving DecidableEq, Repr

/-- What a key of a table stands for. -/
inductive Item where
  /-- A finished value. -/
  | value (d : Datum)
  /-- A table. -/
  | table (origin : Origin) (fields : List (String × Item))
  /-- A sequence of tables opened by headers, the last one first. -/
  | rows (last : List (String × Item)) (earlier : List (List (String × Item)))

/-- The keys of a table and what they stand for. -/
abbrev Fields := List (String × Item)

namespace Fields

/-- What a key stands for. -/
def get? (k : String) : Fields → Option Item
  | [] => none
  | (k', i) :: r => if k' = k then some i else get? k r

/-- Lets a key stand for something, in its old place if it has one. -/
def set (k : String) (i : Item) : Fields → Fields
  | [] => [(k, i)]
  | (k', j) :: r => if k' = k then (k, i) :: r else (k', j) :: set k i r

/-- Forgets a key. -/
def erase (k : String) (fs : Fields) : Fields := fs.filter fun f => f.1 ≠ k

end Fields

/-- Changes the table at the end of a path, making the tables on the way that are not there. `made`
is what makes them, a header or a dotted key; a dotted key does not pass through a table that has a
header of its own. -/
def modifyAt (made : Origin) (change : Origin → Fields → Option Fields) :
    List String → Origin → Fields → Option Fields
  | [], origin, fs => change origin fs
  | k :: path, _, fs =>
    match Fields.get? k fs with
    | none => do
      let inner ← modifyAt made change path made []
      return Fields.set k (.table made inner) fs
    | some (.value _) => none
    | some (.table origin inner) => do
      if made = .dotted ∧ origin = .header then none
      let inner ← modifyAt made change path origin inner
      return Fields.set k (.table origin inner) fs
    | some (.rows last earlier) => do
      let last ← modifyAt made change path .header last
      return Fields.set k (.rows last earlier) fs

/-- Sets the value of a possibly dotted key. -/
def setValue (path : List String) (k : String) (d : Datum) (fs : Fields) : Option Fields :=
  modifyAt .dotted (fun origin inner =>
    if path ≠ [] ∧ origin ≠ .dotted then none
    else if (Fields.get? k inner).isSome then none
    else some (Fields.set k (.value d) inner)) path .header fs

/-- Opens the table that a header names. -/
def openTable (path : List String) (k : String) (fs : Fields) : Option Fields :=
  modifyAt .implied (fun _ inner =>
    match Fields.get? k inner with
    | none => some (Fields.set k (.table .header []) inner)
    | some (.table .implied fields) => some (Fields.set k (.table .header fields) inner)
    | some _ => none) path .header fs

/-- Opens the next table of the sequence that a header names. -/
def openRow (path : List String) (k : String) (fs : Fields) : Option Fields :=
  modifyAt .implied (fun _ inner =>
    match Fields.get? k inner with
    | none => some (Fields.set k (.rows [] []) inner)
    | some (.rows last earlier) => some (Fields.set k (.rows [] (last :: earlier)) inner)
    | some _ => none) path .header fs

/-- Changes the fields of the table that was opened last at a path. -/
def modifyOpen (change : Fields → Option Fields) : List String → Fields → Option Fields
  | [], fs => change fs
  | k :: path, fs =>
    match Fields.get? k fs with
    | some (.table origin inner) => do
      let inner ← modifyOpen change path inner
      return Fields.set k (.table origin inner) fs
    | some (.rows last earlier) => do
      let last ← modifyOpen change path last
      return Fields.set k (.rows last earlier) fs
    | _ => none

/-! ## Finished tables -/

mutual

/-- What a key stands for, as data. -/
def Item.toDatum : Item → Datum
  | .value d => d
  | .table _ fields => .record (fieldData fields)
  | .rows last earlier => .list (rowData earlier [.record (fieldData last)])

/-- The keys of a table and what they stand for, as data. -/
def fieldData : List (String × Item) → List (String × Datum)
  | [] => []
  | (k, i) :: r => (k, i.toDatum) :: fieldData r

/-- The tables of a sequence, given last one first, in their order and before `after`. -/
def rowData : List (List (String × Item)) → List Datum → List Datum
  | [], after => after
  | fields :: r, after => rowData r (.record (fieldData fields) :: after)

end

/-- A table with the values of possibly dotted keys. -/
def tableOf (pairs : List ((List String × String) × Datum)) : Option Datum :=
  (pairs.foldlM (fun fs p => setValue p.1.1 p.1.2 p.2 fs) []).map fun fs => .record (fieldData fs)

end Toml

end Gatehouse
