/-!
# Data trees

What a configuration file or a message says, before anyone asks what it means: one tree type for
every written format the gateway reads. `Toml` and `Json` read text into it, `Shape` reads values
of the gateway's own types out of it and writes them into it.

A record keeps its fields in the order written, and keeps a repeated field twice, because whether
repetition is a fault depends on the reader.
-/

namespace Gatehouse

/-- A data tree. -/
inductive Datum where
  /-- The explicit absence of a value. -/
  | null
  /-- A truth value. -/
  | bool (value : Bool)
  /-- A whole number written as one. -/
  | int (value : Int)
  /-- A number written with a fraction or an exponent, or too large for 64 bits. The gateway reads
  no such number, so only its text is kept. -/
  | real (literal : String)
  /-- A string. -/
  | text (value : String)
  /-- A date or a time of day, as written. -/
  | moment (literal : String)
  /-- A sequence. -/
  | list (items : List Datum)
  /-- Named fields, in the order written. -/
  | record (fields : List (String × Datum))
  deriving Inhabited

namespace Datum

/-- The value of the first field called `name`. -/
def field? (name : String) : List (String × Datum) → Option Datum
  | [] => none
  | (k, v) :: r => if k = name then some v else field? name r

/-- Keeps the last of several fields of one name, where its first one stood. -/
def overrideFields : List (String × Datum) → List (String × Datum)
  | [] => []
  | (k, v) :: r =>
    let later := overrideFields r
    match field? k later with
    | some w => (k, w) :: later.filter fun f => f.1 ≠ k
    | none => (k, v) :: later

mutual

/-- Reads every record as a table, in which a repeated field replaces the earlier one. -/
def asTables : Datum → Datum
  | list items => list (asTablesList items)
  | record fields => record (overrideFields (asTablesFields fields))
  | d => d

/-- Each item with its nested fields as tables. -/
def asTablesList : List Datum → List Datum
  | [] => []
  | d :: r => asTables d :: asTablesList r

/-- Each field with the nested fields of its value as tables. -/
def asTablesFields : List (String × Datum) → List (String × Datum)
  | [] => []
  | (k, d) :: r => (k, asTables d) :: asTablesFields r

end

end Datum

end Gatehouse
