import Gatehouse.Text.Chars

/-!
# Header fields

The header fields of a message, in the order in which they stand. A name is kept in lower case; the
same name may stand several times.

A value may hold any byte that does not end the field. Most of the gateway looks only at values that
are printable ASCII; any other value is passed on but not read.

## Main results

* `get?_set` — a field that was set is the one found, and no other field is touched.
-/

namespace Gatehouse

namespace Http

/-! ## Names -/

/-- The characters of names and methods. -/
def isToken (c : Char) : Bool :=
  Text.isAlpha c || Text.isDigit c || "!#$%&'*+-.^_|~".toList.contains c || c.toNat == 0x60

/-- Greatest length of a header name. -/
def maxNameLength : Nat := 65535

/-- A header name in lower case, if it is one. -/
def headerName? (s : String) : Option String :=
  let cs := s.toList
  if cs ≠ [] && cs.all isToken && cs.length ≤ maxNameLength then
    some (String.ofList (cs.map Text.lowerAscii))
  else none

/-! ## Values -/

/-- Whether a text can be the value of a field: it holds no control character but the tabulator. -/
def isHeaderValue (s : String) : Bool :=
  s.toList.all fun c => c == '\t' || (0x20 ≤ c.toNat && c.toNat ≠ 0x7f)

/-- Whether a value is printable ASCII. -/
def isReadable (s : String) : Bool :=
  s.toList.all fun c => c == '\t' || (0x20 ≤ c.toNat && c.toNat < 0x7f)

/-- A value as far as it is read. -/
def readable? (s : String) : Option String := if isReadable s then some s else none

/-! ## Fields -/

/-- The fields of a message: names in lower case, and values. -/
structure Headers where
  fields : List (String × String)
  deriving DecidableEq, Repr

namespace Headers

/-- No fields. -/
def empty : Headers := ⟨[]⟩

instance : Inhabited Headers := ⟨empty⟩

/-- Adds a field after those that are there. -/
def append (h : Headers) (name value : String) : Headers := ⟨h.fields ++ [(name, value)]⟩

/-- The value of the first field of a name. -/
def get? (h : Headers) (name : String) : Option String := h.fields.lookup name

/-- The values of all fields of a name, in order. -/
def all (h : Headers) (name : String) : List String :=
  (h.fields.filter fun f => f.1 = name).map Prod.snd

/-- The first value of a name, if it can be read. A later field does not stand in for it. -/
def read? (h : Headers) (name : String) : Option String := (h.get? name).bind readable?

/-- The values of a name that can be read, in order. -/
def readAll (h : Headers) (name : String) : List String := (h.all name).filterMap readable?

/-- The fields without those of a name. -/
def without (h : Headers) (name : String) : Headers := ⟨h.fields.filter fun f => f.1 ≠ name⟩

/-- Replaces the fields of a name by one, where the first of them stood. -/
def setFields (name value : String) : List (String × String) → List (String × String)
  | [] => [(name, value)]
  | (k, v) :: r =>
    if k = name then (name, value) :: r.filter fun f => f.1 ≠ name
    else (k, v) :: setFields name value r

/-- Replaces the fields of a name by one. -/
def set (h : Headers) (name value : String) : Headers := ⟨setFields name value h.fields⟩

theorem lookup_cons_pair (x k v : String) (fs : List (String × String)) :
    ((k, v) :: fs).lookup x = if x = k then some v else fs.lookup x := by
  by_cases h : x = k
  · simp [h]
  · have hb : (x == k) = false := by simpa using h
    simp [List.lookup_cons, h, hb]

theorem lookup_filter_ne (x name : String) (h : x ≠ name) (fs : List (String × String)) :
    (fs.filter fun f => f.1 ≠ name).lookup x = fs.lookup x := by
  induction fs with
  | nil => rfl
  | cons f r ih =>
    obtain ⟨k, v⟩ := f
    by_cases hk : k = name
    · have hx : x ≠ k := hk ▸ h
      rw [List.filter_cons_of_neg (by simp [hk]), ih, lookup_cons_pair, if_neg hx]
    · rw [List.filter_cons_of_pos (by simp [hk]), lookup_cons_pair, lookup_cons_pair, ih]

theorem lookup_setFields (name value x : String) (fs : List (String × String)) :
    (setFields name value fs).lookup x = if x = name then some value else fs.lookup x := by
  induction fs with
  | nil => rw [setFields, lookup_cons_pair]
  | cons f r ih =>
    obtain ⟨k, v⟩ := f
    by_cases hk : k = name
    · subst hk
      by_cases hx : x = k
      · simp [setFields, hx]
      · rw [setFields, if_pos rfl, lookup_cons_pair, lookup_cons_pair, if_neg hx, if_neg hx,
          if_neg hx, lookup_filter_ne x k hx]
    · rw [setFields, if_neg hk, lookup_cons_pair, lookup_cons_pair, ih]
      by_cases hx : x = name
      · simp [hx, Ne.symm hk]
      · simp [hx]

theorem get?_set (h : Headers) (name value x : String) :
    (h.set name value).get? x = if x = name then some value else h.get? x :=
  lookup_setFields name value x h.fields

end Headers

end Http

end Gatehouse
