/-!
# Finite tables

A table has a value for each of finitely many keys, and remembers in which order the keys came. The
stores, the counters and the registry are all tables.

## Main results

* `get?_set`, `get?_erase`, `get?_filter` — each operation, seen through look-up.
* `size_filter_add_size_filter_not` — nothing is lost when a table is divided in two.
-/

namespace Gatehouse

/-- A value for each of finitely many keys. -/
structure Table (K V : Type) where
  /-- The keys and their values, oldest key first. -/
  entries : List (K × V)
  /-- No key stands twice. -/
  nodup : (entries.map Prod.fst).Nodup

namespace Table

variable {K V : Type} [DecidableEq K]

/-! ## Operations -/

/-- The table without keys. -/
def empty : Table K V := ⟨[], List.nodup_nil⟩

instance : Inhabited (Table K V) := ⟨empty⟩

/-- The number of keys. -/
def size (t : Table K V) : Nat := t.entries.length

/-- The value found for a key in a list of entries. -/
def lookup (k : K) : List (K × V) → Option V
  | [] => none
  | (k', v) :: r => if k' = k then some v else lookup k r

/-- The value of a key. -/
def get? (t : Table K V) (k : K) : Option V := lookup k t.entries

/-- A list of entries in which a key has a given value, at its old place or at the end. -/
def setEntry (k : K) (v : V) : List (K × V) → List (K × V)
  | [] => [(k, v)]
  | (k', w) :: r => if k' = k then (k, v) :: r else (k', w) :: setEntry k v r

theorem mem_keys_setEntry {k x : K} {v : V} {es : List (K × V)} :
    x ∈ (setEntry k v es).map Prod.fst ↔ x = k ∨ x ∈ es.map Prod.fst := by
  induction es with
  | nil => simp [setEntry]
  | cons e r ih =>
    obtain ⟨k', w⟩ := e
    by_cases h : k' = k
    · subst h
      simp [setEntry]
    · simp only [setEntry, if_neg h, List.map_cons, List.mem_cons, ih]
      constructor <;> rintro (h | h | h) <;> simp [h]

theorem nodup_keys_setEntry {k : K} {v : V} {es : List (K × V)}
    (h : (es.map Prod.fst).Nodup) : ((setEntry k v es).map Prod.fst).Nodup := by
  induction es with
  | nil => simp [setEntry]
  | cons e r ih =>
    obtain ⟨k', w⟩ := e
    simp only [List.map_cons, List.nodup_cons] at h
    by_cases hk : k' = k
    · subst hk
      simpa [setEntry] using h
    · simp only [setEntry, if_neg hk, List.map_cons, List.nodup_cons]
      refine ⟨?_, ih h.2⟩
      rw [mem_keys_setEntry]
      rintro (rfl | h')
      · exact hk rfl
      · exact h.1 h'

/-- Gives a key a value. -/
def set (t : Table K V) (k : K) (v : V) : Table K V :=
  ⟨setEntry k v t.entries, nodup_keys_setEntry t.nodup⟩

/-- Keeps the entries that satisfy `p`. -/
def filter (t : Table K V) (p : K → V → Bool) : Table K V :=
  ⟨t.entries.filter fun e => p e.1 e.2, t.nodup.sublist (List.filter_sublist.map _)⟩

/-- Forgets a key. -/
def erase (t : Table K V) (k : K) : Table K V := t.filter fun k' _ => k' ≠ k

/-! ## Operations seen through look-up -/

@[simp] theorem get?_empty (k : K) : (empty : Table K V).get? k = none := rfl

theorem lookup_setEntry (k x : K) (v : V) (es : List (K × V)) :
    lookup x (setEntry k v es) = if x = k then some v else lookup x es := by
  induction es with
  | nil =>
    simp only [setEntry, lookup]
    by_cases h : x = k
    · simp [h]
    · simp [h, Ne.symm h]
  | cons e r ih =>
    obtain ⟨k', w⟩ := e
    by_cases hk : k' = k
    · subst hk
      by_cases hx : x = k'
      · simp [setEntry, lookup, hx]
      · simp [setEntry, lookup, hx, Ne.symm hx]
    · by_cases hx : x = k
      · subst hx
        simp [setEntry, lookup, hk, ih]
      · simp [setEntry, lookup, hk, ih, hx]

theorem get?_set (t : Table K V) (k x : K) (v : V) :
    (t.set k v).get? x = if x = k then some v else t.get? x :=
  lookup_setEntry k x v t.entries

theorem lookup_eq_none {k : K} {es : List (K × V)} (h : k ∉ es.map Prod.fst) :
    lookup k es = none := by
  induction es with
  | nil => rfl
  | cons e r ih =>
    obtain ⟨k', w⟩ := e
    simp only [List.map_cons, List.mem_cons, not_or] at h
    simp [lookup, Ne.symm h.1, ih h.2]

theorem lookup_filter {p : K → V → Bool} {es : List (K × V)} (h : (es.map Prod.fst).Nodup)
    (k : K) : lookup k (es.filter fun e => p e.1 e.2) = (lookup k es).filter (p k) := by
  induction es with
  | nil => rfl
  | cons e r ih =>
    obtain ⟨k', w⟩ := e
    simp only [List.map_cons, List.nodup_cons] at h
    by_cases hk : k' = k
    · subst hk
      by_cases hp : p k' w = true
      · simp [lookup, hp, Option.filter]
      · have hr : lookup k' (r.filter fun e => p e.1 e.2) = none :=
          lookup_eq_none fun hmem =>
            h.1 ((List.filter_sublist.map Prod.fst).subset hmem)
        simp [lookup, hp, hr, Option.filter]
    · by_cases hp : p k' w = true
      · simp [lookup, hp, hk, ih h.2]
      · simp [lookup, hp, hk, ih h.2]

theorem get?_filter (t : Table K V) (p : K → V → Bool) (k : K) :
    (t.filter p).get? k = (t.get? k).filter (p k) :=
  lookup_filter t.nodup k

theorem get?_erase (t : Table K V) (k x : K) :
    (t.erase k).get? x = if x = k then none else t.get? x := by
  rw [erase, get?_filter]
  by_cases h : x = k
  · simp [h]
  · cases t.get? x <;> simp [h]

/-! ## Size -/

omit [DecidableEq K] in
theorem size_filter_add_size_filter_not (t : Table K V) (p : K → V → Bool) :
    (t.filter p).size + (t.filter fun k v => !p k v).size = t.size := by
  simp only [size, filter]
  induction t.entries with
  | nil => rfl
  | cons e r ih => by_cases h : p e.1 e.2 = true <;> simp [h] <;> omega

end Table

end Gatehouse
