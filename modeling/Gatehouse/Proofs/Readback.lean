import Gatehouse.Shape
import Mathlib.Data.List.Nodup

/-!
# Reading what was written

A value is written into a data tree and read out of it again. What comes between may change the
tree in one way that means nothing: a record is known by the names of its fields, and whoever keeps
it may hand them back in another order, at any depth.

So a reader is asked for more than to undo a writer. It has to read every tree that differs from
what was written at most in the order of fields (`Shape.Reads`), and each reader of a part is asked
the same, which is what makes the readers of whole structures follow from those of their fields.

A structure has every field of it written once. The order then does not matter: a field is found by
its name, and only one has it (`Datum.field?_perm`).

## Main definitions

* `Datum.Alike` — the same tree, the order of fields apart
* `Shape.Reads` — a reader reads what a writer writes
* `Shape.Parts.Shows` — a structure taken apart has the fields that were written

## Main results

* `Shape.Reads.optional`, `Shape.Reads.list`, `Shape.Reads.oneOf` — readers of composed values
* `Shape.exists_parts` — what was written as a record is taken apart into its fields
* `Shape.Parts.Shows.required`, `withDefault`, `optional` — a field that was written is read back
-/

namespace Gatehouse

namespace Datum

/-! ### Trees that say the same -/

/-- The same fields in the same order, with values that are related. -/
inductive Fieldwise (R : Datum → Datum → Prop) :
    List (String × Datum) → List (String × Datum) → Prop where
  | nil : Fieldwise R [] []
  | cons {k : String} {d e : Datum} {fs gs : List (String × Datum)} (h : R d e)
    (hrest : Fieldwise R fs gs) : Fieldwise R ((k, d) :: fs) ((k, e) :: gs)

/-- Two data trees that differ at most in the order of the fields of their records. -/
inductive Alike : Datum → Datum → Prop where
  | refl (d : Datum) : Alike d d
  | list {ds es : List Datum} (h : List.Forall₂ Alike ds es) : Alike (.list ds) (.list es)
  | record {fs gs hs : List (String × Datum)} (hperm : fs.Perm gs) (h : Fieldwise Alike gs hs) :
    Alike (.record fs) (.record hs)

variable {R : Datum → Datum → Prop} {d e : Datum} {name : String}
  {fields fs gs : List (String × Datum)}

theorem field?_append (name : String) (fs gs : List (String × Datum)) :
    field? name (fs ++ gs) = (field? name fs).or (field? name gs) := by
  induction fs with
  | nil => rfl
  | cons f r ih =>
    rw [List.cons_append, field?, field?, ih]
    split <;> rfl

/-- Where no two fields have one name, a field is found by its name. -/
theorem field?_eq_some_iff (h : (fields.map Prod.fst).Nodup) :
    field? name fields = some d ↔ (name, d) ∈ fields := by
  induction fields with
  | nil => simp [field?]
  | cons f r ih =>
    obtain ⟨k, e⟩ := f
    rw [List.map_cons, List.nodup_cons] at h
    by_cases hk : k = name
    · have hrest : (name, d) ∉ r := fun hmem => h.1 (hk ▸ List.mem_map.mpr ⟨_, hmem, rfl⟩)
      simp [field?, hk, hrest, eq_comm]
    · rw [field?, if_neg hk, ih h.2]
      simp [Ne.symm hk]

theorem field?_perm (hperm : fs.Perm gs) (h : (fs.map Prod.fst).Nodup) :
    field? name fs = field? name gs := by
  have h' : (gs.map Prod.fst).Nodup := ((hperm.map Prod.fst).nodup_iff).mp h
  ext d
  rw [field?_eq_some_iff h, field?_eq_some_iff h', hperm.mem_iff]

theorem Fieldwise.keys (h : Fieldwise R fs gs) : fs.map Prod.fst = gs.map Prod.fst := by
  induction h with
  | nil => rfl
  | cons _ _ ih => rw [List.map_cons, List.map_cons, ih]

theorem Fieldwise.field? (h : Fieldwise R fs gs) (name : String) :
    Option.Rel R (Datum.field? name fs) (Datum.field? name gs) := by
  induction h with
  | nil => exact .none
  | @cons k d e fs gs hd _ ih =>
    by_cases hk : k = name
    · rw [Datum.field?, Datum.field?, if_pos hk, if_pos hk]
      exact .some hd
    · rw [Datum.field?, Datum.field?, if_neg hk, if_neg hk]
      exact ih

theorem Fieldwise.of_refl (hR : ∀ d, R d d) : ∀ fs, Fieldwise R fs fs
  | [] => .nil
  | (_, d) :: r => .cons (hR d) (of_refl hR r)

theorem Alike.exists_fields (h : Alike d (.record fields)) :
    ∃ fs gs, d = .record fs ∧ fs.Perm gs ∧ Fieldwise Alike gs fields := by
  cases h with
  | refl => exact ⟨fields, fields, rfl, .refl _, .of_refl .refl fields⟩
  | record hperm h => exact ⟨_, _, rfl, hperm, h⟩

theorem Alike.exists_items {es : List Datum} (h : Alike d (.list es)) :
    ∃ ds, d = .list ds ∧ List.Forall₂ Alike ds es := by
  cases h with
  | refl => exact ⟨es, rfl, List.forall₂_same.mpr fun d _ => .refl d⟩
  | list h => exact ⟨_, rfl, h⟩

theorem Alike.eq_null (h : Alike .null e) : e = .null := by
  cases h
  rfl

end Datum

namespace Shape

open Datum (Alike)

variable {α : Type} {dialect : Dialect}

/-- Whatever `write` writes is read back, in whatever order its fields come. -/
def Reads (read : Shape α) (write : α → Datum) : Prop :=
  ∀ a d, Alike d (write a) → read d = .ok a

/-! ### Single values -/

theorem reads_text : Reads text .text := by
  rintro s d ⟨⟩
  rfl

theorem reads_bool : Reads bool .bool := by
  rintro b d ⟨⟩
  rfl

theorem intIn_int {least most i : Int} (h : least ≤ i ∧ i ≤ most) :
    intIn least most (.int i) = .ok i := if_pos h

theorem reads_int64 : Reads int64 fun i => .int i.toInt := by
  rintro i d ⟨⟩
  rw [int64, intIn_int ⟨Int64.minValue_le_toInt i, Int64.toInt_le i⟩]
  exact congrArg Except.ok (Int64.ofInt_toInt i)

theorem natTo_nat {most n : Nat} (h : n ≤ most) : natTo most (.nat n) = .ok n := by
  rw [natTo, Datum.nat, intIn_int ⟨by omega, by omega⟩]
  rfl

theorem reads_natTo {most n : Nat} (h : n ≤ most) {d : Datum} (hd : Alike d (.nat n)) :
    natTo most d = .ok n := by
  cases hd
  exact natTo_nat h

theorem reads_uint64 : Reads uint64 fun n => .nat n.toNat := by
  rintro n d ⟨⟩
  rw [uint64, natTo_nat (Nat.le_sub_one_of_lt n.toNat_lt)]
  exact congrArg Except.ok (UInt64.ofNat_toNat)

theorem reads_uint32 : Reads uint32 fun n => .nat n.toNat := by
  rintro n d ⟨⟩
  rw [uint32, natTo_nat (Nat.le_sub_one_of_lt n.toNat_lt)]
  exact congrArg Except.ok (UInt32.ofNat_toNat)

theorem reads_uint16 : Reads uint16 fun n => .nat n.toNat := by
  rintro n d ⟨⟩
  rw [uint16, natTo_nat (Nat.le_sub_one_of_lt n.toNat_lt)]
  exact congrArg Except.ok (UInt16.ofNat_toNat)

/-! ### Composed values -/

section

variable {item : Shape α} {write : α → Datum}

theorem Reads.optional (h : Reads item write) (hnull : ∀ a, write a ≠ .null) :
    Reads (optional item) (Datum.ofOption write) := by
  rintro (_ | a) d hd
  · cases hd
    rfl
  · have hne : d ≠ .null := by
      rintro rfl
      exact hnull a hd.eq_null
    rw [Shape.optional.eq_2 _ _ hne, h a d hd]
    rfl

theorem mapItems_alike (h : Reads item write) {ds : List Datum} {as : List α}
    (hds : List.Forall₂ Alike ds (as.map write)) : mapItems item ds = .ok as := by
  induction as generalizing ds with
  | nil =>
    obtain rfl := List.forall₂_nil_right_iff.mp hds
    rfl
  | cons a as ih =>
    obtain ⟨d, ds', hd, hds', rfl⟩ := List.forall₂_cons_right_iff.mp hds
    rw [mapItems, h a d hd, ih hds']
    rfl

theorem Reads.list (h : Reads item write) : Reads (list item) fun as => .list (as.map write) := by
  intro as d hd
  obtain ⟨ds, rfl, hds⟩ := hd.exists_items
  exact mapItems_alike h hds

/-- A case is read back if it was written by the name that it is listed under. -/
theorem Reads.oneOf {cases : List (String × α)}
    (h : ∀ a, ∃ name, write a = .text name ∧ cases.lookup name = some a) :
    Reads (oneOf dialect cases) write := by
  intro a d hd
  obtain ⟨name, hname, hcase⟩ := h a
  rw [hname] at hd
  cases hd
  simp only [Shape.oneOf, caseName, bind, Except.bind, hcase]

end

/-! ### Structures -/

/-- The parts of a structure that show the given fields, in whatever order. -/
structure Parts.Shows (p : Parts) (fields : List (String × Datum)) : Prop where
  named : p.positional = false
  field : ∀ name, Option.Rel Alike (Datum.field? name p.fields) (Datum.field? name fields)

variable {p : Parts} {fields : List (String × Datum)} {d : Datum}

theorem repeated?_eq_none (h : (fields.map Prod.fst).Nodup) (names : List String) :
    repeated? names fields = none := by
  rw [repeated?, List.find?_eq_none]
  intro name _
  have hcount : (fields.filter fun f => f.1 = name).length = (fields.map Prod.fst).count name := by
    rw [List.count, List.countP_map, List.countP_eq_length_filter]
    rfl
  rw [hcount, decide_eq_true_eq, Nat.not_lt]
  exact List.nodup_iff_count_le_one.mp h name

/-- What was written as a record of fields with names of their own is taken apart into them. -/
theorem exists_parts (hnames : (fields.map Prod.fst).Nodup) (hd : Alike d (.record fields)) :
    ∃ p : Parts, (∀ dialect names, parts dialect names d = .ok p) ∧ p.Shows fields := by
  obtain ⟨fs, gs, rfl, hperm, hfields⟩ := hd.exists_fields
  have hgs : (gs.map Prod.fst).Nodup := hfields.keys ▸ hnames
  have hfs : (fs.map Prod.fst).Nodup := (hperm.map Prod.fst).nodup_iff.mpr hgs
  refine ⟨⟨false, fs⟩, fun dialect names => ?_, rfl, fun name => ?_⟩
  · rw [parts, repeated?_eq_none hfs]
  · rw [Datum.field?_perm hperm hfs]
    exact hfields.field? name

namespace Parts.Shows

theorem exists_field (hp : p.Shows fields) {name : String} {e : Datum}
    (he : Datum.field? name fields = some e) :
    ∃ d, Datum.field? name p.fields = some d ∧ Alike d e := by
  have hrel := hp.field name
  rw [he] at hrel
  cases hd : Datum.field? name p.fields with
  | none =>
    rw [hd] at hrel
    cases hrel
  | some d =>
    rw [hd] at hrel
    cases hrel with
    | some h => exact ⟨d, rfl, h⟩

theorem required (hp : p.Shows fields) (name : String) {e : Datum} {item : Shape α} {a : α}
    (he : Datum.field? name fields = some e) (h : ∀ d, Alike d e → item d = .ok a) :
    p.required name item = .ok a := by
  obtain ⟨d, hd, halike⟩ := hp.exists_field he
  rw [Parts.required, hd]
  exact h d halike

theorem withDefault (hp : p.Shows fields) (name : String) {e : Datum} {item : Shape α} {a : α}
    (he : Datum.field? name fields = some e) (h : ∀ d, Alike d e → item d = .ok a)
    (default : α) : p.withDefault name default item = .ok a := by
  obtain ⟨d, hd, halike⟩ := hp.exists_field he
  rw [Parts.withDefault, hd]
  exact h d halike

theorem optional (hp : p.Shows fields) (name : String) {e : Datum} {item : Shape α}
    {a : Option α} (he : Datum.field? name fields = some e)
    (h : ∀ d, Alike d e → Shape.optional item d = .ok a) : p.optional name item = .ok a := by
  obtain ⟨d, hd, halike⟩ := hp.exists_field he
  rw [Parts.optional, hd]
  exact h d halike

/-- A field that may be left out of a record is read as absent if it was left out. -/
theorem optional_eq_none (hp : p.Shows fields) (name : String)
    (hnone : Datum.field? name fields = none) (item : Shape α) :
    p.optional name item = .ok none := by
  have hrel := hp.field name
  rw [hnone] at hrel
  cases hd : Datum.field? name p.fields with
  | none => rw [Parts.optional, hd, hp.named]; rfl
  | some d =>
    rw [hd] at hrel
    cases hrel

end Parts.Shows

end Shape

end Gatehouse
