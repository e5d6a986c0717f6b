import Gatehouse.Http.Header
import Gatehouse.Proofs.Texts

/-!
# Header fields as lists of values

The fields of one name are a list of values, and what is looked up under a name is read off that
list: its first value, the values of it that can be read, what is left of it when the name is set.

## Main results

* `Http.isReadable_intercalate` — a join of values that can be read can be read
* `Http.Headers.get?_eq_head?`, `readAll_eq_filter` — a look-up as a part of the list
* `Http.Headers.all_set` — a name that is set has one value, and no other name is touched
-/

namespace Gatehouse

namespace Http

/-! ### Values that can be read -/

theorem isReadable_append (s t : String) :
    isReadable (s ++ t) = (isReadable s && isReadable t) := by
  rw [isReadable, String.toList_append, List.all_append, isReadable, isReadable]

theorem isReadable_intercalate {sep : String} {values : List String}
    (hsep : isReadable sep = true) (h : ∀ v ∈ values, isReadable v = true) :
    isReadable (sep.intercalate values) = true := by
  induction values with
  | nil => rw [String.intercalate_nil, isReadable, String.toList_empty, List.all_nil]
  | cons v rest ih =>
    cases rest with
    | nil => simpa using h v
    | cons w more =>
      rw [String.intercalate_cons_cons, isReadable_append, isReadable_append, hsep,
        h v List.mem_cons_self, ih fun u hu => h u (List.mem_cons_of_mem v hu)]
      rfl

/-! ### The values of a name -/

namespace Headers

variable (h : Headers) (name : String)

theorem readAll_eq_filter : h.readAll name = (h.all name).filter isReadable := by
  rw [readAll, ← List.filterMap_eq_filter]
  rfl

theorem get?_eq_head? : h.get? name = (h.all name).head? := by
  rw [get?, all]
  induction h.fields with
  | nil => rfl
  | cons f r ih =>
    obtain ⟨k, v⟩ := f
    by_cases hk : k = name
    · simp [hk]
    · simp [lookup_cons_pair, hk, Ne.symm hk, ih]

theorem read?_eq_head? (hread : ∀ v ∈ h.all name, isReadable v = true) :
    h.read? name = (h.all name).head? := by
  rw [read?, get?_eq_head?]
  cases hall : h.all name with
  | nil => rfl
  | cons v r => simp [readable?, hread v (by simp [hall])]

theorem filter_setFields (value x : String) (fields : List (String × String)) :
    (setFields name value fields).filter (fun f => f.1 = x) =
      if x = name then [(name, value)] else fields.filter fun f => f.1 = x := by
  induction fields with
  | nil => by_cases hx : name = x <;> simp [setFields, hx, eq_comm]
  | cons f r ih =>
    obtain ⟨k, v⟩ := f
    by_cases hk : k = name
    · subst hk
      by_cases hx : x = k
      · subst hx
        simp [setFields, List.filter_filter]
      · have hfilter : (r.filter fun f => f.1 ≠ k).filter (fun f => f.1 = x) =
            r.filter fun f => f.1 = x := by
          rw [List.filter_filter]
          refine List.filter_congr fun f _ => ?_
          by_cases hf : f.1 = x <;> simp [hf, hx]
        rw [setFields, if_pos rfl, List.filter_cons_of_neg (by simpa using Ne.symm hx), hfilter,
          List.filter_cons_of_neg (by simpa using Ne.symm hx), if_neg hx]
    · rw [setFields, if_neg hk, List.filter_cons, List.filter_cons, ih]
      by_cases hx : x = name
      · simp [hx, hk]
      · simp [hx]

/-- What was set is the one value of its name. -/
theorem all_set (value x : String) :
    (h.set name value).all x = if x = name then [value] else h.all x := by
  rw [all, set, filter_setFields, all]
  split <;> simp

end Headers

end Http

end Gatehouse
