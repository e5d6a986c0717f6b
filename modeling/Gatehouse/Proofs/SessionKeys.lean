import Gatehouse.Proofs.Texts
import Gatehouse.Session.Key

/-!
# Session keys and where they are filed

A session key is made of a parameter and a value, and the place where a session is filed is made of
a service, a generation and a session key. Both are joined to one text, and both can be taken apart
again, under the conditions that the separators need.

## Main results

* `Session.valueOf_key`, `paramOf_key` — value and parameter of a key, for a parameter without an
  equals sign
* `Session.storeKey_inj` — two sessions are filed in one place only if service, generation and key
  are the same, for services without a colon in their names
-/

namespace Gatehouse

namespace Session

/-! ### Parameter and value -/

theorem toList_key (p v : String) : (key p v).toList = p.toList ++ '=' :: v.toList := by
  simp [key]

theorem valueOf_key {p : String} (h : '=' ∉ p.toList) (v : String) : valueOf (key p v) = v := by
  rw [valueOf, toList_key, Text.cutFirst_append h]
  simp

theorem paramOf_key {p : String} (h : '=' ∉ p.toList) (v : String) : paramOf (key p v) = p := by
  rw [paramOf, toList_key, Text.cutFirst_append h]
  simp

/-- Whatever the key, its parameter has no equals sign. -/
theorem not_mem_paramOf (k : String) : '=' ∉ (paramOf k).toList := by
  rw [paramOf]
  split
  · rename_i p v hcut
    rw [String.toList_ofList]
    exact (Text.cutFirst_eq_some hcut).2
  · simp

theorem valueOf_key_paramOf (k v : String) : valueOf (key (paramOf k) v) = v :=
  valueOf_key (not_mem_paramOf k) v

/-! ### Filing -/

theorem toList_storeKey (service : String) (generation : Nat) (k : String) :
    (storeKey service generation k).toList =
      "sticky:".toList ++ (service.toList ++ ':' ::
        ((toString generation).toList ++ ':' :: k.toList)) := by
  simp [storeKey]

theorem storeKey_inj {service service' : String} {generation generation' : Nat} {k k' : String}
    (h : ':' ∉ service.toList) (h' : ':' ∉ service'.toList)
    (he : storeKey service generation k = storeKey service' generation' k') :
    service = service' ∧ generation = generation' ∧ k = k' := by
  have hl := congrArg String.toList he
  rw [toList_storeKey, toList_storeKey, List.append_cancel_left_eq] at hl
  obtain ⟨hs, hrest⟩ := Text.eq_of_join_eq h h' hl
  obtain ⟨hg, hk⟩ := Text.eq_of_join_eq (Text.notMem_toString (by decide) generation)
    (Text.notMem_toString (by decide) generation') hrest
  exact ⟨String.toList_inj.mp hs, Text.eq_of_toString_eq hg, String.toList_inj.mp hk⟩

/-- Within one generation of a service no condition is needed. -/
theorem storeKey_right_inj {service : String} {generation : Nat} {k k' : String} :
    storeKey service generation k = storeKey service generation k' ↔ k = k' := by
  simp [storeKey, String.append_right_inj]

end Session

end Gatehouse
