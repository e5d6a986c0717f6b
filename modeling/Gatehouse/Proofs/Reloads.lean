import Gatehouse.Proofs.Generations
import Mathlib.Data.Nat.Init

/-!
# Histories of reloads

A configuration follows another, and each makes a new table of services. This file is about the
generations that a service has in the tables, from the first to any later one. Services may be added
and removed, come back and change places.

## The last list

What is compared with the nodes of a service is its *last* list: that of the last table which had
the service, be it many reloads ago. A service that was removed takes up where it left off, and one
that returns to a list of nodes from before its last one gets a new generation all the same. So
equal lists of nodes can have different generations, but never one generation different lists.

## Main definitions

* `Registry.table` — the tables of a history, one for each configuration
* `Registry.noted` — what is remembered of the nodes when a configuration is loaded

## Main results

* `Registry.get?_table_eq_some_iff` — each table has the services of its configuration
* `Registry.generations_of_absent` — what is remembered outlasts tables without the service
* `Registry.generation_identifies_nodes` — generations through a whole history
-/

namespace Gatehouse

namespace Registry

/-! ### One table -/

/-- The services of a table have different names, so the first one of a name is the only one. -/
theorem get?_eq_some_iff {r : Registry} (hn : (r.services.map Service.id).Nodup) {id : String}
    {s : Service} : r.get? id = some s ↔ s ∈ r.services ∧ s.id = id := by
  have hget : r.get? id = r.services.find? fun s => s.id = id := by
    rw [get?, services, List.find?_map]
    rfl
  rw [hget]
  constructor
  · intro h
    exact ⟨List.mem_of_find?_eq_some h, by simpa using List.find?_some h⟩
  · rintro ⟨hs, rfl⟩
    cases hfind : r.services.find? fun t => t.id = s.id with
    | none =>
      have hnot := List.find?_eq_none.mp hfind s hs
      simp at hnot
    | some t =>
      have hid : t.id = s.id := by simpa using List.find?_some hfind
      rw [List.inj_on_of_nodup_map hn (List.mem_of_find?_eq_some hfind) hs hid]

section Compile

variable {configs : List ServiceConfig} (hn : (configs.map ServiceConfig.id).Nodup)
  {g : Generations} {id : String} {s : Service}

include hn

theorem nodup_services_compile (g : Generations) :
    ((compile configs g).services.map Service.id).Nodup := by
  have hsorted := List.mergeSort_perm (configs.map (routeOf g)) Route.precedes
  have hids := hsorted.map fun t => t.service.id
  have hperm : ((compile configs g).services.map Service.id).Perm
      (configs.map ServiceConfig.id) := by
    simpa [services, compile, routeOf, Service.ofConfig, Function.comp_def] using hids
  exact hperm.nodup_iff.mpr hn

/-- The table has the services of the configuration, each in the generation that is due to its
nodes. -/
theorem get?_compile_eq_some_iff : (compile configs g).get? id = some s ↔
    ∃ c ∈ configs, c.id = id ∧ s = Service.ofConfig c (g.next c.id c.nodes) := by
  rw [get?_eq_some_iff (nodup_services_compile hn g), mem_services_compile]
  constructor
  · rintro ⟨⟨c, hc, rfl⟩, rfl⟩
    exact ⟨c, hc, rfl, rfl⟩
  · rintro ⟨c, hc, rfl, rfl⟩
    exact ⟨⟨c, hc, rfl⟩, rfl⟩

theorem notMem_of_get?_compile (h : (compile configs g).get? id = none) :
    id ∉ configs.map ServiceConfig.id := by
  intro hmem
  obtain ⟨c, hc, rfl⟩ := List.mem_map.mp hmem
  have hsome := (get?_compile_eq_some_iff hn (g := g)).mpr ⟨c, hc, rfl, rfl⟩
  rw [h] at hsome
  exact absurd hsome (by simp)

end Compile

/-! ### All tables -/

/-- The tables of a history of configurations. The first one is made from nothing, and each of the
others when its configuration replaces the one before. -/
def table (configs : Nat → List ServiceConfig) : Nat → Registry
  | 0 => ofConfig (configs 0)
  | i + 1 => (table configs i).reload (configs (i + 1))

/-- What is remembered of the services when the `i`-th configuration is loaded. -/
def noted (configs : Nat → List ServiceConfig) : Nat → Generations
  | 0 => Table.empty
  | i + 1 => (table configs i).generations

theorem table_eq (configs : Nat → List ServiceConfig) (i : Nat) :
    table configs i = compile (configs i) (noted configs i) := by
  cases i <;> rfl

section History

variable {configs : Nat → List ServiceConfig}
  (hn : ∀ i, ((configs i).map ServiceConfig.id).Nodup) {id : String} {a b : Service} {i j : Nat}

include hn

theorem get?_table_eq_some_iff : (table configs i).get? id = some a ↔
    ∃ c ∈ configs i, c.id = id ∧ a = Service.ofConfig c ((noted configs i).next c.id c.nodes) := by
  rw [table_eq]
  exact get?_compile_eq_some_iff (hn i)

theorem generation_table (ha : (table configs i).get? id = some a) :
    a.generation = (noted configs i).next id a.nodes := by
  obtain ⟨c, -, rfl, rfl⟩ := (get?_table_eq_some_iff hn).mp ha
  rfl

/-- The nodes and the generation of a service in a table are noted. -/
theorem generations_table (ha : (table configs i).get? id = some a) :
    (table configs i).generations.get? id = some (a.nodes, a.generation) := by
  obtain ⟨c, hc, rfl, rfl⟩ := (get?_table_eq_some_iff hn).mp ha
  rw [table_eq]
  exact Generations.get?_foldl_of_mem _ (hn i) hc _

theorem growsTo_table (hij : i ≤ j) :
    (table configs i).generations.GrowsTo (table configs j).generations := by
  induction j, hij using Nat.le_induction with
  | base => exact .refl _
  | succ j _ ih => exact ih.trans (.compile _ (hn (j + 1)))

theorem le_of_generations_table {nodes : List Node} {n : Nat}
    (hget : (table configs i).generations.get? id = some (nodes, n)) : n ≤ i := by
  induction i generalizing id nodes n with
  | zero => exact Generations.get?_compile_le (by simp) (hn 0) id nodes n hget
  | succ i ih =>
    exact Generations.get?_compile_le (fun _ _ _ h => Nat.lt_succ_of_le (ih h)) (hn (i + 1)) id
      nodes n hget

/-- As long as no table has a service, its last nodes and generation are remembered. -/
theorem generations_of_absent (ha : (table configs i).get? id = some a) (hij : i ≤ j)
    (habsent : ∀ l, i < l → l ≤ j → (table configs l).get? id = none) :
    (table configs j).generations.get? id = some (a.nodes, a.generation) := by
  induction j, hij using Nat.le_induction with
  | base => exact generations_table hn ha
  | succ j hij ih =>
    have hnone := habsent (j + 1) (Nat.lt_succ_of_le hij) (Nat.le_refl _)
    rw [table_eq] at hnone ⊢
    exact (Generations.get?_foldl_of_notMem _ (notMem_of_get?_compile (hn (j + 1)) hnone) _).trans
      (ih fun l hl hle => habsent l hl (Nat.le_succ_of_le hle))

/-- **Generations identify lists of nodes.** Whatever configurations follow each other, if only the
services of each have different names: the tables have the services of their configurations. From a
table with a service to any later one the generation of the service does not shrink, and it stays
within the number of reloads. It is the same only if the list of nodes is the same. From one table
with the service to the next one with it, the generation stays if the list of nodes does, and is
one more if not. -/
theorem generation_identifies_nodes (id : String) :
    (∀ i nodes, (∃ s, (table configs i).get? id = some s ∧ s.nodes = nodes) ↔
      ∃ c ∈ configs i, c.id = id ∧ c.nodes = nodes) ∧
    ∀ i j a b, i ≤ j → (table configs i).get? id = some a →
      (table configs j).get? id = some b →
        a.generation ≤ b.generation ∧ b.generation ≤ j ∧
        (a.generation = b.generation → a.nodes = b.nodes) ∧
        (i < j → (∀ l, i < l → l < j → (table configs l).get? id = none) →
          b.generation = if a.nodes = b.nodes then a.generation else a.generation + 1) := by
  constructor
  · intro i nodes
    simp only [get?_table_eq_some_iff hn]
    constructor
    · rintro ⟨_, ⟨c, hc, hid, rfl⟩, rfl⟩
      exact ⟨c, hc, hid, rfl⟩
    · rintro ⟨c, hc, hid, rfl⟩
      exact ⟨_, ⟨c, hc, hid, rfl⟩, rfl⟩
  · intro i j a b hij ha hb
    have hnoted := generations_table hn hb
    obtain ⟨nodes, n, hget, hle, hsame⟩ :=
      growsTo_table hn hij id a.nodes a.generation (generations_table hn ha)
    obtain ⟨rfl, rfl⟩ : b.nodes = nodes ∧ b.generation = n := by
      simpa using hnoted.symm.trans hget
    refine ⟨hle, le_of_generations_table hn hnoted, hsame, ?_⟩
    intro hlt habsent
    cases j with
    | zero => exact absurd hlt (by omega)
    | succ j =>
      have hlast : (noted configs (j + 1)).get? id = some (a.nodes, a.generation) :=
        generations_of_absent hn ha (by omega) fun l hl hle => habsent l hl (by omega)
      rw [generation_table hn hb]
      exact Generations.next_eq_of_get? hlast

end History

/-! ### A history

A service is removed, comes back with another node, and then returns to its first one. -/

namespace Sample

def first : ServiceConfig := { id := "svc", nodes := [.plain "a" 80] }

def changed : ServiceConfig := { id := "svc", nodes := [.plain "b" 80] }

def other : ServiceConfig := { id := "other", nodes := [] }

def configs : Nat → List ServiceConfig
  | 0 => [first]
  | 1 => [other]
  | 2 => [other, changed]
  | _ => [first, other]

theorem nodup_configs (i : Nat) : ((configs i).map ServiceConfig.id).Nodup :=
  match i with
  | 0 | 1 | 2 | _ + 3 => by simp [configs, first, other, changed]

end Sample

theorem returned_service_is_new :
    ∃ a b c, (table Sample.configs 0).get? "svc" = some a ∧
      (table Sample.configs 1).get? "svc" = none ∧ (table Sample.configs 2).get? "svc" = some b ∧
      (table Sample.configs 3).get? "svc" = some c ∧ c.nodes = a.nodes ∧
      b.generation = a.generation + 1 ∧ c.generation = b.generation + 1 := by
  have h := generation_identifies_nodes Sample.nodup_configs "svc"
  obtain ⟨a, ha, hfirst⟩ := (h.1 0 Sample.first.nodes).mpr ⟨Sample.first, by decide, rfl, rfl⟩
  obtain ⟨b, hb, hchanged⟩ :=
    (h.1 2 Sample.changed.nodes).mpr ⟨Sample.changed, by decide, rfl, rfl⟩
  obtain ⟨c, hc, hagain⟩ := (h.1 3 Sample.first.nodes).mpr ⟨Sample.first, by decide, rfl, rfl⟩
  have hremoved : (table Sample.configs 1).get? "svc" = none := by
    rw [Option.eq_none_iff_forall_ne_some]
    intro s hs
    obtain ⟨d, hd, hid, -⟩ := (h.1 1 s.nodes).mp ⟨s, hs, rfl⟩
    obtain rfl := List.mem_singleton.mp hd
    exact absurd hid (by decide)
  have hback := (h.2 0 2 a b (by omega) ha hb).2.2.2 (by omega) fun l hl hl' => by
    obtain rfl : l = 1 := by omega
    exact hremoved
  have hthen := (h.2 2 3 b c (by omega) hb hc).2.2.2 (by omega) fun l hl hl' => by omega
  rw [hfirst, hchanged, if_neg (by decide)] at hback
  rw [hchanged, hagain, if_neg (by decide)] at hthen
  exact ⟨a, b, c, ha, hremoved, hb, hc, hagain.trans hfirst.symm, hback, hthen⟩

end Registry

end Gatehouse
