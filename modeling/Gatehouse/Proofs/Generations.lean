import Gatehouse.Proofs.Rules
import Gatehouse.Routing.Registry

/-!
# Generations through reloads

A service of the registry carries its identity, its nodes and a generation. Services that were taken
from the registry before a reload stay in use, so what matters is how the services ever issued
relate to each other: identity and generation together determine the list of nodes.

## Main definitions

* `Registrable` — the identities of a list of services can be told apart, as validation ensures
* `Registry.services` — the services that the registry gives out
* `Generations.GrowsTo` — the entries of a table stay or give way to newer ones
* `Generations.Covers` — a table of generations has an up-to-date entry for each service issued

## Main results

* `Config.registrable` — an accepted configuration has registrable services
* `Generations.GrowsTo.compile` — a reload lets the entries stay or give way to newer ones
* `Generations.Covers.compile` — a reload keeps the table up to date
-/

namespace Gatehouse

/-! ### Services that can be told apart -/

/-- No two services have one name, and no name has a colon. -/
structure Registrable (services : List ServiceConfig) : Prop where
  nodup : (services.map ServiceConfig.id).Nodup
  colonless : ∀ c ∈ services, ':' ∉ c.id.toList

theorem Config.registrable {c : Config} (h : c.violations = []) : Registrable c.services :=
  have hwell := Config.violations_eq_nil_iff.mp h
  ⟨hwell.names_nodup, fun s hs => (hwell.services s hs).name_noColon⟩

/-! ### One reload -/

namespace Generations

theorem get?_foldl_of_notMem (earlier : Generations) {services : List ServiceConfig} {id : String}
    (h : id ∉ services.map ServiceConfig.id) (g : Generations) :
    (services.foldl (Registry.noteNodes earlier) g).get? id = g.get? id := by
  induction services generalizing g with
  | nil => rfl
  | cons c rest ih =>
    simp only [List.map_cons, List.mem_cons, not_or] at h
    rw [List.foldl_cons, ih h.2, Registry.noteNodes, Table.get?_set, if_neg h.1]

theorem get?_foldl_of_mem (earlier : Generations) {services : List ServiceConfig}
    (hn : (services.map ServiceConfig.id).Nodup) {c : ServiceConfig} (hc : c ∈ services)
    (g : Generations) :
    (services.foldl (Registry.noteNodes earlier) g).get? c.id =
      some (c.nodes, earlier.next c.id c.nodes) := by
  induction services generalizing g with
  | nil => simp at hc
  | cons d rest ih =>
    rw [List.map_cons, List.nodup_cons] at hn
    rw [List.foldl_cons]
    rcases List.mem_cons.mp hc with rfl | hc
    · rw [get?_foldl_of_notMem earlier hn.1, Registry.noteNodes, Table.get?_set, if_pos rfl]
    · exact ih hn.2 hc _

/-- A generation moves on by at most one. -/
theorem next_eq_of_get? {g : Generations} {id : String} {nodes earlier : List Node} {n : Nat}
    (h : g.get? id = some (earlier, n)) :
    g.next id nodes = if earlier = nodes then n else n + 1 := by
  rw [next, h]

/-- Every entry of the first table is in the second one as well, or a newer one is. -/
def GrowsTo (g g' : Generations) : Prop :=
  ∀ id nodes n, g.get? id = some (nodes, n) → ∃ nodes' n', g'.get? id = some (nodes', n') ∧
    n ≤ n' ∧ (n = n' → nodes = nodes')

namespace GrowsTo

theorem refl (g : Generations) : g.GrowsTo g :=
  fun _ nodes n hget => ⟨nodes, n, hget, Nat.le_refl n, fun _ => rfl⟩

theorem trans {g g' g'' : Generations} (h : g.GrowsTo g') (h' : g'.GrowsTo g'') :
    g.GrowsTo g'' := by
  intro id nodes n hget
  obtain ⟨nodes', n', hget', hle, hnodes⟩ := h id nodes n hget
  obtain ⟨nodes'', n'', hget'', hle', hnodes'⟩ := h' id nodes' n' hget'
  refine ⟨nodes'', n'', hget'', Nat.le_trans hle hle', fun he => ?_⟩
  rw [hnodes (by omega), hnodes' (by omega)]

/-- A reload with other nodes replaces an entry by one of the next generation. All other entries
stay. -/
theorem compile (g : Generations) {configs : List ServiceConfig}
    (hn : (configs.map ServiceConfig.id).Nodup) :
    g.GrowsTo (Registry.compile configs g).generations := by
  intro id nodes n hget
  by_cases hmem : id ∈ configs.map ServiceConfig.id
  · obtain ⟨c, hc, rfl⟩ := List.mem_map.mp hmem
    refine ⟨c.nodes, g.next c.id c.nodes, get?_foldl_of_mem g hn hc g, ?_⟩
    rw [next_eq_of_get? hget]
    by_cases hsame : nodes = c.nodes
    · rw [if_pos hsame]
      exact ⟨Nat.le_refl n, fun _ => hsame⟩
    · rw [if_neg hsame]
      exact ⟨Nat.le_succ n, fun he => absurd he (by omega)⟩
  · exact ⟨nodes, n, (get?_foldl_of_notMem g hmem g).trans hget, Nat.le_refl n, fun _ => rfl⟩

end GrowsTo

end Generations

namespace Registry

/-- The services that the registry gives out. -/
def services (r : Registry) : List Service := r.routes.map Route.service

theorem mem_services_compile {configs : List ServiceConfig} {earlier : Generations}
    {s : Service} : s ∈ (compile configs earlier).services ↔
      ∃ c ∈ configs, s = Service.ofConfig c (earlier.next c.id c.nodes) := by
  simp only [services, compile, List.mem_map, List.mem_mergeSort, routeOf]
  constructor
  · rintro ⟨_, ⟨c, hc, rfl⟩, rfl⟩
    exact ⟨c, hc, rfl⟩
  · rintro ⟨c, hc, rfl⟩
    exact ⟨_, ⟨c, hc, rfl⟩, rfl⟩

end Registry

/-! ### All reloads -/

/-- The table has an entry for each service issued, no older than the service, and services of one
name and generation have the same nodes. -/
structure Generations.Covers (g : Generations) (Issued : Service → Prop) : Prop where
  noted : ∀ s, Issued s → ∃ nodes n, g.get? s.id = some (nodes, n) ∧ s.generation ≤ n ∧
    (s.generation = n → s.nodes = nodes)
  agree : ∀ a b, Issued a → Issued b → a.id = b.id → a.generation = b.generation →
    a.nodes = b.nodes

namespace Generations.Covers

variable {g : Generations} {Issued Issued' : Service → Prop}

theorem mono (h : g.Covers Issued) (hsub : ∀ s, Issued' s → Issued s) : g.Covers Issued' where
  noted s hs := h.noted s (hsub s hs)
  agree a b ha hb := h.agree a b (hsub a ha) (hsub b hb)

/-- A service issued before and one of a reload that have one name and generation have the same
nodes: had the nodes changed, the generation would have moved on. -/
theorem agree_compile (h : g.Covers Issued) {s : Service} (hs : Issued s) {c : ServiceConfig}
    (hid : s.id = c.id) (hgen : s.generation = g.next c.id c.nodes) : s.nodes = c.nodes := by
  obtain ⟨nodes, n, hget, hle, hnodes⟩ := h.noted s hs
  rw [hid] at hget
  rw [next_eq_of_get? hget] at hgen
  by_cases hsame : nodes = c.nodes
  · rw [if_pos hsame] at hgen
    rw [hnodes hgen, hsame]
  · rw [if_neg hsame] at hgen
    omega

theorem noted_compile (h : g.Covers Issued) {configs : List ServiceConfig}
    (hreg : Registrable configs) {s : Service} (hs : Issued s) :
    ∃ nodes n, (Registry.compile configs g).generations.get? s.id = some (nodes, n) ∧
      s.generation ≤ n ∧ (s.generation = n → s.nodes = nodes) := by
  obtain ⟨nodes, n, hget, hle, hnodes⟩ := h.noted s hs
  obtain ⟨nodes', n', hget', hle', hnodes'⟩ := GrowsTo.compile g hreg.nodup s.id nodes n hget
  refine ⟨nodes', n', hget', Nat.le_trans hle hle', fun he => ?_⟩
  rw [hnodes (by omega), hnodes' (by omega)]

theorem compile (h : g.Covers Issued) {configs : List ServiceConfig}
    (hreg : Registrable configs) :
    (Registry.compile configs g).generations.Covers fun s =>
      Issued s ∨ s ∈ (Registry.compile configs g).services where
  noted s hs := by
    rcases hs with hs | hs
    · exact h.noted_compile hreg hs
    · obtain ⟨c, hc, rfl⟩ := Registry.mem_services_compile.mp hs
      exact ⟨c.nodes, g.next c.id c.nodes, get?_foldl_of_mem g hreg.nodup hc g, Nat.le_refl _,
        fun _ => rfl⟩
  agree a b ha hb hid hgen := by
    rcases ha with ha | ha <;> rcases hb with hb | hb
    · exact h.agree a b ha hb hid hgen
    · obtain ⟨c, -, rfl⟩ := Registry.mem_services_compile.mp hb
      exact h.agree_compile ha hid hgen
    · obtain ⟨c, -, rfl⟩ := Registry.mem_services_compile.mp ha
      exact (h.agree_compile hb hid.symm hgen.symm).symm
    · obtain ⟨c, hc, rfl⟩ := Registry.mem_services_compile.mp ha
      obtain ⟨d, hd, rfl⟩ := Registry.mem_services_compile.mp hb
      rw [List.inj_on_of_nodup_map hreg.nodup hc hd hid]

theorem empty : Generations.Covers Table.empty fun _ => False where
  noted _ h := h.elim
  agree _ _ h := h.elim

end Generations.Covers

/-- Each reload moves a generation on by one at most, so generations count reloads. -/
theorem Generations.get?_compile_le {g : Generations} {bound : Nat}
    (h : ∀ id nodes n, g.get? id = some (nodes, n) → n < bound) {configs : List ServiceConfig}
    (hn : (configs.map ServiceConfig.id).Nodup) (id : String) (nodes : List Node) (n : Nat)
    (hget : (Registry.compile configs g).generations.get? id = some (nodes, n)) : n ≤ bound := by
  by_cases hmem : id ∈ configs.map ServiceConfig.id
  · obtain ⟨c, hc, rfl⟩ := List.mem_map.mp hmem
    obtain rfl : g.next c.id c.nodes = n := by
      have := (get?_foldl_of_mem g hn hc g).symm.trans hget
      simp only [Option.some.injEq, Prod.mk.injEq] at this
      exact this.2
    cases hc' : g.get? c.id with
    | none => simp [next, hc']
    | some e =>
      have hlt := h c.id e.1 e.2 hc'
      rw [next_eq_of_get? hc']
      split <;> omega
  · exact Nat.le_of_lt (h id nodes n ((get?_foldl_of_notMem g hmem g).symm.trans hget))

end Gatehouse
