import Gatehouse.Routing.Registry
import Mathlib.Data.List.Basic
import Mathlib.Data.List.Perm.Basic
import Mathlib.Data.Prod.Lex

/-!
# Which service a request goes to

A table is sorted once, when it is made, and searched from its start for every request. This file
says what comes out of the two together, in terms of the configuration: the service that a request
goes to is the best of those that accept it.

## Rank and place

What counts before the place in the configuration is the *rank* of a service, its priority and then
the number of its conditions. Sorting moves services of different rank past each other and leaves
those of one rank in their order, so a table holds, rank by rank, the same services in the same
order as the configuration. A request sees no more of it than the first service that accepts it.

## Main definitions

* `ServiceConfig.rank` — priority and number of conditions
* `ServiceConfig.standing` — the rank, and the place in the configuration

## Main results

* `ServiceConfig.accepts_iff` — which requests a configured service accepts
* `Registry.filter_rank_mergeSort` — sorting leaves the services of each rank in their order
* `Registry.resolve_congr` — only the services that accept a request count, and only the order
  within each rank
* `Registry.resolve_best` — the service that a request goes to
-/

namespace Gatehouse

/-! ### Rank -/

/-- The rank of a route: priority, then the number of conditions. The lower, the better. -/
def Route.rank (t : Route) : ℕᵒᵈ ×ₗ ℕᵒᵈ :=
  toLex (.toDual t.priority.toNat, .toDual t.conditions.length)

theorem Route.precedes_iff {a b : Route} : a.precedes b = true ↔ a.rank ≤ b.rank := by
  simp only [precedes, rank, Prod.Lex.toLex_le_toLex, OrderDual.toDual_lt_toDual,
    OrderDual.toDual_le_toDual, EmbeddingLike.apply_eq_iff_eq, Bool.or_eq_true, Bool.and_eq_true,
    decide_eq_true_eq, UInt32.lt_iff_toNat_lt, UInt32.toNat_inj]

theorem Route.precedes_trans (a b c : Route) (hab : a.precedes b = true)
    (hbc : b.precedes c = true) : a.precedes c = true :=
  precedes_iff.mpr ((precedes_iff.mp hab).trans (precedes_iff.mp hbc))

theorem Route.precedes_total (a b : Route) : (a.precedes b || b.precedes a) = true := by
  simpa only [Bool.or_eq_true, precedes_iff] using le_total a.rank b.rank

namespace ServiceConfig

/-- Whether all conditions of a configured service hold of a request. -/
def accepts (c : ServiceConfig) (head : RequestHead) : Bool := Condition.allHold head c.conditions

/-- A service accepts the requests that are addressed to its host, if it names one, with a path
under its prefix, if it names one. -/
theorem accepts_iff {c : ServiceConfig} {head : RequestHead} : c.accepts head = true ↔
    (∀ h, c.host = some h → Condition.holds head (.ofHost h) = true) ∧
      ∀ p, c.pathPrefix = some p → Condition.holds head (.ofPathPrefix p) = true := by
  cases hh : c.host <;> cases hp : c.pathPrefix <;>
    simp [accepts, conditions, hh, hp, Condition.allHold]

/-- The rank of a configured service: priority, then the number of conditions. The lower, the
better. -/
def rank (c : ServiceConfig) : ℕᵒᵈ ×ₗ ℕᵒᵈ :=
  toLex (.toDual c.priority.toNat, .toDual c.conditions.length)

/-- What services are compared by: higher priority, then more conditions, then the earlier place in
the configuration. The lower, the better. -/
def standing (c : ServiceConfig) (place : ℕ) : (ℕᵒᵈ ×ₗ ℕᵒᵈ) ×ₗ ℕ := toLex (c.rank, place)

theorem standing_le_standing {c d : ServiceConfig} {i j : ℕ} :
    c.standing i ≤ d.standing j ↔ c.rank < d.rank ∨ c.rank = d.rank ∧ i ≤ j :=
  Prod.Lex.toLex_le_toLex

end ServiceConfig

namespace Registry

/-! ### The sorted table -/

section Sorted

variable (routes : List Route)

/-- Sorting leaves the services of each rank in their order. -/
theorem filter_rank_mergeSort (r : ℕᵒᵈ ×ₗ ℕᵒᵈ) :
    (routes.mergeSort Route.precedes).filter (·.rank = r) = routes.filter (·.rank = r) := by
  have hclass : (routes.filter (·.rank = r)).Pairwise fun a b => a.precedes b = true := by
    refine List.pairwise_of_forall_mem_list fun a ha b hb => Route.precedes_iff.mpr ?_
    have ha' : a.rank = r := by simpa using (List.mem_filter.mp ha).2
    have hb' : b.rank = r := by simpa using (List.mem_filter.mp hb).2
    rw [ha', hb']
  have hsub := (List.sublist_mergeSort Route.precedes_trans Route.precedes_total hclass
    List.filter_sublist).filter (·.rank = r)
  simp only [List.filter_filter, Bool.and_self] at hsub
  have hperm := (List.mergeSort_perm routes Route.precedes).filter (·.rank = r)
  exact (hsub.eq_of_length hperm.length_eq.symm).symm

/-- What is found first in the sorted table is of the best rank there is, and first in its rank. -/
theorem first_of_find?_mergeSort {p : Route → Bool} {t : Route}
    (h : (routes.mergeSort Route.precedes).find? p = some t) :
    routes.find? (fun u => p u && u.rank = t.rank) = some t ∧
      ∀ u ∈ routes, p u = true → t.rank ≤ u.rank := by
  obtain ⟨hp, before, after, hsplit, hnot⟩ := List.find?_eq_some_iff_append.mp h
  constructor
  · calc routes.find? (fun u => p u && u.rank = t.rank)
        = (routes.filter (·.rank = t.rank)).find? p := by
          rw [List.find?_filter]
          simp only [Bool.decide_and, Bool.decide_eq_true, Bool.and_comm]
      _ = ((routes.mergeSort Route.precedes).filter (·.rank = t.rank)).find? p := by
          rw [filter_rank_mergeSort]
      _ = some t := by
          refine List.find?_eq_some_iff_append.mpr ⟨hp, before.filter (·.rank = t.rank),
            after.filter (·.rank = t.rank), by simp [hsplit], fun u hu => ?_⟩
          exact hnot u (List.mem_filter.mp hu).1
  · intro u hu hpu
    have hsorted := List.pairwise_mergeSort Route.precedes_trans Route.precedes_total routes
    rw [hsplit, List.pairwise_append, List.pairwise_cons] at hsorted
    have hmem : u ∈ before ++ t :: after := hsplit ▸ List.mem_mergeSort.mpr hu
    rcases List.mem_append.mp hmem with hbefore | hrest
    · have hnotu := hnot u hbefore
      rw [hpu] at hnotu
      exact absurd hnotu (by decide)
    · rcases List.mem_cons.mp hrest with rfl | hafter
      · exact le_refl _
      · exact Route.precedes_iff.mp (hsorted.2.1.1 u hafter)

end Sorted

/-! ### The service of a request -/

section Requests

variable {configs configs' : List ServiceConfig} {head : RequestHead} {c d : ServiceConfig}
  {earlier : Generations}

/-- A service goes before all others that accept a request: none of them is of a better rank, and it
is the first of its rank. -/
structure Leads (configs : List ServiceConfig) (head : RequestHead) (c : ServiceConfig) : Prop where
  best : ∀ d ∈ configs, d.accepts head = true → c.rank ≤ d.rank
  first : (configs.filter fun d => d.accepts head && d.rank = c.rank).head? = some c

namespace Leads

theorem mem_filter (h : Leads configs head c) :
    c ∈ configs.filter fun d => d.accepts head && d.rank = c.rank :=
  List.mem_of_mem_head? h.first

theorem mem (h : Leads configs head c) : c ∈ configs := (List.mem_filter.mp h.mem_filter).1

theorem accepts (h : Leads configs head c) : c.accepts head = true := by
  have hc := (List.mem_filter.mp h.mem_filter).2
  rw [Bool.and_eq_true] at hc
  exact hc.1

theorem unique (h : Leads configs head c) (h' : Leads configs head d) : c = d := by
  have hrank : c.rank = d.rank := le_antisymm (h.best d h'.mem h'.accepts)
    (h'.best c h.mem h.accepts)
  have hfirst := h.first
  rw [hrank, h'.first] at hfirst
  exact (Option.some.inj hfirst).symm

/-- What leads is told by the services that accept the request, rank by rank. -/
theorem congr (hclass : ∀ r, configs.filter (fun c => c.accepts head && c.rank = r) =
      configs'.filter fun c => c.accepts head && c.rank = r) (h : Leads configs head c) :
    Leads configs' head c where
  best d hd hacc := by
    have hmem : d ∈ configs'.filter fun c => c.accepts head && c.rank = d.rank := by
      simp [hd, hacc]
    rw [← hclass] at hmem
    exact h.best d (List.mem_filter.mp hmem).1 hacc
  first := by rw [← hclass, h.first]

/-- A service goes before all others that accept a request if its standing is the best. -/
theorem iff_standing : Leads configs head c ↔
    ∃ i, configs[i]? = some c ∧ c.accepts head = true ∧
      ∀ (j : ℕ) (d : ServiceConfig), configs[j]? = some d → d.accepts head = true →
        c.standing i ≤ d.standing j := by
  constructor
  · intro h
    have hfirst := h.first
    rw [List.head?_filter, List.find?_eq_some_iff_getElem] at hfirst
    obtain ⟨-, i, hi, rfl, hbefore⟩ := hfirst
    refine ⟨i, List.getElem?_eq_getElem hi, h.accepts, fun j d hd hacc => ?_⟩
    rw [ServiceConfig.standing_le_standing]
    obtain ⟨hj, rfl⟩ := List.getElem?_eq_some_iff.mp hd
    rcases (h.best _ (List.getElem_mem hj) hacc).lt_or_eq with hlt | heq
    · exact .inl hlt
    · refine .inr ⟨heq, Nat.le_of_not_lt fun hlt => ?_⟩
      have hnot := hbefore j hlt
      simp [hacc, heq] at hnot
  · rintro ⟨i, hi, hacc, hbest⟩
    obtain ⟨hlt, rfl⟩ := List.getElem?_eq_some_iff.mp hi
    constructor
    · intro d hd haccd
      obtain ⟨j, hj, rfl⟩ := List.getElem_of_mem hd
      rcases ServiceConfig.standing_le_standing.mp
        (hbest j _ (List.getElem?_eq_getElem hj) haccd) with h | ⟨h, -⟩
      · exact h.le
      · exact h.le
    · rw [List.head?_filter, List.find?_eq_some_iff_getElem]
      refine ⟨by simp [hacc], i, hlt, rfl, fun j hj => ?_⟩
      have hle := hbest j configs[j] (List.getElem?_eq_getElem (hj.trans hlt))
      rw [ServiceConfig.standing_le_standing] at hle
      by_contra hboth
      simp only [Bool.not_eq_true', Bool.not_eq_false, Bool.and_eq_true, decide_eq_true_eq]
        at hboth
      rcases hle hboth.1 with h | ⟨-, h⟩
      · exact h.ne hboth.2.symm
      · omega

end Leads

theorem resolve_eq_none_iff : (compile configs earlier).resolve head = none ↔
    ∀ c ∈ configs, c.accepts head = false := by
  simp [resolve, compile, routeOf, Route.accepts, ServiceConfig.accepts]

theorem leads_of_resolve {s : Service} (h : (compile configs earlier).resolve head = some s) :
    ∃ c, Leads configs head c ∧ s = Service.ofConfig c (earlier.next c.id c.nodes) := by
  obtain ⟨t, hfind, rfl⟩ := Option.map_eq_some_iff.mp h
  obtain ⟨hfirst, hbest⟩ := first_of_find?_mergeSort (configs.map (routeOf earlier)) hfind
  rw [List.find?_map] at hfirst
  obtain ⟨c, hc, rfl⟩ := Option.map_eq_some_iff.mp hfirst
  refine ⟨c, ⟨fun d hd hacc => hbest _ (List.mem_map_of_mem hd) hacc, ?_⟩, rfl⟩
  rw [List.head?_filter]
  exact hc

/-- A request goes to the service that goes before all others which accept it. -/
theorem resolve_eq_some_iff {s : Service} : (compile configs earlier).resolve head = some s ↔
    ∃ c, Leads configs head c ∧ s = Service.ofConfig c (earlier.next c.id c.nodes) := by
  refine ⟨leads_of_resolve, ?_⟩
  rintro ⟨c, hc, rfl⟩
  cases hs : (compile configs earlier).resolve head with
  | none =>
    have hnot := resolve_eq_none_iff.mp hs c hc.mem
    rw [hc.accepts] at hnot
    exact absurd hnot (by decide)
  | some s =>
    obtain ⟨d, hd, rfl⟩ := leads_of_resolve hs
    rw [hc.unique hd]

/-- Only the services that accept a request count for it, and only their order within each rank. -/
theorem resolve_congr (hclass : ∀ r, configs.filter (fun c => c.accepts head && c.rank = r) =
      configs'.filter fun c => c.accepts head && c.rank = r) :
    (compile configs earlier).resolve head = (compile configs' earlier).resolve head := by
  ext s
  rw [resolve_eq_some_iff, resolve_eq_some_iff]
  constructor
  · rintro ⟨c, hc, hs⟩
    exact ⟨c, hc.congr hclass, hs⟩
  · rintro ⟨c, hc, hs⟩
    exact ⟨c, hc.congr fun r => (hclass r).symm, hs⟩

/-- Where no two services that accept a request are of one rank, a rank has no order to keep. -/
theorem filter_rank_eq_of_perm (hperm : configs'.Perm configs)
    (hranks : (configs.filter (·.accepts head)).Pairwise fun c d => c.rank ≠ d.rank)
    (r : ℕᵒᵈ ×ₗ ℕᵒᵈ) :
    configs'.filter (fun c => c.accepts head && c.rank = r) =
      configs.filter fun c => c.accepts head && c.rank = r := by
  have hclass := hperm.filter fun c => c.accepts head && c.rank = r
  have hdistinct := hranks.filter fun c => c.rank = r
  rw [List.filter_filter] at hdistinct
  simp only [Bool.and_comm] at hdistinct
  cases hlist : configs.filter fun c => c.accepts head && c.rank = r with
  | nil => exact List.perm_nil.mp (hlist ▸ hclass)
  | cons c rest =>
    cases rest with
    | nil => exact List.perm_singleton.mp (hlist ▸ hclass)
    | cons d rest =>
      have hrank (e : ServiceConfig) (he : e ∈ c :: d :: rest) : e.rank = r := by
        rw [← hlist] at he
        have hboth := (List.mem_filter.mp he).2
        simp only [Bool.and_eq_true, decide_eq_true_eq] at hboth
        exact hboth.2
      rw [hlist, List.pairwise_cons] at hdistinct
      exact absurd ((hrank c (by simp)).trans (hrank d (by simp)).symm)
        (hdistinct.1 d (by simp))

end Requests

/-- **A request goes to the best service that accepts it.** Whatever services are configured and
whatever was configured before: a request goes nowhere exactly if no service accepts it, and
otherwise to the one of those that accept it whose standing is the best, by priority, then by number
of conditions, then by place. Services that do not accept the request play no part. Those that
differ in priority or number of conditions may change places; where all that accept the request do,
their order plays no part. -/
theorem resolve_best (configs : List ServiceConfig) (earlier : Generations) (head : RequestHead) :
    ((compile configs earlier).resolve head = none ↔ ∀ c ∈ configs, c.accepts head = false) ∧
    (∀ s, (compile configs earlier).resolve head = some s ↔
      ∃ (i : ℕ) (c : ServiceConfig), configs[i]? = some c ∧ c.accepts head = true ∧
        (∀ (j : ℕ) (d : ServiceConfig), configs[j]? = some d → d.accepts head = true →
          c.standing i ≤ d.standing j) ∧
        s = Service.ofConfig c (earlier.next c.id c.nodes)) ∧
    (∀ configs' : List ServiceConfig,
      configs'.filter (·.accepts head) = configs.filter (·.accepts head) →
        (compile configs' earlier).resolve head = (compile configs earlier).resolve head) ∧
    (∀ configs' : List ServiceConfig,
      (∀ r, configs'.filter (·.rank = r) = configs.filter (·.rank = r)) →
        (compile configs' earlier).resolve head = (compile configs earlier).resolve head) ∧
    ∀ configs' : List ServiceConfig, configs'.Perm configs →
      (configs.filter (·.accepts head)).Pairwise (fun c d => c.rank ≠ d.rank) →
        (compile configs' earlier).resolve head = (compile configs earlier).resolve head := by
  refine ⟨resolve_eq_none_iff, fun s => ?_, fun configs' hsame => ?_, fun configs' hsame => ?_,
    fun configs' hperm hranks => resolve_congr (filter_rank_eq_of_perm hperm hranks)⟩
  · rw [resolve_eq_some_iff]
    constructor
    · rintro ⟨c, hc, hs⟩
      obtain ⟨i, hi, hacc, hbest⟩ := Leads.iff_standing.mp hc
      exact ⟨i, c, hi, hacc, hbest, hs⟩
    · rintro ⟨i, c, hi, hacc, hbest, hs⟩
      exact ⟨c, Leads.iff_standing.mpr ⟨i, hi, hacc, hbest⟩, hs⟩
  · refine resolve_congr fun r => ?_
    have hclass := congrArg (List.filter fun c => c.rank = r) hsame
    simpa only [List.filter_filter, Bool.and_comm] using hclass
  · refine resolve_congr fun r => ?_
    rw [← List.filter_filter, ← List.filter_filter, hsame]

/-! ### A table of four services -/

namespace ResolutionSample

def everything : ServiceConfig := { id := "everything", nodes := [] }

def underA : ServiceConfig := { id := "under-a", pathPrefix := some "/a/", nodes := [] }

def underAOfHost : ServiceConfig :=
  { id := "under-a-of-host", host := some "Shop.local", pathPrefix := some "/a", nodes := [] }

def underB : ServiceConfig :=
  { id := "under-b", pathPrefix := some "/b", priority := 9, nodes := [] }

def configs : List ServiceConfig := [underB, everything, underAOfHost, underA]

def head : RequestHead :=
  { target := .origin "/a/1?x=2", headers := ⟨[("host", "shop.local:8080")]⟩ }

end ResolutionSample

/-- Neither the service of highest priority, which does not accept the request, nor the order of the
others makes a difference. -/
theorem resolve_best_of_four :
    (ofConfig ResolutionSample.configs).resolve ResolutionSample.head =
      some (Service.ofConfig ResolutionSample.underAOfHost 0) ∧
    (ofConfig ResolutionSample.configs.tail).resolve ResolutionSample.head =
      some (Service.ofConfig ResolutionSample.underAOfHost 0) ∧
    (ofConfig ResolutionSample.configs.reverse).resolve ResolutionSample.head =
      some (Service.ofConfig ResolutionSample.underAOfHost 0) := by
  have hbest := resolve_best ResolutionSample.configs Table.empty ResolutionSample.head
  have hresolve : (compile ResolutionSample.configs Table.empty).resolve ResolutionSample.head =
      some (Service.ofConfig ResolutionSample.underAOfHost 0) := by
    refine (hbest.2.1 _).mpr
      ⟨2, ResolutionSample.underAOfHost, rfl, by decide, fun j d hd => ?_, rfl⟩
    obtain ⟨hj, rfl⟩ := List.getElem?_eq_some_iff.mp hd
    have hj : j < 4 := hj
    revert j
    decide
  refine ⟨hresolve, ?_, ?_⟩
  · exact (hbest.2.2.1 _ (by decide)).trans hresolve
  · exact (hbest.2.2.2.2 _ (List.reverse_perm _) (by decide)).trans hresolve

end Registry

end Gatehouse
