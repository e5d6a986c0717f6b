import Gatehouse.Proofs.Failover
import Gatehouse.Store.Trial
import Mathlib.Data.List.Count

/-!
# Tickets in rotation

A request without a binding begins at the node whose turn it is. Whose turn it is, is told by the
tickets of its service, and each such request draws one. This file follows the tickets through any
run of a selector: services may change their nodes from one request to the next, sessions may be
established or not, reads of the store may fail, and attempts are reported in between.

## Who draws a ticket

Whether a selection draws a ticket. It does exactly if there are nodes and the store returns no
record that names one of them. Nothing else moves the tickets of a service, and so the requests that
draw one are numbered by them, from zero on, whatever happens in between. With the number of a
request and the number of nodes at that time, its node is known.

## Implementation notes

Requests overlap, and one may read the store long before it draws its ticket. Such a run is among
those considered here: `Act.elsewhere` changes the store in any way, so what was read can be put
back for the moment of the selection. The order of selections is the order in which they draw.

## Main definitions

* `Selector.Act`, `Selector.run` — what can happen to a selector, and the runs
* `Selector.draws` — the selections of a run that draw a ticket
* `Selector.Takes` — what a selection does to the tickets

## Main results

* `Selector.takes_select`, `Selector.ticket_act` — one step
* `Selector.drawsOf_of_ticket` — a run, from any ticket on
* `count_roundPositions`, `Selector.count_drawsOf` — rounds are balanced
* `Selector.draws_in_rotation` — the result
-/

namespace Gatehouse

/-! ### Rounds -/

/-- In `q` rounds every position comes up `q` times. -/
theorem count_roundPositions {n i : Nat} (hi : i < n) (start q : Nat) :
    ((List.range (q * n)).map (roundPosition n start)).count i = q := by
  induction q with
  | zero => rw [Nat.zero_mul]; rfl
  | succ q ih =>
    -- The last round begins at a multiple of `n`, so it is like the first one.
    have hround : (List.range n).map (roundPosition n start ∘ (q * n + ·)) =
        (List.range n).map (roundPosition n start) := by
      refine List.map_congr_left fun j _ => ?_
      show (start + (q * n + j)) % n = (start + j) % n
      rw [← Nat.add_assoc, Nat.add_right_comm, Nat.add_mul_mod_self_right]
    have hlast : ((List.range n).map (roundPosition n start)).count i = 1 := by
      rw [(perm_roundPositions (by omega) start).count_eq]
      exact List.count_eq_one_of_mem List.nodup_range (List.mem_range.mpr hi)
    rw [Nat.succ_mul, List.range_add, List.map_append, List.map_map, List.count_append, ih, hround,
      hlast]

namespace Selector

/-! ### Runs -/

/-- What can happen to a selector. -/
inductive Act (σ : Type) where
  | select (service : Service) (nodes : List Node) (sessionKey : Option String)
  | report (h : Handle) (status : Http.Status) (affinity : Option String)
  | reportUnreachable (h : Handle)
  /-- Something happens to the store: others write, entries expire, calls begin to fail. -/
  | elsewhere (f : σ → σ)

/-- A selection that drew a ticket. -/
structure Draw where
  service : String
  /-- The number of nodes that it was made among. -/
  nodeCount : Nat
  index : Nat
  deriving DecidableEq

section Runs

variable {σ : Type} [Store σ SessionRecord]

/-- The selector after an act. -/
def act (s : Selector σ) : Act σ → Selector σ
  | .select service nodes sessionKey => (s.select service nodes sessionKey).2
  | .report h status affinity => (s.report h status affinity).2
  | .reportUnreachable h => (s.reportUnreachable h).2
  | .elsewhere f => { s with sessions := f s.sessions }

/-- The selector after a run. -/
def run (s : Selector σ) (ts : List (Act σ)) : Selector σ := ts.foldl act s

/-- The selection of an act, if it is the first of a session or of no session. -/
def draw? (s : Selector σ) : Act σ → Option Draw
  | .select service nodes sessionKey =>
    (s.select service nodes sessionKey).1.bind fun h =>
      if h.firstTime then some ⟨service.id, nodes.length, h.index⟩ else none
  | _ => none

/-- The selections of a run that are the first of a session or of no session, in order. -/
def draws (s : Selector σ) : List (Act σ) → List Draw
  | [] => []
  | t :: ts => (s.draw? t).toList ++ (s.act t).draws ts

/-- The number of the next ticket of a service. -/
def ticket (s : Selector σ) (id : String) : Nat := ((s.rotations.get? id).getD {}).ticket.toNat

/-! ### One step -/

/-- What a selection does to the tickets of all services, by what it finds. -/
inductive Takes (s : Selector σ) (service : Service) (nodes : List Node)
    (sessionKey : Option String) : Option Handle → Selector σ → Prop where
  /-- There are no nodes. -/
  | nowhere {s' : Selector σ} (hn : nodes = []) (htickets : ∀ id, s'.ticket id = s.ticket id) :
    Takes s service nodes sessionKey none s'
  /-- The session is established: the store returns a record, and the node that it names exists. -/
  | established {k : String} {r : SessionRecord} {h : Handle} {s' : Selector σ}
      (hk : sessionKey = some k)
      (hget : (Store.get (Session.storeKey service.id service.generation k) s.sessions).1 =
        .ok (some r))
      (hlt : r.nodeIndex < nodes.length) (hfirst : h.firstTime = false)
      (hindex : h.index = r.nodeIndex) (htickets : ∀ id, s'.ticket id = s.ticket id) :
    Takes s service nodes sessionKey (some h) s'
  /-- There are nodes, and no such record is found. -/
  | ticket {h : Handle} {s' : Selector σ} (hn : nodes ≠ [])
      (hnone : ∀ k r, sessionKey = some k →
        (Store.get (Session.storeKey service.id service.generation k) s.sessions).1 =
          .ok (some r) → nodes.length ≤ r.nodeIndex)
      (hfirst : h.firstTime = true) (hindex : h.index = s.ticket service.id % nodes.length)
      (htickets : ∀ id, s'.ticket id =
        if id = service.id then (s.ticket id + 1) % 2 ^ 64 else s.ticket id) :
    Takes s service nodes sessionKey (some h) s'

variable {s : Selector σ} {service : Service} {nodes : List Node} {sessionKey : Option String}

theorem rotations_select_of_found {r : SessionRecord} (hn : nodes ≠ [])
    (hf : s.found? service nodes sessionKey = some r) :
    (s.select service nodes sessionKey).2.rotations = s.rotations := by
  rw [found?] at hf
  simp only [select, if_neg hn, hf, rotations_binding?]

theorem rotations_select_of_notFound (hn : nodes ≠ [])
    (hf : s.found? service nodes sessionKey = none) :
    (s.select service nodes sessionKey).2.rotations =
      s.rotations.set service.id ((s.rotations.get? service.id).getD {}).draw := by
  rw [found?] at hf
  simp only [select, if_neg hn, hf, drawTicket, rotations_binding?]

omit [Store σ SessionRecord] in
theorem ticket_congr {s' : Selector σ} (h : s'.rotations = s.rotations) (id : String) :
    s'.ticket id = s.ticket id := by
  rw [ticket, ticket, h]

/-- **A selection draws a ticket exactly if there are nodes and no record names one of them.** -/
theorem takes_select (s : Selector σ) (service : Service) (nodes : List Node)
    (sessionKey : Option String) :
    s.Takes service nodes sessionKey (s.select service nodes sessionKey).1
      (s.select service nodes sessionKey).2 := by
  by_cases hn : nodes = []
  · rw [select, if_pos hn]
    exact .nowhere hn fun _ => rfl
  · cases hf : s.found? service nodes sessionKey with
    | some r =>
      obtain ⟨k, hk, hget, hlt⟩ := found?_eq_some_iff.mp hf
      rw [select_of_found hn hf]
      exact .established hk hget hlt rfl rfl (ticket_congr (rotations_select_of_found hn hf))
    | none =>
      rw [select_of_notFound hn hf]
      refine .ticket hn ?_ rfl rfl ?_
      · intro k r hk hget
        by_contra hlt
        have hsome := found?_eq_some_iff.mpr ⟨k, hk, hget, Nat.not_le.mp hlt⟩
        exact absurd (hf.symm.trans hsome) (by simp)
      · intro id
        rw [ticket, ticket, rotations_select_of_notFound hn hf, Table.get?_set]
        by_cases hid : id = service.id
        · rw [if_pos hid, if_pos hid, hid]
          exact UInt64.toNat_add _ _
        · rw [if_neg hid, if_neg hid]

/-- What an act does to the tickets, by whether it draws one. -/
theorem ticket_act (s : Selector σ) (t : Act σ) (id : String) :
    (s.act t).ticket id =
      if (s.draw? t).map Draw.service = some id then (s.ticket id + 1) % 2 ^ 64
      else s.ticket id := by
  cases t with
  | select service nodes sessionKey =>
    rw [act, draw?]
    have htakes := s.takes_select service nodes sessionKey
    generalize (s.select service nodes sessionKey).1 = out at htakes
    generalize (s.select service nodes sessionKey).2 = s' at htakes
    cases htakes with
    | nowhere hn htickets => rw [htickets]; rfl
    | established hk hget hlt hfirst hindex htickets =>
      rw [htickets, Option.bind_some, hfirst]
      rfl
    | ticket hn hnone hfirst hindex htickets =>
      rw [htickets, Option.bind_some, if_pos hfirst, Option.map_some]
      simp only [Option.some.injEq, eq_comm]
  | report h status affinity => exact ticket_congr (s.undrawn_report h status affinity).rotations id
  | reportUnreachable h => exact ticket_congr (s.undrawn_fail h).rotations id
  | elsewhere f => rfl

/-- A selection that draws a ticket is at the position that the ticket says. -/
theorem index_of_draw? {t : Act σ} {d : Draw} (h : s.draw? t = some d) :
    d.index = s.ticket d.service % d.nodeCount := by
  cases t with
  | select service nodes sessionKey =>
    rw [draw?] at h
    have htakes := s.takes_select service nodes sessionKey
    generalize (s.select service nodes sessionKey).1 = out at htakes h
    generalize (s.select service nodes sessionKey).2 = s' at htakes
    cases htakes with
    | nowhere hn htickets => exact absurd h (by simp)
    | established hk hget hlt hfirst hindex htickets => simp [hfirst] at h
    | ticket hn hnone hfirst hindex htickets =>
      rw [Option.bind_some, if_pos hfirst] at h
      obtain rfl := Option.some.inj h
      exact hindex
  | report h' status affinity => exact absurd h (by simp [draw?])
  | reportUnreachable h' => exact absurd h (by simp [draw?])
  | elsewhere f => exact absurd h (by simp [draw?])

/-! ### Runs -/

/-- The draws of one service in a run. -/
def drawsOf (s : Selector σ) (id : String) (ts : List (Act σ)) : List Draw :=
  (s.draws ts).filter (·.service = id)

theorem drawsOf_cons (s : Selector σ) (id : String) (t : Act σ) (ts : List (Act σ)) :
    s.drawsOf id (t :: ts) =
      (s.draw? t).toList.filter (·.service = id) ++ (s.act t).drawsOf id ts :=
  List.filter_append _ _

/-- **The draws of a service are at the positions that its tickets say**, from any ticket on. -/
theorem drawsOf_of_ticket (s : Selector σ) (id : String) (ts : List (Act σ)) :
    ∀ k d, (s.drawsOf id ts)[k]? = some d →
      d.index = (s.ticket id + k) % 2 ^ 64 % d.nodeCount := by
  induction ts generalizing s with
  | nil =>
    intro k d h
    simp [drawsOf, draws] at h
  | cons t ts ih =>
    intro k d h
    have hticket := s.ticket_act t id
    rw [drawsOf_cons] at h
    cases hd : s.draw? t with
    | none =>
      rw [hd] at h hticket
      rw [if_neg (by simp)] at hticket
      rw [← hticket]
      exact ih (s.act t) k d h
    | some e =>
      rw [hd] at h hticket
      by_cases hid : e.service = id
      · rw [if_pos (by simp [hid])] at hticket
        rw [Option.toList_some, List.filter_cons_of_pos (by simpa using hid), List.filter_nil,
          List.singleton_append] at h
        cases k with
        | zero =>
          obtain rfl := Option.some.inj h
          have hlt : s.ticket id < 2 ^ 64 := UInt64.toNat_lt _
          rw [index_of_draw? hd, hid, Nat.add_zero, Nat.mod_eq_of_lt hlt]
        | succ k =>
          rw [ih (s.act t) k d h, hticket, Nat.mod_add_mod, Nat.add_assoc, Nat.add_comm 1 k]
      · rw [if_neg (by simp [hid])] at hticket
        rw [Option.toList_some, List.filter_cons_of_neg (by simpa using hid), List.filter_nil,
          List.nil_append] at h
        rw [← hticket]
        exact ih (s.act t) k d h

/-- Consecutive draws among `n` nodes are rounds, if the tickets do not start over between them. -/
theorem indices_of_ticket (s : Selector σ) (id : String) (ts : List (Act σ)) {i₀ m n : Nat}
    (hwrap : (s.ticket id + i₀) % 2 ^ 64 + m ≤ 2 ^ 64) (hlen : i₀ + m ≤ (s.drawsOf id ts).length)
    (hn : ∀ d ∈ ((s.drawsOf id ts).drop i₀).take m, d.nodeCount = n) :
    (((s.drawsOf id ts).drop i₀).take m).map Draw.index =
      (List.range m).map (roundPosition n ((s.ticket id + i₀) % 2 ^ 64)) := by
  refine List.ext_getElem (by simp; omega) fun j hj hj' => ?_
  have hjm : j < m := by simpa using hj'
  have hlt : i₀ + j < (s.drawsOf id ts).length := by omega
  have hget : (s.drawsOf id ts)[i₀ + j]? = some (s.drawsOf id ts)[i₀ + j] :=
    List.getElem?_eq_getElem hlt
  have hmem : (s.drawsOf id ts)[i₀ + j] ∈ ((s.drawsOf id ts).drop i₀).take m := by
    refine List.mem_iff_getElem.mpr ⟨j, by simp; omega, ?_⟩
    rw [List.getElem_take, List.getElem_drop]
  rw [List.getElem_map, List.getElem_take, List.getElem_drop, List.getElem_map, List.getElem_range,
    s.drawsOf_of_ticket id ts _ _ hget, hn _ hmem, roundPosition, ← Nat.add_assoc,
    ← Nat.mod_add_mod, Nat.mod_eq_of_lt (by omega : (s.ticket id + i₀) % 2 ^ 64 + j < 2 ^ 64)]

/-- **In `q` rounds every node is drawn `q` times**, wherever the rounds begin. -/
theorem count_drawsOf (s : Selector σ) (id : String) (ts : List (Act σ)) {i₀ n q i : Nat}
    (hwrap : (s.ticket id + i₀) % 2 ^ 64 + q * n ≤ 2 ^ 64)
    (hlen : i₀ + q * n ≤ (s.drawsOf id ts).length)
    (hn : ∀ d ∈ ((s.drawsOf id ts).drop i₀).take (q * n), d.nodeCount = n) (hi : i < n) :
    ((((s.drawsOf id ts).drop i₀).take (q * n)).map Draw.index).count i = q := by
  rw [s.indices_of_ticket id ts hwrap hlen hn]
  exact count_roundPositions hi _ q

omit [Store σ SessionRecord] in
theorem ticket_start (sessions : σ) (ttlMs : Nat) (id : String) :
    (start sessions ttlMs).ticket id = 0 := by
  rw [ticket, start, Table.get?_empty]
  rfl

/-! ### The result -/

/-- **First selections are made in rotation.** In every run from the start of a selector, with all
services, sessions and nodes that may come up, the `k`-th selection of a service that is the first
of its session, or of no session, is at position `k mod 2^64` of the nodes it was made among,
counted round and round. What a selection does to the tickets is told by what it finds, and nothing
but a selection does anything to them. Where the nodes stay `n` in number, each of them gets `q` of
any `q * n` consecutive ones, unless the tickets start over from zero in between. -/
theorem draws_in_rotation (sessions : σ) (ttlMs : Nat) (ts : List (Act σ)) :
    let s := start sessions ttlMs
    (∀ id k d, (s.drawsOf id ts)[k]? = some d → d.index = k % 2 ^ 64 % d.nodeCount) ∧
    (∀ service nodes sessionKey, (s.run ts).Takes service nodes sessionKey
      ((s.run ts).select service nodes sessionKey).1
      ((s.run ts).select service nodes sessionKey).2) ∧
    (∀ t, (s.run ts).draw? t = none → ∀ id, ((s.run ts).act t).ticket id = (s.run ts).ticket id) ∧
    ∀ id i₀ n q, i₀ % 2 ^ 64 + q * n ≤ 2 ^ 64 → i₀ + q * n ≤ (s.drawsOf id ts).length →
      (∀ d ∈ ((s.drawsOf id ts).drop i₀).take (q * n), d.nodeCount = n) →
      ∀ i < n, ((((s.drawsOf id ts).drop i₀).take (q * n)).map Draw.index).count i = q := by
  intro s
  refine ⟨?_, ?_, ?_, ?_⟩
  · intro id k d hd
    rw [s.drawsOf_of_ticket id ts k d hd, ticket_start, Nat.zero_add]
  · intro service nodes sessionKey
    exact (s.run ts).takes_select service nodes sessionKey
  · intro t hdraw id
    rw [ticket_act, hdraw]
    exact if_neg (by simp)
  · intro id i₀ n q hwrap hlen hn i hi
    refine s.count_drawsOf id ts ?_ hlen hn hi
    rw [ticket_start, Nat.zero_add]
    exact hwrap

end Runs

namespace TicketSample

/-- A service of three nodes. -/
def three : Service :=
  { id := "a", nodes := [.plain "a" 80, .plain "b" 81, .plain "c" 82] }

/-- A service of two nodes. -/
def two : Service :=
  { id := "b", nodes := [.plain "d" 83, .plain "e" 84] }

/-- Two services take turns, one session is established in between, and then the store goes out of
order, so that its binding is no longer found. -/
def acts : List (Act (TrialStore SessionRecord)) :=
  [.select three three.nodes (some "aff=k"),
    .select two two.nodes none,
    .elsewhere fun s => (Store.put (Session.storeKey "a" 0 "aff=k")
      (⟨"aff=k", 0, "k"⟩ : SessionRecord) 1000 s).2,
    .select three three.nodes (some "aff=k"),
    .select three [] none,
    .select three three.nodes none,
    .select two two.nodes (some "aff=k"),
    .elsewhere fun s => { s with failing := [.get] },
    .select three three.nodes (some "aff=k"),
    .select three three.nodes none,
    .select three three.nodes none,
    .select three three.nodes none]

def selector : Selector (TrialStore SessionRecord) := start TrialStore.empty 1000

end TicketSample

/-- The six draws of the service of three nodes are two rounds. -/
theorem draws_in_two_rounds :
    TicketSample.selector.drawsOf "a" TicketSample.acts =
      [⟨"a", 3, 0⟩, ⟨"a", 3, 1⟩, ⟨"a", 3, 2⟩, ⟨"a", 3, 0⟩, ⟨"a", 3, 1⟩, ⟨"a", 3, 2⟩] ∧
    ∀ i < 3, ((((TicketSample.selector.drawsOf "a" TicketSample.acts).drop 0).take (2 * 3)).map
      Draw.index).count i = 2 := by
  have hdraws : TicketSample.selector.drawsOf "a" TicketSample.acts =
      [⟨"a", 3, 0⟩, ⟨"a", 3, 1⟩, ⟨"a", 3, 2⟩, ⟨"a", 3, 0⟩, ⟨"a", 3, 1⟩, ⟨"a", 3, 2⟩] := by rfl
  refine ⟨hdraws, (draws_in_rotation TrialStore.empty 1000 TicketSample.acts).2.2.2 "a" 0 3 2
    (by decide) ?_ ?_⟩
  · exact (congrArg List.length hdraws).ge
  · intro d hd
    rw [show (start TrialStore.empty 1000).drawsOf "a" TicketSample.acts = _ from hdraws] at hd
    revert d
    decide

end Selector

end Gatehouse
