import Gatehouse.Proofs.Keywise
import Gatehouse.Proofs.Rulings

/-!
# Accounts are kept apart

Requests are counted against accounts: services, and consumers of services. All counters are in one
store, under keys that clients have a part in. This file shows that what is decided about the
requests of one account depends on no other account: leave out of a run all checks that are counted
elsewhere, and the others are decided and recorded as before.

## What could carry news from one account to another

The store could. It does not if it treats every key by itself, because each account has a key of its
own, `Subject.keyOf_inj`.

The oracle could as well. That it treats every question by itself is not enough, because two
services may name the same policy, and then the same question is asked for a consumer of the one and
for a consumer of the other. An oracle that changes its mind after the first question tells the
second service something else than it would have otherwise, `Admission.shared_question`. So where
two accounts share a question, asking it must not matter.

## Implementation notes

Nothing is assumed of failures. A store may fail and lose counters, as long as it does so for each
key by itself.

## Main definitions

* `Moment` — a check, or something that happens between checks
* `Admission.receipts` — what is decided and published in a run
* `Admission.Alike` — two states in which an account fares the same

## Main results

* `Admission.Alike.rule`, `Alike.rule_elsewhere` — a check of the account, and one of another one
* `Admission.receipts_of_account` — other accounts can be left out
-/

namespace Gatehouse

/-! ### Runs -/

/-- The question to the oracle that a request may give rise to. -/
def Inquiry.question? (i : Inquiry) : Option (String × String) := i.subject?.bind Subject.question?

/-- The account that a request is counted against, if it is counted. -/
def Inquiry.account? (i : Inquiry) : Option (String × Option String) :=
  i.subject?.map Subject.account

theorem Inquiry.account?_of_counted {i : Inquiry} {x : Check} (h : i.check? = some x) :
    i.account? = some x.subject.account ∧ i.question? = x.subject.question? ∧
      x.subject.account.1 = i.service.id ∧
      x.subject.key = Subject.keyOf x.subject.account.1 x.subject.account.2 := by
  have hs := check?_eq_some h
  obtain ⟨hid, -, hkey, -⟩ := Subject.of?_eq_some hs
  rw [account?, question?, hs]
  exact ⟨rfl, rfl, hid, hkey⟩

theorem Inquiry.account?_of_uncounted {i : Inquiry} (h : i.check? = none) : i.account? = none := by
  rw [account?, Option.map_eq_none_iff.mp h, Option.map_none]

section Runs

variable (κ ω : Type) [Store κ ThrottleCounter] [KeywiseStore κ ThrottleCounter] [Oracle ω]
  [QuestionwiseOracle ω]

/-- What happens between checks. Time passes, counters expire or get lost, and the oracle changes
its mind, but all of it key by key and question by question. -/
structure Interlude where
  counters : κ → κ
  oracle : ω → ω
  counters_congr : ∀ {k : String} {s s' : κ}, entry s k = entry s' k →
    entry (counters s) k = entry (counters s') k
  oracle_congr : ∀ {q : String × String} {o o' : ω}, mood o q = mood o' q →
    mood (oracle o) q = mood (oracle o') q

/-- A check, or what happens between two checks. -/
inductive Moment where
  | check (i : Inquiry)
  | interlude (x : Interlude κ ω)

/-- What becomes of a request: the decision, and the event that is published of it. -/
structure Receipt where
  inquiry : Inquiry
  decision : Decision
  event : Option AdmissionEvent
  deriving DecidableEq

variable {κ ω}

/-- Whether it is about a request of an account. -/
def Receipt.isOf (t : String × Option String) (r : Receipt) : Bool := r.inquiry.account? = some t

/-- Whether something is left of a run when all checks but those of one account are left out. -/
def Moment.staysFor (t : String × Option String) : Moment κ ω → Bool
  | check i => i.account? = some t
  | interlude _ => true

namespace Admission

/-- The state after an interlude. -/
def pass (a : Admission κ ω) (x : Interlude κ ω) : Admission κ ω :=
  { a with counters := x.counters a.counters, oracle := a.oracle.map x.oracle }

/-- What becomes of a request now. The event is the one that is published, `events_check`. -/
def receipt (a : Admission κ ω) (i : Inquiry) : Receipt :=
  ⟨i, (a.check i.service i.consumer i.id i.now).1, (a.ruling? i).map Ruling.event⟩

/-- What becomes of the requests of a run. -/
def receipts (a : Admission κ ω) : List (Moment κ ω) → List Receipt
  | [] => []
  | .check i :: ms => a.receipt i :: (a.after i).receipts ms
  | .interlude x :: ms => (a.pass x).receipts ms

/-! ### Two states in which an account fares the same -/

/-- Both have the same counter under a key, both oracles have the same mood about some questions,
and are waited for equally long. -/
structure Alike (k : String) (Q : String × String → Prop) (a b : Admission κ ω) : Prop where
  entry_eq : entry a.counters k = entry b.counters k
  mood_eq : ∀ q, Q q → a.oracle.map (mood · q) = b.oracle.map (mood · q)
  timeout_eq : a.oracleTimeoutMs = b.oracleTimeoutMs

namespace Alike

variable {k : String} {Q : String × String → Prop} {a b : Admission κ ω} {x : Check} {p c : String}

theorem refl (a : Admission κ ω) : Alike k Q a a := ⟨rfl, fun _ _ => rfl, rfl⟩

/-- Recording a ruling changes neither counters nor oracle. -/
theorem record (h : Alike k Q a b) (r r' : Ruling) : Alike k Q (r.record a) (r'.record b) := by
  constructor
  · rw [Ruling.counters_record, Ruling.counters_record]
    exact h.entry_eq
  · rw [Ruling.oracle_record, Ruling.oracle_record]
    exact h.mood_eq
  · rw [Ruling.oracleTimeoutMs_record, Ruling.oracleTimeoutMs_record]
    exact h.timeout_eq

theorem record_left (h : Alike k Q a b) (r : Ruling) : Alike k Q (r.record a) b := by
  constructor
  · rw [Ruling.counters_record]
    exact h.entry_eq
  · rw [Ruling.oracle_record]
    exact h.mood_eq
  · rw [Ruling.oracleTimeoutMs_record]
    exact h.timeout_eq

/-- Either there is no oracle in both, or both have the same mood about each of the questions. -/
theorem oracle_cases (h : Alike k Q a b) {q : String × String} (hq : Q q) :
    (a.oracle = none ∧ b.oracle = none) ∨
      ∃ o o', a.oracle = some o ∧ b.oracle = some o' ∧ mood o q = mood o' q := by
  have hmood := h.mood_eq q hq
  cases ha : a.oracle with
  | none =>
    rw [ha, Option.map_none] at hmood
    exact .inl ⟨rfl, Option.map_eq_none_iff.mp hmood.symm⟩
  | some o =>
    rw [ha, Option.map_some] at hmood
    obtain ⟨o', hb, hsame⟩ := Option.map_eq_some_iff.mp hmood.symm
    exact .inr ⟨o, o', rfl, hb, hsame.symm⟩

theorem pass (h : Alike k Q a b) (y : Interlude κ ω) : Alike k Q (a.pass y) (b.pass y) := by
  refine ⟨y.counters_congr h.entry_eq, fun q hq => ?_, h.timeout_eq⟩
  rw [Admission.pass, Admission.pass]
  rcases h.oracle_cases hq with ⟨ha, hb⟩ | ⟨o, o', ha, hb, hmood⟩
  · rw [ha, hb]
  · rw [ha, hb]
    exact congrArg some (y.oracle_congr hmood)

/-- The oracle gives both the same answer to each of the questions. -/
theorem ask (h : Alike k Q a b) (hq : Q (p, c)) :
    (a.askOracle p c).1 = (b.askOracle p c).1 ∧
      Alike k Q (a.askOracle p c).2 (b.askOracle p c).2 := by
  rcases h.oracle_cases hq with ⟨ha, hb⟩ | ⟨o, o', ha, hb, -⟩
  · rw [a.askOracle_of_none ha, b.askOracle_of_none hb]
    exact ⟨rfl, h⟩
  · have hmood (q : String × String) (hq : Q q) : mood o q = mood o' q := by
      have hsame := h.mood_eq q hq
      rw [ha, hb] at hsame
      exact Option.some.inj hsame
    obtain ⟨hreply, hafter⟩ := (QuestionwiseOracle.ask p c).entry_congr hq hmood
    rw [a.askOracle_of_some ha, b.askOracle_of_some hb, hreply, h.timeout_eq]
    exact ⟨rfl, h.entry_eq, fun q hq => congrArg some (hafter q hq), rfl⟩

/-- Any other question changes nothing for them, and neither does one that does not matter. -/
theorem ask_elsewhere (h : Alike k Q a b) (hq : Q (p, c) → Indifferent ω (p, c)) :
    Alike k Q (a.askOracle p c).2 b := by
  cases ha : a.oracle with
  | none =>
    rw [a.askOracle_of_none ha]
    exact h
  | some o =>
    rw [a.askOracle_of_some ha]
    refine ⟨h.entry_eq, fun q hq' => ?_, h.timeout_eq⟩
    have hsame := h.mood_eq q hq'
    rw [ha] at hsame
    have hkept : mood (Oracle.ask p c o).2 q = mood o q := by
      by_cases hne : q = (p, c)
      · subst hne
        exact hq hq' o
      · exact (QuestionwiseOracle.ask p c).of_ne o hne
    exact (congrArg some hkept).trans hsame

theorem read (h : Alike x.subject.key Q a b) :
    (a.read x).1 = (b.read x).1 ∧ Alike x.subject.key Q (a.read x).2 (b.read x).2 := by
  obtain ⟨hfound, hafter⟩ := (KeywiseStore.get x.subject.key).congr h.entry_eq
  exact ⟨hfound, hafter, h.mood_eq, h.timeout_eq⟩

theorem read_elsewhere (h : Alike k Q a b) (hkey : k ≠ x.subject.key) : Alike k Q (a.read x).2 b :=
  ⟨((KeywiseStore.get _).of_ne a.counters hkey).trans h.entry_eq, h.mood_eq, h.timeout_eq⟩

theorem settle (h : Alike x.subject.key Q a b) (l : Limits) :
    (a.settle x l).1 = (b.settle x l).1 ∧
      Alike x.subject.key Q (a.settle x l).2 (b.settle x l).2 := by
  obtain ⟨hresult, hafter⟩ :=
    (KeywiseStore.update _ l.lifetimeMs (x.subject.write l x.now)).congr h.entry_eq
  exact ⟨congrArg (x.settled l) hresult, hafter, h.mood_eq, h.timeout_eq⟩

theorem settle_elsewhere (h : Alike k Q a b) (hkey : k ≠ x.subject.key) (l : Limits) :
    Alike k Q (a.settle x l).2 b := by
  have hkept := (KeywiseStore.update _ l.lifetimeMs (x.subject.write l x.now)).of_ne a.counters hkey
  exact ⟨hkept.trans h.entry_eq, h.mood_eq, h.timeout_eq⟩

/-- A check of the account is ruled the same in both. -/
theorem rule (h : Alike x.subject.key Q a b)
    (hq : ∀ q, x.subject.question? = some q → Q q) :
    (a.rule x).1 = (b.rule x).1 ∧ Alike x.subject.key Q (a.rule x).2 (b.rule x).2 := by
  obtain ⟨hfound, hread⟩ := h.read
  cases hp : x.subject.plan (a.read x).1 with
  | giveUp =>
    rw [rule_of_giveUp hp, rule_of_giveUp (hfound ▸ hp)]
    exact ⟨rfl, hread⟩
  | count l =>
    rw [rule_of_count hp, rule_of_count (hfound ▸ hp)]
    exact hread.settle l
  | ask p c =>
    obtain ⟨hgranted, hasked⟩ := hread.ask (hq (p, c) (Subject.plan_eq_ask hp).1)
    cases hl : ((a.read x).2.askOracle p c).1 with
    | none =>
      rw [rule_of_refused hp hl, rule_of_refused (hfound ▸ hp) (hgranted ▸ hl)]
      exact ⟨rfl, hasked⟩
    | some l =>
      rw [rule_of_granted hp hl, rule_of_granted (hfound ▸ hp) (hgranted ▸ hl)]
      exact hasked.settle l

/-- A check of another account changes nothing for this one. -/
theorem rule_elsewhere (h : Alike k Q a b) (hkey : k ≠ x.subject.key)
    (hq : ∀ q, x.subject.question? = some q → Q q → Indifferent ω q) :
    Alike k Q (a.rule x).2 b := by
  have hread := h.read_elsewhere (x := x) hkey
  cases hp : x.subject.plan (a.read x).1 with
  | giveUp =>
    rw [rule_of_giveUp hp]
    exact hread
  | count l =>
    rw [rule_of_count hp]
    exact hread.settle_elsewhere hkey l
  | ask p c =>
    have hasked := hread.ask_elsewhere (hq (p, c) (Subject.plan_eq_ask hp).1)
    cases hl : ((a.read x).2.askOracle p c).1 with
    | none =>
      rw [rule_of_refused hp hl]
      exact hasked
    | some l =>
      rw [rule_of_granted hp hl]
      exact hasked.settle_elsewhere hkey l

variable {t : String × Option String} {i : Inquiry}

/-- What becomes of a request of the account is the same in both. -/
theorem receipt (h : Alike (Subject.keyOf t.1 t.2) Q a b) (ht : i.account? = some t)
    (hq : ∀ q, i.question? = some q → Q q) :
    a.receipt i = b.receipt i ∧ Alike (Subject.keyOf t.1 t.2) Q (a.after i) (b.after i) := by
  cases hc : i.check? with
  | none => exact absurd ht (by rw [Inquiry.account?_of_uncounted hc]; simp)
  | some x =>
    obtain ⟨haccount, hquestion, -, hkey⟩ := Inquiry.account?_of_counted hc
    obtain rfl := Option.some.inj (haccount.symm.trans ht)
    rw [← hkey] at h ⊢
    obtain ⟨hruled, hafter⟩ := h.rule fun q hx => hq q (hquestion.trans hx)
    rw [Admission.receipt, Admission.receipt, a.ruling?_of_counted hc, b.ruling?_of_counted hc,
      a.after_of_counted hc, b.after_of_counted hc, a.check_of_counted hc, b.check_of_counted hc,
      hruled]
    exact ⟨rfl, hafter.record _ _⟩

/-- A request of another account changes nothing for this one. -/
theorem after_elsewhere (h : Alike (Subject.keyOf t.1 t.2) Q a b) (ht : i.account? ≠ some t)
    (hid : ':' ∉ t.1.toList) (hid' : ':' ∉ i.service.id.toList)
    (hq : ∀ q, i.question? = some q → Q q → Indifferent ω q) :
    Alike (Subject.keyOf t.1 t.2) Q (a.after i) b := by
  cases hc : i.check? with
  | none => rwa [a.after_of_uncounted hc]
  | some x =>
    obtain ⟨haccount, hquestion, hservice, hkey⟩ := Inquiry.account?_of_counted hc
    have hother : Subject.keyOf t.1 t.2 ≠ x.subject.key := by
      intro hsame
      rw [hkey] at hsame
      obtain ⟨hids, hconsumers⟩ := Subject.keyOf_inj hid (hservice ▸ hid') hsame
      exact ht (haccount.trans (congrArg some (Prod.ext hids.symm hconsumers.symm)))
    rw [a.after_of_counted hc]
    exact (h.rule_elsewhere hother fun q hx => hq q (hquestion.trans hx)).record_left _

/-- The rest of two runs, one of them without the checks of other accounts. -/
theorem receipts (h : Alike (Subject.keyOf t.1 t.2) Q a b) {ms : List (Moment κ ω)}
    (hid : ':' ∉ t.1.toList) (hids : ∀ i, .check i ∈ ms → ':' ∉ i.service.id.toList)
    (hown : ∀ i, .check i ∈ ms → i.account? = some t → ∀ q, i.question? = some q → Q q)
    (hother : ∀ i, .check i ∈ ms → i.account? ≠ some t → ∀ q, i.question? = some q → Q q →
      Indifferent ω q) :
    (a.receipts ms).filter (Receipt.isOf t) =
      b.receipts (ms.filter (Moment.staysFor t)) := by
  induction ms generalizing a b with
  | nil => rfl
  | cons m ms ih =>
    have hrest {a b : Admission κ ω} (h : Alike (Subject.keyOf t.1 t.2) Q a b) :=
      ih h (fun i hi => hids i (List.mem_cons_of_mem m hi))
        (fun i hi => hown i (List.mem_cons_of_mem m hi))
        (fun i hi => hother i (List.mem_cons_of_mem m hi))
    cases m with
    | interlude y =>
      rw [List.filter_cons_of_pos rfl, Admission.receipts, Admission.receipts]
      exact hrest (h.pass y)
    | check i =>
      by_cases ht : i.account? = some t
      · obtain ⟨hreceipt, hafter⟩ := h.receipt ht (hown i List.mem_cons_self ht)
        have hstays : Moment.staysFor t (.check i : Moment κ ω) = true := decide_eq_true ht
        have hkept : Receipt.isOf t (a.receipt i) = true := decide_eq_true ht
        rw [Admission.receipts, List.filter_cons_of_pos hkept, List.filter_cons_of_pos hstays,
          Admission.receipts, hreceipt, hrest hafter]
      · -- Only the run on the left moves.
        have hafter := h.after_elsewhere ht hid (hids i List.mem_cons_self)
          (hother i List.mem_cons_self ht)
        have hleaves : ¬Moment.staysFor t (.check i : Moment κ ω) = true :=
          ne_true_of_eq_false (decide_eq_false ht)
        have hdropped : ¬Receipt.isOf t (a.receipt i) = true :=
          ne_true_of_eq_false (decide_eq_false ht)
        rw [Admission.receipts, List.filter_cons_of_neg hdropped, List.filter_cons_of_neg hleaves,
          hrest hafter]

end Alike

/-! ### The accounts of a run -/

/-- **What becomes of the requests of an account depends on no other account.** Take a run over
services whose identifiers have no colon, with any consumers, on a store that treats every key by
itself and with an oracle that treats every question by itself, and leave out all checks but those
of one account. Those are decided and published as before. Two accounts may have a question to the
oracle in common only if asking it does not change the answers to it. -/
theorem receipts_of_account (a : Admission κ ω) (ms : List (Moment κ ω))
    (t : String × Option String) (hid : ':' ∉ t.1.toList)
    (hids : ∀ i, .check i ∈ ms → ':' ∉ i.service.id.toList)
    (hshared : ∀ i j q, .check i ∈ ms → .check j ∈ ms → i.account? = some t →
      j.account? ≠ some t → i.question? = some q → j.question? = some q → Indifferent ω q) :
    (a.receipts ms).filter (Receipt.isOf t) =
      a.receipts (ms.filter (Moment.staysFor t)) := by
  refine (Alike.refl (Q := fun q => ∃ i, .check i ∈ ms ∧ i.account? = some t ∧
    i.question? = some q) a).receipts hid hids ?_ ?_
  · intro i hi ht q hq
    exact ⟨i, hi, ht, hq⟩
  · rintro j hj ht q hq ⟨i, hi, hi', hq'⟩
    exact hshared i j q hi hj hi' ht hq' hq

end Admission

end Runs

/-! ### Two services with one question -/

namespace Admission.Shared

def service (id : String) (policyRef : Option String) : Service :=
  { id, nodes := [], throttle := some ⟨false, 1, 1000, policyRef⟩ }

def inquiry (id : String) (policyRef : Option String) (now : Int64) : Inquiry :=
  ⟨service id policyRef, some "c", .zero, now⟩

/-- No counters, and an oracle that refuses everyone once and then grants one request a second. -/
def start : Admission (MemoryStore ThrottleCounter) Script where
  counters := ⟨ExpiringMap.empty, 0⟩
  oracle := some ⟨fun _ => [⟨0, .ok ⟨false, none, none⟩⟩, ⟨0, .ok ⟨true, some 1, some 1000⟩⟩]⟩
  oracleTimeoutMs := 100
  events := none
  metrics := Metrics.empty

/-- Time passes. -/
def pause (ms : Nat) : Interlude (MemoryStore ThrottleCounter) Script where
  counters s := s.wait ms
  oracle o := o
  counters_congr := MemoryStore.entry_wait ms
  oracle_congr h := h

/-- Service `b` has limits of its own. During the pause all counters expire. -/
def ownLimits : List (Moment (MemoryStore ThrottleCounter) Script) :=
  [.check (inquiry "b" none 0), .check (inquiry "a" (some "p") 1), .check (inquiry "b" none 2),
    .interlude (pause 400000), .check (inquiry "a" (some "p") 3)]

/-- Both services name the same policy. -/
def onePolicy : List (Moment (MemoryStore ThrottleCounter) Script) :=
  [.check (inquiry "b" (some "p") 0), .check (inquiry "a" (some "p") 1)]

end Admission.Shared

namespace Admission

open Shared in
theorem receipts_of_other_limits :
    (start.receipts ownLimits).map (·.decision.allowed) = [true, false, false, true] ∧
      (start.receipts ownLimits).filter (Receipt.isOf ("a", some "c")) =
        start.receipts (ownLimits.filter (Moment.staysFor ("a", some "c"))) := by
  have hchecks (i : Inquiry) (hi : .check i ∈ ownLimits) : ':' ∉ i.service.id.toList ∧
      (i.account? = some ("a", some "c") ∨ i.question? = none) := by
    simp only [ownLimits, List.mem_cons, Moment.check.injEq, reduceCtorEq, List.not_mem_nil,
      or_false, false_or] at hi
    rcases hi with rfl | rfl | rfl | rfl
    · exact ⟨by decide, .inr rfl⟩
    · exact ⟨by decide, .inl rfl⟩
    · exact ⟨by decide, .inr rfl⟩
    · exact ⟨by decide, .inl rfl⟩
  refine ⟨by rfl, receipts_of_account _ _ _ (by decide) (fun i hi => (hchecks i hi).1) ?_⟩
  intro i j q hi hj ht hother hq hq'
  rcases (hchecks j hj).2 with hown | hnone
  · exact absurd hown hother
  · exact absurd (hnone.symm.trans hq') (by simp)

open Shared in
/-- Here the oracle treats every question by itself, and yet the check of service `b` decides about
the one of service `a`: it takes the refusal upon itself. -/
theorem shared_question :
    (∀ i, .check i ∈ onePolicy → ':' ∉ i.service.id.toList) ∧
      ((start.receipts onePolicy).filter (Receipt.isOf ("a", some "c"))).map
        (·.decision.allowed) = [true] ∧
      (start.receipts (onePolicy.filter (Moment.staysFor ("a", some "c")))).map
        (·.decision.allowed) = [false] := by
  refine ⟨?_, by rfl, by rfl⟩
  intro i hi
  simp only [onePolicy, List.mem_cons, Moment.check.injEq, List.not_mem_nil, or_false] at hi
  rcases hi with rfl | rfl
  · decide
  · decide

end Admission

end Gatehouse
