import Gatehouse.Admission.Trial
import Gatehouse.Proofs.Exits

/-!
# What a check falls back to

The store may fail a check at three points: it cannot be read, its update fails, or it answers
without having made the update. The oracle may fail it in more ways than that. This file tells what
is decided then, and that nothing is left behind.

## Who decides about the limits

Whether the oracle decides about the limits, that is, whether the policy is for single consumers and
names a policy of the oracle. Then every failure turns the request away, with the window of the
policy as the time to wait; and otherwise every failure of the store admits it. Neither depends on
how far the check had come, on what it had read, or on what the oracle had answered.

## Implementation notes

A store that fails may have done what it was asked for all the same. What is said about the calls of
a check holds of such stores as well. That the counters are as before is said of stores in which a
failed call has no effect, `AtomicStore`.

## Main definitions

* `ThrottlePolicy.delegates` — whether the oracle decides about the limits
* `StoreEvent.isUnmade` — a call that failed, or an update that was not made
* `Decision.FallsBack` — the decision in these cases

## Main results

* `Subject.fallsBack` — the fallback of a check
* `Admission.failures_decided_by_path` — the result
-/

namespace Gatehouse

open StoreView (live?)

/-! ### The path of a check -/

/-- Whether the oracle decides about the limits of consumers. -/
def ThrottlePolicy.delegates (policy : ThrottlePolicy) : Bool :=
  !policy.globalEnabled && policy.policyRef.isSome

/-- The decision of a check that fails: to admit the request, unless the oracle decides. Then the
request is turned away, for the time of the window. -/
structure Decision.FallsBack (d : Decision) (policy : ThrottlePolicy) : Prop where
  eq_allow_iff : d = .allow ↔ policy.delegates = false
  denied : policy.delegates = true → d.allowed = false
  hint : policy.delegates = true → d.retryAfterMs.toInt = max policy.windowMs.toInt 0

/-- The oracle is asked on behalf of a policy that delegates. -/
theorem Subject.isSome_question? {service : Service} {consumer : Option String} {s : Subject}
    (h : of? service consumer = some s) : s.question?.isSome = s.policy.delegates := by
  obtain ⟨policy, -, h⟩ := Option.bind_eq_some_iff.mp h
  by_cases hglobal : policy.globalEnabled = true
  · rw [if_pos hglobal] at h
    obtain rfl := Option.some.inj h
    simp [question?, ThrottlePolicy.delegates, hglobal]
  · rw [if_neg hglobal] at h
    obtain ⟨c, rfl, rfl⟩ := Option.map_eq_some_iff.mp h
    simp [question?, ThrottlePolicy.delegates, hglobal]

/-- **A check falls back by its path alone.** -/
theorem Subject.fallsBack {service : Service} {consumer : Option String} {s : Subject}
    (h : of? service consumer = some s) : s.fallback.FallsBack s.policy := by
  have hpath := isSome_question? h
  cases hd : s.policy.delegates with
  | false =>
    have hallow : s.fallback = .allow := by rw [fallback, hpath, hd]; rfl
    exact ⟨by simp [hallow, hd], by simp [hd], by simp [hd]⟩
  | true =>
    have hdeny : s.fallback = .deny s.policy.windowMs := by rw [fallback, hpath, hd]; rfl
    exact ⟨by simp [hdeny, hd, Decision.deny, Decision.allow], fun _ => by rw [hdeny]; rfl,
      fun _ => by rw [hdeny, Decision.toInt_deny]⟩

/-! ### Calls that come to nothing -/

/-- A call that failed, or an update that the store did not make. -/
def StoreEvent.isUnmade {V : Type} : StoreEvent V → Bool
  | .failed _ | .skipped _ => true
  | _ => false

@[simp] theorem StoreEvent.isUnmade_get {V : Type} (k : String) (found : Option V) :
    (StoreEvent.get k found).isUnmade = false := rfl

/-- An update that came to nothing: it failed or was skipped, the check falls back, and it is no
update that was applied. -/
theorem StoreEvent.isUnmade_ofUpdate {k : String} {ttlMs : Nat}
    {f : Option ThrottleCounter → Option ThrottleCounter} {u : Updated ThrottleCounter}
    (h : (StoreEvent.ofUpdate k ttlMs f u).isUnmade = true) (c : Check) (l : Limits) :
    (StoreEvent.ofUpdate k ttlMs f u = .failed .update ∨
        StoreEvent.ofUpdate k ttlMs f u = .skipped k) ∧
      c.settled l u = c.refused ∧ ∀ seen, u ≠ .applied seen := by
  cases u with
  | failed e => exact ⟨.inl rfl, rfl, by simp⟩
  | skipped => exact ⟨.inr rfl, rfl, by simp⟩
  | applied seen => exact absurd h (by simp [ofUpdate, isUnmade])

namespace Admission

variable {κ ω : Type} [Store κ ThrottleCounter] [Oracle ω] {a : Admission κ ω} {c : Check}
  {r : Ruling} {store : κ} {oracle : Option ω} {calls : List (StoreEvent ThrottleCounter)}
  {asked : List Consultation}

/-! ### Failures by the end of a check -/

/-- A check of which a call came to nothing falls back. It made no other call after it. -/
theorem Exit.refused_of_unmade (h : a.Exit c r store oracle calls asked)
    (hunmade : ∃ e ∈ calls, e.isUnmade = true) :
    r = c.refused ∧ (calls = [.failed .get] ∨ ∃ found, calls = [.get c.subject.key found,
        .failed .update] ∨ calls = [.get c.subject.key found, .skipped c.subject.key]) ∧
      ∀ [StoreView κ ThrottleCounter] [AtomicStore κ] (k : String),
        live? store k = live? a.counters k := by
  cases h with
  | unread hget => exact ⟨rfl, .inl rfl, fun k => AtomicStore.live?_get _ _ _⟩
  | unasked hget hq ho => simp at hunmade
  | ungranted hget hq ho hl => simp at hunmade
  | @counted found l _ _ u _ hget hl hu =>
    obtain ⟨e, he, hunmade⟩ := hunmade
    rcases List.mem_cons.mp he with rfl | he
    · exact absurd hunmade (by simp)
    · obtain rfl := List.mem_singleton.mp he
      obtain ⟨hevent, hruling, hnot⟩ := StoreEvent.isUnmade_ofUpdate hunmade c l
      refine ⟨hruling, .inr ⟨found, hevent.imp (by simp [·]) (by simp [·])⟩, ?_⟩
      intro _ _ k
      have hkept : live? (Store.update c.subject.key l.lifetimeMs (c.subject.write l c.now)
          (a.readStore c)).2 k = live? (a.readStore c) k :=
        AtomicStore.live?_of_not_applied k (by rw [hu]; exact hnot)
      rw [hu] at hkept
      exact hkept.trans (AtomicStore.live?_get _ _ _)

/-- A check that found no counter and was granted no limits, where the oracle decides, falls back.
It made no call after the first. -/
theorem Exit.refused_of_ungranted (h : a.Exit c r store oracle calls asked)
    (hpath : c.subject.question?.isSome = true)
    (hget : (Store.get c.subject.key a.counters).1 = .ok none)
    (hungranted : ∀ e ∈ asked, ∀ l, ¬e.Grants a.oracleTimeoutMs l) :
    r = c.refused ∧ calls = [.get c.subject.key none] ∧
      ∀ [StoreView κ ThrottleCounter] [AtomicStore κ] (k : String),
        live? store k = live? a.counters k := by
  cases h with
  | unread hfailed => exact absurd (hfailed.symm.trans hget) (by simp)
  | unasked _ hq ho => exact ⟨rfl, rfl, fun k => AtomicStore.live?_get _ _ _⟩
  | ungranted _ hq ho hl => exact ⟨rfl, rfl, fun k => AtomicStore.live?_get _ _ _⟩
  | counted hfound hl hu =>
    obtain rfl := Except.ok.inj (hget.symm.trans hfound)
    cases hl with
    | own hq => exact absurd hpath (by simp [hq])
    | kept hq hw => exact absurd hw (by simp)
    | granted hq hnone ho hl =>
      exact absurd (Consultation.grants_iff.mpr hl) (hungranted _ (List.mem_singleton_self _) _)

/-- The oracle is asked once, or not at all: it is asked if there is one, if it decides, and if the
counter was looked for and is not there. -/
theorem Exit.asked_iff (h : a.Exit c r store oracle calls asked) :
    asked.length ≤ 1 ∧ (asked ≠ [] ↔ a.oracle.isSome = true ∧
      c.subject.question?.isSome = true ∧ (Store.get c.subject.key a.counters).1 = .ok none) := by
  cases h with
  | unread hget => simp [hget]
  | unasked hget hq ho => simp [ho]
  | ungranted hget hq ho hl => simp [hget, hq, ho]
  | counted hget hl hu =>
    cases hl with
    | own hq => simp [hq]
    | kept hq hw => simp [hget, hw]
    | granted hq hnone ho hl => simp [hget, hq, hnone, ho]

/-! ### The result -/

/-- **The path alone decides about failures.** Let a request be counted, by any policy and for any
consumer, on any store with any oracle, at any instant. If a call of its check came to nothing, the
request is admitted, unless the oracle decides about the limits; then it is turned away, for the
time of the window. Its calls were a read that failed, or a read and an update that failed or was
skipped, and nothing has changed in a store in which failed calls have no effect. The same is
decided if the oracle decides, there is no counter, and there is no oracle or it did not answer in
time with limits that it grants; and then the only call was the read. The oracle is asked, and asked
once, exactly if there is one, it decides, and a counter was looked for and not found. -/
theorem failures_decided_by_path (a : Admission κ ω) (i : Inquiry) {policy : ThrottlePolicy}
    (hpolicy : i.service.throttle = some policy)
    (hcounted : policy.globalEnabled = true ∨ i.consumer.isSome = true) :
    let decision := (a.check i.service i.consumer i.id i.now).1
    let key := i.keyBy policy
    ((∃ e ∈ a.calls i, e.isUnmade = true) → decision.FallsBack policy ∧
      (a.calls i = [.failed .get] ∨ ∃ found, a.calls i = [.get key found, .failed .update] ∨
        a.calls i = [.get key found, .skipped key]) ∧
      ∀ [StoreView κ ThrottleCounter] [AtomicStore κ] (k : String),
        live? (a.after i).counters k = live? a.counters k) ∧
    (policy.delegates = true → (Store.get key a.counters).1 = .ok none →
      (∀ e ∈ a.questions i, ∀ l, ¬e.Grants a.oracleTimeoutMs l) → decision.FallsBack policy ∧
        a.calls i = [.get key none] ∧
        ∀ [StoreView κ ThrottleCounter] [AtomicStore κ] (k : String),
          live? (a.after i).counters k = live? a.counters k) ∧
    (a.questions i).length ≤ 1 ∧
    (a.questions i ≠ [] ↔ a.oracle.isSome = true ∧ policy.delegates = true ∧
      (Store.get key a.counters).1 = .ok none) := by
  intro decision key
  obtain ⟨s, hs, hcheck, rfl, hkey⟩ := Inquiry.check?_of_policy hpolicy hcounted
  have hpath := Subject.isSome_question? hs
  have hexit := a.exit_of_counted hcheck
  have hdecision : decision = (a.rule (.begun s i.id i.now)).1.decision :=
    a.check_of_counted hcheck
  have hkey : (Check.begun s i.id i.now).subject.key = key := hkey
  have hfallback (h : (a.rule (.begun s i.id i.now)).1 = (Check.begun s i.id i.now).refused) :
      decision.FallsBack s.policy := by
    rw [hdecision, h]
    exact Subject.fallsBack hs
  refine ⟨fun hunmade => ?_, fun hdelegates hget hungranted => ?_, ?_⟩
  · obtain ⟨hruling, hcalls, hkept⟩ := hexit.refused_of_unmade hunmade
    exact ⟨hfallback hruling, hkey ▸ hcalls, hkept⟩
  · obtain ⟨hruling, hcalls, hkept⟩ := hexit.refused_of_ungranted (hpath.trans hdelegates)
      (hkey ▸ hget) hungranted
    exact ⟨hfallback hruling, hkey ▸ hcalls, hkept⟩
  · rw [← hpath, ← hkey]
    exact hexit.asked_iff

/-! ### A run

The oracle grants a consumer two requests, but the store skips the update. -/

namespace OutageSample

def policy : ThrottlePolicy := ⟨false, 7, 1000, some "p"⟩

def inquiry : Inquiry :=
  ⟨{ id := "svc", nodes := [], throttle := some policy }, some "c", .zero, 10⟩

def place : Admission (TrialStore ThrottleCounter) TrialOracle where
  counters := { TrialStore.empty with skipping := true }
  oracle := some ⟨[("c", [⟨0, .ok ⟨true, some 2, some 500⟩⟩])], []⟩
  oracleTimeoutMs := 100
  events := none
  metrics := Metrics.empty

end OutageSample

theorem denied_though_granted :
    OutageSample.place.calls OutageSample.inquiry = [.get "svc:c" none, .skipped "svc:c"] ∧
      OutageSample.place.questions OutageSample.inquiry =
        [⟨"p", "c", ⟨0, .ok ⟨true, some 2, some 500⟩⟩⟩] ∧
      (OutageSample.place.check OutageSample.inquiry.service (some "c") .zero 10).1.FallsBack
        OutageSample.policy ∧
      ∀ k, live? (OutageSample.place.after OutageSample.inquiry).counters k =
        live? OutageSample.place.counters k := by
  have hcalls : OutageSample.place.calls OutageSample.inquiry =
      [.get "svc:c" none, .skipped "svc:c"] := by rfl
  have hpolicy : OutageSample.inquiry.service.throttle = some OutageSample.policy := rfl
  obtain ⟨hfails, -⟩ :=
    failures_decided_by_path OutageSample.place OutageSample.inquiry hpolicy (.inr rfl)
  obtain ⟨hdecision, -, hkept⟩ := hfails ⟨.skipped "svc:c", by simp [hcalls], rfl⟩
  exact ⟨hcalls, by rfl, hdecision, hkept⟩

end Admission

end Gatehouse
