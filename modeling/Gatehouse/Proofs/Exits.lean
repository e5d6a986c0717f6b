import Gatehouse.Proofs.Rulings

/-!
# The ends of a check

A check of a request that is counted ends in one of four ways. It cannot read the counter; or it has
to ask the oracle and there is none; or the oracle grants no limits; or it learns its limits, from
the policy, from the counter or from the oracle, and makes its one update, which is applied, skipped
or failed. This file says for each end what is ruled and what was done until then: the calls of the
store as they went, and the questions to the oracle with their answers.

Nothing is assumed about the store or the oracle. On a store that may fail, but does what it should
when it does not, it follows what a check learns and writes.

## Implementation notes

Calls and questions are noted by a record around the store and a log around the oracle, both empty
at the beginning of the check, `Admission.watched`. A check that is watched goes as it would
otherwise, `Admission.after_watched`.

## Main definitions

* `Admission.watched`, `Admission.calls`, `Admission.questions` — what is noted of a check
* `Admission.Source` — where limits come from, given what was read
* `Admission.Exit` — the ends

## Main results

* `Admission.exit_of_counted` — a check that is counted ends in one of these ways
* `Admission.rule_cases` — everything a check can do, on a store that may fail
-/

namespace Gatehouse

open StoreView (live?)

/-- Whether it is an update that was made. -/
def StoreEvent.isUpdate {V : Type} : StoreEvent V → Bool
  | .update .. => true
  | _ => false

namespace Admission

variable {κ ω : Type}

/-! ### Watching a check -/

/-- The same state, with an empty record of calls and an empty log of questions. -/
def watched (a : Admission κ ω) : Admission (RecordedStore κ ThrottleCounter) (LoggedOracle ω) :=
  a.translate (⟨·, []⟩) (⟨·, []⟩)

/-- The state that is watched. -/
def unwatched (a : Admission (RecordedStore κ ThrottleCounter) (LoggedOracle ω)) :
    Admission κ ω :=
  a.translate (fun s => s.store) fun o => o.oracle

theorem unwatched_watched (a : Admission κ ω) : a.watched.unwatched = a := by
  obtain ⟨counters, oracle, timeoutMs, events, metrics⟩ := a
  cases oracle <;> rfl

@[simp] theorem consultations_watched (a : Admission κ ω) : a.watched.consultations = [] := by
  obtain ⟨counters, oracle, timeoutMs, events, metrics⟩ := a
  cases oracle <;> rfl

variable [Store κ ThrottleCounter] [Oracle ω] (a : Admission κ ω) (i : Inquiry)

/-- The calls of the store in a check, in order, as they went. -/
def calls : List (StoreEvent ThrottleCounter) := (a.watched.after i).counters.events

/-- The questions put to the oracle in a check, the last one first, with their answers. -/
def questions : List Consultation := (a.watched.after i).consultations

/-- Watching changes nothing. -/
theorem after_watched : (a.watched.after i).unwatched = a.after i := by
  have h := after_translate (f := fun s : RecordedStore κ ThrottleCounter => s.store)
    RecordedStore.respectsCalls LoggedOracle.respectsQuestions a.watched i
  rw [unwatched, ← h]
  exact congrArg (·.after i) a.unwatched_watched

theorem rule_watched (c : Check) : a.rule c = (a.watched.rule c).map id unwatched := by
  have h := rule_translate (f := fun s : RecordedStore κ ThrottleCounter => s.store)
    RecordedStore.respectsCalls LoggedOracle.respectsQuestions a.watched c
  rw [← unwatched, unwatched_watched] at h
  exact h

/-- A request that is not counted calls for nothing. -/
theorem calls_of_uncounted {i : Inquiry} (hc : i.check? = none) : a.calls i = [] := by
  rw [calls, after_of_uncounted _ hc]
  rfl

/-! ### The ends -/

/-- The store after the counter was read. -/
def readStore (c : Check) : κ := (Store.get c.subject.key a.counters).2

/-- Where the limits that a check counts under come from if it read `found`, with the oracle after
that and the questions put to it. -/
inductive Source (s : Subject) (found : Option ThrottleCounter) :
    Limits → Option ω → List Consultation → Prop where
  /-- From the policy. -/
  | own (hq : s.question? = none) : Source s found s.ownLimits a.oracle []
  /-- From the counter. -/
  | kept {w : ThrottleCounter} (hq : s.question?.isSome = true) (hw : found = some w) :
    Source s found w.limits a.oracle []
  /-- From the oracle. -/
  | granted {p q : String} {o : ω} {l : Limits} (hq : s.question? = some (p, q))
      (hnone : found = none) (ho : a.oracle = some o)
      (hl : (Oracle.ask p q o).1.limits? a.oracleTimeoutMs = some l) :
    Source s found l (some (Oracle.ask p q o).2) [⟨p, q, (Oracle.ask p q o).1⟩]

/-- The ends of a check: its ruling, the store and the oracle after it, and the calls and questions
until then. -/
inductive Exit (c : Check) :
    Ruling → κ → Option ω → List (StoreEvent ThrottleCounter) → List Consultation → Prop where
  /-- The counter cannot be read. -/
  | unread {e : StoreError} (hget : (Store.get c.subject.key a.counters).1 = .error e) :
    Exit c c.refused (a.readStore c) a.oracle [.failed .get] []
  /-- There is no oracle to ask. -/
  | unasked {p q : String} (hget : (Store.get c.subject.key a.counters).1 = .ok none)
      (hq : c.subject.question? = some (p, q)) (ho : a.oracle = none) :
    Exit c c.refused (a.readStore c) a.oracle [.get c.subject.key none] []
  /-- The oracle grants nothing. -/
  | ungranted {p q : String} {o : ω} (hget : (Store.get c.subject.key a.counters).1 = .ok none)
      (hq : c.subject.question? = some (p, q)) (ho : a.oracle = some o)
      (hl : (Oracle.ask p q o).1.limits? a.oracleTimeoutMs = none) :
    Exit c c.refused (a.readStore c) (some (Oracle.ask p q o).2) [.get c.subject.key none]
      [⟨p, q, (Oracle.ask p q o).1⟩]
  /-- The update is made, or at least attempted. -/
  | counted {found : Option ThrottleCounter} {l : Limits} {oracle : Option ω}
      {asked : List Consultation} {u : Updated ThrottleCounter} {store : κ}
      (hget : (Store.get c.subject.key a.counters).1 = .ok found)
      (hl : a.Source c.subject found l oracle asked)
      (hu : Store.update c.subject.key l.lifetimeMs (c.subject.write l c.now) (a.readStore c) =
        (u, store)) :
    Exit c (c.settled l u) store oracle
      [.get c.subject.key found,
        .ofUpdate c.subject.key l.lifetimeMs (c.subject.write l c.now) u] asked

/-- A check that has learned its limits, and what is noted until it does. -/
theorem Exit.of_settle {c : Check}
    {b : Admission (RecordedStore κ ThrottleCounter) (LoggedOracle ω)} {found : Option ThrottleCounter} {l : Limits}
    (hget : (Store.get c.subject.key a.counters).1 = .ok found)
    (hb : b.counters = ⟨a.readStore c, [.get c.subject.key found]⟩)
    (hl : a.Source c.subject found l (b.oracle.map LoggedOracle.oracle) b.consultations) :
    a.Exit c (b.settle c l).1 (b.settle c l).2.counters.store
      ((b.settle c l).2.oracle.map LoggedOracle.oracle) (b.settle c l).2.counters.events
      (b.settle c l).2.consultations := by
  rw [settle, hb]
  exact .counted hget hl rfl

/-- **A check ends in one of these ways.** -/
theorem exit_rule (c : Check) :
    a.Exit c (a.watched.rule c).1 (a.watched.rule c).2.counters.store
      ((a.watched.rule c).2.oracle.map LoggedOracle.oracle) (a.watched.rule c).2.counters.events
      (a.watched.rule c).2.consultations := by
  have hread : (a.watched.read c).1 = (Store.get c.subject.key a.counters).1 := rfl
  have hcounters : (a.watched.read c).2.counters =
      ⟨a.readStore c, [.ofGet c.subject.key (Store.get c.subject.key a.counters).1]⟩ := rfl
  have horacle : (a.watched.read c).2.oracle = a.oracle.map (⟨·, []⟩) := rfl
  have hunlogged : (a.watched.read c).2.oracle.map LoggedOracle.oracle = a.oracle := by
    rw [horacle, Option.map_map]
    exact Option.map_id'
  have hquestions : (a.watched.read c).2.consultations = [] := a.consultations_watched
  cases hget : (Store.get c.subject.key a.counters).1 with
  | error e =>
    rw [hget] at hread hcounters
    rw [rule_of_giveUp (by rw [hread, Subject.plan]), hcounters, hunlogged, hquestions]
    exact .unread hget
  | ok found =>
    rw [hget] at hread hcounters
    cases hp : c.subject.plan (a.watched.read c).1 with
    | giveUp =>
      rw [hread] at hp
      rcases c.subject.plan_ok found with ⟨l, hl, -⟩ | ⟨p, q, hl, -⟩ <;> simp [hl] at hp
    | count l =>
      rw [rule_of_count hp]
      rw [hread] at hp
      refine Exit.of_settle a hget hcounters ?_
      rw [hunlogged, hquestions]
      rcases Subject.plan_eq_count hp with ⟨hq, rfl⟩ | ⟨w, hw, hq, rfl⟩
      · exact .own hq
      · exact .kept hq (Except.ok.inj hw)
    | ask p q =>
      obtain ⟨hq, hfound⟩ := Subject.plan_eq_ask (hread ▸ hp)
      obtain rfl := Except.ok.inj hfound
      cases ho : a.oracle with
      | none =>
        have hnone : (a.watched.read c).2.oracle = none := by rw [horacle, ho]; rfl
        have hasked := askOracle_of_none _ hnone p q
        rw [rule_of_refused hp (by rw [hasked]), hasked, hcounters, hunlogged, hquestions]
        exact .unasked hget hq ho
      | some o =>
        have hsome : (a.watched.read c).2.oracle = some ⟨o, []⟩ := by rw [horacle, ho]; rfl
        have hasked := askOracle_of_some _ hsome p q
        cases hl : (Oracle.ask p q o).1.limits? a.oracleTimeoutMs with
        | none =>
          rw [rule_of_refused hp (by rw [hasked]; exact hl), hasked]
          simp only [hcounters]
          exact .ungranted hget hq ho hl
        | some l =>
          rw [rule_of_granted hp (by rw [hasked]; exact hl), hasked]
          exact Exit.of_settle a hget hcounters (.granted hq rfl ho hl)

variable {a} in
/-- A check is refused, or it is ruled by what its update found. -/
theorem Exit.refused_or_ruled {c : Check} {r : Ruling} {store : κ} {oracle : Option ω}
    {calls : List (StoreEvent ThrottleCounter)} {asked : List Consultation}
    (h : a.Exit c r store oracle calls asked) :
    (r = c.refused ∧ ∀ e ∈ calls, e.isUpdate = false) ∨
      ∃ found l seen, r = c.ruled l seen ∧
        calls = [.get c.subject.key found,
          .update c.subject.key seen (c.subject.write l c.now seen) l.lifetimeMs] ∧
        Store.update c.subject.key l.lifetimeMs (c.subject.write l c.now) (a.readStore c) =
          (.applied seen, store) := by
  cases h with
  | unread hget => exact .inl ⟨rfl, by simp [StoreEvent.isUpdate]⟩
  | unasked hget hq ho => exact .inl ⟨rfl, by simp [StoreEvent.isUpdate]⟩
  | ungranted hget hq ho hl => exact .inl ⟨rfl, by simp [StoreEvent.isUpdate]⟩
  | @counted found l _ _ u _ hget hl hu =>
    cases u with
    | failed e => exact .inl ⟨rfl, by simp [StoreEvent.ofUpdate, StoreEvent.isUpdate]⟩
    | skipped => exact .inl ⟨rfl, by simp [StoreEvent.ofUpdate, StoreEvent.isUpdate]⟩
    | applied seen => exact .inr ⟨found, l, seen, rfl, rfl, hu⟩

/-- The end of a check, whether it is watched or not. -/
theorem exists_exit (c : Check) :
    ∃ calls asked,
      a.Exit c (a.rule c).1 (a.rule c).2.counters (a.rule c).2.oracle calls asked := by
  rw [rule_watched]
  exact ⟨_, _, a.exit_rule c⟩

/-- The end of a check of a request. -/
theorem exit_of_counted {i : Inquiry} {c : Check} (hc : i.check? = some c) :
    a.Exit c (a.rule c).1 (a.after i).counters (a.after i).oracle (a.calls i) (a.questions i) := by
  have hexit := a.exit_rule c
  have hrule := a.rule_watched c
  rw [calls, questions, after_of_counted _ hc, after_of_counted _ hc, consultations_record,
    Ruling.counters_record, Ruling.counters_record, Ruling.oracle_record, hrule]
  exact hexit

/-! ### Checks on a store that may fail -/

section Steady

variable [StoreView κ ThrottleCounter] [SteadyStore κ] {a}

omit [Store κ ThrottleCounter] [SteadyStore κ] in
/-- What is read on such a store is what is there. -/
theorem Source.learns {s : Subject} {l : Limits} {oracle : Option ω} {asked : List Consultation}
    (h : a.Source s (live? a.counters s.key) l oracle asked) : a.Learns s l oracle := by
  cases h with
  | own hq => exact .own hq
  | kept hq hw => exact .kept hq hw
  | granted hq hnone ho hl => exact .granted hq hnone ho hl

/-- A check on a store that may fail: it is ruled for lack of the store or of limits and writes
nothing, or it learned its limits and made its update. -/
theorem rule_cases (a : Admission κ ω) (c : Check) :
    ((a.rule c).1 = c.refused ∧
        ∀ k, live? (a.rule c).2.counters k = live? a.counters k) ∨
      ∃ l, a.Learns c.subject l (a.rule c).2.oracle ∧
        ((a.rule c).1 = c.ruled l (live? a.counters c.subject.key) ∨
          (a.rule c).1 = c.refused) ∧
        ∀ k w, live? (a.rule c).2.counters k = some w →
          live? a.counters k = some w ∨ k = c.subject.key ∧
            c.subject.write l c.now (live? a.counters c.subject.key) = some w := by
  have hread (k : String) : live? (a.readStore c) k = live? a.counters k :=
    SteadyStore.live?_get _ _ _
  obtain ⟨calls, asked, hexit⟩ := a.exists_exit c
  generalize (a.rule c).1 = r, (a.rule c).2.counters = store, (a.rule c).2.oracle = oracle
    at hexit ⊢
  cases hexit with
  | unread hget => exact .inl ⟨rfl, hread⟩
  | unasked hget hq ho => exact .inl ⟨rfl, hread⟩
  | ungranted hget hq ho hl => exact .inl ⟨rfl, hread⟩
  | @counted found l _ _ u _ hget hl hu =>
    obtain rfl := SteadyStore.eq_of_get hget
    have hsettle : (a.read c).2.settle c l =
        (c.settled l u, { (a.read c).2 with counters := store }) := by
      rw [settle]
      exact congrArg (fun x : Updated ThrottleCounter × κ =>
        (c.settled l x.1, { (a.read c).2 with counters := x.2 })) hu
    have hcases := (a.read c).2.settle_cases c l
    rw [hsettle] at hcases
    have hcounters : (a.read c).2.counters = a.readStore c := rfl
    simp only [hcounters, hread] at hcases
    exact .inr ⟨l, hl.learns, hcases⟩

end Steady

end Admission

end Gatehouse
