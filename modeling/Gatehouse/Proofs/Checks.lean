import Gatehouse.Admission.Check
import Gatehouse.Proofs.Stores

/-!
# Checks in steps

A check reads the clock, reads the counter, perhaps asks the oracle, and makes one update. Other
checks come between any two of these, on this gateway or on another one that shares the store. This
file takes a check apart into its steps and shows that the steps, made one after the other, are the
check.

## Main definitions

* `Check`, `Check.advance` — a check under way, and its next step
* `Ruling` — what a check decided, and the counter that it decided by

## Main results

* `Check.run_begun` — a check that nothing interrupts is `Admission.checkSubject`
* `Check.advance_learning`, `advance_counting` — everything a step can do, on a store that may fail
* `Check.advance_cases` — the same on a store that never fails
-/

namespace Gatehouse

open StoreView (live?)

/-! ### A check under way -/

/-- What a check is about to do. -/
inductive Stage where
  /-- To read the counter. -/
  | reading
  /-- To ask the oracle. -/
  | asking (policyRef consumer : String)
  /-- To decide and to count, under these limits. -/
  | counting (l : Limits)
  deriving DecidableEq

/-- A check that has read the clock. -/
structure Check where
  subject : Subject
  id : Uuid
  /-- What the clock said. -/
  now : Int64
  stage : Stage
  deriving DecidableEq

/-- What a check decided, and the counter that it decided by, if there was one. -/
structure Ruling where
  subject : Subject
  id : Uuid
  now : Int64
  decision : Decision
  counter : Option ThrottleCounter
  deriving DecidableEq

namespace Ruling

/-- The event that is published of it. -/
def event (r : Ruling) : AdmissionEvent := r.subject.event r.id r.now r.decision r.counter

/-- Counts and publishes it. -/
def record {κ ω : Type} (r : Ruling) (a : Admission κ ω) : Admission κ ω :=
  (a.finish r.subject r.id r.now r.decision r.counter).2

theorem events_record {κ ω : Type} (r : Ruling) (a : Admission κ ω) :
    (r.record a).events = a.events.map (·.publish r.event) := by
  rw [record, Admission.finish, Admission.publish]
  cases a.events <;> rfl

end Ruling

namespace Check

/-- A check that has just read the clock. -/
def begun (s : Subject) (id : Uuid) (now : Int64) : Check := ⟨s, id, now, .reading⟩

/-- The ruling for lack of a store or of limits. -/
def refused (c : Check) : Ruling := ⟨c.subject, c.id, c.now, c.subject.fallback, none⟩

/-- The ruling by the counter that is found. -/
def ruled (c : Check) (l : Limits) (found : Option ThrottleCounter) : Ruling :=
  let t := c.subject.tally l c.now found
  ⟨c.subject, c.id, c.now, t.decision, some t.counter⟩

/-- The ruling after an update. -/
def settled (c : Check) (l : Limits) : Updated ThrottleCounter → Ruling
  | .applied found => c.ruled l found
  | _ => c.refused

section Steps

variable {κ ω : Type} [Store κ ThrottleCounter] [Oracle ω]

/-- The next step of a check: it goes on, or it is decided. -/
def advance (c : Check) (a : Admission κ ω) : (Check ⊕ Ruling) × Admission κ ω :=
  match c.stage with
  | .reading =>
    let (found, counters) := Store.get c.subject.key a.counters
    let a := { a with counters }
    match c.subject.plan found with
    | .giveUp => (.inr c.refused, c.refused.record a)
    | .count l => (.inl { c with stage := .counting l }, a)
    | .ask p q => (.inl { c with stage := .asking p q }, a)
  | .asking p q =>
    let (granted, a) := a.askOracle p q
    match granted with
    | some l => (.inl { c with stage := .counting l }, a)
    | none => (.inr c.refused, c.refused.record a)
  | .counting l =>
    let (result, counters) :=
      Store.update c.subject.key l.lifetimeMs (c.subject.write l c.now) a.counters
    (.inr (c.settled l result), (c.settled l result).record { a with counters })

/-- At most `n` steps of a check, with nothing in between. -/
def run : (n : Nat) → Check → Admission κ ω → (Check ⊕ Ruling) × Admission κ ω
  | 0, c, a => (.inl c, a)
  | n + 1, c, a =>
    match c.advance a with
    | (.inl c, a) => run n c a
    | (.inr r, a) => (.inr r, a)

variable (a : Admission κ ω) (s : Subject) (id : Uuid) (now : Int64)

/-- The last step of a check is the update with its consequences. -/
theorem count_eq (l : Limits) :
    ∃ r, advance ⟨s, id, now, .counting l⟩ a = (.inr r, (a.count s id now l).2) ∧
      r.decision = (a.count s id now l).1 := by
  rw [advance, Admission.count]
  simp only
  cases (Store.update s.key l.lifetimeMs (s.write l now) a.counters).1 with
  | failed e => exact ⟨_, rfl, rfl⟩
  | skipped => exact ⟨_, rfl, rfl⟩
  | applied found => exact ⟨_, rfl, rfl⟩

theorem run_counting (n : Nat) (l : Limits) :
    ∃ r, run (n + 1) ⟨s, id, now, .counting l⟩ a = (.inr r, (a.count s id now l).2) ∧
      r.decision = (a.count s id now l).1 := by
  obtain ⟨r, hr, hd⟩ := count_eq a s id now l
  exact ⟨r, by rw [run, hr], hd⟩

/-- **The steps make up the check.** Three of them are enough. -/
theorem run_begun :
    ∃ r, (begun s id now).run 3 a = (.inr r, (a.checkSubject s id now).2) ∧
      r.decision = (a.checkSubject s id now).1 := by
  rw [Admission.checkSubject, run, begun, advance]
  simp only
  cases hp : s.plan (Store.get s.key a.counters).1 with
  | giveUp => exact ⟨_, rfl, rfl⟩
  | count l => exact run_counting _ s id now 1 l
  | ask p q =>
    simp only [run, advance]
    cases hg : (Admission.askOracle
        { a with counters := (Store.get s.key a.counters).2 } p q).1 with
    | some l => exact run_counting _ s id now 0 l
    | none => exact ⟨_, rfl, rfl⟩

end Steps

end Check

/-! ### The store under a step -/

section Store

variable {κ ω : Type}

theorem Admission.counters_publish (a : Admission κ ω) (e : AdmissionEvent) :
    (a.publish e).counters = a.counters := by
  rw [publish]
  split <;> rfl

/-- Recording a ruling leaves the counters alone. -/
@[simp] theorem Ruling.counters_record (r : Ruling) (a : Admission κ ω) :
    (r.record a).counters = a.counters := by
  rw [record, Admission.finish, Admission.counters_publish]

variable [Oracle ω]

/-- So does asking the oracle. -/
@[simp] theorem Admission.counters_askOracle (a : Admission κ ω) (p q : String) :
    (a.askOracle p q).2.counters = a.counters := by
  rw [askOracle]
  split <;> rfl

/-- Counters are stored for longer than their window. -/
theorem Limits.lifetimeMs_pos (l : Limits) : 0 < l.lifetimeMs := Nat.add_pos_right _ (by decide)

/-- What the oracle grants is read off an answer of it. -/
theorem Admission.granted_askOracle {a : Admission κ ω} {p q : String} {l : Limits}
    (h : (a.askOracle p q).1 = some l) : ∃ reply : OracleReply, ∃ t, reply.limits? t = some l := by
  rw [askOracle] at h
  split at h
  · exact absurd h (by simp)
  · exact ⟨_, _, h⟩

/-- A counter that was read is planned with; only for lack of one is the oracle asked. -/
theorem Subject.plan_ok (s : Subject) (found : Option ThrottleCounter) :
    (∃ l, s.plan (.ok found) = .count l ∧
      (l = s.ownLimits ∨ ∃ w, found = some w ∧ l = w.limits)) ∨
    ∃ p q, s.plan (.ok found) = .ask p q ∧ s.question? = some (p, q) := by
  cases hq : s.question? with
  | none => exact .inl ⟨s.ownLimits, by simp [plan, hq], .inl rfl⟩
  | some q =>
    cases found with
    | none => exact .inr ⟨q.1, q.2, by simp [plan, hq], rfl⟩
    | some w => exact .inl ⟨w.limits, by simp [plan, hq], .inr ⟨w, rfl, rfl⟩⟩

/-- The stages that a check can go on to, given what it found if it has just read the counter. -/
def Check.Onward (c : Check) (found : Option ThrottleCounter) : Stage → Prop
  | .reading => False
  | .asking p q => c.subject.question? = some (p, q)
  | .counting l =>
    l = c.subject.ownLimits ∨ (∃ w, found = some w ∧ l = w.limits) ∨
      ∃ reply : OracleReply, ∃ t, reply.limits? t = some l

/-- The limits that a check is about to count under. -/
def Stage.limits? : Stage → Option Limits
  | .counting l => some l
  | _ => none

theorem Stage.limits?_eq_some_iff {stage : Stage} {l : Limits} :
    stage.limits? = some l ↔ stage = .counting l := by
  cases stage <;> simp [limits?]

variable [Store κ ThrottleCounter] {c : Check} {a a' : Admission κ ω} {out : Check ⊕ Ruling}

/-- A check that counts makes its one update and is decided by it. -/
theorem Check.advance_counting {l : Limits} (hstage : c.stage = .counting l)
    (h : c.advance a = (out, a')) :
    out = .inr (c.settled l
        (Store.update c.subject.key l.lifetimeMs (c.subject.write l c.now) a.counters).1) ∧
      a'.counters =
        (Store.update c.subject.key l.lifetimeMs (c.subject.write l c.now) a.counters).2 := by
  simp only [advance, hstage] at h
  obtain ⟨rfl, rfl⟩ := Prod.mk.inj h
  exact ⟨rfl, Ruling.counters_record _ _⟩

variable [StoreView κ ThrottleCounter]

/-- A check that does not count yet leaves the counters alone, on a store that may fail. It goes on
by what it learned, or it is decided for lack of the store or of limits. -/
theorem Check.advance_learning [SteadyStore κ] (hstage : c.stage.limits? = none)
    (h : c.advance a = (out, a')) :
    (∀ k, live? a'.counters k = live? a.counters k) ∧
      ((∃ stage, out = .inl { c with stage } ∧
          c.Onward (live? a.counters c.subject.key) stage) ∨
        out = .inr c.refused ∧ ((∃ e, (Store.get c.subject.key a.counters).1 = .error e) ∨
          ∃ p q, c.stage = .asking p q)) := by
  cases hc : c.stage with
  | reading =>
    have hlive (k : String) : live? (Store.get c.subject.key a.counters).2 k =
        live? a.counters k := SteadyStore.live?_get _ _ _
    simp only [advance, hc] at h
    cases hget : (Store.get c.subject.key a.counters).1 with
    | error e =>
      simp only [hget, Subject.plan] at h
      obtain ⟨rfl, rfl⟩ := Prod.mk.inj h
      exact ⟨fun k => by rw [Ruling.counters_record]; exact hlive k, .inr ⟨rfl, .inl ⟨e, rfl⟩⟩⟩
    | ok found =>
      obtain rfl := SteadyStore.eq_of_get hget
      rw [hget] at h
      rcases c.subject.plan_ok (live? a.counters c.subject.key) with
        ⟨l, hp, hl⟩ | ⟨p, q, hp, hq⟩ <;> rw [hp] at h <;> obtain ⟨rfl, rfl⟩ := Prod.mk.inj h
      · exact ⟨hlive, .inl ⟨.counting l, rfl, hl.imp_right .inl⟩⟩
      · exact ⟨hlive, .inl ⟨.asking p q, rfl, hq⟩⟩
  | asking p q =>
    simp only [advance, hc] at h
    split at h <;> obtain ⟨rfl, rfl⟩ := Prod.mk.inj h
    · rename_i l hl
      exact ⟨by simp, .inl ⟨.counting l, rfl, .inr (.inr (Admission.granted_askOracle hl))⟩⟩
    · exact ⟨by simp, .inr ⟨rfl, .inr ⟨p, q, rfl⟩⟩⟩
  | counting l =>
    rw [hc] at hstage
    exact absurd hstage (by simp [Stage.limits?])

/-- A step of a check on a store that never fails: the check goes on with the counters as they are,
or the oracle gave no limits, or the check is decided by the counter that its update found. -/
theorem Check.advance_cases [ReliableStore κ] (h : c.advance a = (out, a')) :
    (∃ stage, out = .inl { c with stage } ∧ c.Onward (live? a.counters c.subject.key) stage ∧
      ∀ k, live? a'.counters k = live? a.counters k) ∨
    (∃ p q, c.stage = .asking p q ∧ out = .inr c.refused ∧
      ∀ k, live? a'.counters k = live? a.counters k) ∨
    ∃ l, c.stage = .counting l ∧ out = .inr (c.ruled l (live? a.counters c.subject.key)) ∧
      ∀ k, live? a'.counters k =
        if k = c.subject.key then
          (c.subject.write l c.now (live? a.counters c.subject.key)).or
            (live? a.counters c.subject.key)
        else live? a.counters k := by
  cases hl : c.stage.limits? with
  | none =>
    obtain ⟨hlive, ⟨stage, hout, honward⟩ | ⟨hout, ⟨e, he⟩ | ⟨p, q, hstage⟩⟩⟩ :=
      advance_learning hl h
    · exact .inl ⟨stage, hout, honward, hlive⟩
    · exact absurd ((ReliableStore.get_fst c.subject.key a.counters).symm.trans he) (by simp)
    · exact .inr (.inl ⟨p, q, hstage, hout, hlive⟩)
  | some l =>
    have hstage := Stage.limits?_eq_some_iff.mp hl
    obtain ⟨hout, hcounters⟩ := advance_counting hstage h
    rw [ReliableStore.update_fst] at hout
    refine .inr (.inr ⟨l, hstage, hout, fun k => ?_⟩)
    rw [hcounters]
    exact ReliableStore.live?_update _ k _ _ l.lifetimeMs_pos

end Store

end Gatehouse
