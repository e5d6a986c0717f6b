import Gatehouse.Proofs.Bindings

/-!
# Affinity in the presence of other sessions

A session that is bound to a node stays there while its own attempts succeed, as far as it is up to
the session. But the binding of a session may also be written on behalf of another one, namely one
that goes by this session's value. This file follows requests that come one after another, and finds
exactly when the binding holds: when no session that goes by this one's value is bound to another
node.

## Implementation notes

An attempt that is not answered counts as one that failed, like an answer that is a server error:
either takes the binding of an established session away.

## Main definitions

* `Call`, `Selector.call`, `Selector.after` — requests and what they leave behind
* `Undisturbed` — calls in which the session's own attempts succeed, and no response to another
  session carries the value of this one
* `Anchored` — the invariant: the session is bound to a node, and so is every session that goes by
  its value

## Main results

* `Anchored.effect` — every call that does not disturb a session keeps it anchored
* `affinity_kept_iff` — the exact condition under which a binding holds
* `affinity_lost` — a run in which it does not hold
-/

namespace Gatehouse

open StoreView (live?)

/-! ### Calls -/

/-- Backends that give replies in an order set beforehand. -/
structure Scripted where
  replies : Nat → Reply

instance : Backends Scripted where
  send _ _ b := (b.replies 0, ⟨fun j => b.replies (j + 1)⟩)

/-- A request, and the replies that its attempts get. -/
structure Call where
  sessionKey : Option String
  request : Http.Request
  replies : Nat → Reply

namespace Selector

variable {σ : Type} [Store σ SessionRecord]

/-- Forwards a request. -/
def call (s : Selector σ) (service : Service) (c : Call) :
    Forwarding × Selector σ × Journaled Scripted :=
  s.forward service service.nodes c.sessionKey c.request ⟨⟨c.replies⟩, []⟩

/-- The selector after requests that came one after another. -/
def after (s : Selector σ) (service : Service) (cs : List Call) : Selector σ :=
  cs.foldl (fun s c => (s.call service c).2.1) s

end Selector

/-- Dispatches of a call that do not disturb a session: its own ones do not fail, and the responses
to others do not carry its value. -/
structure Spares (service : Service) (k : String) (sessionKey : Option String)
    (ds : List Dispatch) : Prop where
  own : sessionKey = some k → ∀ d ∈ ds, d.reply.failed = false
  others : sessionKey ≠ some k → ¬Carried service ds (Session.valueOf k)

/-- Calls none of which disturbs a session. -/
def Undisturbed {σ : Type} [Store σ SessionRecord] (service : Service) (k : String) :
    Selector σ → List Call → Prop
  | _, [] => True
  | s, c :: cs =>
    Spares service k c.sessionKey (s.call service c).2.2.dispatches ∧
      Undisturbed service k (s.call service c).2.1 cs

/-! ### The invariants -/

section Invariants

variable {service : Service} {nodes : List Node} {f g : String → Option SessionRecord}
  {sessionKey : Option String} {ds : List Dispatch} {k : String} {i : Nat} {r : SessionRecord}

theorem Filed.filing (hf : Filed service nodes f) (hr : r.nodeIndex < nodes.length) :
    Filed service nodes (service.filing r f) := by
  intro x w hw
  rcases Service.filing_cases hw with ⟨ha, hx⟩ | ⟨rfl, hx⟩ | hw
  · exact ⟨hx, SessionRecord.nodeIndex_of_alias? ha ▸ hr⟩
  · exact ⟨hx, hr⟩
  · exact hf x w hw

/-- Whatever a call does, records stay where they are looked for. -/
theorem Filed.effect (hf : Filed service nodes f) (he : Effect service nodes f g sessionKey ds) :
    Filed service nodes g := by
  intro x w hw
  cases he with
  | nothing h => exact hf x w (h x ▸ hw)
  | evicted k d hk hd hfailed h =>
    rw [h x] at hw
    split at hw
    · exact absurd hw (by simp)
    · exact hf x w hw
  | again k v r hk hr hv h =>
    have hfiled : Filed service nodes (service.filing { r with value := v } f) :=
      hf.filing (hf _ r hr).2
    exact hfiled x w (h x ▸ hw)
  | first k v i hk hfree hi hv h =>
    have hfiled : Filed service nodes (service.filing ⟨k, i, v⟩ f) := hf.filing hi
    exact hfiled x w (h x ▸ hw)

/-- The session is bound to node `i`, and so is every session that goes by its value. -/
structure Anchored (service : Service) (k : String) (i : Nat)
    (f : String → Option SessionRecord) : Prop where
  own : ∃ r, f (service.storeKey k) = some r ∧ r.nodeIndex = i
  aliases : ∀ x r a, f x = some r → r.alias? = some a → a.sessionKey = k → r.nodeIndex = i

theorem Anchored.filing (hf : Anchored service k i f) (hown : r.sessionKey = k → r.nodeIndex = i)
    (halias : ∀ a, r.alias? = some a → a.sessionKey = k → r.nodeIndex = i) :
    Anchored service k i (service.filing r f) where
  own := by
    by_cases hk : k = r.sessionKey
    · exact ⟨r, hk ▸ Service.filing_own service r f, hown hk.symm⟩
    · by_cases ha : ∃ a, r.alias? = some a ∧ a.sessionKey = k
      · obtain ⟨a, ha, rfl⟩ := ha
        refine ⟨a, Service.filing_alias ha, ?_⟩
        rw [SessionRecord.nodeIndex_of_alias? ha]
        exact halias a ha rfl
      · rw [Service.filing_other hk fun a ha' he => ha ⟨a, ha', he.symm⟩]
        exact hf.own
  aliases x w a hw ha hk := by
    rcases Service.filing_cases hw with ⟨hw, -⟩ | ⟨rfl, -⟩ | hw
    · rw [SessionRecord.alias?_of_alias? hw] at ha
      exact absurd ha (by simp)
    · exact halias a ha hk
    · exact hf.aliases x w a hw ha hk

/-- **A call that does not disturb a session keeps it anchored.** What is filed for another session
under the value of this one goes back to a record that had the value already, and that record is at
the node of this one. -/
theorem Anchored.effect (ha : Anchored service k i f) (hf : Filed service nodes f)
    (he : Effect service nodes f g sessionKey ds) (hspares : Spares service k sessionKey ds) :
    Anchored service k i g := by
  obtain ⟨r₀, hr₀, hi₀⟩ := ha.own
  cases he with
  | nothing h =>
    obtain rfl : g = f := funext h
    exact ha
  | evicted k' d hk' hd hfailed h =>
    have hne : k ≠ k' := by
      rintro rfl
      have hok := hspares.own hk' d hd
      rw [hfailed] at hok
      exact absurd hok (by decide)
    refine ⟨⟨r₀, ?_, hi₀⟩, fun x r a hr => ?_⟩
    · rw [h, if_neg (Service.storeKey_inj.not.mpr hne)]
      exact hr₀
    · rw [h x] at hr
      split at hr
      · exact absurd hr (by simp)
      · exact ha.aliases x r a hr
  | again k' v r hk' hr hv h =>
    obtain rfl : g = service.filing { r with value := v } f := funext h
    have hkey := hf.sessionKey_eq hr
    have hown : r.sessionKey = k → r.nodeIndex = i := by
      intro hrk
      rw [hkey.symm.trans hrk, hr₀] at hr
      rw [← Option.some.inj hr]
      exact hi₀
    refine ha.filing hown fun a halias hak => ?_
    by_cases hrk : r.sessionKey = k
    · exact hown hrk
    · have hvalue := SessionRecord.value_of_alias? halias
      rw [hak] at hvalue
      have hother : sessionKey ≠ some k := by
        rw [hk', ← hkey]
        exact fun he => hrk (Option.some.inj he)
      rcases hv with rfl | hcarried
      · exact ha.aliases _ r a hr halias hak
      · exact absurd (hvalue ▸ hcarried) (hspares.others hother)
  | first k' v j hk' hfree hj hv h =>
    obtain rfl : g = service.filing ⟨k', j, v⟩ f := funext h
    have hne : k' ≠ k := by
      rintro rfl
      rw [hfree] at hr₀
      exact absurd hr₀ (by simp)
    refine ha.filing (fun hrk => absurd hrk hne) fun a halias hak => ?_
    have hvalue := SessionRecord.value_of_alias? halias
    rw [hak] at hvalue
    have hother : sessionKey ≠ some k := by
      rw [hk']
      exact fun he => hne (Option.some.inj he)
    rcases hv with rfl | hcarried
    · exact absurd rfl (SessionRecord.alias?_eq_some_iff.mp halias).1
    · exact absurd (hvalue ▸ hcarried) (hspares.others hother)

end Invariants

/-! ### Runs -/

section Runs

variable {σ : Type} [Store σ SessionRecord] [StoreView σ SessionRecord] [ReliableStore σ]
  {service : Service} {s start : Selector σ} {k : String} {i : Nat} {r : SessionRecord}

/-- What holds of a selector between calls. -/
structure Settled (service : Service) (s : Selector σ) : Prop where
  filed : Filed service service.nodes (live? s.sessions)
  ttl_pos : 0 < s.ttlMs

theorem Settled.call (hs : Settled service s) (c : Call) :
    Settled service (s.call service c).2.1 := by
  obtain ⟨hlife, heffect⟩ :=
    forward_effect hs.filed hs.ttl_pos c.sessionKey c.request (⟨c.replies⟩ : Scripted)
  exact ⟨hs.filed.effect heffect, hlife ▸ hs.ttl_pos⟩

theorem Settled.after (hs : Settled service s) (cs : List Call) :
    Settled service (s.after service cs) := by
  induction cs generalizing s with
  | nil => exact hs
  | cons c cs ih => exact ih (hs.call c)

theorem Anchored.after (hs : Settled service s) (ha : Anchored service k i (live? s.sessions))
    {cs : List Call} (hcs : Undisturbed service k s cs) :
    Anchored service k i (live? (s.after service cs).sessions) := by
  induction cs generalizing s with
  | nil => exact ha
  | cons c cs ih =>
    have heffect :=
      (forward_effect hs.filed hs.ttl_pos c.sessionKey c.request (⟨c.replies⟩ : Scripted)).2
    exact ih (hs.call c) (ha.effect hs.filed heffect hcs.1) hcs.2

/-- A bound session is dispatched to its node. -/
theorem Settled.sticks (hs : Settled service s) {c : Call} (hc : c.sessionKey = some k)
    (hr : live? s.sessions (service.storeKey k) = some r) :
    Sticks service.nodes c.request r.nodeIndex (s.call service c).2.2.dispatches
      (s.call service c).1 := by
  have hlt := (hs.filed _ r hr).2
  have hn : service.nodes ≠ [] := by
    intro hn
    rw [hn] at hlt
    exact absurd hlt (by simp)
  rw [Selector.call, hc]
  have hfound := found?_of_live hs.filed hr
  exact Selector.forward_sticks hn hfound c.request _

/-- An answer that is well and gives the session no value. -/
def Http.Response.plain : Http.Response := ⟨.ok, Http.Headers.empty, []⟩

theorem affinityOf_plain (service : Service) : Selector.affinityOf service .plain = none := by
  rw [Selector.affinityOf]
  cases service.balancing.sticky <;> rfl

/-- A call of a bound session that gets such an answer. -/
theorem Settled.call_plain (hs : Settled service s) (request : Http.Request)
    (hr : live? s.sessions (service.storeKey k) = some r) :
    ∃ node, (s.call service ⟨some k, request, fun _ => .response .plain⟩).1 =
        .answered ⟨.plain, r.nodeIndex, 1, .bound⟩ ∧
      (s.call service ⟨some k, request, fun _ => .response .plain⟩).2.2.dispatches =
        [⟨node, request, .response .plain⟩] ∧
      ∀ x, live? (s.call service ⟨some k, request, fun _ => .response .plain⟩).2.1.sessions x =
        service.filing r (live? s.sessions) x := by
  have hlt := (hs.filed _ r hr).2
  have hreply : Backends.send service.nodes[r.nodeIndex] request
      (⟨fun _ => .response .plain⟩ : Scripted) =
        (.response .plain, ⟨fun _ => .response .plain⟩) := rfl
  obtain ⟨s', heq, hfiled⟩ := forward_established hs.filed hs.ttl_pos hr
    (List.getElem?_eq_getElem hlt) hreply (by decide)
  refine ⟨service.nodes[r.nodeIndex], ?_⟩
  rw [Selector.call, heq]
  refine ⟨rfl, rfl, fun x => ?_⟩
  rw [hfiled x, affinityOf_plain]
  rfl

theorem not_carried_plain {ds : List Dispatch} (hds : ∀ d ∈ ds, d.reply = .response .plain)
    (v : String) : ¬Carried service ds v := by
  rintro ⟨d, hd, q, hq, hv⟩
  obtain rfl : .plain = q := Reply.response.inj ((hds d hd).symm.trans hq)
  rw [affinityOf_plain] at hv
  exact absurd hv (by simp)

/-- A plain call of another session that goes by the value of `k` binds `k` to the node of that
session. -/
theorem Settled.moved (hs : Settled service s) {x : String} {r' a : SessionRecord}
    (hr' : live? s.sessions x = some r') (ha : r'.alias? = some a) (hak : a.sessionKey = k)
    (request : Http.Request) :
    Undisturbed service k s [⟨some r'.sessionKey, request, fun _ => .response .plain⟩] ∧
      live? (s.call service ⟨some r'.sessionKey, request, fun _ => .response .plain⟩).2.1.sessions
        (service.storeKey k) = some a := by
  obtain ⟨rfl, -⟩ := hs.filed x r' hr'
  obtain ⟨node, -, hds, hfiled⟩ := hs.call_plain request hr'
  refine ⟨⟨⟨fun hk => ?_, fun _ => ?_⟩, trivial⟩, ?_⟩
  · exact absurd (hak.trans (Option.some.inj hk).symm) (SessionRecord.sessionKey_ne_of_alias? ha)
  · rw [hds]
    exact not_carried_plain (fun d hd => by rw [List.mem_singleton.mp hd]) _
  · rw [hfiled, ← hak]
    exact Service.filing_alias ha

/-- **When a binding holds.** Let requests come one after another, from an empty store on, until
session `k` is bound. Then all its later requests are dispatched to that node, whatever comes
between them that does not disturb it, if and only if no session that goes by the value of `k` is
bound to another node. -/
theorem affinity_kept_iff (hempty : ∀ x, live? start.sessions x = none) (httl : 0 < start.ttlMs)
    (history : List Call)
    (hr : live? (start.after service history).sessions (service.storeKey k) = some r) :
    (∀ later : List Call, Undisturbed service k (start.after service history) later →
      ∀ c : Call, c.sessionKey = some k →
        Sticks service.nodes c.request r.nodeIndex
          (((start.after service history).after service later).call service c).2.2.dispatches
          (((start.after service history).after service later).call service c).1) ↔
    ∀ x r' a, live? (start.after service history).sessions x = some r' → r'.alias? = some a →
      a.sessionKey = k → r'.nodeIndex = r.nodeIndex := by
  have hstart : Settled service start :=
    ⟨fun x r hx => by rw [hempty] at hx; exact absurd hx (by simp), httl⟩
  have hs := hstart.after history
  revert hr hs
  generalize start.after service history = s
  intro hr hs
  constructor
  · intro hkept x r' a hr' ha hak
    let request : Http.Request := ⟨"GET", "/", Http.Headers.empty, []⟩
    obtain ⟨hspares, hmoved⟩ := hs.moved hr' ha hak request
    have hsticks := hkept _ hspares ⟨some k, request, fun _ => .response .plain⟩ rfl
    obtain ⟨node, hanswer, hds, -⟩ := (hs.after [_]).call_plain request hmoved
    have hanswer' := hsticks.concludes.answered ⟨node, request, .response .plain⟩
      (by rw [hds]; rfl) (by simp) .plain r.nodeIndex (by rw [hds]; rfl)
    rw [hanswer] at hanswer'
    rw [← SessionRecord.nodeIndex_of_alias? ha]
    exact congrArg Forwarded.nodeIndex (Forwarding.answered.inj hanswer')
  · intro hanchored later hlater c hc
    have ha : Anchored service k r.nodeIndex (live? s.sessions) := ⟨⟨r, hr, rfl⟩, hanchored⟩
    obtain ⟨r', hr', hi⟩ := (ha.after hs hlater).own
    rw [← hi]
    exact (hs.after later).sticks hc hr'

end Runs

/-! ### A binding that is lost

Two sessions are given the value of a third, the second one at another node. The third session is
bound there and has one answer from there. Then the first one has a plain answer, and its record is
filed under the value of the third once more. -/

namespace Lost

def service : Service :=
  { id := "svc", nodes := [.plain "a" 80, .plain "b" 81],
    balancing := { sticky := some ⟨"aff", .cookie⟩ } }

def start : Selector (MemoryStore SessionRecord) := Selector.start ⟨ExpiringMap.empty, 0⟩ 1000

def request : Http.Request := ⟨"GET", "/", Http.Headers.empty, []⟩

/-- A call whose answer gives the session a value. -/
def giving (k : String) : Call :=
  ⟨some k, request, fun _ => .response
    ⟨.ok, Http.Headers.empty.append "set-cookie" "aff=A", []⟩⟩

def undisturbing (k : String) : Call := ⟨some k, request, fun _ => .response .plain⟩

def bound : Selector (MemoryStore SessionRecord) :=
  start.after service [giving "aff=B", giving "aff=C"]

def last : Forwarding × Selector (MemoryStore SessionRecord) × Journaled Scripted :=
  (bound.after service [undisturbing "aff=A", undisturbing "aff=B"]).call service
    (undisturbing "aff=A")

end Lost

theorem affinity_not_kept :
    (∀ x, live? Lost.start.sessions x = none) ∧ 0 < Lost.start.ttlMs ∧
      live? Lost.bound.sessions (Lost.service.storeKey "aff=A") = some ⟨"aff=A", 1, "A"⟩ ∧
      ¬∀ later : List Call, Undisturbed Lost.service "aff=A" Lost.bound later →
        ∀ c : Call, c.sessionKey = some "aff=A" →
          Sticks Lost.service.nodes c.request 1
            ((Lost.bound.after Lost.service later).call Lost.service c).2.2.dispatches
            ((Lost.bound.after Lost.service later).call Lost.service c).1 := by
  have hempty (x : String) : live? Lost.start.sessions x = none := rfl
  have hr : live? Lost.bound.sessions (Lost.service.storeKey "aff=A") =
      some ⟨"aff=A", 1, "A"⟩ := by rfl
  refine ⟨hempty, by decide, hr, fun hkept => ?_⟩
  have hother : live? Lost.bound.sessions (Lost.service.storeKey "aff=B") =
      some ⟨"aff=B", 0, "A"⟩ := by rfl
  have hnode := (affinity_kept_iff hempty (by decide)
    [Lost.giving "aff=B", Lost.giving "aff=C"] hr).mp hkept _ _ ⟨"aff=A", 0, "A"⟩ hother
    (by decide) rfl
  exact absurd hnode (by decide)

theorem affinity_lost :
    (∀ x, live? Lost.start.sessions x = none) ∧ 0 < Lost.start.ttlMs ∧
      live? Lost.bound.sessions (Lost.service.storeKey "aff=A") = some ⟨"aff=A", 1, "A"⟩ ∧
      Undisturbed Lost.service "aff=A" Lost.bound
        [Lost.undisturbing "aff=A", Lost.undisturbing "aff=B"] ∧
      Lost.last.1 = .answered ⟨.plain, 0, 1, .bound⟩ ∧
      ¬Sticks Lost.service.nodes Lost.request 1 Lost.last.2.2.dispatches Lost.last.1 := by
  have hanswer : Lost.last.1 = .answered ⟨.plain, 0, 1, .bound⟩ := by rfl
  have hdispatches : Lost.last.2.2.dispatches =
      [⟨.plain "a" 80, Lost.request, .response .plain⟩] := by rfl
  refine ⟨fun x => rfl, by decide, by rfl, ⟨⟨fun _ => ?_, fun h => absurd rfl h⟩,
    ⟨fun h => absurd h (by decide), fun _ => ?_⟩, trivial⟩, hanswer, fun hsticks => ?_⟩
  · decide
  · refine not_carried_plain (fun d hd => ?_) _
    obtain rfl := List.mem_singleton.mp hd
    rfl
  · obtain ⟨d, hd, hnode, -⟩ := hsticks.once
    rw [hdispatches] at hd
    obtain rfl := List.singleton_inj.mp hd
    exact absurd hnode (by decide)

end Gatehouse
