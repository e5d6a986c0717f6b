import Gatehouse.Proofs.Affinity

/-!
# Clients that adopt the values they are issued

A backend may issue a session a new value, and a client that adopts it comes back under another
session key. This file follows such a client: it begins with one value, and may use every value that
an answer to one of its requests issued, from then on and together with those that it had before.
Each of its keys is bound to the node of its first answer, through however many values it went, as
long as its requests do not fail and the values of others are not among its own.

## Implementation notes

The keys of a client are those that it uses in the end; while it is not there yet, or has not been
issued a value, that key has to be nobody else's. The value of a response that was discarded was not
issued, and the client does not use it. A request of no session belongs to nobody.

## Main definitions

* `Forwarding.issued?` — the value that the answer to a request issued
* `Client`, `Client.serve`, `Client.after` — a client, and the values that it may use
* `Foreign`, `Elsewhere`, `Client.Fair` — requests of others, and runs in which the client's own
  requests do not fail
* `Adopted` — the invariant: every value of the client is bound to its node, and no other session
  goes by one of them

## Main results

* `Adopted.filing`, `Foreign.effect` — what one call keeps of the invariant
* `Client.Stays.after` — what a run keeps
* `adopted_values_stick` — a client stays on its node
-/

namespace Gatehouse

open StoreView (live?)

/-! ### Clients -/

/-- The value that the answer to a request issued. -/
def Forwarding.issued? (service : Service) : Forwarding → Option String
  | .answered f => Selector.affinityOf service f.response
  | _ => none

/-- A client, and the gateway that it is a client of. -/
structure Client (σ : Type) where
  selector : Selector σ
  /-- The values that the client may use. -/
  values : List String

/-- A call of somebody else than the client that uses the values of a family: its session is outside
the family, and no response to it carries a value of the family. -/
structure Foreign (service : Service) (p : String) (family : List String)
    (sessionKey : Option String) (ds : List Dispatch) : Prop where
  key : ∀ v ∈ family, sessionKey ≠ some (Session.key p v)
  values : sessionKey ≠ none → ∀ v ∈ family, ¬Carried service ds v

instance (service : Service) (p : String) (family : List String) (sessionKey : Option String)
    (ds : List Dispatch) : Decidable (Foreign service p family sessionKey ds) :=
  decidable_of_iff ((∀ v ∈ family, sessionKey ≠ some (Session.key p v)) ∧
      (sessionKey ≠ none → ∀ v ∈ family, ¬Carried service ds v))
    ⟨fun h => ⟨h.1, h.2⟩, fun h => ⟨h.key, h.values⟩⟩

section Runs

variable {σ : Type}

/-- A call is the client's own if it is under one of the client's values. -/
def Client.Owns (w : Client σ) (p : String) (c : Call) : Prop :=
  c.sessionKey ∈ w.values.map fun v => some (Session.key p v)

instance (w : Client σ) (p : String) (c : Call) : Decidable (w.Owns p c) :=
  inferInstanceAs (Decidable (_ ∈ _))

theorem Client.owns_iff {w : Client σ} {p : String} {c : Call} :
    w.Owns p c ↔ ∃ v ∈ w.values, c.sessionKey = some (Session.key p v) := by
  rw [Owns, List.mem_map]
  exact exists_congr fun v => and_congr_right fun _ => eq_comm

variable [Store σ SessionRecord]

/-- Calls of others, one after another. -/
def Elsewhere (service : Service) (p : String) (family : List String) :
    Selector σ → List Call → Prop
  | _, [] => True
  | s, c :: cs =>
    Foreign service p family c.sessionKey (s.call service c).2.2.dispatches ∧
      Elsewhere service p family (s.call service c).2.1 cs

instance decidableElsewhere (service : Service) (p : String) (family : List String) :
    (s : Selector σ) → (cs : List Call) → Decidable (Elsewhere service p family s cs)
  | _, [] => .isTrue trivial
  | s, c :: cs =>
    have := decidableElsewhere service p family (s.call service c).2.1 cs
    inferInstanceAs (Decidable (_ ∧ _))

namespace Client

/-- After a call. If it was the client's own, the client may use the value that it was issued. -/
def serve (w : Client σ) (service : Service) (p : String) (c : Call) : Client σ :=
  let out := w.selector.call service c
  ⟨out.2.1, if w.Owns p c then (out.1.issued? service).toList ++ w.values else w.values⟩

/-- After calls that came one after another. -/
def after (w : Client σ) (service : Service) (p : String) (cs : List Call) : Client σ :=
  cs.foldl (fun w c => w.serve service p c) w

/-- Calls of which the client's own do not fail, and all others are foreign. An attempt to which
there is no reply counts as failed (`Reply.failed`), like one to which the reply is a server error:
the client is told of a failure then, and the session loses its binding. -/
def Fair (service : Service) (p : String) (family : List String) : Client σ → List Call → Prop
  | _, [] => True
  | w, c :: cs =>
    (if w.Owns p c then ∀ d ∈ (w.selector.call service c).2.2.dispatches, d.reply.failed = false
      else Foreign service p family c.sessionKey (w.selector.call service c).2.2.dispatches) ∧
      Fair service p family (w.serve service p c) cs

instance decidableFair (service : Service) (p : String) (family : List String) :
    (w : Client σ) → (cs : List Call) → Decidable (Fair service p family w cs)
  | _, [] => .isTrue trivial
  | w, c :: cs =>
    have := decidableFair service p family (w.serve service p c) cs
    inferInstanceAs (Decidable ((if w.Owns p c
      then ∀ d ∈ (w.selector.call service c).2.2.dispatches, d.reply.failed = false
      else Foreign service p family c.sessionKey (w.selector.call service c).2.2.dispatches) ∧ _))

variable {w : Client σ} {service : Service} {p : String} {c : Call}

theorem values_serve (w : Client σ) (service : Service) (p : String) (c : Call) :
    ∀ v ∈ w.values, v ∈ (w.serve service p c).values := by
  intro v hv
  rw [serve]
  simp only
  split
  · exact List.mem_append_right _ hv
  · exact hv

/-- No value is ever taken back. -/
theorem values_after (w : Client σ) (service : Service) (p : String) (cs : List Call) :
    ∀ v ∈ w.values, v ∈ (w.after service p cs).values := by
  induction cs generalizing w with
  | nil => exact fun v hv => hv
  | cons c cs ih => exact fun v hv => ih (w.serve service p c) v (values_serve w service p c v hv)

end Client

end Runs

/-! ### The invariant -/

/-- No session outside a family goes by a value of the family. -/
def Apart (p : String) (family : List String) (f : String → Option SessionRecord) : Prop :=
  ∀ x r a, f x = some r → (∀ v ∈ family, r.sessionKey ≠ Session.key p v) → r.alias? = some a →
    ∀ v ∈ family, a.sessionKey ≠ Session.key p v

/-- The values of a client are bound to node `i`, and no other session goes by a value of the
family. -/
structure Adopted (service : Service) (p : String) (family : List String) (i : Nat)
    (values : List String) (f : String → Option SessionRecord) : Prop where
  bound : ∀ v ∈ values, ∃ r, f (service.storeKey (Session.key p v)) = some r ∧ r.nodeIndex = i
  apart : Apart p family f

section Invariant

variable {service : Service} {nodes : List Node} {p v : String} {family values : List String}
  {i : Nat} {f g : String → Option SessionRecord} {sessionKey : Option String}
  {ds : List Dispatch} {r : SessionRecord}

theorem Apart.filing (ha : Apart p family f)
    (halias : (∀ v ∈ family, r.sessionKey ≠ Session.key p v) →
      ∀ a, r.alias? = some a → ∀ v ∈ family, a.sessionKey ≠ Session.key p v) :
    Apart p family (service.filing r f) := by
  intro x w a hw hout hwa
  rcases Service.filing_cases hw with ⟨hrw, -⟩ | ⟨rfl, -⟩ | hw
  · rw [SessionRecord.alias?_of_alias? hrw] at hwa
    exact absurd hwa (by simp)
  · exact halias hout a hwa
  · exact ha x w a hw hout hwa

theorem Adopted.mono {values' : List String} (ha : Adopted service p family i values f)
    (h : ∀ v ∈ values', v ∈ values) : Adopted service p family i values' f :=
  ⟨fun v hv => ha.bound v (h v hv), ha.apart⟩

/-- What is filed at a node leaves an entry that is at that node there. -/
theorem Service.filing_at (hi : r.nodeIndex = i) {x : String}
    (hx : ∃ w, f x = some w ∧ w.nodeIndex = i) :
    ∃ w, service.filing r f x = some w ∧ w.nodeIndex = i := by
  rw [filing]
  cases ha : r.alias? with
  | none =>
    simp only
    split
    · exact ⟨r, rfl, hi⟩
    · exact hx
  | some a =>
    simp only
    split
    · exact ⟨a, rfl, (SessionRecord.nodeIndex_of_alias? ha).trans hi⟩
    · split
      · exact ⟨r, rfl, hi⟩
      · exact hx

/-- A session is filed under the value that it goes by, be it a new one or its own. -/
theorem Service.filing_value (service : Service) (f : String → Option SessionRecord)
    (hp : '=' ∉ p.toList) (hkey : r.sessionKey = Session.key p v) :
    ∃ w, service.filing r f (service.storeKey (Session.key p r.value)) = some w ∧
      w.nodeIndex = r.nodeIndex := by
  by_cases hvalue : r.value = v
  · rw [hvalue, ← hkey]
    exact ⟨r, filing_own service r f, rfl⟩
  · let a : SessionRecord := { r with sessionKey := Session.key p r.value }
    have halias : r.alias? = some a := by
      rw [SessionRecord.alias?_eq_some_iff, hkey, Session.valueOf_key hp, Session.paramOf_key hp]
      exact ⟨hvalue, rfl⟩
    exact ⟨a, filing_alias halias, rfl⟩

/-- A session of the client that is filed at the node takes the value that it was issued with it. -/
theorem Adopted.filing (hp : '=' ∉ p.toList) (ha : Adopted service p family i values f)
    (hkey : r.sessionKey = Session.key p v) (hv : v ∈ family) (hi : r.nodeIndex = i)
    {issued? : Option String} (hissued : ∀ u, issued? = some u → r.value = u) :
    Adopted service p family i (issued?.toList ++ v :: values) (service.filing r f) where
  bound u hu := by
    rcases List.mem_append.mp hu with hu | hu
    · obtain rfl : r.value = u := hissued u (Option.mem_toList.mp hu)
      obtain ⟨w, hw, hwi⟩ := Service.filing_value service f hp hkey
      exact ⟨w, hw, hwi.trans hi⟩
    · rcases List.mem_cons.mp hu with rfl | hu
      · exact ⟨r, hkey ▸ Service.filing_own service r f, hi⟩
      · exact Service.filing_at hi (ha.bound u hu)
  apart := ha.apart.filing fun hout => absurd hkey (hout v hv)

/-- A call of somebody else leaves the entries of the family alone. -/
theorem Foreign.effect (hp : '=' ∉ p.toList) (hc : Foreign service p family sessionKey ds)
    (hf : Filed service nodes f) (ha : Apart p family f)
    (he : Effect service nodes f g sessionKey ds) :
    (∀ v ∈ family, g (service.storeKey (Session.key p v)) =
      f (service.storeKey (Session.key p v))) ∧ Apart p family g := by
  -- What the call files, it files under the key of its own session and under a value that is either
  -- the one of the record found or one that a response carried.
  have hfiling (r : SessionRecord) (hk : sessionKey = some r.sessionKey)
      (halias : ∀ a, r.alias? = some a → (∀ v ∈ family, a.sessionKey ≠ Session.key p v) ∨
        Carried service ds r.value) :
      (∀ v ∈ family, service.filing r f (service.storeKey (Session.key p v)) =
        f (service.storeKey (Session.key p v))) ∧ Apart p family (service.filing r f) := by
    have halias' : ∀ a, r.alias? = some a → ∀ v ∈ family, a.sessionKey ≠ Session.key p v := by
      intro a hra v hv heq
      rcases halias a hra with hother | hcarried
      · exact hother v hv heq
      · have hvalue := SessionRecord.value_of_alias? hra
        rw [heq, Session.valueOf_key hp] at hvalue
        exact hc.values (by simp [hk]) v hv (hvalue ▸ hcarried)
    refine ⟨fun v hv => Service.filing_other (fun heq => ?_) fun a hra heq => ?_,
      ha.filing fun _ => halias'⟩
    · exact hc.key v hv (hk.trans (congrArg some heq.symm))
    · exact halias' a hra v hv heq.symm
  cases he with
  | nothing h =>
    obtain rfl : g = f := funext h
    exact ⟨fun v hv => rfl, ha⟩
  | evicted k d hk hd hfailed h =>
    refine ⟨fun v hv => ?_, fun x r a hr => ?_⟩
    · rw [h, if_neg]
      rw [Service.storeKey_inj]
      exact fun heq => hc.key v hv (hk.trans (congrArg some heq.symm))
    · rw [h x] at hr
      split at hr
      · exact absurd hr (by simp)
      · exact ha x r a hr
  | again k v r hk hr hv h =>
    obtain rfl : g = service.filing { r with value := v } f := funext h
    have hkey := hf.sessionKey_eq hr
    refine hfiling { r with value := v } (by rw [hk, hkey]) fun a hra => ?_
    rcases hv with rfl | hcarried
    · refine .inl (ha _ r a hr (fun v hv heq => ?_) hra)
      exact hc.key v hv (by rw [hk, ← hkey, heq])
    · exact .inr hcarried
  | first k v j hk hfree hj hv h =>
    obtain rfl : g = service.filing ⟨k, j, v⟩ f := funext h
    refine hfiling ⟨k, j, v⟩ hk fun a hra => ?_
    rcases hv with rfl | hcarried
    · exact absurd rfl (SessionRecord.alias?_eq_some_iff.mp hra).1
    · exact .inr hcarried

end Invariant

/-! ### Calls -/

section Calls

variable {σ : Type} [Store σ SessionRecord] [StoreView σ SessionRecord] [ReliableStore σ]
  {service : Service} {s start : Selector σ} {w : Client σ} {p v : String}
  {family : List String} {i n : Nat} {c : Call} {cs : List Call} {q : Http.Response}

/-- What holds between the calls of a client that is bound to node `i`. -/
def Client.Stays (service : Service) (p : String) (family : List String) (i : Nat)
    (w : Client σ) : Prop :=
  Settled service w.selector ∧ Adopted service p family i w.values (live? w.selector.sessions)

theorem Foreign.call (hp : '=' ∉ p.toList) (hs : Settled service s)
    (ha : Apart p family (live? s.sessions))
    (hc : Foreign service p family c.sessionKey (s.call service c).2.2.dispatches) :
    (∀ v ∈ family, live? (s.call service c).2.1.sessions (service.storeKey (Session.key p v)) =
        live? s.sessions (service.storeKey (Session.key p v))) ∧
      Apart p family (live? (s.call service c).2.1.sessions) :=
  hc.effect hp hs.filed ha
    (forward_effect hs.filed hs.ttl_pos c.sessionKey c.request (⟨c.replies⟩ : Scripted)).2

/-- Before the client is there, no session goes by its values, and none of them is bound. -/
theorem Elsewhere.after (hp : '=' ∉ p.toList) (hs : Settled service s)
    (ha : Apart p family (live? s.sessions)) (hcs : Elsewhere service p family s cs) :
    (∀ v ∈ family, live? (s.after service cs).sessions (service.storeKey (Session.key p v)) =
        live? s.sessions (service.storeKey (Session.key p v))) ∧
      Apart p family (live? (s.after service cs).sessions) := by
  induction cs generalizing s with
  | nil => exact ⟨fun v hv => rfl, ha⟩
  | cons c cs ih =>
    obtain ⟨hc, hcs⟩ := hcs
    obtain ⟨hsame, ha'⟩ := hc.call hp hs ha
    obtain ⟨hsame', ha''⟩ := ih (hs.call c) ha' hcs
    exact ⟨fun v hv => (hsame' v hv).trans (hsame v hv), ha''⟩

/-- A call of the client's own that does not fail. -/
theorem Client.Stays.call_own (hp : '=' ∉ p.toList) (hw : w.Stays service p family i)
    (hin : ∀ v ∈ w.values, v ∈ family) (hown : w.Owns p c)
    (hok : ∀ d ∈ (w.selector.call service c).2.2.dispatches, d.reply.failed = false) :
    (w.serve service p c).Stays service p family i := by
  obtain ⟨hs, ha⟩ := hw
  refine ⟨hs.call c, ?_⟩
  obtain ⟨v, hv, hk⟩ := owns_iff.mp hown
  obtain ⟨r, hr, hi⟩ := ha.bound v hv
  have hcases := forward_established_cases hs.filed hs.ttl_pos hr c.request (⟨c.replies⟩ : Scripted)
  rw [← hk] at hcases
  rw [serve]
  simp only [if_pos hown]
  rcases hcases with ⟨d, hd, hfailed⟩ | ⟨hanswer, hlive⟩ | ⟨q, hanswer, hlive⟩
  · rw [hok d hd] at hfailed
    exact absurd hfailed (by decide)
  · rw [show (w.selector.call service c).1 = _ from hanswer,
      show live? (w.selector.call service c).2.1.sessions = _ from funext hlive]
    exact ha
  · rw [show (w.selector.call service c).1 = _ from hanswer,
      show live? (w.selector.call service c).2.1.sessions = _ from funext hlive]
    have hkey : r.sessionKey = Session.key p v := hs.filed.sessionKey_eq hr
    let r' : SessionRecord := { r with value := (Selector.affinityOf service q).getD r.value }
    have hissued (u : String) (hu : Selector.affinityOf service q = some u) : r'.value = u := by
      simp [r', hu]
    refine (ha.filing (r := r') hp hkey (hin v hv) hi hissued).mono fun u hu => ?_
    rcases List.mem_append.mp hu with hu | hu
    · exact List.mem_append_left _ hu
    · exact List.mem_append_right _ (List.mem_cons_of_mem v hu)

/-- A call of somebody else. -/
theorem Client.Stays.call_foreign (hp : '=' ∉ p.toList) (hw : w.Stays service p family i)
    (hin : ∀ v ∈ w.values, v ∈ family) (hown : ¬w.Owns p c)
    (hc : Foreign service p family c.sessionKey (w.selector.call service c).2.2.dispatches) :
    (w.serve service p c).Stays service p family i := by
  obtain ⟨hs, ha⟩ := hw
  obtain ⟨hsame, hapart⟩ := hc.call hp hs ha.apart
  refine ⟨hs.call c, ?_⟩
  rw [serve]
  simp only [if_neg hown]
  refine ⟨fun v hv => ?_, hapart⟩
  rw [hsame v (hin v hv)]
  exact ha.bound v hv

theorem Client.Stays.after (hp : '=' ∉ p.toList) (hw : w.Stays service p family i)
    (hin : ∀ v ∈ (w.after service p cs).values, v ∈ family) (hcs : w.Fair service p family cs) :
    (w.after service p cs).Stays service p family i := by
  induction cs generalizing w with
  | nil => exact hw
  | cons c cs ih =>
    obtain ⟨hc, hcs⟩ := hcs
    have hin' (v : String) (hv : v ∈ w.values) : v ∈ family :=
      hin v (values_after _ service p cs v (values_serve w service p c v hv))
    refine ih ?_ hin hcs
    by_cases hown : w.Owns p c
    · rw [if_pos hown] at hc
      exact hw.call_own hp hin' hown hc
    · rw [if_neg hown] at hc
      exact hw.call_foreign hp hin' hown hc

/-- A call of the client's own is dispatched to its node, as one of an established session. -/
theorem Client.Stays.sticks (hw : w.Stays service p family i) (hown : w.Owns p c) :
    (∃ h, (w.selector.select service service.nodes c.sessionKey).1 = some h ∧
      h.firstTime = false ∧ h.index = i) ∧
    Sticks service.nodes c.request i (w.selector.call service c).2.2.dispatches
      (w.selector.call service c).1 := by
  obtain ⟨hs, ha⟩ := hw
  obtain ⟨v, hv, hk⟩ := owns_iff.mp hown
  obtain ⟨r, hr, hi⟩ := ha.bound v hv
  have hn : service.nodes ≠ [] :=
    List.length_pos_iff.mp (Nat.zero_lt_of_lt (hs.filed _ r hr).2)
  constructor
  · rw [hk]
    exact ⟨_, Selector.select_of_found hn (found?_of_live hs.filed hr), rfl, hi⟩
  · rw [← hi]
    exact hs.sticks hk hr

/-- The first call of a client: nobody goes by its value, and it is answered. -/
theorem Client.stays_joined (hp : '=' ∉ p.toList) (hs : Settled service s)
    (ha : Apart p family (live? s.sessions)) (hkey : c.sessionKey = some (Session.key p v))
    (hv : v ∈ family) (hfree : live? s.sessions (service.storeKey (Session.key p v)) = none)
    (hanswer : (s.call service c).1 = .answered ⟨q, i, n, .bound⟩) :
    ((⟨s, [v]⟩ : Client σ).serve service p c).Stays service p family i := by
  refine ⟨hs.call c, ?_⟩
  have hown : (⟨s, [v]⟩ : Client σ).Owns p c := owns_iff.mpr ⟨v, List.mem_singleton_self v, hkey⟩
  have hfound : s.found? service service.nodes (some (Session.key p v)) = none := by
    rw [Option.eq_none_iff_forall_ne_some]
    intro r hr
    obtain ⟨k, hk, hlive⟩ := live_of_found hr
    rw [← Option.some.inj hk, hfree] at hlive
    exact absurd hlive (by simp)
  obtain ⟨hi, hsessions, before, d, hds, -, hreply, -⟩ :=
    Selector.forward_bound (hkey ▸ hfound) hanswer
  let ds := (s.call service c).2.2.dispatches
  let r : SessionRecord :=
    ⟨Session.key p v, i, (lastValue? service ds).getD (Session.valueOf (Session.key p v))⟩
  have hlive : live? (s.call service c).2.1.sessions = service.filing r (live? s.sessions) := by
    have hsessions' : (s.call service c).2.1.sessions = (s.bindAt service service.nodes
        (some (Session.key p v)) i (lastValue? service ds)).sessions := by
      rw [← hkey]
      exact hsessions
    funext x
    rw [hsessions']
    exact ReliableStore.live?_bindAt hfound hs.ttl_pos hi (lastValue? service ds) x
  have hissued (u : String) (hu : Selector.affinityOf service q = some u) : r.value = u := by
    have hlast : lastValue? service ds = some u := by
      rw [show ds = before ++ [d] from hds, lastValue?_append_singleton, hreply,
        Reply.affinity?_response, hu, Option.some_or]
    simp [r, hlast]
  have hnone : Adopted service p family i [] (live? s.sessions) := ⟨by simp, ha⟩
  rw [serve]
  simp only [if_pos hown]
  rw [hlive, hanswer]
  exact hnone.filing hp rfl hv rfl hissued

/-- **A client stays on its node.** Let requests come one after another, from an empty store on. At
first all are of others. Then a client has its first request answered by node `i`, and from then on
it uses its first value and those that its requests were issued. If its requests do not fail, and
nobody else ever uses one of these values or is given one, then all its requests are dispatched to
node `i`, once each, as those of an established session. An attempt of its own to which no reply
comes counts as failed. -/
theorem adopted_values_stick (hp : '=' ∉ p.toList) (hempty : ∀ x, live? start.sessions x = none)
    (httl : 0 < start.ttlMs) (history later : List Call) {first : Call}
    (hkey : first.sessionKey = some (Session.key p v))
    (hanswer : ((start.after service history).call service first).1 = .answered ⟨q, i, n, .bound⟩)
    {joined w : Client σ}
    (hjoined : joined = (⟨start.after service history, [v]⟩ : Client σ).serve service p first)
    (hw : w = joined.after service p later)
    (hhistory : Elsewhere service p w.values start history)
    (hlater : joined.Fair service p w.values later) :
    ∀ c, w.Owns p c →
      (∃ h, (w.selector.select service service.nodes c.sessionKey).1 = some h ∧
        h.firstTime = false ∧ h.index = i) ∧
      Sticks service.nodes c.request i (w.selector.call service c).2.2.dispatches
        (w.selector.call service c).1 := by
  have hstart : Settled service start :=
    ⟨fun x r hx => by rw [hempty] at hx; exact absurd hx (by simp), httl⟩
  have hapart : Apart p w.values (live? start.sessions) := by
    intro x r a hx
    rw [hempty] at hx
    exact absurd hx (by simp)
  obtain ⟨hsame, hapart'⟩ := hhistory.after hp hstart hapart
  have hv : v ∈ w.values := by
    rw [hw]
    refine Client.values_after joined service p later v ?_
    rw [hjoined]
    exact Client.values_serve _ service p first v (List.mem_singleton_self v)
  have hfree : live? (start.after service history).sessions
      (service.storeKey (Session.key p v)) = none := by
    rw [hsame v hv, hempty]
  have hstays : joined.Stays service p w.values i := by
    rw [hjoined]
    exact Client.stays_joined hp (hstart.after history) hapart' hkey hv hfree hanswer
  have hstays' : w.Stays service p w.values i := by
    have hin : ∀ u ∈ (joined.after service p later).values, u ∈ w.values := by
      rw [← hw]
      exact fun u hu => hu
    have hafter := hstays.after hp hin hlater
    rwa [← hw] at hafter
  exact fun c hown => hstays'.sticks hown

end Calls

/-! ### A client that goes through three values

Another session is bound at the first of two nodes. The client's first request fails at the second
one and is answered by the first, which issues a value; under that value the client is issued a
third one. -/

namespace Adopting

def service : Service :=
  { id := "svc", nodes := [.plain "a" 80, .plain "b" 81],
    balancing := { sticky := some ⟨"aff", .cookie⟩ } }

def start : Selector (MemoryStore SessionRecord) := Selector.start ⟨ExpiringMap.empty, 0⟩ 1000

def request : Http.Request := ⟨"GET", "/", Http.Headers.empty, []⟩

def issuing (v : String) : Http.Response :=
  ⟨.ok, Http.Headers.empty.append "set-cookie" ("aff=" ++ v), []⟩

def call (v : String) (q : Http.Response) : Call :=
  ⟨some ("aff=" ++ v), request, fun _ => .response q⟩

def first : Call :=
  ⟨some "aff=A", request, fun j => if j = 0 then .error (.failed "b") else .response (issuing "x")⟩

def history : List Call := [call "B" .plain]

def later : List Call := [call "x" (issuing "y"), call "B" (issuing "C"), call "A" .plain]

def joined : Client (MemoryStore SessionRecord) :=
  Client.serve ⟨start.after service history, ["A"]⟩ service "aff" first

def last : Client (MemoryStore SessionRecord) := joined.after service "aff" later

end Adopting

theorem third_value_sticks :
    (∀ x, live? Adopting.start.sessions x = none) ∧ 0 < Adopting.start.ttlMs ∧
      ((Adopting.start.after Adopting.service Adopting.history).call Adopting.service
        Adopting.first).1 = .answered ⟨Adopting.issuing "x", 0, 2, .bound⟩ ∧
      Adopting.last.values = ["y", "x", "A"] ∧
      Elsewhere Adopting.service "aff" Adopting.last.values Adopting.start Adopting.history ∧
      Adopting.joined.Fair Adopting.service "aff" Adopting.last.values Adopting.later ∧
      Sticks Adopting.service.nodes Adopting.request 0
        (Adopting.last.selector.call Adopting.service
          (Adopting.call "y" .plain)).2.2.dispatches
        (Adopting.last.selector.call Adopting.service (Adopting.call "y" .plain)).1 := by
  have hempty (x : String) : live? Adopting.start.sessions x = none := rfl
  have hanswer : ((Adopting.start.after Adopting.service Adopting.history).call Adopting.service
      Adopting.first).1 = .answered ⟨Adopting.issuing "x", 0, 2, .bound⟩ := by rfl
  have hvalues : Adopting.last.values = ["y", "x", "A"] := by rfl
  have hhistory :
      Elsewhere Adopting.service "aff" Adopting.last.values Adopting.start Adopting.history := by
    rw [hvalues]
    decide
  have hlater :
      Adopting.joined.Fair Adopting.service "aff" Adopting.last.values Adopting.later := by
    rw [hvalues]
    decide
  have hown : Adopting.last.Owns "aff" (Adopting.call "y" .plain) :=
    Client.owns_iff.mpr ⟨"y", by rw [hvalues]; exact List.mem_cons_self, rfl⟩
  have hsticks := (adopted_values_stick (by decide) hempty (by decide) Adopting.history
    Adopting.later (v := "A") rfl hanswer rfl rfl hhistory hlater _ hown).2
  exact ⟨hempty, by decide, hanswer, hvalues, hhistory, hlater, hsticks⟩

end Gatehouse
