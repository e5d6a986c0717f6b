import Gatehouse.Proofs.Answers
import Gatehouse.Proofs.Bindings
import Gatehouse.Proofs.StoreCalls

/-!
# What forwarding asks of the session store

A request of a session reads the store once, before its first attempt. Whatever it writes, it writes
after its last attempt: a first answer updates the session's entry, another answer puts it anew, the
failure of an established session removes it. An answer that gave the session a new value puts a
second entry, under that value, unless the update showed that the session was bound elsewhere in the
meantime.

## The last attempt

Whether an attempt is the last one. An attempt that is not has no call of the store at all: what a
failed response gave the session is kept in the selection, and so is the next node. So a client that
gives up while it waits for a reply, however many attempts failed before, leaves the store as the
read left it.

*When* the calls are made is told by giving up. For each attempt of a request there is the run in
which the client gives up just there; the calls of that run are those that the full run had made by
then.

## Main definitions

* `Impatient` — backends with a client that waits for some replies only
* `Selector.Opens`, `Closes` — the calls before the first attempt and after the last one

## Main results

* `Selector.attempts_cutShort` — a run that is given up, attempt by attempt
* `Selector.forward_footprint` — the calls of one request, and those of one that is given up
-/

namespace Gatehouse

open StoreView (live?)

/-! ### A selector with a record -/

namespace Selector

/-- The selector with an empty record. -/
def recorded {σ : Type} (s : Selector σ) : Selector (RecordedStore σ SessionRecord) :=
  { s with sessions := ⟨s.sessions, []⟩ }

/-- The record changes nothing about forwarding. -/
theorem forward_recorded {σ β : Type} [Store σ SessionRecord] [Backends β] (s : Selector σ)
    (service : Service) (nodes : List Node) (sessionKey : Option String) (request : Http.Request)
    (b : β) :
    (s.recorded.forward service nodes sessionKey request b).map id
        (Prod.map (mapStore fun t => t.store) id) =
      s.forward service nodes sessionKey request b :=
  (forward_mapStore RecordedStore.respectsCalls s.recorded service nodes sessionKey request b).symm

end Selector

/-! ### The calls of a request -/

namespace Service

variable (service : Service)

/-- The call that files a session under the value that a backend gave it, if it is a new one. -/
def aliasCalls (ttlMs : Nat) (r : SessionRecord) : List (StoreEvent SessionRecord) :=
  if r.value = Session.valueOf r.sessionKey then []
  else
    let k := Session.key (Session.paramOf r.sessionKey) r.value
    [.put (service.storeKey k) ⟨k, r.nodeIndex, r.value⟩ ttlMs]

/-- The calls that file session `k` after its first answer, if the update finds `seen`. A binding to
a node that exists stays, and if it is to another node than the one that answered, nothing is filed
under a new value. -/
def firstCalls (n ttlMs : Nat) (k : String) (r : SessionRecord) (seen : Option SessionRecord) :
    List (StoreEvent SessionRecord) :=
  match seen.filter (·.nodeIndex < n) with
  | none => .update (service.storeKey k) seen (some r) ttlMs :: service.aliasCalls ttlMs r
  | some e =>
    .update (service.storeKey k) seen none ttlMs ::
      if e.nodeIndex = r.nodeIndex then service.aliasCalls ttlMs r else []

/-- The same calls, by what the selection makes of what the update finds. -/
theorem firstCalls_eq (h : Handle) (ttlMs : Nat) (k : String) (r : SessionRecord)
    (seen : Option SessionRecord) :
    service.firstCalls h.nodeCount ttlMs k r seen =
      .update (service.storeKey k) seen (h.firstBinding r seen) ttlMs ::
        if h.boundIndex r seen = r.nodeIndex then service.aliasCalls ttlMs r else [] := by
  rw [firstCalls]
  cases seen with
  | none => simp [Handle.firstBinding, Handle.boundIndex]
  | some e =>
    by_cases hin : e.nodeIndex < h.nodeCount <;>
      simp [Handle.firstBinding, Handle.boundIndex, Option.filter_some, hin]

/-- The calls that file session `k` after an answer to it as an established session. -/
def againCalls (ttlMs : Nat) (k : String) (r : SessionRecord) : List (StoreEvent SessionRecord) :=
  .put (service.storeKey k) r ttlMs :: service.aliasCalls ttlMs r

end Service

/-- The calls before the first attempt: a read of the session's entry, if the request is of one. -/
inductive Selector.Opens {σ : Type} [Store σ SessionRecord] (s : Selector σ) (service : Service) :
    Option String → List (StoreEvent SessionRecord) → Prop where
  | anonymous : s.Opens service none []
  | read {k : String} {found : Option SessionRecord}
      (hget : (Store.get (service.storeKey k) s.sessions).1 = .ok found) :
      s.Opens service (some k) [.get (service.storeKey k) found]

/-- The calls after the last attempt, by the session's key, the binding that was found before the
first one, and the reply to the last one. -/
inductive Closes (service : Service) (nodes : List Node) (ttlMs : Nat) (ds : List Dispatch)
    (answer : Forwarding) :
    Option String → Option SessionRecord → List (StoreEvent SessionRecord) → Prop where
  | anonymous : Closes service nodes ttlMs ds answer none none []
  /-- The first answer of a session. -/
  | first {k : String} {d : Dispatch} {q : Http.Response} {i n : Nat}
      (seen : Option SessionRecord) (hlast : ds.getLast? = some d) (hreply : d.reply = .response q)
      (hok : q.status.isServerError = false) (hanswer : answer = .answered ⟨q, i, n, .bound⟩) :
      Closes service nodes ttlMs ds answer (some k) none
        (service.firstCalls nodes.length ttlMs k
          ⟨k, i, (lastValue? service ds).getD (Session.valueOf k)⟩ seen)
  /-- A later answer. -/
  | again {k : String} {r : SessionRecord} {d : Dispatch} {q : Http.Response}
      (hlast : ds.getLast? = some d) (hreply : d.reply = .response q)
      (hok : q.status.isServerError = false) :
      Closes service nodes ttlMs ds answer (some k) (some r)
        (service.againCalls ttlMs k { r with value := (lastValue? service ds).getD r.value })
  /-- The failure of an established session. -/
  | evicted {k : String} {r : SessionRecord} {d : Dispatch} (hlast : ds.getLast? = some d)
      (hfailed : d.reply.failed = true) :
      Closes service nodes ttlMs ds answer (some k) (some r) [.remove (service.storeKey k)]
  /-- The failure of the last attempt there was for a session without a binding. -/
  | failed {k : String} {d : Dispatch} (hlast : ds.getLast? = some d)
      (hfailed : d.reply.failed = true) : Closes service nodes ttlMs ds answer (some k) none []
  | abandoned {k : String} {found : Option SessionRecord} {d : Dispatch}
      (hlast : ds.getLast? = some d) (hreply : d.reply = .abandoned) :
      Closes service nodes ttlMs ds answer (some k) found []

/-! ### Steps of a selection -/

namespace Selector

section Steps

variable {σ : Type} [Store σ SessionRecord] [StoreView σ SessionRecord] [AnsweringStore σ]
  {service : Service} {h : Handle} (s : Selector (RecordedStore σ SessionRecord))

theorem events_putAlias (hid : h.serviceId = service.id) (hgen : h.generation = service.generation)
    (r : SessionRecord) :
    (s.putAlias h r).sessions.events = s.sessions.events ++ service.aliasCalls s.ttlMs r := by
  by_cases hvalue : r.value = Session.valueOf r.sessionKey
  · rw [putAlias, SessionRecord.alias?, Service.aliasCalls, if_pos hvalue, if_pos hvalue,
      List.append_nil]
  · rw [putAlias, SessionRecord.alias?, Service.aliasCalls, if_neg hvalue, if_neg hvalue, hid, hgen]
    exact RecordedStore.events_put _ s.sessions _ s.ttlMs

/-- A first answer makes one update, and then files the new value, if there is one and the session
is not bound elsewhere. -/
theorem events_bindFirst (hid : h.serviceId = service.id) (hgen : h.generation = service.generation)
    (k : String) (r : SessionRecord) :
    ∃ seen, (s.bindFirst h (service.storeKey k) r).sessions.events =
      s.sessions.events ++ service.firstCalls h.nodeCount s.ttlMs k r seen := by
  obtain ⟨seen, hseen⟩ :=
    AnsweringStore.update_fst (service.storeKey k) s.ttlMs (h.firstBinding r) s.sessions
  have hupdate := s.sessions.events_update (service.storeKey k) s.ttlMs hseen
  have halias := events_putAlias
    { s with sessions := (Store.update (service.storeKey k) s.ttlMs (h.firstBinding r) s.sessions).2 }
    hid hgen r
  rw [hupdate, List.append_assoc] at halias
  refine ⟨seen, ?_⟩
  simp only [bindFirst, hseen, Service.firstCalls_eq]
  split
  · exact halias
  · exact hupdate

theorem events_bindAgain (hid : h.serviceId = service.id) (hgen : h.generation = service.generation)
    (k : String) (r : SessionRecord) :
    (s.bindAgain h (service.storeKey k) r).sessions.events =
      s.sessions.events ++ service.againCalls s.ttlMs k r := by
  have hput := s.sessions.events_put (service.storeKey k) r s.ttlMs
  have halias := events_putAlias
    { s with sessions := (Store.put (service.storeKey k) r s.ttlMs s.sessions).2 } hid hgen r
  rw [hput, List.append_assoc] at halias
  simp only [bindAgain, AnsweringStore.put_fst]
  exact halias

theorem events_evict {k : String} (hk : h.storeKey = some k) :
    (s.evict h).sessions.events = s.sessions.events ++ [.remove k] := by
  rw [evict, hk]
  exact s.sessions.events_remove k

end Steps

end Selector

/-! ### The end of a request -/

/-- If the last attempt got an answer that is no failure, that is the answer of the request. -/
theorem Concludes.boundAt?_ne_none {position : Nat → Nat} {failure : Outcome} {j : Nat}
    {last : Option (Http.Response × Nat)} {ds : List Dispatch} {answer : Forwarding} {d : Dispatch}
    {q : Http.Response} (hc : Concludes position failure j last ds answer)
    (hlast : ds.getLast? = some d) (hreply : d.reply = .response q)
    (hok : q.status.isServerError = false) : answer.boundAt? ≠ none := by
  obtain ⟨before, rfl⟩ := List.getLast?_eq_some_iff.mp hlast
  have hresponse := map_fst_lastResponse? position j (before ++ [d])
  have hq : (responses (before ++ [d])).getLast? = some q := by
    simp [responses, hreply, Reply.response?]
  obtain ⟨⟨q', i⟩, hqi, -⟩ := Option.map_eq_some_iff.mp (hresponse.trans hq)
  have hnot : d.reply ≠ .abandoned := by simp [hreply]
  have hfailed : d.reply.failed = false := by rw [hreply]; exact hok
  rw [hc.answered d hlast hnot q' i (by rw [hqi, Option.some_or]), hfailed]
  simp [Forwarding.boundAt?]

/-- The end of a request from a selector `s` on: the calls of its last attempt are made, and if the
client gave up, there are none. -/
def Finishes {σ : Type} (service : Service) (nodes : List Node) (sessionKey : Option String)
    (found : Option SessionRecord) (s : Selector (RecordedStore σ SessionRecord))
    (ds : List Dispatch) (answer : Forwarding) (s' : Selector (RecordedStore σ SessionRecord)) :
    Prop :=
  (answer = .abandoned → s'.sessions = s.sessions) ∧
    ∃ closing, Closes service nodes s.ttlMs ds answer sessionKey found closing ∧
      s'.sessions.events = s.sessions.events ++ closing

theorem finishes_silent {σ : Type} {service : Service} {nodes : List Node}
    {sessionKey : Option String} {found : Option SessionRecord}
    {s s' : Selector (RecordedStore σ SessionRecord)} {ds : List Dispatch} {answer : Forwarding}
    (hsessions : s'.sessions = s.sessions)
    (hc : Closes service nodes s.ttlMs ds answer sessionKey found []) :
    Finishes service nodes sessionKey found s ds answer s' :=
  ⟨fun _ => hsessions, [], hc, by rw [hsessions, List.append_nil]⟩

section Finishes

variable {σ : Type} [Store σ SessionRecord] [StoreView σ SessionRecord] [AnsweringStore σ]
  {service : Service} {nodes : List Node} {s s' : Selector (RecordedStore σ SessionRecord)}
  {ds : List Dispatch} {answer : Forwarding}

/-- A request without a binding makes the calls of a first answer, or none. -/
theorem FirstEnds.finishes {position : Nat → Nat} {index : Nat} {sessionKey : Option String}
    (he : FirstEnds service nodes (Selector.fresh service nodes.length
      (sessionKey.map service.storeKey) sessionKey index) s ds answer s')
    (hc : Concludes position .exhausted 0 none ds answer) (hne : ds ≠ []) :
    Finishes service nodes sessionKey none s ds answer s' := by
  obtain ⟨d, hlast⟩ : ∃ d, ds.getLast? = some d := ⟨_, List.getLast?_eq_some_getLast hne⟩
  cases sessionKey with
  | none =>
    refine finishes_silent ?_ .anonymous
    cases he with
    | bound hds hfailed hreply hok hi httl hsessions => exact hsessions
    | unbound hnot httl hsessions => exact hsessions
  | some k =>
    cases he with
    | @bound before d' q i n s' hds hfailed hreply hok hi httl hsessions =>
      have hlast' : ds.getLast? = some d' := by simp [hds]
      let h := (Selector.fresh service nodes.length (some (service.storeKey k)) (some k) index).settled
        i (lastValue? service ds)
      have hid : h.serviceId = service.id := rfl
      have hgen : h.generation = service.generation := rfl
      obtain ⟨seen, hevents⟩ := s.events_bindFirst hid hgen k
        ⟨k, i, (lastValue? service ds).getD (Session.valueOf k)⟩
      refine ⟨fun h => absurd h (by simp), _, .first seen hlast' hreply hok rfl, ?_⟩
      rw [hsessions]
      exact hevents
    | unbound hnot httl hsessions =>
      refine finishes_silent hsessions ?_
      cases hf : d.reply.failed with
      | true => exact .failed hlast hf
      | false =>
        obtain habandoned | ⟨q, hreply, hok⟩ := Reply.eq_of_not_failed hf
        · exact .abandoned hlast habandoned
        · exact absurd hnot (hc.boundAt?_ne_none hlast hreply hok)

namespace Selector

variable {β : Type} [Backends β]

/-- A request of an established session makes the calls of an answer or of a failure, or none. -/
theorem finishes_established {r : SessionRecord} (hlt : r.nodeIndex < nodes.length) (k : String)
    (request : Http.Request) (left : Nat) (s : Selector (RecordedStore σ SessionRecord)) (b : β) :
    let out := attempts service nodes request left
      (established service nodes.length (some (service.storeKey k)) r) none s (Journaled.mk b [])
    Finishes service nodes (some k) (some r) s out.2.2.dispatches out.1 out.2.1 := by
  intro out
  obtain ⟨node, hnode⟩ : ∃ node, nodes[r.nodeIndex]? = some node :=
    ⟨_, List.getElem?_eq_getElem hlt⟩
  rcases hreply : Backends.send node request b with ⟨reply, c⟩
  have hsend := Journaled.send_eq (b := Journaled.mk b []) hreply
  cases hf : reply.failed with
  | true =>
    have hfail := fail_established (h := (established service nodes.length
      (some (service.storeKey k)) r).renamed (reply.affinity? service))
      (Handle.firstTime_renamed _ _) s
    rw [show out = _ from attempts_done hnode hsend hf hfail]
    refine ⟨?_, _, .evicted rfl hf, s.events_evict ?_⟩
    · cases reply <;> simp [afterFailure, withoutAnswer, Reply.failed] at hf ⊢
    · rw [Handle.renamed_eq]
      rfl
  | false =>
    obtain rfl | ⟨q, rfl, hok⟩ := Reply.eq_of_not_failed hf
    · rw [show out = _ from attempts_abandoned hnode hsend]
      exact finishes_silent rfl (.abandoned rfl rfl)
    · rw [show out = _ from attempts_succeeded hnode hsend hok]
      refine ⟨fun h => absurd h (by simp), _, .again rfl rfl hok, ?_⟩
      rw [Handle.renamed_eq]
      exact s.events_bindAgain rfl rfl k _

end Selector

end Finishes

/-! ### Giving up -/

/-- Backends, and the number of replies that the client waits for. -/
structure Impatient (β : Type) where
  backends : β
  patience : Nat

/-- A client without patience gives up while it waits for the next reply. -/
instance {β : Type} [Backends β] : Backends (Impatient β) where
  send node request b :=
    let (reply, backends) := Backends.send node request b.backends
    match b.patience with
    | 0 => (.abandoned, ⟨backends, 0⟩)
    | patience + 1 => (reply, ⟨backends, patience⟩)

namespace Impatient

variable {β : Type} [Backends β] {node : Node} {request : Http.Request} {b c : β} {reply : Reply}

theorem send_zero (h : Backends.send node request b = (reply, c)) :
    Backends.send node request (mk b 0) = (.abandoned, mk c 0) := by
  simp only [Backends.send, h]

theorem send_succ (h : Backends.send node request b = (reply, c)) (patience : Nat) :
    Backends.send node request (mk b (patience + 1)) = (reply, mk c patience) := by
  simp only [Backends.send, h]

end Impatient

/-- An attempt of which the client did not wait for the reply. -/
def Dispatch.unanswered (d : Dispatch) : Dispatch := { d with reply := .abandoned }

namespace Selector

section CutShort

variable {σ β : Type} [Store σ SessionRecord] [Backends β] {service : Service} {nodes : List Node}

/-- An attempt that is followed by another one has no call of the store. -/
theorem sessions_fail_of_retry {h h' : Handle} {s s' : Selector σ}
    (hfail : s.fail h = (.retry h', s')) : s'.sessions = s.sessions := by
  have hfirst : h.firstTime = true := (fail_retry (congrArg Prod.fst hfail)).1
  rcases fail_first hfirst s with hdone | ⟨h'', s'', hretry, -, hsessions, -⟩
  · rw [hfail] at hdone
    simp at hdone
  · rw [hfail, Prod.mk.injEq] at hretry
    rw [hretry.2, hsessions]

/-- What is left of a run of attempts from a selector `s` on when the client gives up at the attempt
`d`, after the attempts `before`: it got no answer, and the store is as the run found it. -/
structure GivenUp (s : Selector σ) (before : List Dispatch) (d : Dispatch)
    (cut : Forwarding × Selector σ × Journaled (Impatient β)) : Prop where
  answer : cut.1 = .abandoned
  sessions : cut.2.1.sessions = s.sessions
  dispatches : cut.2.2.dispatches = before ++ [d.unanswered]

/-- The run makes the attempts `ds`, and can be given up at each of them. -/
def CutShort (service : Service) (nodes : List Node) (request : Http.Request) (left : Nat)
    (h : Handle) (last : Option (Http.Response × Nat)) (s : Selector σ) (b : β)
    (past ds : List Dispatch) : Prop :=
  (attempts service nodes request left h last s (Journaled.mk b past)).2.2.dispatches = past ++ ds ∧
    ∀ j d, ds[j]? = some d →
      GivenUp s (past ++ ds.take j) d
        (attempts service nodes request left h last s (Journaled.mk (Impatient.mk b j) past))

section Steps

variable {request : Http.Request} {left : Nat} {h h' : Handle}
  {last : Option (Http.Response × Nat)} {s s' : Selector σ} {b c : β} {past ds : List Dispatch}
  {node : Node} {reply : Reply}

theorem givenUp_now (hnode : nodes[h.index]? = some node)
    (hreply : Backends.send node request b = (reply, c)) :
    GivenUp s past ⟨node, request, reply⟩
      (attempts service nodes request left h last s (Journaled.mk (Impatient.mk b 0) past)) := by
  rw [attempts_abandoned hnode (Journaled.send_eq (Impatient.send_zero hreply))]
  exact ⟨rfl, rfl, rfl⟩

theorem cutShort_last (hnode : nodes[h.index]? = some node)
    (hreply : Backends.send node request b = (reply, c))
    (hone : (attempts service nodes request left h last s (Journaled.mk b past)).2.2.dispatches =
      past ++ [⟨node, request, reply⟩]) :
    CutShort service nodes request left h last s b past [⟨node, request, reply⟩] := by
  refine ⟨hone, ?_⟩
  intro j d hd
  cases j with
  | zero =>
    obtain rfl := Option.some.inj hd
    simpa using givenUp_now hnode hreply
  | succ j => simp at hd

theorem CutShort.cons (hnode : nodes[h.index]? = some node)
    (hreply : Backends.send node request b = (reply, c)) (hf : reply.failed = true)
    (hfail : s.fail (h.renamed (reply.affinity? service)) = (.retry h', s'))
    (hrest : CutShort service nodes request left h'
      ((reply.response?.map (·, h.index)).or last) s' c (past ++ [⟨node, request, reply⟩]) ds) :
    CutShort service nodes request (left + 1) h last s b past (⟨node, request, reply⟩ :: ds) := by
  constructor
  · rw [attempts_retry hnode (Journaled.send_eq hreply) hf hfail, hrest.1]
    simp
  · intro j d hd
    cases j with
    | zero =>
      obtain rfl := Option.some.inj hd
      simpa using givenUp_now hnode hreply
    | succ j =>
      have hcut := hrest.2 j d hd
      rw [attempts_retry hnode (Journaled.send_eq (Impatient.send_succ hreply j)) hf hfail]
      refine ⟨hcut.answer, hcut.sessions.trans (sessions_fail_of_retry hfail), ?_⟩
      rw [hcut.dispatches]
      simp

end Steps

/-- **Runs that are given up.** For each attempt of a run there is the run in which the client gives
up there: the attempts before are the same, and the store is as the selection found it. -/
theorem attempts_cutShort (request : Http.Request) (left : Nat) (h : Handle)
    (last : Option (Http.Response × Nat)) (s : Selector σ) (b : β) (past : List Dispatch) :
    ∃ ds, CutShort service nodes request left h last s b past ds := by
  induction left using Nat.strongRecOn generalizing h last s b past with
  | ind left ih =>
    cases hnode : nodes[h.index]? with
    | none =>
      refine ⟨[], ?_, by simp⟩
      rw [attempts, hnode, List.append_nil]
    | some node =>
      rcases hreply : Backends.send node request b with ⟨reply, c⟩
      have hsend := Journaled.send_eq (b := Journaled.mk b past) hreply
      cases hf : reply.failed with
      | false =>
        refine ⟨_, cutShort_last hnode hreply ?_⟩
        obtain rfl | ⟨q, rfl, hok⟩ := Reply.eq_of_not_failed hf
        · rw [attempts_abandoned hnode hsend]
        · rw [attempts_succeeded hnode hsend hok]
      | true =>
        rcases hfail : s.fail (h.renamed (reply.affinity? service)) with ⟨h' | o, s'⟩
        · cases left with
          | zero =>
            refine ⟨_, cutShort_last hnode hreply ?_⟩
            rw [attempts_failed hnode hsend hf, hfail]
          | succ left =>
            obtain ⟨ds, hrest⟩ := ih left (by omega) h' _ s' c _
            exact ⟨_, hrest.cons hnode hreply hf hfail⟩
        · refine ⟨_, cutShort_last hnode hreply ?_⟩
          rw [attempts_done hnode hsend hf hfail]

end CutShort

/-! ### All requests -/

section Forward

variable {σ β : Type} [Store σ SessionRecord] [StoreView σ SessionRecord] [AnsweringStore σ]
  [Backends β] {service : Service} {nodes : List Node}

/-- The calls before the first attempt are those of the selection. -/
theorem opens_select (hn : nodes ≠ []) (s : Selector σ) (service : Service)
    (sessionKey : Option String) :
    s.Opens service sessionKey
      (s.recorded.select service nodes sessionKey).2.sessions.events := by
  cases sessionKey with
  | none =>
    rw [sessions_select_none]
    exact .anonymous
  | some k =>
    obtain ⟨found, hget⟩ : ∃ found,
        (Store.get (service.storeKey k) s.sessions).1 = .ok found :=
      AnsweringStore.get_fst _ _
    have hrecorded : (Store.get (service.storeKey k) s.recorded.sessions).1 = .ok found := hget
    have hevents := s.recorded.sessions.events_get (service.storeKey k) hrecorded
    rw [sessions_select_some hn]
    exact hevents ▸ .read hget

theorem finishes_forward (hn : nodes ≠ []) (s : Selector σ) (service : Service)
    (sessionKey : Option String) (request : Http.Request) (b : β) :
    let out := s.recorded.forward service nodes sessionKey request (Journaled.mk b [])
    Finishes service nodes sessionKey (s.found? service nodes sessionKey)
      (s.recorded.select service nodes sessionKey).2 out.2.2.dispatches out.1 out.2.1 := by
  intro out
  have hsame : s.recorded.found? service nodes sessionKey = s.found? service nodes sessionKey := by
    cases sessionKey <;> rfl
  cases hfound : s.found? service nodes sessionKey with
  | none =>
    have hrecorded := hsame.trans hfound
    have hover := forward_failsOver hn hrecorded request b
    exact (forward_first hn hrecorded request b).finishes hover.concludes hover.dispatched
  | some r =>
    have hrecorded := hsame.trans hfound
    obtain ⟨k, rfl, -, hlt⟩ := found?_eq_some_iff.mp hrecorded
    rw [show out = _ from forward_eq (select_of_found hn hrecorded) request _]
    exact finishes_established hlt k request _ _ b

/-- **The calls of one request.** On a store that answers, and whatever others write to it, a request
of a session has one read of the session's entry, and a request of no session has none. Then there is
no call until the last attempt is over: given up at any attempt, the run has the same attempts before
and the read alone, and what the store holds is what it held before the request. The calls after the
last attempt are those of `Closes`: an update and the new value's entry for a first answer, a `put`
and the new value's entry for a later one, a removal for the failure of an established session, and
nothing otherwise. -/
theorem forward_footprint (hn : nodes ≠ []) (s : Selector σ) (service : Service)
    (sessionKey : Option String) (request : Http.Request) (b : β) :
    let out := s.recorded.forward service nodes sessionKey request (Journaled.mk b [])
    out.map id (Prod.map (mapStore fun t => t.store) id) =
        s.forward service nodes sessionKey request (Journaled.mk b []) ∧
      (out.1 = .abandoned → ∀ x, live? out.2.1.sessions x = live? s.sessions x) ∧
      (∀ r, s.found? service nodes sessionKey = some r ↔
        ∃ k, sessionKey = some k ∧ (Store.get (service.storeKey k) s.sessions).1 = .ok (some r) ∧
          r.nodeIndex < nodes.length) ∧
      ∃ opening closing, out.2.1.sessions.events = opening ++ closing ∧
        s.Opens service sessionKey opening ∧
        Closes service nodes s.ttlMs out.2.2.dispatches out.1 sessionKey
          (s.found? service nodes sessionKey) closing ∧
        ∀ j d, out.2.2.dispatches[j]? = some d →
          let cut := s.recorded.forward service nodes sessionKey request
            (Journaled.mk (Impatient.mk b j) [])
          cut.1 = .abandoned ∧
            cut.2.2.dispatches = out.2.2.dispatches.take j ++ [d.unanswered] ∧
            cut.2.1.sessions.events = opening ∧
            ∀ x, live? cut.2.1.sessions x = live? s.sessions x := by
  intro out
  have hlive (x : String) :
      live? (s.recorded.select service nodes sessionKey).2.sessions x = live? s.sessions x :=
    live?_select_of_get (s := s.recorded) (fun k => AnsweringStore.live?_get k x s.sessions) service
      nodes sessionKey
  obtain ⟨hgaveUp, closing, hcloses, hevents⟩ :=
    finishes_forward hn s service sessionKey request b
  rw [ttlMs_select] at hcloses
  refine ⟨s.forward_recorded service nodes sessionKey request _, ?_, fun r => found?_eq_some_iff, _,
    closing, hevents, opens_select hn s service sessionKey, hcloses, ?_⟩
  · intro habandoned x
    rw [hgaveUp habandoned, hlive]
  · intro j d hd cut
    obtain ⟨h, hsel⟩ := s.recorded.exists_select hn service sessionKey
    obtain ⟨ds, hds, hcut⟩ : ∃ ds, CutShort service nodes request (h.maxAttempts - h.attempt) h none
        (s.recorded.select service nodes sessionKey).2 b [] ds := attempts_cutShort _ _ _ _ _ _ _
    rw [← forward_eq hsel, List.nil_append] at hds
    have hgiven := hcut j d (hds ▸ hd)
    rw [← forward_eq hsel, ← hds] at hgiven
    refine ⟨hgiven.answer, hgiven.dispatches, ?_, ?_⟩
    · rw [hgiven.sessions]
    · intro x
      rw [hgiven.sessions, hlive]

end Forward

/-! ### A session bound by another request

The first of two nodes is out of reach, the second one answers and gives the session a new value. By
then another request has bound the session to the first node. So the update writes nothing, and the
new value is not filed. The next request of the session is established: it tries the first node
alone, and the session loses its binding. -/

namespace Outrun

def service : Service :=
  { id := "svc", nodes := [.plain "a" 80, .plain "b" 81],
    balancing := { sticky := some ⟨"aff", .cookie⟩ } }

/-- The binding that the other request makes. -/
def other : SessionRecord := ⟨"aff=A", 0, "A"⟩

def selector : Selector (SharedStore (MemoryStore SessionRecord) SessionRecord) :=
  Selector.start ⟨⟨ExpiringMap.empty, 0⟩, [(service.storeKey "aff=A", other, 10)]⟩ 10

def request : Http.Request := ⟨"GET", "/", Http.Headers.empty, []⟩

def answer : Http.Response := ⟨.ok, Http.Headers.empty.append "set-cookie" "aff=B", []⟩

def backends : TrialBackends :=
  ⟨[(80, [.error (.failed "a")]), (81, [.response answer])], []⟩

def out : Forwarding × Selector (RecordedStore (SharedStore (MemoryStore SessionRecord)
    SessionRecord) SessionRecord) × Journaled TrialBackends :=
  selector.recorded.forward service service.nodes (some "aff=A") request (Journaled.mk backends [])

/-- The same run, given up at the second attempt. -/
def cut : Forwarding × Selector (RecordedStore (SharedStore (MemoryStore SessionRecord)
    SessionRecord) SessionRecord) × Journaled (Impatient TrialBackends) :=
  selector.recorded.forward service service.nodes (some "aff=A") request
    (Journaled.mk (Impatient.mk backends 1) [])

/-- The selector after the run. -/
def settled : Selector (SharedStore (MemoryStore SessionRecord) SessionRecord) :=
  (selector.forward service service.nodes (some "aff=A") request (Journaled.mk backends [])).2.1

def next : Forwarding × Selector (RecordedStore (SharedStore (MemoryStore SessionRecord)
    SessionRecord) SessionRecord) × Journaled TrialBackends :=
  settled.recorded.forward service service.nodes (some "aff=A") request (Journaled.mk backends [])

end Outrun

theorem forward_footprint_outrun :
    Outrun.service.nodes ≠ [] ∧
      Outrun.out.2.1.sessions.events =
        [.get (Outrun.service.storeKey "aff=A") none,
          .update (Outrun.service.storeKey "aff=A") (some Outrun.other) none 10] ∧
      Outrun.cut.1 = .abandoned ∧
        (∀ x, live? Outrun.cut.2.1.sessions x = live? Outrun.selector.sessions x) ∧
      Outrun.settled.found? Outrun.service Outrun.service.nodes (some "aff=A") =
        some Outrun.other ∧
      Outrun.next.2.1.sessions.events =
        [.get (Outrun.service.storeKey "aff=A") (some Outrun.other),
          .remove (Outrun.service.storeKey "aff=A")] ∧
      Closes Outrun.service Outrun.service.nodes 10 Outrun.next.2.2.dispatches Outrun.next.1
        (some "aff=A") (some Outrun.other) [.remove (Outrun.service.storeKey "aff=A")] := by
  have hnodes : Outrun.service.nodes ≠ [] := by decide
  have hsecond : Outrun.out.2.2.dispatches[1]? =
      some ⟨.plain "b" 81, Outrun.request, .response Outrun.answer⟩ := by rfl
  obtain ⟨-, -, -, opening, closing, -, -, -, hcut⟩ := forward_footprint hnodes Outrun.selector
    Outrun.service (some "aff=A") Outrun.request Outrun.backends
  obtain ⟨hanswer, -, -, hlive⟩ := hcut 1 _ hsecond
  have hfound : Outrun.settled.found? Outrun.service Outrun.service.nodes (some "aff=A") =
      some Outrun.other := by rfl
  have hnext : Outrun.next.2.1.sessions.events =
      [.get (Outrun.service.storeKey "aff=A") (some Outrun.other)] ++
        [.remove (Outrun.service.storeKey "aff=A")] := by rfl
  obtain ⟨-, -, -, opening', closing', hevents, hopens, hcloses, -⟩ := forward_footprint hnodes
    Outrun.settled Outrun.service (some "aff=A") Outrun.request Outrun.backends
  cases hopens with
  | read hget =>
    obtain rfl := List.append_inj_right (hevents.symm.trans hnext) rfl
    rw [hfound] at hcloses
    exact ⟨hnodes, by rfl, hanswer, hlive, hfound, hnext, hcloses⟩

end Selector

end Gatehouse
