import Gatehouse.Proofs.Keywise
import Gatehouse.Proofs.Selections

/-!
# Services are kept apart in selection

All services file their sessions in one store and draw their tickets from one selector, and the keys
of sessions are up to clients. This file shows that they do not get in each other's way: what a
service's requests are told, and what is stored of its sessions, is the same without the requests to
other services. The generations of one service share its rotation, and no more than that.

The reason is in one step. Whatever is done for a generation of a service reads and writes only the
records filed under it and the rotation of the service, `Selector.Local`, and steps that are local
in this sense can be put together. Records filed under different services or generations are under
different keys, `Session.storeKey_inj`.

## Implementation notes

A selection in progress is kept under its service and a number, as by a caller who holds on to it
between two steps. Nothing is assumed about the content of the store. A record there may say that it
is of any session.

## Main definitions

* `Selector.Agree` — two selectors in which some generations of a service fare the same
* `Selector.Within` — a selector that differs from another only in what belongs to one generation
* `Selector.Local` — a step that concerns one generation of a service
* `Desk`, `Move`, `Desk.run` — a selector with the selections in progress, and runs of it

## Main results

* `Selector.local_select`, `local_report`, `local_reportUnreachable` — the steps are local
* `Desk.services_kept_apart` — services can be left out of a run, and generations do not meet
-/

namespace Gatehouse

/-! ### Where sessions are filed -/

/-- Keys under which some generations of a service file sessions. -/
def Session.FiledIn (id : String) (G : Nat → Prop) (x : String) : Prop :=
  ∃ g k, G g ∧ x = storeKey id g k

/-- A selection is for a service, and its session, if it has one, is filed under its generation. -/
structure Handle.AtHome (h : Handle) (id : String) : Prop where
  serviceId : h.serviceId = id
  filed : ∀ x, h.storeKey = some x → ∃ k, x = Session.storeKey id h.generation k

namespace Handle

variable {h h' : Handle} {id : String}

theorem AtHome.renamed (hh : h.AtHome id) (affinity : Option String) :
    (h.renamed affinity).AtHome id := by
  rw [renamed_eq]
  exact ⟨hh.serviceId, hh.filed⟩

theorem generation_renamed (h : Handle) (affinity : Option String) :
    (h.renamed affinity).generation = h.generation := by
  rw [renamed_eq]

theorem AtHome.retried (hh : h.AtHome id) (hr : h.retry? = some h') : h'.AtHome id := by
  obtain ⟨-, -, next, -, rfl⟩ := retry?_eq_some_iff.mp hr
  exact ⟨hh.serviceId, hh.filed⟩

end Handle

namespace Selector

variable {σ : Type} [Store σ SessionRecord]

section Home

variable {s : Selector σ} {service : Service} {nodes : List Node} {sessionKey : Option String}
  {h h' : Handle} {id : String} {status : Http.Status} {affinity : Option String}

theorem atHome_select (hsel : (s.select service nodes sessionKey).1 = some h) :
    h.AtHome service.id := by
  have hfiled (x : String)
      (hx : sessionKey.map (Session.storeKey service.id service.generation) = some x) :
      ∃ k, x = Session.storeKey service.id service.generation k := by
    obtain ⟨k, -, rfl⟩ := Option.map_eq_some_iff.mp hx
    exact ⟨k, rfl⟩
  by_cases hn : nodes = []
  · simp [select, hn] at hsel
  · cases hf : s.found? service nodes sessionKey with
    | none =>
      rw [select_of_notFound hn hf, Option.some.injEq] at hsel
      rw [← hsel]
      exact ⟨rfl, hfiled⟩
    | some r =>
      rw [select_of_found hn hf, Option.some.injEq] at hsel
      rw [← hsel]
      exact ⟨rfl, hfiled⟩

theorem atHome_reportUnreachable (hh : h.AtHome id)
    (hr : (s.reportUnreachable h).1 = .retry h') : h'.AtHome id :=
  hh.retried (fail_retry hr).2

theorem atHome_report (hh : h.AtHome id) (hr : (s.report h status affinity).1 = .retry h') :
    h'.AtHome id := by
  rw [report] at hr
  split at hr
  · exact (hh.renamed affinity).retried (fail_retry hr).2
  · simp at hr

end Home

variable [KeywiseStore σ SessionRecord]

/-! ### Steps that concern one generation -/

/-- Two selectors in which some generations of a service fare the same. -/
structure Agree (id : String) (G : Nat → Prop) (s s' : Selector σ) : Prop where
  ttlMs_eq : s.ttlMs = s'.ttlMs
  rotation_eq : s.rotations.get? id = s'.rotations.get? id
  entry_eq : ∀ x, Session.FiledIn id G x → entry s.sessions x = entry s'.sessions x

/-- The second selector differs from the first in no more than the rotation of a service and the
records filed under one generation of it. -/
structure Within (id : String) (g : Nat) (s s' : Selector σ) : Prop where
  ttlMs_eq : s'.ttlMs = s.ttlMs
  rotation_eq : ∀ j, j ≠ id → s'.rotations.get? j = s.rotations.get? j
  entry_eq : ∀ x, (∀ k, x ≠ Session.storeKey id g k) → entry s'.sessions x = entry s.sessions x

/-- A step reads and writes no more than the rotation of a service and the records filed under one
generation of it. -/
structure Local (id : String) (g : Nat) {α : Type} (step : Selector σ → α × Selector σ) : Prop where
  congr : ∀ {G : Nat → Prop} {s s' : Selector σ}, G g → Agree id G s s' →
    (step s).1 = (step s').1 ∧ Agree id G (step s).2 (step s').2
  within : ∀ s, Within id g s (step s).2

namespace Local

variable {id : String} {g : Nat} {α β : Type}

theorem pure (a : α) : Local (σ := σ) id g fun s => (a, s) :=
  ⟨fun _ h => ⟨rfl, h⟩, fun _ => ⟨rfl, fun _ _ => rfl, fun _ _ => rfl⟩⟩

/-- One step after the other, where what comes after is told for each result of the first one. -/
theorem after {step : Selector σ → α × Selector σ} {whole : Selector σ → β × Selector σ}
    (h : Local id g step)
    (hwhole : ∀ a, ∃ f, Local id g f ∧ ∀ s, (step s).1 = a → whole s = f (step s).2) :
    Local id g whole := by
  constructor
  · intro G s s' hg hs
    obtain ⟨hresult, hafter⟩ := h.congr hg hs
    obtain ⟨f, hf, heq⟩ := hwhole (step s').1
    rw [heq s hresult, heq s' rfl]
    exact hf.congr hg hafter
  · intro s
    obtain ⟨f, hf, heq⟩ := hwhole (step s).1
    have hfirst := h.within s
    have hthen := hf.within (step s).2
    rw [heq s rfl]
    exact ⟨hthen.ttlMs_eq.trans hfirst.ttlMs_eq,
      fun j hj => (hthen.rotation_eq j hj).trans (hfirst.rotation_eq j hj),
      fun x hx => (hthen.entry_eq x hx).trans (hfirst.entry_eq x hx)⟩

theorem bind {step : Selector σ → α × Selector σ} {f : α → Selector σ → β × Selector σ}
    (h : Local id g step) (hf : ∀ a, Local id g (f a)) :
    Local id g fun s => f (step s).1 (step s).2 :=
  h.after fun a => ⟨f a, hf a, fun s hs => by rw [hs]⟩

/-- A call of the store for a session of the generation. -/
theorem call {call : Nat → σ → α × σ} {k : String}
    (hcall : ∀ t, Keywise entry (Session.storeKey id g k) (call t)) :
    Local (σ := σ) id g fun s =>
      ((call s.ttlMs s.sessions).1, { s with sessions := (call s.ttlMs s.sessions).2 }) := by
  constructor
  · intro G s s' hg hs
    obtain ⟨hresult, hafter⟩ := (hcall s.ttlMs).entry_congr (P := Session.FiledIn id G)
      ⟨g, k, hg, rfl⟩ hs.entry_eq
    rw [← hs.ttlMs_eq]
    exact ⟨hresult, rfl, hs.rotation_eq, hafter⟩
  · intro s
    exact ⟨rfl, fun _ _ => rfl, fun x hx => (hcall s.ttlMs).of_ne s.sessions (hx k)⟩

/-- A call, and what comes after it. -/
theorem after_call {call : Nat → σ → α × σ} {k : String} {whole : Selector σ → β × Selector σ}
    (hcall : ∀ t, Keywise entry (Session.storeKey id g k) (call t))
    (hwhole : ∀ a, ∃ f, Local id g f ∧ ∀ s, (call s.ttlMs s.sessions).1 = a →
      whole s = f { s with sessions := (call s.ttlMs s.sessions).2 }) : Local id g whole :=
  (Local.call hcall).after hwhole

theorem count (f : Metrics → Metrics) :
    Local (σ := σ) id g fun s => ((), { s with metrics := f s.metrics }) :=
  ⟨fun _ h => ⟨rfl, h.ttlMs_eq, h.rotation_eq, h.entry_eq⟩,
    fun _ => ⟨rfl, fun _ _ => rfl, fun _ _ => rfl⟩⟩

end Local

/-! ### The steps of a selection -/

section Steps

variable {service : Service} {h : Handle} {id : String}

theorem local_binding? (id : String) (g : Nat) (sessionKey : Option String) (n : Nat) :
    Local (σ := σ) id g fun s => s.binding? (sessionKey.map (Session.storeKey id g)) n := by
  cases sessionKey with
  | none => exact .pure none
  | some k =>
    have hget := KeywiseStore.get (σ := σ) (Session.storeKey id g k)
    refine Local.after_call (fun _ => hget) fun found => ?_
    rcases found with e | _ | r
    · exact ⟨_, .pure none, fun s hs => by simp only [Option.map_some, binding?, hs]⟩
    · exact ⟨_, .pure none, fun s hs => by simp only [Option.map_some, binding?, hs]⟩
    · exact ⟨_, .pure (if r.nodeIndex < n then some r else none),
        fun s hs => by simp only [Option.map_some, binding?, hs]⟩

theorem local_drawTicket (id : String) (g n : Nat) :
    Local (σ := σ) id g fun s => s.drawTicket id n := by
  constructor
  · intro G s s' _ hs
    rw [drawTicket, drawTicket, hs.rotation_eq]
    refine ⟨rfl, hs.ttlMs_eq, ?_, hs.entry_eq⟩
    rw [Table.get?_set, Table.get?_set, if_pos rfl, if_pos rfl]
  · intro s
    refine ⟨rfl, fun j hj => ?_, fun _ _ => rfl⟩
    rw [drawTicket, Table.get?_set, if_neg hj]

theorem local_select (service : Service) (nodes : List Node) (sessionKey : Option String) :
    Local (σ := σ) service.id service.generation fun s => s.select service nodes sessionKey := by
  by_cases hn : nodes = []
  · simp only [select, if_pos hn]
    exact .pure none
  · -- Whether a ticket is drawn depends on what the store was found to hold.
    simp only [select, if_neg hn]
    refine (local_binding? service.id service.generation sessionKey nodes.length).after
      fun record => ?_
    cases record with
    | some r =>
      exact ⟨_, .pure (some (established service nodes.length
        (sessionKey.map (Session.storeKey service.id service.generation)) r)),
        fun s hs => by simp only [hs]⟩
    | none =>
      have hdraw := local_drawTicket (σ := σ) service.id service.generation nodes.length
      exact ⟨_, hdraw.bind fun index => .pure (some (fresh service nodes.length
        (sessionKey.map (Session.storeKey service.id service.generation)) sessionKey index)),
        fun s hs => by simp only [hs]⟩

theorem local_putAlias (hh : h.AtHome id) (r : SessionRecord) :
    Local (σ := σ) id h.generation fun s => ((), s.putAlias h r) := by
  simp only [putAlias, hh.serviceId]
  cases r.alias? with
  | none => exact .pure ()
  | some a =>
    have hput := KeywiseStore.put (σ := σ) (Session.storeKey id h.generation a.sessionKey) a
    exact (Local.call hput).bind fun _ => .pure ()

theorem local_bindFirst (hh : h.AtHome id) (k : String) (r : SessionRecord) :
    Local (σ := σ) id h.generation fun s =>
      ((), s.bindFirst h (Session.storeKey id h.generation k) r) := by
  have hupdate (t : Nat) :=
    KeywiseStore.update (σ := σ) (Session.storeKey id h.generation k) t (h.firstBinding r)
  refine Local.after_call hupdate fun result => ?_
  cases result with
  | failed e => exact ⟨_, .pure (), fun s hs => by simp only [bindFirst, hs]⟩
  | skipped => exact ⟨_, local_putAlias hh r, fun s hs => by simp only [bindFirst, hs]⟩
  | applied seen =>
    by_cases hbound : h.boundIndex r seen = r.nodeIndex
    · exact ⟨_, local_putAlias hh r, fun s hs => by simp only [bindFirst, hs, if_pos hbound]⟩
    · exact ⟨_, .pure (), fun s hs => by simp only [bindFirst, hs, if_neg hbound]⟩

theorem local_bindAgain (hh : h.AtHome id) (k : String) (r : SessionRecord) :
    Local (σ := σ) id h.generation fun s =>
      ((), s.bindAgain h (Session.storeKey id h.generation k) r) := by
  have hput := KeywiseStore.put (σ := σ) (Session.storeKey id h.generation k) r
  refine Local.after_call hput fun result => ?_
  cases result with
  | error e => exact ⟨_, .pure (), fun s hs => by simp only [bindAgain, hs]⟩
  | ok u => exact ⟨_, local_putAlias hh r, fun s hs => by simp only [bindAgain, hs]⟩

theorem local_persist (hh : h.AtHome id) :
    Local (σ := σ) id h.generation fun s => ((), s.persist h) := by
  simp only [persist]
  cases hk : h.storeKey with
  | none => exact .pure ()
  | some x =>
    cases h.record with
    | none => exact .pure ()
    | some r =>
      obtain ⟨k, rfl⟩ := hh.filed x hk
      by_cases hfirst : h.firstTime = true
      · simp only [if_pos hfirst]
        exact local_bindFirst hh k r
      · simp only [if_neg hfirst]
        exact local_bindAgain hh k r

theorem local_evict (hh : h.AtHome id) :
    Local (σ := σ) id h.generation fun s => ((), s.evict h) := by
  simp only [evict]
  cases hk : h.storeKey with
  | none => exact .pure ()
  | some x =>
    obtain ⟨k, rfl⟩ := hh.filed x hk
    have hremove := KeywiseStore.remove (σ := σ) (Session.storeKey id h.generation k)
    exact (Local.call fun _ => hremove).bind fun _ => .count (·.bump (.evictions h.serviceId))

theorem local_fail (hh : h.AtHome id) :
    Local (σ := σ) id h.generation fun s => s.fail h := by
  simp only [fail]
  by_cases hfirst : (!h.firstTime) = true
  · simp only [if_pos hfirst]
    exact (local_evict hh).bind fun _ => .pure (Next.done .evicted)
  · simp only [if_neg hfirst]
    cases h.retry? with
    | none => exact .pure (Next.done .exhausted)
    | some next =>
      exact (Local.count (·.bump (.failovers h.serviceId))).bind fun _ => .pure (Next.retry next)

theorem local_reportUnreachable (hh : h.AtHome id) :
    Local (σ := σ) id h.generation fun s => s.reportUnreachable h :=
  local_fail hh

theorem local_report (hh : h.AtHome id) (status : Http.Status) (affinity : Option String) :
    Local (σ := σ) id h.generation fun s => s.report h status affinity := by
  have hh := hh.renamed affinity
  rw [← h.generation_renamed affinity]
  simp only [report]
  by_cases hfailed : status.isServerError = true
  · simp only [if_pos hfailed]
    exact local_fail hh
  · simp only [if_neg hfailed]
    exact (local_persist hh).bind fun _ => .pure (Next.done .bound)

end Steps

/-- A step for another service changes nothing for this one. -/
theorem Within.agree {s s' t : Selector σ} {id j : String} {g : Nat} {G : Nat → Prop}
    (h : Within j g s s') (hne : id ≠ j) (hid : ':' ∉ id.toList) (hj : ':' ∉ j.toList)
    (hs : Agree id G s t) : Agree id G s' t := by
  refine ⟨h.ttlMs_eq.trans hs.ttlMs_eq, (h.rotation_eq id hne).trans hs.rotation_eq, fun x hx => ?_⟩
  refine (h.entry_eq x fun k he => ?_).trans (hs.entry_eq x hx)
  obtain ⟨g', k', -, rfl⟩ := hx
  exact hne (Session.storeKey_inj hid hj he).1

/-- A step for one generation of a service leaves the records of another one as they are. -/
theorem Within.entry_of_ne {s s' : Selector σ} {id : String} {g g' : Nat} (h : Within id g s s')
    (hid : ':' ∉ id.toList) (hne : g' ≠ g) (k : String) :
    entry s'.sessions (Session.storeKey id g' k) = entry s.sessions (Session.storeKey id g' k) :=
  h.entry_eq _ fun _ he => hne (Session.storeKey_inj hid hid he).2.1

end Selector

/-! ### Runs -/

/-- A selector, and the selections in progress by service and number. -/
structure Desk (σ : Type) where
  selector : Selector σ
  pending : String × Nat → Option Handle

/-- What a caller can ask of a selector. -/
inductive Move where
  /-- To begin a selection, to be kept under a number. -/
  | select (service : Service) (nodes : List Node) (sessionKey : Option String) (n : Nat)
  /-- To go on with a selection whose attempt was answered. -/
  | answered (serviceId : String) (n : Nat) (status : Http.Status) (affinity : Option String)
  /-- To go on with a selection whose attempt was not answered. -/
  | unanswered (serviceId : String) (n : Nat)

/-- What a caller is told. -/
inductive Told where
  | selected (h : Option Handle)
  | next (n : Next)
  /-- There is no such selection. -/
  | nothing
  deriving DecidableEq

/-- The service that a move is for. -/
def Move.serviceId : Move → String
  | select service _ _ _ => service.id
  | answered id _ _ _ => id
  | unanswered id _ => id

/-- Whether a move is for a service. -/
def Move.isFor (id : String) (m : Move) : Bool := m.serviceId = id

/-- The selection that is left after an attempt. -/
def Next.handle? : Next → Option Handle
  | retry h => some h
  | done _ => none

namespace Desk

variable {σ : Type}

/-- Keeps a selection in progress, or gives it up. -/
def keep (x : Desk σ) (selector : Selector σ) (q : String × Nat) (h : Option Handle) : Desk σ :=
  ⟨selector, fun p => if p = q then h else x.pending p⟩

theorem pending_keep (x : Desk σ) (selector : Selector σ) (q p : String × Nat)
    (h : Option Handle) :
    (x.keep selector q h).pending p = if p = q then h else x.pending p := rfl

/-- Every selection in progress is for the service under which it is kept. -/
def Sound (x : Desk σ) : Prop := ∀ q h, x.pending q = some h → h.AtHome q.1

variable [Store σ SessionRecord]

/-- Goes on with a selection by one of the reports of the selector. -/
def proceed (x : Desk σ) (q : String × Nat)
    (report : Selector σ → Handle → Next × Selector σ) : Told × Desk σ :=
  match x.pending q with
  | none => (.nothing, x)
  | some h =>
    let (next, selector) := report x.selector h
    (.next next, x.keep selector q next.handle?)

/-- What a move does. -/
def step (x : Desk σ) : Move → Told × Desk σ
  | .select service nodes sessionKey n =>
    let (h, selector) := x.selector.select service nodes sessionKey
    (.selected h, x.keep selector (service.id, n) h)
  | .answered id n status affinity => x.proceed (id, n) fun s h => s.report h status affinity
  | .unanswered id n => x.proceed (id, n) Selector.reportUnreachable

/-- The generation that a move is for, if it does anything. -/
def generation? (x : Desk σ) : Move → Option Nat
  | .select service _ _ _ => some service.generation
  | .answered id n _ _ => (x.pending (id, n)).map Handle.generation
  | .unanswered id n => (x.pending (id, n)).map Handle.generation

variable [KeywiseStore σ SessionRecord]

/-- What is seen of a move by its service: what its caller is told, and the records of the service
after it, by generation and session. -/
structure Seen (σ : Type) [Store σ SessionRecord] [KeywiseStore σ SessionRecord] where
  move : Move
  told : Told
  records : Nat → String → KeywiseStore.Entry σ

/-- Whether a move that was seen is for a service. -/
def Seen.isFor (id : String) (y : Seen σ) : Bool := y.move.isFor id

/-- The records of a service. -/
def records (x : Desk σ) (id : String) (g : Nat) (k : String) : KeywiseStore.Entry σ :=
  entry x.selector.sessions (Session.storeKey id g k)

/-- What is seen of each of a number of moves. -/
def run (x : Desk σ) : List Move → List (Seen σ)
  | [] => []
  | m :: ms => ⟨m, (x.step m).1, (x.step m).2.records m.serviceId⟩ :: (x.step m).2.run ms

/-- Two desks at which some generations of a service fare the same. -/
structure Agree (id : String) (G : Nat → Prop) (x y : Desk σ) : Prop where
  selector : Selector.Agree id G x.selector y.selector
  pending : ∀ n, x.pending (id, n) = y.pending (id, n)

section Moves

variable {x y : Desk σ} {id : String} {G : Nat → Prop} {m : Move}

omit [Store σ SessionRecord] [KeywiseStore σ SessionRecord] in
theorem Sound.keep (hx : x.Sound) {selector : Selector σ} {q : String × Nat} {h : Option Handle}
    (hh : ∀ h', h = some h' → h'.AtHome q.1) : (x.keep selector q h).Sound := by
  intro p h' hp
  rw [pending_keep] at hp
  by_cases hq : p = q
  · rw [if_pos hq] at hp
    exact hq ▸ hh h' hp
  · rw [if_neg hq] at hp
    exact hx p h' hp

theorem Agree.keep (h : x.Agree id G y) {s s' : Selector σ} (hs : Selector.Agree id G s s')
    (q : String × Nat) (k : Option Handle) : (x.keep s q k).Agree id G (y.keep s' q k) := by
  refine ⟨hs, fun n => ?_⟩
  rw [pending_keep, pending_keep, h.pending n]

/-- A report that concerns the generation of its selection, and leaves the selection there. -/
structure Proper (report : Selector σ → Handle → Next × Selector σ) : Prop where
  atHome : ∀ {s : Selector σ} {h h' : Handle} {id : String}, h.AtHome id →
    (report s h).1 = .retry h' → h'.AtHome id
  concerns : ∀ {h : Handle} {id : String}, h.AtHome id →
    Selector.Local id h.generation fun s => report s h

theorem proper_report (status : Http.Status) (affinity : Option String) :
    Proper (σ := σ) fun s h => s.report h status affinity :=
  ⟨Selector.atHome_report, fun hh => Selector.local_report hh status affinity⟩

theorem proper_reportUnreachable : Proper (σ := σ) Selector.reportUnreachable :=
  ⟨Selector.atHome_reportUnreachable, Selector.local_reportUnreachable⟩

section Proceed

variable {report : Selector σ → Handle → Next × Selector σ} {n : Nat}

theorem Sound.proceed (hx : x.Sound) (hr : Proper report) (q : String × Nat) :
    (x.proceed q report).2.Sound := by
  rw [Desk.proceed]
  cases hp : x.pending q with
  | none => exact hx
  | some h =>
    refine hx.keep fun h' hh' => ?_
    cases hnext : (report x.selector h).1 with
    | done o => simp [hnext, Next.handle?] at hh'
    | retry next =>
      rw [hnext] at hh'
      obtain rfl := Option.some.inj hh'
      exact hr.atHome (hx q h hp) hnext

theorem Agree.proceed (h : x.Agree id G y) (hx : x.Sound) (hr : Proper report)
    (hg : ∀ k, x.pending (id, n) = some k → G k.generation) :
    (x.proceed (id, n) report).1 = (y.proceed (id, n) report).1 ∧
      (x.proceed (id, n) report).2.Agree id G (y.proceed (id, n) report).2 := by
  rw [Desk.proceed, Desk.proceed, ← h.pending n]
  cases hp : x.pending (id, n) with
  | none => exact ⟨rfl, h⟩
  | some k =>
    obtain ⟨hnext, hafter⟩ := (hr.concerns (hx (id, n) k hp)).congr (hg k hp) h.selector
    simp only [hnext]
    exact ⟨trivial, h.keep hafter (id, n) _⟩

/-- A report changes no more than what belongs to the generation of its selection. -/
theorem Sound.within_proceed (hx : x.Sound) (hr : Proper report) {k : Handle}
    (hp : x.pending (id, n) = some k) :
    Selector.Within id k.generation x.selector (x.proceed (id, n) report).2.selector := by
  rw [Desk.proceed, hp]
  exact (hr.concerns (hx (id, n) k hp)).within x.selector

end Proceed

/-! ### Moves for a service, and for another one -/

theorem Sound.step (hx : x.Sound) (m : Move) : (x.step m).2.Sound := by
  cases m with
  | select service nodes sessionKey n =>
    exact hx.keep fun h hh => Selector.atHome_select hh
  | answered id n status affinity => exact hx.proceed (proper_report status affinity) (id, n)
  | unanswered id n => exact hx.proceed proper_reportUnreachable (id, n)

/-- A move for one of the generations is told the same at both desks. -/
theorem Agree.step (h : x.Agree id G y) (hx : x.Sound) (hm : m.serviceId = id)
    (hg : ∀ g, x.generation? m = some g → G g) :
    (x.step m).1 = (y.step m).1 ∧ (x.step m).2.Agree id G (y.step m).2 := by
  have hgeneration {n : Nat} (hn : (x.pending (id, n)).map Handle.generation = x.generation? m)
      (k : Handle) (hk : x.pending (id, n) = some k) : G k.generation :=
    hg k.generation (by rw [← hn, hk]; rfl)
  cases m with
  | select service nodes sessionKey n =>
    obtain rfl := hm
    obtain ⟨htold, hafter⟩ :=
      (Selector.local_select service nodes sessionKey).congr (hg _ rfl) h.selector
    simp only [Desk.step, htold]
    exact ⟨trivial, h.keep hafter _ _⟩
  | answered _ n status affinity =>
    obtain rfl := hm
    exact h.proceed hx (proper_report status affinity) (hgeneration rfl)
  | unanswered _ n =>
    obtain rfl := hm
    exact h.proceed hx proper_reportUnreachable (hgeneration rfl)

/-- A move changes no more than what belongs to the generation that it is for. -/
theorem Sound.within_step (hx : x.Sound) {g : Nat} (hg : x.generation? m = some g) :
    Selector.Within m.serviceId g x.selector (x.step m).2.selector := by
  cases m with
  | select service nodes sessionKey n =>
    obtain rfl := Option.some.inj hg
    exact (Selector.local_select service nodes sessionKey).within x.selector
  | answered id n status affinity =>
    obtain ⟨k, hk, rfl⟩ := Option.map_eq_some_iff.mp hg
    exact hx.within_proceed (proper_report status affinity) hk
  | unanswered id n =>
    obtain ⟨k, hk, rfl⟩ := Option.map_eq_some_iff.mp hg
    exact hx.within_proceed proper_reportUnreachable hk

omit [KeywiseStore σ SessionRecord] in
/-- A move for no selection does nothing. -/
theorem step_of_nothing (hg : x.generation? m = none) : (x.step m).2 = x := by
  cases m with
  | select service nodes sessionKey n => exact absurd hg (by simp [generation?])
  | answered id n status affinity =>
    have hp : x.pending (id, n) = none := Option.map_eq_none_iff.mp hg
    rw [Desk.step, Desk.proceed, hp]
  | unanswered id n =>
    have hp : x.pending (id, n) = none := Option.map_eq_none_iff.mp hg
    rw [Desk.step, Desk.proceed, hp]

omit [Store σ SessionRecord] [KeywiseStore σ SessionRecord] in
theorem pending_proceed {report : Selector σ → Handle → Next × Selector σ} {q p : String × Nat}
    (hne : p ≠ q) : (x.proceed q report).2.pending p = x.pending p := by
  rw [Desk.proceed]
  split
  · rfl
  · exact if_neg hne

omit [KeywiseStore σ SessionRecord] in
/-- A move leaves the selections of other services where they are. -/
theorem pending_step (hne : id ≠ m.serviceId) (n : Nat) :
    (x.step m).2.pending (id, n) = x.pending (id, n) := by
  have hother (n' : Nat) : (id, n) ≠ (m.serviceId, n') := fun he => hne (congrArg Prod.fst he)
  cases m with
  | select service nodes sessionKey n' => exact if_neg (hother n')
  | answered _ n' status affinity => exact pending_proceed (hother n')
  | unanswered _ n' => exact pending_proceed (hother n')

/-- A move for another service changes nothing for this one. -/
theorem Agree.step_elsewhere (h : x.Agree id G y) (hx : x.Sound) (hne : id ≠ m.serviceId)
    (hid : ':' ∉ id.toList) (hm : ':' ∉ m.serviceId.toList) : (x.step m).2.Agree id G y := by
  refine ⟨?_, fun n => (pending_step hne n).trans (h.pending n)⟩
  cases hg : x.generation? m with
  | none =>
    rw [step_of_nothing hg]
    exact h.selector
  | some g => exact (hx.within_step hg).agree hne hid hm h.selector

/-- The rest of two runs, one of them without the moves for other services. -/
theorem Agree.run (h : x.Agree id (fun _ => True) y) (hx : x.Sound) (hid : ':' ∉ id.toList)
    {ms : List Move} (hids : ∀ m ∈ ms, ':' ∉ m.serviceId.toList) :
    (x.run ms).filter (Seen.isFor id) = y.run (ms.filter (Move.isFor id)) := by
  induction ms generalizing x y with
  | nil => rfl
  | cons m ms ih =>
    have hrest {y : Desk σ} (h : (x.step m).2.Agree id (fun _ => True) y) :=
      ih h (hx.step m) fun m' hm' => hids m' (List.mem_cons_of_mem m hm')
    by_cases hm : m.serviceId = id
    · obtain ⟨htold, hafter⟩ := h.step hx hm fun _ _ => trivial
      have hstored : (x.step m).2.records m.serviceId = (y.step m).2.records m.serviceId := by
        funext g k
        rw [hm]
        exact hafter.selector.entry_eq _ ⟨g, k, trivial, rfl⟩
      have hfor : Move.isFor id m = true := decide_eq_true hm
      have hseen : Seen.isFor id ⟨m, (x.step m).1, (x.step m).2.records m.serviceId⟩ = true := hfor
      rw [List.filter_cons_of_pos hfor, Desk.run, Desk.run, List.filter_cons_of_pos hseen, htold,
        hstored, hrest hafter]
    · -- Only the run on the left moves.
      have hafter := h.step_elsewhere hx (Ne.symm hm) hid (hids m List.mem_cons_self)
      have hnot : ¬Move.isFor id m = true := ne_true_of_eq_false (decide_eq_false hm)
      have hunseen : ¬Seen.isFor id ⟨m, (x.step m).1, (x.step m).2.records m.serviceId⟩ = true :=
        hnot
      rw [List.filter_cons_of_neg hnot, Desk.run, List.filter_cons_of_neg hunseen, hrest hafter]

end Moves

theorem Agree.refl {id : String} {G : Nat → Prop} (x : Desk σ) : x.Agree id G x :=
  ⟨⟨rfl, rfl, fun _ _ => rfl⟩, fun _ => rfl⟩

/-- **Services and generations are kept apart.** Take any run of a selector for services whose names
have no colon, with sessions of any keys and with any content of the store to begin with.

* Leave out all moves but those of one service. Its callers are told the same, and after each of
  these moves the same records of the service are stored.
* A move for one generation of a service leaves the records of the other generations as they are,
  and neither what it is told nor what else it changes depends on what these records say.
* Every session of every generation of a service is filed under a key of its own. -/
theorem services_kept_apart {x : Desk σ} (hx : x.Sound) {id : String} (hid : ':' ∉ id.toList)
    {ms : List Move} (hids : ∀ m ∈ ms, ':' ∉ m.serviceId.toList) :
    (x.run ms).filter (Seen.isFor id) = x.run (ms.filter (Move.isFor id)) ∧
      (∀ m, m.serviceId = id → ∀ g g', x.generation? m = some g → g' ≠ g →
        (x.step m).2.records id g' = x.records id g' ∧
          ∀ y, x.Agree id (· ≠ g') y →
            (x.step m).1 = (y.step m).1 ∧ (x.step m).2.Agree id (· ≠ g') (y.step m).2) ∧
      ∀ id' g g' k k', ':' ∉ id'.toList → Session.storeKey id g k = Session.storeKey id' g' k' →
        id = id' ∧ g = g' ∧ k = k' := by
  refine ⟨(Agree.refl x).run hx hid hids, ?_, ?_⟩
  · rintro m rfl g g' hg hne
    constructor
    · funext k
      exact (hx.within_step hg).entry_of_ne hid hne k
    · intro y hy
      refine hy.step hx rfl fun g'' hg'' => ?_
      obtain rfl := Option.some.inj (hg.symm.trans hg'')
      exact hne.symm
  · intro id' g g' k k' hid' he
    exact Session.storeKey_inj hid hid' he

/-! ### A run

Two services, one of them in two generations, have sessions of one key. -/

namespace Sample

def service (id : String) (generation : Nat) : Service :=
  { id, nodes := [.plain "x" 80, .plain "y" 80], generation }

def select (id : String) (generation n : Nat) : Move :=
  .select (service id generation) [.plain "x" 80, .plain "y" 80] (some "aff=k") n

def start : Desk (MemoryStore SessionRecord) :=
  ⟨Selector.start ⟨ExpiringMap.empty, 0⟩ 1000, fun _ => none⟩

def moves : List Move :=
  [select "a" 0 0, select "b" 0 0, .answered "b" 0 .ok (some "v"), .answered "a" 0 .ok none,
    select "a" 1 1, select "a" 0 2]

theorem sound_start : start.Sound := fun _ _ hp => absurd hp (by simp [start])

end Sample

theorem kept_apart_of_one_key :
    (Sample.start.run Sample.moves).filterMap (fun y => match y.told with
        | .selected h => h.map fun h => (h.serviceId, h.generation, h.firstTime)
        | _ => none) =
      [("a", 0, true), ("b", 0, true), ("a", 1, true), ("a", 0, false)] ∧
    Sample.start.Sound ∧
    (Sample.start.run Sample.moves).filter (Seen.isFor "a") =
        Sample.start.run (Sample.moves.filter (Move.isFor "a")) ∧
      (∀ m, m.serviceId = "a" → ∀ g g', Sample.start.generation? m = some g → g' ≠ g →
        (Sample.start.step m).2.records "a" g' = Sample.start.records "a" g' ∧
          ∀ y, Sample.start.Agree "a" (· ≠ g') y → (Sample.start.step m).1 = (y.step m).1 ∧
            (Sample.start.step m).2.Agree "a" (· ≠ g') (y.step m).2) ∧
      ∀ id' g g' k k', ':' ∉ id'.toList → Session.storeKey "a" g k = Session.storeKey id' g' k' →
        "a" = id' ∧ g = g' ∧ k = k' := by
  refine ⟨by rfl, Sample.sound_start, services_kept_apart Sample.sound_start (by decide) ?_⟩
  intro m hm
  simp only [Sample.moves, List.mem_cons, List.not_mem_nil, or_false] at hm
  rcases hm with rfl | rfl | rfl | rfl | rfl | rfl <;> decide

end Desk

end Gatehouse
