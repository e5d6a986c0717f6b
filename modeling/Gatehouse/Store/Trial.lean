import Gatehouse.Store.Expiring

/-!
# A store on trial

A store in memory that keeps a journal of the calls made to it and that can be put out of order:
chosen calls fail, updates are skipped, or someone else writes right before an update. What a user
of a store does in each of these cases can so be observed.
-/

namespace Gatehouse

/-- The calls of a store. -/
inductive StoreCall where
  | get
  | put
  | remove
  | update
  deriving DecidableEq, Repr

/-- A call as it went. -/
inductive StoreEvent (V : Type) where
  | get (k : String) (found : Option V)
  | put (k : String) (v : V) (ttlMs : Nat)
  | remove (k : String)
  | update (k : String) (seen written : Option V) (ttlMs : Nat)
  /-- The store answered, but made no update. -/
  | skipped (k : String)
  /-- The call failed. -/
  | failed (call : StoreCall)

/-- A store on trial. -/
structure TrialStore (V : Type) where
  /-- What is stored. -/
  map : ExpiringMap V
  /-- The present instant. -/
  now : Nat
  /-- Lifetime of what someone else writes. -/
  intruderTtlMs : Nat
  /-- The calls that fail. -/
  failing : List StoreCall
  /-- Whether updates are skipped. -/
  skipping : Bool
  /-- What someone else will write, each right before one of the next updates made. -/
  intruders : List (String × V)
  /-- The calls so far, the last one first. -/
  journal : List (StoreEvent V)

namespace TrialStore

variable {V : Type}

/-- A store in order, empty and with an empty journal. -/
def empty : TrialStore V :=
  ⟨ExpiringMap.empty, 0, 600000, [], false, [], []⟩

/-- Notes a call. -/
def note (s : TrialStore V) (e : StoreEvent V) : TrialStore V :=
  { s with journal := e :: s.journal }

/-- What a failing call answers. -/
def outage : StoreError := ⟨"injected"⟩

/-- Lets the next one of those waiting to write do so. -/
def intrude (s : TrialStore V) : TrialStore V :=
  match s.intruders with
  | [] => s
  | (k, v) :: r => { s with map := s.map.put s.now k v s.intruderTtlMs, intruders := r }

/-- The calls so far in their order, and the store with an empty journal. -/
def takeJournal (s : TrialStore V) : List (StoreEvent V) × TrialStore V :=
  (s.journal.reverse, { s with journal := [] })

end TrialStore

/-- A store on trial answers as its map does, unless it was told to fail. -/
instance : Store (TrialStore V) V where
  get k s :=
    if s.failing.contains .get then (.error TrialStore.outage, s.note (.failed .get))
    else
      let (v, map) := s.map.get s.now k
      (.ok v, { s with map }.note (.get k v))
  put k v ttlMs s :=
    if s.failing.contains .put then (.error TrialStore.outage, s.note (.failed .put))
    else (.ok (), { s with map := s.map.put s.now k v ttlMs }.note (.put k v ttlMs))
  remove k s :=
    if s.failing.contains .remove then (.error TrialStore.outage, s.note (.failed .remove))
    else (.ok (), { s with map := s.map.remove k }.note (.remove k))
  update k ttlMs f s :=
    if s.failing.contains .update then (.failed TrialStore.outage, s.note (.failed .update))
    else if s.skipping then (.skipped, s.note (.skipped k))
    else
      let s := s.intrude
      let seen := s.map.live? s.now k
      (.applied seen,
        { s with map := s.map.update s.now k ttlMs f }.note (.update k seen (f seen) ttlMs))

end Gatehouse
