import Gatehouse.Gateway.Intake
import Gatehouse.Proofs.Fields

/-!
# The hops of a request

Every proxy on the way of a request notes the address that the request came from behind those that
are noted already. The notes are a chain, with commas between them.

## A chain over several fields

A chain may stand in one field or go on from field to field; both mean the same chain. The gateway
continues the first field and puts what it has made in place of all the fields. So the chain is
extended if it stands in one field, and cut off behind the first field if it does not.

## Main definitions

* `RequestHead.hops` — the fields with the notes of the proxies before
* `RequestHead.chain` — a chain that is continued by a client

## Main results

* `RequestHead.hops_forwardedHeaders` — the first field continued is what is forwarded
* `RequestHead.hops_kept_iff` — no hop is lost exactly where the chain stands in one field
-/

namespace Gatehouse

namespace RequestHead

variable {r : RequestHead} {client : Net.Address}

/-- The fields in which the proxies before noted where the request came from. -/
def hops (r : RequestHead) : List String := r.headers.all "x-forwarded-for"

/-- Hops and the client behind them, with commas between. -/
def chain (hops : List String) (client : Net.Address) : String :=
  ", ".intercalate (hops ++ [client.text])

theorem chain_of_ne_nil {hops : List String} (h : hops ≠ []) (client : Net.Address) :
    chain hops client = ", ".intercalate hops ++ ", " ++ client.text := by
  rw [chain, String.intercalate_append_of_ne_nil h (by simp), String.intercalate_singleton]

theorem chain_cons (hop : String) (hops : List String) (client : Net.Address) :
    chain (hop :: hops) client = hop ++ ", " ++ chain hops client := by
  rw [chain, List.cons_append, String.intercalate_cons_of_ne_nil (by simp), chain]

theorem chain_take_one (hops : List String) (client : Net.Address) :
    chain (hops.take 1) client =
      hops.head?.elim client.text fun hop => hop ++ ", " ++ client.text := by
  cases hops with
  | nil => simp [chain]
  | cons hop rest =>
    rw [List.take_succ_cons, List.take_zero, chain_cons]
    simp [chain]

/-- A chain that goes on behind its first hop is longer than the one that does not. -/
theorem chain_take_one_eq_iff {hops : List String} :
    chain (hops.take 1) client = chain hops client ↔ hops.length ≤ 1 := by
  match hops with
  | [] => simp
  | [hop] => simp
  | first :: second :: more =>
    refine iff_of_false (fun he => ?_) (by simp)
    rw [List.take_succ_cons, List.take_zero, chain_cons, chain_cons, String.append_right_inj,
      chain_of_ne_nil (List.cons_ne_nil second more)] at he
    have hlen := congrArg String.length he
    simp only [chain, List.nil_append, String.intercalate_singleton, String.length_append] at hlen
    have hcomma : ", ".length = 2 := by decide
    omega

/-! ### What is forwarded -/

theorem forwardedHeaders_eq (r : RequestHead) (client : Net.Address) :
    r.forwardedHeaders client =
      let chain := (r.headers.read? "x-forwarded-for").elim client.text
        fun earlier => earlier ++ ", " ++ client.text
      let h := r.headers.set "x-forwarded-for" chain
      (r.headers.get? "host").elim h fun host => h.set "x-forwarded-host" host := by
  rw [forwardedHeaders]
  cases r.headers.read? "x-forwarded-for" <;> cases r.headers.get? "host" <;> rfl

theorem hops_forwardedHeaders (hread : ∀ v ∈ r.hops, Http.isReadable v = true)
    (client : Net.Address) :
    (r.forwardedHeaders client).all "x-forwarded-for" = [chain (r.hops.take 1) client] := by
  have hset (value : String) :
      (r.headers.set "x-forwarded-for" value).all "x-forwarded-for" = [value] := by
    rw [Http.Headers.all_set, if_pos rfl]
  have hfirst : r.headers.read? "x-forwarded-for" = r.hops.head? :=
    r.headers.read?_eq_head? "x-forwarded-for" hread
  rw [forwardedHeaders_eq, hfirst, ← chain_take_one]
  cases r.headers.get? "host" with
  | none => exact hset _
  | some host =>
    rw [Option.elim_some, Http.Headers.all_set, if_neg (by decide), hset]

theorem headers_of_buffer {body : Inflow} {path : String} {maxBodySize : Nat}
    {request : Http.Request} (h : r.buffer body path maxBodySize client = .ok request) :
    request.headers = r.forwardedHeaders client := by
  rw [buffer] at h
  split_ifs at h
  rw [← Except.ok.inj h]

/-- **No hop is lost exactly where the chain stands in one field.** Let every field of hops be
readable. What is forwarded is the chain of the first field, continued by the client. That is the
whole chain continued by the client exactly if there is no second field. So where the same chain
comes in one field, the same is forwarded exactly if it stood in one field already. -/
theorem hops_kept_iff {body : Inflow} {path : String} {maxBodySize : Nat}
    {request : Http.Request} (hread : ∀ v ∈ r.hops, Http.isReadable v = true)
    (h : r.buffer body path maxBodySize client = .ok request) :
    request.headers.all "x-forwarded-for" = [chain (r.hops.take 1) client] ∧
      (request.headers.all "x-forwarded-for" = [chain r.hops client] ↔ r.hops.length ≤ 1) ∧
      ∀ (r' : RequestHead) (body' : Inflow) (path' : String) (maxBodySize' : Nat)
        (request' : Http.Request), r.hops ≠ [] → r'.hops = [", ".intercalate r.hops] →
        r'.buffer body' path' maxBodySize' client = .ok request' →
        request'.headers.all "x-forwarded-for" = [chain r.hops client] ∧
        (request'.headers.all "x-forwarded-for" = request.headers.all "x-forwarded-for" ↔
          r.hops.length ≤ 1) := by
  have hfirst : request.headers.all "x-forwarded-for" = [chain (r.hops.take 1) client] := by
    rw [headers_of_buffer h, hops_forwardedHeaders hread]
  refine ⟨hfirst, by rw [hfirst, List.singleton_inj, chain_take_one_eq_iff], ?_⟩
  intro r' body' path' maxBodySize' request' hne hone h'
  have hread' : ∀ v ∈ r'.hops, Http.isReadable v = true := by
    rw [hone]
    simpa using Http.isReadable_intercalate (by decide) hread
  have hwhole : request'.headers.all "x-forwarded-for" = [chain r.hops client] := by
    rw [headers_of_buffer h', hops_forwardedHeaders hread', hone, List.take_succ_cons,
      List.take_zero, chain_cons, chain_of_ne_nil hne]
    simp [chain]
  refine ⟨hwhole, ?_⟩
  rw [hwhole, hfirst, List.singleton_inj, eq_comm, chain_take_one_eq_iff]

namespace HopSample

/-- A request that came through two proxies, each of which wrote a field of its own. -/
def spread : RequestHead :=
  { headers := ⟨[("x-forwarded-for", "1.2.3.4"), ("x-forwarded-for", "5.6.7.8")]⟩ }

/-- The same with the chain in one field. -/
def joined : RequestHead := { headers := ⟨[("x-forwarded-for", "1.2.3.4, 5.6.7.8")]⟩ }

/-- Where the last proxy took the request from. -/
def source : Net.Address := .v4 10 0 0 7

/-- What is forwarded of a request without a body. -/
def forwarded (r : RequestHead) : Http.Request :=
  { method := "GET", pathAndQuery := "/", headers := r.forwardedHeaders source }

end HopSample

theorem hops_not_kept :
    (HopSample.forwarded HopSample.joined).headers.all "x-forwarded-for" =
        ["1.2.3.4, 5.6.7.8, 10.0.0.7"] ∧
      (HopSample.forwarded HopSample.spread).headers.all "x-forwarded-for" ≠
        ["1.2.3.4, 5.6.7.8, 10.0.0.7"] := by
  obtain ⟨-, hkept, hone⟩ := @hops_kept_iff HopSample.spread HopSample.source ⟨[], false⟩ "/"
    1024 (HopSample.forwarded HopSample.spread) (by decide) rfl
  obtain ⟨hwhole, -⟩ := hone HopSample.joined ⟨[], false⟩ "/" 1024
    (HopSample.forwarded HopSample.joined) (by decide) (by decide) rfl
  have hchain : chain HopSample.spread.hops HopSample.source = "1.2.3.4, 5.6.7.8, 10.0.0.7" := by
    decide
  rw [hchain] at hkept hwhole
  exact ⟨hwhole, fun h => absurd (hkept.mp h) (by decide)⟩

/-- Both hops can be read, and the second one is not in what is forwarded. -/
theorem second_hop_lost :
    (∀ v ∈ HopSample.spread.hops, Http.isReadable v = true) ∧
      HopSample.spread.buffer ⟨[], false⟩ "/" 1024 HopSample.source =
        .ok (HopSample.forwarded HopSample.spread) ∧
      (HopSample.forwarded HopSample.spread).headers.all "x-forwarded-for" =
        ["1.2.3.4, 10.0.0.7"] ∧
      chain HopSample.spread.hops HopSample.source = "1.2.3.4, 5.6.7.8, 10.0.0.7" :=
  ⟨by decide, rfl, by decide, by decide⟩

end RequestHead

end Gatehouse
