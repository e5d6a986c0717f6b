import Gatehouse.Proofs.Fields
import Gatehouse.Routing.Condition

/-!
# Hosts that are configured and hosts that are asked for

A service is configured with a host, and a request is addressed to one. Letter case does not count
between the two, and neither does the port that a request adds to the host.

## What is taken off, and from which side

Letter case is taken off both sides, and the port off the side of the request alone. So a host
without a port is matched by itself and by itself with any port. A host that was configured with a
port keeps it, and no request has one left to compare with it.

The port is what stands behind the last colon, if that is made of digits. An address in brackets
ends in a bracket, so none of its own colons is taken for the one before a port.

## Main definitions

* `Condition.IsHost` — a name, or an address in brackets
* `Condition.IsPort`, `withPort`, `HasPort` — the port behind a host

## Main results

* `Condition.hostMatches_eq` — only the letters in lower case of the host asked for count
* `Condition.withoutPort_append`, `withoutPort_of_not_hasPort` — what is taken off a host
* `Condition.ofHost_holds_iff` — a configured host matches itself exactly if it has no port
-/

namespace Gatehouse

namespace Condition

open Text (lowerAscii)

variable {r r' : RequestHead} {x x' : String}

/-! ### Taking the port off -/

/-- The text of a port: digits. -/
def IsPort (p : String) : Prop := ∀ c ∈ p.toList, Text.isDigit c = true

/-- A host with a port behind it, if there is one. -/
def withPort (host : String) : Option String → String
  | none => host
  | some port => host ++ ":" ++ port

/-- A host ends in a port. -/
def HasPort (s : String) : Prop := ∃ name port, IsPort port ∧ s = withPort name (some port)

theorem toList_withPort (host port : String) :
    (withPort host (some port)).toList = host.toList ++ ':' :: port.toList := by
  simp [withPort]

theorem withoutPort_append {port : List Char} (hport : ∀ c ∈ port, Text.isDigit c = true)
    (name : List Char) : withoutPort (name ++ ':' :: port) = name := by
  have hcolon : ':' ∉ port := fun h => absurd (hport _ h) (by decide)
  rw [withoutPort, Text.cutLast_append hcolon]
  exact if_pos (List.all_eq_true.mpr hport)

theorem withoutPort_of_not_hasPort (h : ¬ HasPort x) : withoutPort x.toList = x.toList := by
  rw [withoutPort]
  cases hcut : Text.cutLast ':' x.toList with
  | none => rfl
  | some parts =>
    obtain ⟨name, port⟩ := parts
    refine if_neg fun hport => h ⟨String.ofList name, String.ofList port, ?_, ?_⟩
    · simpa [IsPort] using hport
    · rw [← String.toList_inj, toList_withPort, String.toList_ofList, String.toList_ofList]
      exact (Text.cutLast_eq_some hcut).1

/-- Letter case does not move a port. -/
theorem withoutPort_map_lowerAscii (s : List Char) :
    withoutPort (s.map lowerAscii) = (withoutPort s).map lowerAscii := by
  rw [withoutPort, withoutPort, Text.cutLast_map Text.lowerAscii_eq_colon_iff]
  cases Text.cutLast ':' s with
  | none => rfl
  | some parts =>
    have hdigits : (parts.2.map lowerAscii).all Text.isDigit = parts.2.all Text.isDigit := by
      rw [List.all_map]
      exact congrArg _ (funext fun c => Text.isDigit_lowerAscii c)
    dsimp only [Option.map_some]
    rw [hdigits]
    split <;> rfl

/-! ### The host of a request -/

/-- Of the host that a request is addressed to, only its letters in lower case count. -/
theorem hostMatches_eq (hx : r.host? = some x) (expected : String) :
    hostMatches expected r =
      (withoutPort (x.toList.map lowerAscii) == expected.toList.map lowerAscii) := by
  rw [hostMatches, hx, withoutPort_map_lowerAscii]
  dsimp only
  rw [Text.sameButCase, String.toList_ofList]

/-- Letter case does not count for whether a value can be read. -/
theorem isReadable_eq_of_sameButCase (h : Text.sameButCase x' x = true) :
    Http.isReadable x' = Http.isReadable x := by
  have hlower (s : String) : Http.isReadable s =
      (s.toList.map lowerAscii).all fun c => c == '\t' || (0x20 ≤ c.toNat && c.toNat < 0x7f) := by
    rw [Http.isReadable, List.all_map]
    refine congrArg _ (funext fun c => ?_)
    by_cases hc : c.toNat < 128
    · exact Text.forall_ascii (P := fun c =>
        (c == '\t' || (0x20 ≤ c.toNat && c.toNat < 0x7f) : Bool) =
          (lowerAscii c == '\t' || (0x20 ≤ (lowerAscii c).toNat && (lowerAscii c).toNat < 0x7f)))
        (by decide) hc
    · rw [Function.comp_apply, Text.lowerAscii_of_le (Nat.not_lt.mp hc)]
  rw [hlower, hlower, Text.sameButCase_iff.mp h]

theorem isReadable_withPort {port : Option String} (hport : ∀ p ∈ port, IsPort p) (x : String) :
    Http.isReadable (withPort x port) = Http.isReadable x := by
  cases port with
  | none => rfl
  | some p =>
    have hp : Http.isReadable p = true := by
      refine List.all_eq_true.mpr fun c hc => ?_
      have hdigit := hport p rfl c hc
      simp only [Text.isDigit, Bool.and_eq_true, decide_eq_true_eq, Char.le_def,
        UInt32.le_iff_toNat_le] at hdigit
      have h0 : '0'.val.toNat = 48 := rfl
      have h9 : '9'.val.toNat = 57 := rfl
      have hval : c.val.toNat = c.toNat := rfl
      simp only [Bool.or_eq_true, Bool.and_eq_true, decide_eq_true_eq]
      omega
    rw [withPort, Http.isReadable_append, Http.isReadable_append, hp]
    simp [Http.isReadable]

/-! ### Hosts that match themselves -/

/-- A host without a port, in visible ASCII: a name, or an address in brackets. -/
structure IsHost (host : String) : Prop where
  visible : ∀ c ∈ host.toList, 0x20 < c.toNat ∧ c.toNat < 0x7f
  shape : (host ≠ "" ∧ ':' ∉ host.toList) ∨ ∃ address, host.toList = '[' :: address ++ [']']

theorem IsHost.not_hasPort {host : String} (h : IsHost host) : ¬ HasPort host := by
  rintro ⟨name, port, hport, hsplit⟩
  have hlist := congrArg String.toList hsplit
  rw [toList_withPort] at hlist
  rcases h.shape with ⟨-, hcolon⟩ | ⟨address, hbrackets⟩
  · exact hcolon (by simp [hlist])
  · -- the closing bracket would be the last digit of the port, or its colon
    have hlast : (':' :: port.toList).getLast? = some ']' := by
      have hend := congrArg List.getLast? (hlist.symm.trans hbrackets)
      rw [List.getLast?_append, List.getLast?_concat] at hend
      cases hport' : (':' :: port.toList).getLast? with
      | none => simp at hport'
      | some c =>
        rw [hport'] at hend
        exact hend
    rcases List.mem_cons.mp (List.mem_of_getLast? hlast) with he | hmem
    · exact absurd he (by decide)
    · exact absurd (hport ']' hmem) (by decide)

theorem IsHost.readable {host : String} (h : IsHost host) : Http.isReadable host = true := by
  refine List.all_eq_true.mpr fun c hc => ?_
  have hvisible := h.visible c hc
  simp only [Bool.or_eq_true, Bool.and_eq_true, decide_eq_true_eq]
  omega

/-- In ASCII, what a configured host is brought to is its letters in lower case. -/
theorem map_lowerAscii_lower {s : String} (h : ∀ c ∈ s.toList, c.toNat < 128) :
    (Text.lower s).toList.map lowerAscii = s.toList.map lowerAscii := by
  rw [Text.lower, String.toList_ofList, List.map_map]
  refine List.map_congr_left fun c hc => ?_
  rw [Function.comp_apply, Text.lowerToAscii_of_ascii (h c hc), Text.lowerAscii_idem]

theorem ascii_withPort {host : String} {port : Option String} (hhost : IsHost host)
    (hport : ∀ p ∈ port, IsPort p) : ∀ c ∈ (withPort host port).toList, c.toNat < 128 := by
  have hread : Http.isReadable (withPort host port) = true := by
    rw [isReadable_withPort hport, hhost.readable]
  intro c hc
  have hc := List.all_eq_true.mp hread c hc
  simp only [Bool.or_eq_true, Bool.and_eq_true, beq_iff_eq, decide_eq_true_eq] at hc
  rcases hc with rfl | hc
  · decide
  · omega

theorem host?_of_readable (hx : r.headers.get? "host" = some x)
    (hread : Http.isReadable x = true) : r.host? = some x := by
  rw [RequestHead.host?, Http.Headers.read?, hx, Option.bind_some, Http.readable?, if_pos hread]

/-- A configured host matches a request for it, in any letter case, if it has no port. If it has
one it does not. -/
theorem holds_ofHost_self {host : String} {port : Option String} (hhost : IsHost host)
    (hport : ∀ p ∈ port, IsPort p) (hx : r.headers.get? "host" = some x)
    (hcase : Text.sameButCase x (withPort host port) = true) :
    holds r (.ofHost (withPort host port)) = true ↔ port = none := by
  have hread : Http.isReadable x = true := by
    rw [isReadable_eq_of_sameButCase hcase, isReadable_withPort hport, hhost.readable]
  rw [ofHost, holds, hostMatches_eq (host?_of_readable hx hread), beq_iff_eq,
    map_lowerAscii_lower (ascii_withPort hhost hport), Text.sameButCase_iff.mp hcase,
    withoutPort_map_lowerAscii]
  cases port with
  | none =>
    rw [withPort, withoutPort_of_not_hasPort hhost.not_hasPort]
    exact iff_of_true rfl rfl
  | some p =>
    rw [toList_withPort, withoutPort_append (hport p rfl)]
    refine iff_of_false (fun he => ?_) (by simp)
    have hlen := congrArg List.length he
    simp at hlen

/-! ### What does not count in a request -/

/-- The host asked for may be in another letter case and have a port added, if it has none. -/
theorem holds_host_withPort {port : Option String}
    (hport : ∀ p ∈ port, IsPort p ∧ ¬ HasPort x) (hx : r.headers.get? "host" = some x)
    (hx' : r'.headers.get? "host" = some x') (htarget : r'.target = r.target)
    (hcase : Text.sameButCase x' (withPort x port) = true) (expected : String) :
    holds r' (.host expected) = holds r (.host expected) := by
  have hread : Http.isReadable x' = Http.isReadable x := by
    rw [isReadable_eq_of_sameButCase hcase, isReadable_withPort fun p hp => (hport p hp).1]
  rw [holds, holds]
  by_cases hreadable : Http.isReadable x = true
  · rw [hostMatches_eq (host?_of_readable hx hreadable),
      hostMatches_eq (host?_of_readable hx' (hread.trans hreadable)), Text.sameButCase_iff.mp hcase,
      withoutPort_map_lowerAscii, withoutPort_map_lowerAscii]
    cases port with
    | none => rfl
    | some p =>
      obtain ⟨hdigits, hnone⟩ := hport p rfl
      rw [toList_withPort, withoutPort_append hdigits, withoutPort_of_not_hasPort hnone]
  · -- neither header is read, and the target says which host is asked for
    have hhost : r'.host? = r.host? := by
      have hnot : Http.readable? x = none := if_neg hreadable
      have hnot' : Http.readable? x' = none := if_neg (hread ▸ hreadable)
      rw [RequestHead.host?, RequestHead.host?, Http.Headers.read?, Http.Headers.read?, hx, hx',
        Option.bind_some, Option.bind_some, hnot, hnot', htarget]
    rw [hostMatches, hhost, hostMatches]

/-- **A configured host matches itself exactly if it has no port.** Let a host be a name or an
address in brackets, with or without a port behind it. A request that asks for the host as it is
configured, in any letter case, is matched if there is no port, and is not matched if there is one.
On the side of the request neither letter case nor a port that is added to a host without one makes
a difference to any host that is configured. -/
theorem ofHost_holds_iff {host : String} {port : Option String} (hhost : IsHost host)
    (hport : ∀ p ∈ port, IsPort p) :
    (∀ (r : RequestHead) (x : String), r.headers.get? "host" = some x →
      Text.sameButCase x (withPort host port) = true →
      (holds r (.ofHost (withPort host port)) = true ↔ port = none)) ∧
    ∀ (r r' : RequestHead) (x x' : String) (added : Option String),
      (∀ p ∈ added, IsPort p ∧ ¬ HasPort x) → r.headers.get? "host" = some x →
      r'.headers.get? "host" = some x' → r'.target = r.target →
      Text.sameButCase x' (withPort x added) = true →
      ∀ expected, holds r' (.host expected) = holds r (.host expected) := by
  constructor
  · intro r x hx hcase
    exact holds_ofHost_self hhost hport hx hcase
  · intro r r' x x' added hadded hx hx' htarget hcase
    exact holds_host_withPort hadded hx hx' htarget hcase

namespace HostSample

/-- A request for a host. -/
def asks (host : String) : RequestHead := { headers := ⟨[("host", host)]⟩ }

theorem isHost : IsHost "[fe80::1]" := ⟨by simp, .inr ⟨"fe80::1".toList, by decide⟩⟩

theorem isPort : IsPort "8080" := by
  simp [IsPort, Text.isDigit]

end HostSample

theorem ofHost_holds_bracketed :
    holds (HostSample.asks "[FE80::1]") (.ofHost "[fe80::1]") = true ∧
      holds (HostSample.asks "[FE80::1]:8080") (.ofHost "[fe80::1]") = true ∧
      holds (HostSample.asks "[FE80::1]:8080") (.ofHost "[fe80::1]:8080") = false := by
  obtain ⟨hplain, hadded⟩ := @ofHost_holds_iff "[fe80::1]" none HostSample.isHost (by simp)
  obtain ⟨hported, -⟩ := @ofHost_holds_iff "[fe80::1]" (some "8080") HostSample.isHost
    (by simpa using HostSample.isPort)
  refine ⟨(hplain (HostSample.asks "[FE80::1]") "[FE80::1]" rfl (by decide)).mpr rfl, ?_, ?_⟩
  · have hself := (hplain (HostSample.asks "[fe80::1]") "[fe80::1]" rfl (by decide)).mpr rfl
    have hsame := hadded (HostSample.asks "[fe80::1]") (HostSample.asks "[FE80::1]:8080")
      "[fe80::1]" "[FE80::1]:8080" (some "8080")
      (by simpa using ⟨HostSample.isPort, HostSample.isHost.not_hasPort⟩) rfl rfl rfl (by decide)
      (Text.lower "[fe80::1]")
    exact hsame.trans hself
  · have hnot := hported (HostSample.asks "[FE80::1]:8080") "[FE80::1]:8080" rfl (by decide)
    rw [← Bool.not_eq_true]
    exact fun h => absurd (hnot.mp h) (by simp)

/-- A service that is configured with a port is not found under the very host that it names. -/
theorem ofHost_with_port_unmatched :
    withPort "shop.local" (some "8080") = "shop.local:8080" ∧
      holds (HostSample.asks "shop.local:8080") (.ofHost "shop.local:8080") = false := by
  decide

end Condition

end Gatehouse
