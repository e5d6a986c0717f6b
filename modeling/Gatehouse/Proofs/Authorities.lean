import Gatehouse.Proofs.HostNames
import Gatehouse.Proofs.Paths

/-!
# The authority in a URL

Between the two slashes of a URL of the web and the slash, backslash, question mark or number sign
that comes next stands who the URL leads to: what is said of a user, up to the last `@`, then a
host, and a port behind a colon.

## Where it ends

The parts are cut off one after the other, each from what the one before has left, and the end of
the authority is looked for again each time. It is the same end each time. So what is read of an
authority is what it is by itself: it depends neither on the character that ends it nor on anything
behind (`cutSite_append_end`).

## Main definitions

* `Url.cutSite` — host and port at the start of a text
* `Url.withoutLineEnds` — a text without what is dropped everywhere

## Main results

* `Url.cutAuthority_eq` — an authority is what is said of a user, and host and port
* `Url.cutUser_of_notMem`, `Url.cutUser_of_mem` — where the host begins
* `Url.cutSite_append` — a host and the port behind it
* `Url.cutPort_of_forall`, `Url.cutPort_of_exists` — what is a port
* `Url.read_eq_readAfterSlashes` — the authority is what stands behind the scheme
-/

namespace Gatehouse

namespace Url

variable {s a r user : List Char} {c e : Char}

/-! ### Characters -/

theorem isAlphanumeric_of_mem_toString {n : Nat} (h : c ∈ (toString n).toList) :
    isAlphanumeric c = true := by
  simp [isAlphanumeric, Text.isDigit_of_mem_toString h]

theorem endsAuthority_of_alphanumeric {kind : Kind} (h : isAlphanumeric c = true) :
    endsAuthority kind c = false := by
  simp [endsAuthority, endsPath_of_alphanumeric h, ne_of_alphanumeric h (d := '/') (by decide),
    ne_of_alphanumeric h (d := '\\') (by decide)]

theorem visible_of_allowed (h : isForbidden c = false) : 0x20 < c.toNat := by
  simp only [isForbidden, Bool.or_eq_false_iff, decide_eq_false_iff_not] at h
  omega

theorem endsAuthority_of_allowed {kind : Kind} (h : isForbidden c = false) :
    endsAuthority kind c = false := by
  simp [endsAuthority, endsPath, ne_of_allowed h (d := '/') (by decide),
    ne_of_allowed h (d := '?') (by decide), ne_of_allowed h (d := '#') (by decide),
    ne_of_allowed h (d := '\\') (by decide)]

theorem endsAuthority_special (c : Char) :
    endsAuthority .special c = (c == '/' || c == '\\' || endsPath c) := by
  have hkind : decide (Kind.special ≠ .other) = true := rfl
  rw [endsAuthority, hkind, Bool.and_true, Bool.or_assoc, Bool.or_assoc, Bool.or_comm (endsPath c)]

theorem isDigit_of_endsAuthority (he : endsAuthority .special e = true) :
    Text.isDigit e = false := by
  by_contra hdigit
  rw [endsAuthority_of_alphanumeric (by simp [isAlphanumeric, hdigit])] at he
  exact absurd he (by decide)

/-- Host and port in front of a text without an `@` bring none in. -/
theorem notMem_hostPort (hs : ∀ c ∈ s, isForbidden c = false) (port : Nat) (ha : '@' ∉ a) :
    '@' ∉ s ++ ':' :: ((toString port).toList ++ a) := by
  intro h
  simp only [List.mem_append, List.mem_cons] at h
  rcases h with h | h | h | h
  · exact absurd (hs '@' h) (by decide)
  · exact absurd h (by decide)
  · exact Text.notMem_toString (by decide) _ h
  · exact ha h

/-- Host and port in front of a text that does not end the authority do not end it either. -/
theorem endsAuthority_hostPort (hs : ∀ c ∈ s, isForbidden c = false) (port : Nat)
    (ha : ∀ c ∈ a, endsAuthority .special c = false) :
    ∀ c ∈ s ++ ':' :: ((toString port).toList ++ a), endsAuthority .special c = false := by
  intro c hc
  simp only [List.mem_append, List.mem_cons] at hc
  rcases hc with hc | rfl | hc | hc
  · exact endsAuthority_of_allowed (hs c hc)
  · rfl
  · exact endsAuthority_of_alphanumeric (isAlphanumeric_of_mem_toString hc)
  · exact ha c hc

/-- Host and port are visible. -/
theorem visible_hostPort (hs : ∀ c ∈ s, isForbidden c = false) (port : Nat) :
    ∀ c ∈ s ++ ':' :: (toString port).toList, 0x20 < c.toNat := by
  intro c hc
  simp only [List.mem_append, List.mem_cons] at hc
  rcases hc with hc | rfl | hc
  · exact visible_of_allowed (hs c hc)
  · decide
  · exact (range_of_alphanumeric (isAlphanumeric_of_mem_toString hc)).1

/-! ### Host and port -/

/-- The port behind a colon at the start of a text, if there is one, and what is left. -/
def cutColonPort (scheme : String) : List Char → Except Fault (Option Nat × List Char)
  | ':' :: r => cutPort scheme r
  | rest => .ok (none, rest)

/-- Host and port at the start of a text, where the scheme is one of the usual ones, and what is
left. -/
def cutSite (scheme : String) (s : List Char) :
    Except Fault ((Host × Option Nat) × List Char) := do
  let (hostText, rest) := cutHostText .special false s
  if hostText = [] then .error .emptyHost
  let host ← readHost hostText
  (cutColonPort scheme rest).map fun p => ((host, p.1), p.2)

/-- An authority is what is said of a user, and host and port. -/
theorem cutAuthority_eq {scheme : String} (hkind : kindOf scheme = .special) (s : List Char) :
    cutAuthority scheme s = (cutUser .special s).bind fun p =>
      (cutSite scheme p.2).map fun q =>
        (⟨(p.1.map Prod.fst).getD "", (p.1.map Prod.snd).getD "", some q.1.1, q.1.2⟩, q.2) := by
  rw [cutAuthority, hkind]
  simp only [bind, Except.bind]
  cases cutUser .special s with
  | error f => rfl
  | ok p =>
    obtain ⟨user, t⟩ := p
    rcases hcut : cutHostText .special false t with ⟨hostText, rest⟩
    by_cases hempty : hostText = []
    · simp [cutSite, hcut, hempty, bind, Except.bind, Except.map]
    · cases hread : readHost hostText with
      | error f => simp [cutSite, hcut, hempty, hread, bind, Except.bind, Except.map]
      | ok host =>
        -- a host that was read has a name, so no fault of a missing one remains
        have hnamed : host ≠ .domain "" := fun he => readHost_ne_empty hostText (he ▸ hread)
        simp only [cutSite, hcut, hempty, hread, hnamed, bind, Except.bind, pure, Except.pure,
          decide_false, Bool.and_false, Bool.false_and, Bool.false_eq_true, if_true, if_false,
          reduceCtorEq]
        split
        · rename_i r
          rw [cutColonPort]
          cases cutPort scheme r <;> rfl
        · rename_i hcolon
          rw [cutColonPort.eq_2 scheme rest hcolon]
          cases user <;> rfl

/-- The text of a host ends where nothing is left or a colon follows. -/
theorem cutHostText_append (kind : Kind)
    (hs : ∀ c ∈ s, c ≠ ':' ∧ c ≠ '[' ∧ c ≠ ']' ∧ endsAuthority kind c = false)
    (hr : ∀ c ∈ r.head?, c = ':') : cutHostText kind false (s ++ r) = (s, r) := by
  induction s with
  | nil =>
    cases r with
    | nil => rfl
    | cons c r =>
      obtain rfl := hr c rfl
      simp [cutHostText]
  | cons c s ih =>
    obtain ⟨hcolon, hopen, hclose, hends⟩ := hs c List.mem_cons_self
    rw [List.cons_append, cutHostText, if_neg (by simp [hcolon, hends]), if_neg hopen,
      if_neg hclose, ih fun d hd => hs d (List.mem_cons_of_mem c hd)]

/-- A host and what is behind it, if that is a colon and a port or nothing. -/
theorem cutSite_append (hne : s ≠ []) (hs : ∀ c ∈ s, isForbidden c = false) (scheme : String)
    (hr : ∀ c ∈ r.head?, c = ':') :
    cutSite scheme (s ++ r) =
      (readHost s).bind fun host => (cutColonPort scheme r).map fun p => ((host, p.1), p.2) := by
  have hcut := cutHostText_append .special
    (fun c hc => ⟨ne_of_allowed (hs c hc) (by decide), ne_of_allowed (hs c hc) (by decide),
      ne_of_allowed (hs c hc) (by decide), endsAuthority_of_allowed (hs c hc)⟩) hr
  simp only [cutSite, hcut, hne, if_false]
  rfl

/-! ### What is a port -/

/-- Digits are a port if they fit. It is left out where it is that of the scheme. -/
theorem cutPort_of_forall {scheme : String} (hne : s ≠ [])
    (hs : ∀ c ∈ s, Text.isDigit c = true) :
    cutPort scheme s =
      if 65535 < Text.decimal s then .error .invalidPort
      else .ok (if some (Text.decimal s) = defaultPort? scheme then none
        else some (Text.decimal s), []) := by
  rw [cutPort, List.takeWhile_eq_self_iff.mpr hs, List.dropWhile_eq_nil_iff.mpr hs]
  simp only [Bool.not_true, Bool.or_false, decide_eq_true_eq, decide_eq_false hne, Bool.false_or]
  split_ifs <;> rfl

theorem cutPort_toString (scheme : String) {port : Nat} (hport : port ≤ 65535) :
    cutPort scheme (toString port).toList =
      .ok (if some port = defaultPort? scheme then none else some port, []) := by
  rw [cutPort_of_forall (Text.toString_ne_nil port) fun c hc => Text.isDigit_of_mem_toString hc,
    Text.decimal_toString, if_neg (Nat.not_lt.mpr hport)]

/-- Anything but digits is none, if the authority does not end before. -/
theorem cutPort_of_exists {scheme : String} (hs : ∀ c ∈ s, endsAuthority .special c = false)
    (h : ∃ c ∈ s, Text.isDigit c = false) : cutPort scheme s = .error .invalidPort := by
  cases hrest : s.dropWhile Text.isDigit with
  | nil =>
    obtain ⟨c, hc, hdigit⟩ := h
    rw [List.dropWhile_eq_nil_iff.mp hrest c hc] at hdigit
    exact absurd hdigit (by decide)
  | cons c rest =>
    have hc := hs c ((List.dropWhile_suffix _).subset (hrest ▸ List.mem_cons_self))
    have hends : (c == '/' || c == '\\' || endsPath c) = false := endsAuthority_special c ▸ hc
    rw [cutPort, hrest]
    exact if_pos (by simp [hends])

/-! ### What ends an authority -/

theorem cutHostText_append_end {kind : Kind} (ha : ∀ c ∈ a, endsAuthority kind c = false)
    (he : endsAuthority kind e = true) (r : List Char) (bracketed : Bool) :
    cutHostText kind bracketed (a ++ e :: r) =
      ((cutHostText kind bracketed a).1, (cutHostText kind bracketed a).2 ++ e :: r) := by
  induction a generalizing bracketed with
  | nil => simp [cutHostText, he]
  | cons c a ih =>
    have hc := ha c List.mem_cons_self
    rw [List.cons_append, cutHostText, cutHostText, ih fun d hd => ha d (List.mem_cons_of_mem c hd)]
    split <;> rfl

theorem cutPort_append_end (he : endsAuthority .special e = true) (scheme : String)
    (a r : List Char) :
    cutPort scheme (a ++ e :: r) = (cutPort scheme a).map fun p => (p.1, p.2 ++ e :: r) := by
  have hdigit := isDigit_of_endsAuthority he
  have hends : (e == '/' || e == '\\' || endsPath e) = true := endsAuthority_special e ▸ he
  rw [cutPort, cutPort, Text.takeWhile_append_stop hdigit, Text.dropWhile_append_stop hdigit]
  cases a.dropWhile Text.isDigit with
  | nil =>
    simp only [List.nil_append, hends]
    split_ifs <;> rfl
  | cons c rest =>
    simp only [List.cons_append]
    split_ifs <;> rfl

theorem cutColonPort_append_end (he : endsAuthority .special e = true) (scheme : String)
    (a r : List Char) :
    cutColonPort scheme (a ++ e :: r) =
      (cutColonPort scheme a).map fun p => (p.1, p.2 ++ e :: r) := by
  cases a with
  | nil =>
    have hcolon : e ≠ ':' := by
      rintro rfl
      exact absurd he (by decide)
    rw [List.nil_append, cutColonPort.eq_2 scheme _ (by simp [hcolon])]
    rfl
  | cons c a =>
    by_cases hc : c = ':'
    · rw [hc, List.cons_append, cutColonPort, cutColonPort, cutPort_append_end he]
    · rw [List.cons_append, cutColonPort.eq_2 scheme _ (by simp [hc]),
        cutColonPort.eq_2 scheme _ (by simp [hc])]
      rfl

/-- Host and port are read alike whatever ends the authority and follows. -/
theorem cutSite_append_end (ha : ∀ c ∈ a, endsAuthority .special c = false)
    (he : endsAuthority .special e = true) (scheme : String) (r : List Char) :
    cutSite scheme (a ++ e :: r) = (cutSite scheme a).map fun q => (q.1, q.2 ++ e :: r) := by
  simp only [cutSite, cutHostText_append_end ha he, cutColonPort_append_end he, bind, Except.bind]
  split_ifs
  · rfl
  · cases readHost (cutHostText .special false a).1 with
    | error f => rfl
    | ok host => cases cutColonPort scheme (cutHostText .special false a).2 <;> rfl

/-- The authority of a text is cut off before what ends it. -/
theorem authority_append_end (ha : ∀ c ∈ a, endsAuthority .special c = false)
    (he : endsAuthority .special e = true) (r : List Char) :
    (a ++ e :: r).takeWhile (fun c => !endsAuthority .special c) = a ∧
      (a ++ e :: r).dropWhile (fun c => !endsAuthority .special c) = e :: r := by
  have hkept : ∀ c ∈ a, (!endsAuthority .special c) = true := fun c hc => by simp [ha c hc]
  exact ⟨Text.takeWhile_append_cons hkept (by simp [he]) r,
    Text.dropWhile_append_cons hkept (by simp [he]) r⟩

/-- Without an `@` nothing is said of a user. -/
theorem cutUser_of_notMem (ha : ∀ c ∈ a, endsAuthority .special c = false)
    (he : endsAuthority .special e = true) (hat : '@' ∉ a) (r : List Char) :
    cutUser .special (a ++ e :: r) = .ok (none, a ++ e :: r) := by
  rw [cutUser, (authority_append_end ha he r).1, Text.cutLast_of_notMem hat]

/-- What stands before the last `@` is said of the user. -/
theorem cutUser_of_mem (hne : user ≠ [])
    (ha : ∀ c ∈ user ++ '@' :: a, endsAuthority .special c = false)
    (he : endsAuthority .special e = true) (hat : '@' ∉ a) (r : List Char) :
    cutUser .special ((user ++ '@' :: a) ++ e :: r) = .ok (some (readUser user), a ++ e :: r) := by
  obtain ⟨htake, hdrop⟩ := authority_append_end ha he r
  rw [cutUser, htake, hdrop, Text.cutLast_append hat]
  cases user with
  | nil => exact absurd rfl hne
  | cons c user => rfl

/-! ### The text around it -/

/-- A text without tabs and line ends. -/
def withoutLineEnds (s : List Char) : List Char :=
  s.filter fun c => !(c == '\t' || c == '\n' || c == '\r')

theorem withoutLineEnds_append (s t : List Char) :
    withoutLineEnds (s ++ t) = withoutLineEnds s ++ withoutLineEnds t :=
  List.filter_append s t

theorem withoutLineEnds_of_visible (h : ∀ c ∈ s, 0x20 < c.toNat) : withoutLineEnds s = s := by
  rw [withoutLineEnds, List.filter_eq_self]
  intro c hc
  have hne (d : Char) (hd : d.toNat ≤ 0x20) : c ≠ d := by
    rintro rfl
    exact absurd (h c hc) (Nat.not_lt.mpr hd)
  simp [hne '\t' (by decide), hne '\n' (by decide), hne '\r' (by decide)]

variable {text : String} {t : List Char}

/-- Where nothing is dropped at the ends, what is kept behind the slashes is read. -/
theorem read_eq_of_getLast? (htext : text.toList = "http://".toList ++ t)
    (hlast : ∀ c ∈ t.getLast?, 0x20 < c.toNat) :
    read text = readAfterSlashes "http"
      ((withoutLineEnds t).dropWhile fun c => c == '/' || c == '\\') := by
  have htrim : Text.trimWhere (fun c => decide (c.toNat ≤ 0x20)) text.toList = text.toList := by
    refine Text.trimWhere_eq_self (fun c hc => ?_) fun c hc => ?_
    · rw [htext] at hc
      obtain rfl : 'h' = c := by simpa using hc
      decide
    · rw [htext, List.getLast?_append] at hc
      cases hc' : t.getLast? with
      | none =>
        obtain rfl : '/' = c := by simpa [hc'] using hc
        decide
      | some d =>
        obtain rfl : d = c := by simpa [hc'] using hc
        simpa using hlast d hc'
  have hkeep : text.toList.filter (fun c => !(c == '\t' || c == '\n' || c == '\r')) =
      "http://".toList ++ withoutLineEnds t := by
    rw [htext, List.filter_append]
    rfl
  have hscheme : cutScheme? ("http://".toList ++ withoutLineEnds t) =
      some ("http", '/' :: '/' :: withoutLineEnds t) := rfl
  rw [read, htrim, hkeep, hscheme]
  rfl

/-- An authority behind the slashes is read from its first character on. -/
theorem read_eq_readAfterSlashes (htext : text.toList = "http://".toList ++ t)
    (hlast : ∀ c ∈ t.getLast?, 0x20 < c.toNat) (hkept : withoutLineEnds t = a ++ r) (hne : a ≠ [])
    (ha : ∀ c ∈ a, endsAuthority .special c = false) :
    read text = readAfterSlashes "http" (a ++ r) := by
  have hhead : (a ++ r).dropWhile (fun c => c == '/' || c == '\\') = a ++ r := by
    refine Text.dropWhile_eq_self fun c hc => ?_
    rw [List.head?_append_of_ne_nil a hne] at hc
    have hc := ha c (List.mem_of_mem_head? hc)
    rw [endsAuthority_special, Bool.or_eq_false_iff] at hc
    exact hc.1
  rw [read_eq_of_getLast? htext hlast, hkept, hhead]

end Url

end Gatehouse
