import Gatehouse.Proofs.Loading
import Gatehouse.Proofs.NodeUrls

/-!
# Where the URLs of nodes lead

An accepted configuration names for each node a host that is not blank, a port that is not zero and
the one scheme that there is. It says nothing about the base path, which is put right behind the
port. So what decides where the URL of a node leads is how the base path begins.

## What spills over

The authority of a URL ends at the first slash, backslash, question mark or number sign. Whatever of
the base path stands before that is read as part of the authority: it *spills* over. A base path
that is empty or begins with a slash spills nothing, and then every request reaches the node. What
spills is either more of the port, which then is no number or another one, or it holds an `@`. Then
host and port in front of it are the name of a user, and what stands behind it is asked instead.

Apart from that, a name may be none: one whose last part is a number is taken for an address, and it
need not be one.

## Main definitions

* `Url.LeadsTo` — a URL with this host and this port
* `Url.HasAuthority` — a text whose authority is known, before anything is read
* `Node.spill` — what of the base path is read as part of the authority

## Main results

* `Url.plainHost?_dottedText` — an address of four bytes stands for itself, which a name that is no
  address does by `Url.IsName.plainHost?_eq`
* `Url.HasAuthority.map_site?_of_notMem`, `Url.HasAuthority.map_site?_of_mem` — host and port are
  those of the authority, or of what stands behind its last `@`
* `Node.Sound.map_site?_of_notMem`, `Node.Sound.map_site?_of_mem` — where the URL of a node leads
* `Config.reaches_iff` — the nodes of an accepted configuration that every request reaches
-/

namespace Gatehouse

namespace Url

/-! ### Addresses as hosts -/

theorem toList_dottedText (a b c d : Nat) :
    (Net.dottedText a b c d).toList = (toString a).toList ++ '.' :: ((toString b).toList ++
      '.' :: ((toString c).toList ++ '.' :: (toString d).toList)) := by
  simp [Net.dottedText]

theorem splitOn_dottedText (a b c d : Nat) :
    List.splitOn '.' (Net.dottedText a b c d).toList =
      [a, b, c, d].map fun n => (toString n).toList := by
  have hdotless (n : Nat) : '.' ∉ (toString n).toList := Text.notMem_toString (by decide) n
  rw [toList_dottedText, List.splitOn_append_cons_self_of_not_mem (hdotless a), List.splitOn_append_cons_self_of_not_mem (hdotless b),
    List.splitOn_append_cons_self_of_not_mem (hdotless c), List.splitOn_eq_singleton (hdotless d)]
  rfl

theorem number?_toDigits : ∀ n < 256, number? (Nat.toDigits 10 n) = some n := by decide +kernel

theorem number?_toString {n : Nat} (h : n < 256) : number? (toString n).toList = some n := by
  rw [Nat.toString_eq_ofList_toDigits, String.toList_ofList, number?_toDigits n h]

variable {a b c d : Nat}

theorem domainParts_dottedText (a b c d : Nat) :
    domainParts (Net.dottedText a b c d).toList =
      [a, b, c, d].map fun n => (toString n).toList := by
  have hlast : (toString d).toList ≠ [] := Text.toString_ne_nil d
  rw [domainParts, splitOn_dottedText]
  refine if_neg ?_
  simp only [List.map_cons, List.map_nil, List.getLast?_cons_cons, List.getLast?_singleton,
    Bool.and_eq_true, beq_iff_eq, Option.some.injEq, hlast, and_false, not_false_iff]

theorem endsInNumber_dottedText (a b c d : Nat) :
    endsInNumber (Net.dottedText a b c d).toList = true := by
  have hlast : (toString d).toList ≠ [] := Text.toString_ne_nil d
  have hdigits : (toString d).toList.all Text.isDigit = true :=
    List.all_eq_true.mpr fun _ hc => Text.isDigit_of_mem_toString hc
  rw [endsInNumber, domainParts_dottedText]
  simp only [List.map_cons, List.map_nil, List.getLast?_cons_cons, List.getLast?_singleton,
    hdigits, decide_eq_true hlast, Bool.and_self, Bool.true_or]

theorem v4OfDomain?_dottedText (ha : a < 256) (hb : b < 256) (hc : c < 256) (hd : d < 256) :
    v4OfDomain? (Net.dottedText a b c d).toList = some (.v4 a b c d) := by
  have hnumbers : ([a, b, c, d].map fun n => (toString n).toList).mapM number? =
      some [a, b, c, d] := by
    simp only [List.map_cons, List.map_nil, List.mapM_cons, List.mapM_nil, number?_toString ha,
      number?_toString hb, number?_toString hc, number?_toString hd]
    rfl
  have hbytes : [a, b, c].any (255 < ·) = false := by
    simp only [List.any_cons, List.any_nil, Bool.or_false, Bool.or_eq_false_iff,
      decide_eq_false_iff_not]
    omega
  have hlast : ¬ Nat.pow 256 (4 - [a, b, c].length) ≤ d := Nat.not_le.mpr hd
  simp only [v4OfDomain?, domainParts_dottedText, hnumbers, Option.bind_eq_bind, Option.bind_some,
    List.getLast?_cons_cons, List.getLast?_singleton, List.dropLast_cons_cons,
    List.dropLast_singleton, hbytes, hlast]
  simp [Nat.mod_eq_of_lt hd, List.range_succ]

/-- The characters of an address are digits and dots. -/
theorem mem_dottedText {e : Char} (h : e ∈ (Net.dottedText a b c d).toList) :
    e.toNat < 0x80 ∧ isForbidden e = false ∧ Text.lowerAscii e = e ∧ e ≠ 'x' := by
  have hpart (n : Nat) (hn : e ∈ (toString n).toList) : e = '.' ∨ Text.isDigit e = true :=
    .inr (Text.isDigit_of_mem_toString hn)
  have hdigit : e = '.' ∨ Text.isDigit e = true := by
    simp only [toList_dottedText, List.mem_append, List.mem_cons] at h
    rcases h with h | h | h | h | h | h | h
    exacts [hpart a h, .inl h, hpart b h, .inl h, hpart c h, .inl h, hpart d h]
  rcases hdigit with rfl | hdigit
  · decide
  · have hascii : e.toNat < 0x80 := (range_of_alphanumeric (by simp [isAlphanumeric, hdigit])).2
    exact ⟨hascii, Text.forall_ascii (P := fun e => Text.isDigit e = true →
      isForbidden e = false ∧ Text.lowerAscii e = e ∧ e ≠ 'x') (by decide) hascii hdigit⟩

theorem lower_dottedText (a b c d : Nat) :
    (Net.dottedText a b c d).toList.map Text.lowerAscii = (Net.dottedText a b c d).toList := by
  rw [List.map_congr_left fun e he => (mem_dottedText he).2.2.1, List.map_id']

theorem isPlain_dottedText (a b c d : Nat) : IsPlain (Net.dottedText a b c d).toList where
  nonempty := by simp [toList_dottedText]
  ascii e he := (mem_dottedText he).1
  allowed e he := (mem_dottedText he).2.1
  unencoded l hl := by
    rw [lower_dottedText] at hl
    by_contra hsome
    obtain ⟨r, hr⟩ := Option.ne_none_iff_exists'.mp hsome
    have hx : 'x' ∈ l := by simp [Text.after?_eq_some_iff.mp hr]
    exact (mem_dottedText (Text.mem_of_mem_splitOn hl hx)).2.2.2 rfl

/-- An address stands for itself. -/
theorem plainHost?_dottedText (ha : a < 256) (hb : b < 256) (hc : c < 256) (hd : d < 256) :
    plainHost? (Net.dottedText a b c d).toList = some (.v4 a b c d) := by
  rw [plainHost?, lower_dottedText, if_pos (endsInNumber_dottedText a b c d),
    v4OfDomain?_dottedText ha hb hc hd]

/-! ### Where a URL leads -/

/-- A text is a URL with this host and this port. -/
def LeadsTo (text : String) (host : Host) (port : Nat) : Prop :=
  ∃ u, read text = .ok u ∧ u.host? = some host ∧ u.port? = some port

/-- Host and port of a URL. -/
def site? (u : Url) : Option Host × Option Nat := (u.host?, u.port?)

theorem leadsTo_iff {text : String} {host : Host} {port : Nat} :
    LeadsTo text host port ↔ (read text).map site? = .ok (some host, some port) := by
  rw [LeadsTo]
  cases read text with
  | error f => simp [Except.map]
  | ok u => simp [Except.map, site?]

/-- A text that begins with the scheme of the web and an authority, and goes on with what ends the
authority. Tabs and line ends do not count. -/
inductive HasAuthority (text : String) (a : List Char) : Prop where
  | intro (t r : List Char) (e : Char) (starts : text.toList = "http://".toList ++ t)
    (ends : ∀ c ∈ t.getLast?, 0x20 < c.toNat) (kept : withoutLineEnds t = a ++ e :: r)
    (inside : ∀ c ∈ a, endsAuthority .special c = false) (behind : endsAuthority .special e = true)

/-- The host and port that are read, with the port of the scheme where none is written. -/
def siteOf (q : (Host × Option Nat) × List Char) : Option Host × Option Nat :=
  (some q.1.1, q.1.2.or (defaultPort? "http"))

section

variable {a user r : List Char} {e : Char} {text : String}

theorem map_site?_readAfterSlashes {s : List Char} {known : Option (String × String)}
    (huser : cutUser .special s = .ok (known, a ++ e :: r))
    (ha : ∀ c ∈ a, endsAuthority .special c = false) (he : endsAuthority .special e = true) :
    (readAfterSlashes "http" s).map site? = (cutSite "http" a).map siteOf := by
  rw [readAfterSlashes, cutAuthority_eq rfl, huser]
  simp only [Except.bind, cutSite_append_end ha he]
  cases cutSite "http" a with
  | error f => rfl
  | ok q =>
    simp only [Except.map, bind, Except.bind, pure, Except.pure, site?, host?, port?, siteOf,
      finish_parts]
    rfl

theorem HasAuthority.mem_inside (h : HasAuthority text a) :
    ∀ c ∈ a, endsAuthority .special c = false := by
  obtain ⟨_, _, _, _, _, _, ha, _⟩ := h
  exact ha

theorem HasAuthority.exists_read_eq (h : HasAuthority text a) (hne : a ≠ []) :
    ∃ e r, endsAuthority .special e = true ∧ read text = readAfterSlashes "http" (a ++ e :: r) := by
  obtain ⟨t, r, e, hstarts, hends, hkept, ha, he⟩ := h
  exact ⟨e, r, he, read_eq_readAfterSlashes hstarts hends hkept hne ha⟩

/-- An authority without user information is a host and a port. -/
theorem HasAuthority.map_site?_of_notMem (h : HasAuthority text a) (hne : a ≠ [])
    (hat : '@' ∉ a) : (read text).map site? = (cutSite "http" a).map siteOf := by
  obtain ⟨e, r, he, hread⟩ := h.exists_read_eq hne
  rw [hread]
  exact map_site?_readAfterSlashes (cutUser_of_notMem h.mem_inside he hat r) h.mem_inside he

/-- Behind user information the host and port are what stands behind its `@`. -/
theorem HasAuthority.map_site?_of_mem (h : HasAuthority text (user ++ '@' :: a)) (hne : user ≠ [])
    (hat : '@' ∉ a) : (read text).map site? = (cutSite "http" a).map siteOf := by
  obtain ⟨e, r, he, hread⟩ := h.exists_read_eq (by simp)
  rw [hread]
  exact map_site?_readAfterSlashes (cutUser_of_mem hne h.mem_inside he hat r)
    (fun c hc => h.mem_inside c (by simp [hc])) he

/-- What is put between the scheme and a slash is the authority. -/
theorem hasAuthority_http (ha : ∀ c ∈ a, endsAuthority .special c = false)
    (hkept : withoutLineEnds a = a) : HasAuthority ("http://" ++ String.ofList a ++ "/") a := by
  refine .intro (a ++ ['/']) [] '/' (by simp) ?_ ?_ ha rfl
  · intro c hc
    obtain rfl : '/' = c := by simpa using hc
    decide
  · rw [withoutLineEnds_append, hkept]
    rfl

theorem map_site?_http (ha : ∀ c ∈ a, endsAuthority .special c = false)
    (hkept : withoutLineEnds a = a) (hat : '@' ∉ a) :
    (read ("http://" ++ String.ofList a ++ "/")).map site? = (cutSite "http" a).map siteOf := by
  cases a with
  | nil => rfl
  | cons c a => exact (hasAuthority_http ha hkept).map_site?_of_notMem (by simp) hat

/-- A plain host that is written alone leads to what it stands for. -/
theorem IsPlain.leadsTo_http {host : Host} (h : IsPlain a) (hread : plainHost? a = some host) :
    LeadsTo ("http://" ++ String.ofList a ++ "/") host 80 := by
  have hvisible : ∀ c ∈ a, 0x20 < c.toNat := fun c hc => visible_of_allowed (h.allowed c hc)
  have hat : '@' ∉ a := fun hc => absurd (h.allowed '@' hc) (by decide)
  have hsite := cutSite_append h.nonempty h.allowed "http" (r := []) (by simp)
  rw [List.append_nil, h.readHost_eq, hread] at hsite
  rw [leadsTo_iff, map_site?_http (fun c hc => endsAuthority_of_allowed (h.allowed c hc))
    (withoutLineEnds_of_visible hvisible) hat, hsite]
  rfl

/-! ### The port -/

/-- The port that the text behind a colon stands for, up to the end of the authority. -/
def readPort (scheme : String) (s : List Char) : Except Fault (Option Nat) :=
  (cutPort scheme s).map fun p => p.1.or (defaultPort? scheme)

theorem readPort_of_forall {scheme : String} (hne : a ≠ [])
    (ha : ∀ c ∈ a, Text.isDigit c = true) :
    readPort scheme a =
      if 65535 < Text.decimal a then .error .invalidPort else .ok (some (Text.decimal a)) := by
  rw [readPort, cutPort_of_forall hne ha]
  by_cases hbig : 65535 < Text.decimal a
  · rw [if_pos hbig, if_pos hbig]
    rfl
  · rw [if_neg hbig, if_neg hbig]
    by_cases hown : some (Text.decimal a) = defaultPort? scheme
    · simp [Except.map, ← hown]
    · simp [Except.map, hown]

theorem readPort_of_exists {scheme : String} (ha : ∀ c ∈ a, endsAuthority .special c = false)
    (h : ∃ c ∈ a, Text.isDigit c = false) : readPort scheme a = .error .invalidPort := by
  rw [readPort, cutPort_of_exists ha h]
  rfl

end

end Url

namespace Node

variable {n : Node} {host : Url.Host} {p : String}

/-- What of the base path is read as part of the authority: what stands before the first character
that ends one. The slashes at its end are gone by then, and tabs and line ends are dropped. -/
def spill (n : Node) : List Char :=
  (Url.withoutLineEnds (Text.trimEndOf '/' n.basePath).toList).takeWhile fun c =>
    !Url.endsAuthority .special c

theorem endsAuthority_spill (n : Node) : ∀ c ∈ n.spill, Url.endsAuthority .special c = false := by
  intro c hc
  simpa using List.mem_takeWhile_imp hc

theorem withoutLineEnds_spill {s : List Char} (hs : s ⊆ n.spill) : Url.withoutLineEnds s = s := by
  rw [Url.withoutLineEnds, List.filter_eq_self]
  intro c hc
  have hmem := (List.takeWhile_prefix _).subset (hs hc)
  rw [Url.withoutLineEnds, List.mem_filter] at hmem
  exact hmem.2

/-- Nothing of an empty base path spills over, nor of one that begins with a slash. -/
theorem spill_eq_nil (h : ∀ c ∈ n.basePath.toList.head?, c = '/') : n.spill = [] := by
  have htrimmed : (Text.trimEndOf '/' n.basePath).toList <+: n.basePath.toList := by
    rw [Text.trimEndOf, String.toList_ofList]
    exact List.rdropWhile_prefix _ _
  rw [spill]
  cases hbase : (Text.trimEndOf '/' n.basePath).toList with
  | nil => rfl
  | cons c t =>
    rw [hbase] at htrimmed
    obtain ⟨r, hr⟩ := htrimmed
    obtain rfl : c = '/' := h c (by simp [← hr])
    rfl

theorem endsAuthority_port (n : Node) : ∀ c ∈ (toString n.port.toNat).toList ++ n.spill,
    Url.endsAuthority .special c = false := fun c hc =>
  Url.endsAuthority_hostPort (s := []) (by simp) n.port.toNat n.endsAuthority_spill c
    (List.mem_cons_of_mem ':' hc)

/-- Behind what spills over stands what ends the authority: the next character of the base path, or
the slash behind it. -/
theorem exists_kept (n : Node) (r : List Char) :
    ∃ e r', Url.endsAuthority .special e = true ∧
      Url.withoutLineEnds ((Text.trimEndOf '/' n.basePath).toList ++ '/' :: r) =
        n.spill ++ e :: r' := by
  rw [Url.withoutLineEnds_append, spill]
  generalize Url.withoutLineEnds (Text.trimEndOf '/' n.basePath).toList = base
  have hparts := base.takeWhile_append_dropWhile (p := fun c => !Url.endsAuthority .special c)
  cases hrest : base.dropWhile fun c => !Url.endsAuthority .special c with
  | nil =>
    rw [hrest, List.append_nil] at hparts
    exact ⟨'/', Url.withoutLineEnds r, rfl, by rw [hparts]; rfl⟩
  | cons e more =>
    have hhead := base.head?_dropWhile_not fun c => !Url.endsAuthority .special c
    rw [hrest] at hhead hparts
    refine ⟨e, more ++ Url.withoutLineEnds ('/' :: r), by simpa using hhead, ?_⟩
    conv_lhs => rw [← hparts]
    simp

/-- The authority in the URL of a node is host, port and what spills over. -/
theorem hasAuthority_urlText (hscheme : n.scheme = "http")
    (hhost : ∀ c ∈ n.host.toList, Url.isForbidden c = false) (hp : Http.IsPathAndQuery p) :
    Url.HasAuthority (n.urlText p)
      (n.host.toList ++ ':' :: ((toString n.port.toNat).toList ++ n.spill)) := by
  obtain ⟨r, htext, -, hr⟩ := toList_urlText n p
  obtain ⟨e, r', he, hrest⟩ := n.exists_kept r
  generalize (Text.trimEndOf '/' n.basePath).toList = base at htext hrest
  have hvisible := Url.visible_hostPort hhost n.port.toNat
  have hinside := Url.endsAuthority_hostPort hhost n.port.toNat n.endsAuthority_spill
  have hassoc (a : List Char) : n.host.toList ++ ':' :: ((toString n.port.toNat).toList ++ a) =
      n.host.toList ++ ':' :: (toString n.port.toNat).toList ++ a := by simp
  rw [hassoc] at hinside htext ⊢
  refine .intro _ r' e (htext.trans (by rw [hscheme]; rfl)) (fun c hc => ?_) ?_ hinside he
  · rw [← List.append_assoc, List.getLast?_append_cons] at hc
    rcases List.mem_cons.mp (List.mem_of_getLast? hc) with rfl | hc
    · decide
    · exact hp.visible c (hr hc)
  · rw [Url.withoutLineEnds_append, Url.withoutLineEnds_of_visible hvisible, hrest,
      ← List.append_assoc]

namespace Sound

/-- If no `@` spills over, the node's own host is asked, at the port that port and spill make up. -/
theorem map_site?_eq_bind (hn : n.Sound) (hhost : Url.IsPlain n.host.toList)
    (hp : Http.IsPathAndQuery p) (hat : '@' ∉ n.spill) :
    (n.url p).map Url.site? = (Url.readHost n.host.toList).bind fun host =>
      (Url.readPort "http" ((toString n.port.toNat).toList ++ n.spill)).map fun port =>
        (some host, port) := by
  have hauthority := hasAuthority_urlText hn.scheme hhost.allowed hp
  rw [Node.url, hauthority.map_site?_of_notMem (by simp)
      (Url.notMem_hostPort hhost.allowed n.port.toNat hat),
    Url.cutSite_append hhost.nonempty hhost.allowed "http" (by simp), Url.cutColonPort,
    Url.readPort]
  cases Url.readHost n.host.toList with
  | error f => rfl
  | ok host =>
    cases Url.cutPort "http" ((toString n.port.toNat).toList ++ n.spill) <;> rfl

/-- A name whose last part is a number, but which is no address, is no host. -/
theorem url_eq_invalidV4 (hn : n.Sound) (hhost : Url.IsPlain n.host.toList)
    (hnone : Url.plainHost? n.host.toList = none) (hp : Http.IsPathAndQuery p)
    (hat : '@' ∉ n.spill) : n.url p = .error .invalidV4 := by
  have hsite := hn.map_site?_eq_bind hhost hp hat
  rw [hhost.readHost_eq, hnone] at hsite
  cases hurl : n.url p with
  | error f => simpa [hurl, Except.map, Except.bind] using hsite
  | ok u => simp [hurl, Except.map, Except.bind] at hsite

theorem map_site?_of_notMem (hn : n.Sound) (hhost : Url.IsPlain n.host.toList)
    (hread : Url.plainHost? n.host.toList = some host) (hp : Http.IsPathAndQuery p)
    (hat : '@' ∉ n.spill) :
    (n.url p).map Url.site? = (Url.readPort "http" ((toString n.port.toNat).toList ++ n.spill)).map
      fun port => (some host, port) := by
  rw [hn.map_site?_eq_bind hhost hp hat, hhost.readHost_eq, hread]
  rfl

/-- What is put behind the port is more of the port, which is none any more if that is not made of
digits. -/
theorem url_eq_invalidPort (hn : n.Sound) (hhost : Url.IsPlain n.host.toList)
    (hread : Url.plainHost? n.host.toList = some host) (hp : Http.IsPathAndQuery p)
    (hat : '@' ∉ n.spill) (h : ∃ c ∈ n.spill, Text.isDigit c = false) :
    n.url p = .error .invalidPort := by
  have hsite := hn.map_site?_of_notMem hhost hread hp hat
  obtain ⟨c, hc, hdigit⟩ := h
  rw [Url.readPort_of_exists n.endsAuthority_port ⟨c, List.mem_append_right _ hc, hdigit⟩] at hsite
  cases hurl : n.url p with
  | error f => simpa [hurl, Except.map] using hsite
  | ok u => simp [hurl, Except.map] at hsite

/-- If an `@` spills over, what stands behind the last one is asked, as if it were written alone. -/
theorem map_site?_of_mem (hn : n.Sound) (hhost : Url.IsPlain n.host.toList)
    (hp : Http.IsPathAndQuery p) {user a : List Char} (hspill : n.spill = user ++ '@' :: a)
    (hat : '@' ∉ a) :
    (n.url p).map Url.site? = (Url.read ("http://" ++ String.ofList a ++ "/")).map Url.site? := by
  have hauthority := hasAuthority_urlText hn.scheme hhost.allowed hp
  have huser : n.host.toList ++ ':' :: ((toString n.port.toNat).toList ++ n.spill) =
      (n.host.toList ++ ':' :: ((toString n.port.toNat).toList ++ user)) ++ '@' :: a := by
    simp [hspill]
  have hsub : a ⊆ n.spill := fun c hc => by simp [hspill, hc]
  rw [huser] at hauthority
  rw [Node.url, hauthority.map_site?_of_mem (by simp) hat,
    Url.map_site?_http (fun c hc => n.endsAuthority_spill c (hsub hc)) (withoutLineEnds_spill hsub)
      hat]

/-- Without an `@`, host and port are the node's exactly if nothing spills over: digits that do are
read as the end of a larger number. -/
theorem leadsTo_iff_of_notMem (hn : n.Sound) (hhost : Url.IsPlain n.host.toList)
    (hread : Url.plainHost? n.host.toList = some host) (hp : Http.IsPathAndQuery p)
    (hat : '@' ∉ n.spill) : Url.LeadsTo (n.urlText p) host n.port.toNat ↔ n.spill = [] := by
  have hsite := hn.map_site?_of_notMem hhost hread hp hat
  have hdecimal := Text.decimal_toString n.port.toNat
  have hown : ∀ c ∈ (toString n.port.toNat).toList, Text.isDigit c = true :=
    fun c hc => Text.isDigit_of_mem_toString hc
  have hne := Text.toString_ne_nil n.port.toNat
  have hinside := n.endsAuthority_port
  generalize (toString n.port.toNat).toList = digits at *
  rw [Url.leadsTo_iff, ← Node.url, hsite]
  constructor
  · intro hleads
    by_contra hspill
    by_cases hdigits : ∀ c ∈ digits ++ n.spill, Text.isDigit c = true
    -- a port that is not zero is a smaller number than any that goes on behind it
    · have hport : n.port.toNat ≠ 0 := fun h => hn.port (UInt16.toNat.inj h)
      have hlarger := Text.decimal_lt_append (hdecimal ▸ hport) hspill
      rw [Url.readPort_of_forall (by simp [hspill]) hdigits] at hleads
      split_ifs at hleads
      · simp [Except.map] at hleads
      · simp only [Except.map, Except.ok.injEq, Prod.mk.injEq, Option.some.injEq, true_and]
          at hleads
        omega
    · obtain ⟨c, hc, hdigit⟩ : ∃ c ∈ digits ++ n.spill, Text.isDigit c = false := by
        simpa using hdigits
      rw [Url.readPort_of_exists hinside ⟨c, hc, hdigit⟩] at hleads
      simp [Except.map] at hleads
  · intro hspill
    have hfits : ¬ 65535 < n.port.toNat := Nat.not_lt.mpr (Nat.le_of_lt_succ n.port.toNat_lt)
    rw [hspill, List.append_nil, Url.readPort_of_forall hne hown, hdecimal, if_neg hfits]
    rfl

/-- The URL of a node leads to its host and port exactly if nothing spills over, or an `@` does and
what stands behind the last one is an authority that leads there by itself. -/
theorem leadsTo_iff (hn : n.Sound) (hhost : Url.IsPlain n.host.toList)
    (hread : Url.plainHost? n.host.toList = some host) (hp : Http.IsPathAndQuery p) :
    Url.LeadsTo (n.urlText p) host n.port.toNat ↔
      n.spill = [] ∨ ∃ user a, n.spill = user ++ '@' :: a ∧ '@' ∉ a ∧
        Url.LeadsTo ("http://" ++ String.ofList a ++ "/") host n.port.toNat := by
  cases hcut : Text.cutLast '@' n.spill with
  | none =>
    have hat : '@' ∉ n.spill := fun h => Text.cutLast_ne_none h hcut
    rw [hn.leadsTo_iff_of_notMem hhost hread hp hat]
    refine ⟨.inl, ?_⟩
    rintro (hspill | ⟨user, a, hspill, -⟩)
    · exact hspill
    · exact absurd (by simp [hspill]) hat
  | some parts =>
    obtain ⟨user, a⟩ := parts
    obtain ⟨hspill, hat⟩ := Text.cutLast_eq_some hcut
    have hsame : Url.LeadsTo (n.urlText p) host n.port.toNat ↔
        Url.LeadsTo ("http://" ++ String.ofList a ++ "/") host n.port.toNat := by
      rw [Url.leadsTo_iff, Url.leadsTo_iff, ← Node.url, hn.map_site?_of_mem hhost hp hspill hat]
    rw [hsame]
    constructor
    · exact fun h => .inr ⟨user, a, hspill, hat, h⟩
    · rintro (hnil | ⟨user', a', hspill', hat', h⟩)
      · simp [hspill] at hnil
      -- the last `@` is in one place only
      · rw [hspill', Text.cutLast_append hat', Option.some.injEq, Prod.mk.injEq] at hcut
        exact hcut.2 ▸ h

/-- Whatever is asked of a node whose base path is empty or begins with a slash, the node's own host
and port are asked. -/
theorem leadsTo_of_slash (hn : n.Sound) (hhost : Url.IsPlain n.host.toList)
    (hread : Url.plainHost? n.host.toList = some host)
    (hbase : ∀ c ∈ n.basePath.toList.head?, c = '/') (hp : Http.IsPathAndQuery p) :
    Url.LeadsTo (n.urlText p) host n.port.toNat :=
  (hn.leadsTo_iff hhost hread hp).mpr (.inl (spill_eq_nil hbase))

end Sound

end Node

namespace Config

variable {c d : Config} {s : ServiceConfig} {n : Node}

/-- The nodes of an accepted configuration are sound. -/
theorem sound_of_validated (hc : c.validated = .ok d) (hs : s ∈ d.services) (hn : n ∈ s.nodes) :
    n.Sound := by
  obtain ⟨rfl, hwell⟩ := validated_eq_ok_iff.mp hc
  exact (hwell.services s hs).nodes_sound n hn

/-- **The nodes of an accepted configuration that can be reached.** A request to a node at a name or
an address, whatever it asks for, has a URL with the host and the port of the node exactly if the
name stands for a host, and nothing of the node's base path spills over into the authority, or an
`@` does and what stands behind the last one leads to that host and port by itself. Otherwise there
is no URL, or it is one of another host or port. A name whose last part is no number stands for
itself, and so does an address of four bytes. -/
theorem reaches_iff (hc : c.validated = .ok d) (hs : s ∈ d.services) (hn : n ∈ s.nodes)
    (hhost : Url.IsPlain n.host.toList) {p : String} (hp : Http.IsPathAndQuery p) :
    ((∃ host, Url.plainHost? n.host.toList = some host ∧
      ∃ u, n.url p = .ok u ∧ u.host? = some host ∧ u.port? = some n.port.toNat) ↔
    ∃ host, Url.plainHost? n.host.toList = some host ∧
      (n.spill = [] ∨ ∃ user a, n.spill = user ++ '@' :: a ∧ '@' ∉ a ∧
        Url.LeadsTo ("http://" ++ String.ofList a ++ "/") host n.port.toNat)) ∧
    (Url.IsName n.host.toList → Url.plainHost? n.host.toList =
      some (.domain (String.ofList (n.host.toList.map Text.lowerAscii)))) ∧
    ∀ {x y z w : Nat}, x < 256 → y < 256 → z < 256 → w < 256 → n.host = Net.dottedText x y z w →
      Url.plainHost? n.host.toList = some (.v4 x y z w) := by
  have hsound := sound_of_validated hc hs hn
  refine ⟨?_, fun hname => hname.plainHost?_eq, fun hx hy hz hw haddress => ?_⟩
  · refine exists_congr fun host => and_congr_right fun hread => ?_
    exact hsound.leadsTo_iff hhost hread hp
  · rw [haddress]
    exact Url.plainHost?_dottedText hx hy hz hw

namespace SpillSample

/-- A node at the port of its scheme, under a path. -/
def named : Node := { host := "Backend-1.example", port := 80, basePath := "/v2" }

/-- A node that is named again in its base path. -/
def repeated : Node := { host := "10.0.0.7", port := 9000, basePath := "\tadmin@10.0.0.7:9000/v2/" }

/-- A node whose base path has no slash in front. -/
def glued : Node := { host := "h", port := 9000, basePath := "v2" }

/-- A node whose base path names another host. -/
def astray : Node := { host := "h", port := 9000, basePath := "@other.example" }

/-- A node at a name that ends in a number. -/
def numbered : Node := { host := "node.1", port := 9000 }

/-- All of these are accepted. -/
def config : Config :=
  { services := [{ id := "a", nodes := [named, repeated, glued, astray, numbered] }] }

theorem read_path : Http.Target.read "/x?y" = .ok (.origin "/x?y") := by decide

theorem isPathAndQuery : Http.IsPathAndQuery "/x?y" :=
  Http.Target.isPathAndQuery_of_read read_path rfl

theorem isPlain_named : Url.IsPlain named.host.toList := by decide

theorem isPlain_repeated : Url.IsPlain repeated.host.toList := Url.isPlain_dottedText 10 0 0 7

theorem isPlain_glued : Url.IsPlain glued.host.toList := by decide

theorem isPlain_numbered : Url.IsPlain numbered.host.toList := by decide

theorem isPlain_other : Url.IsPlain "other.example".toList := by decide

/-- The authority behind the `@` is that of the same node without a base path. -/
theorem leadsTo_repeated :
    Url.LeadsTo ("http://" ++ String.ofList "10.0.0.7:9000".toList ++ "/") (.v4 10 0 0 7) 9000 := by
  have hsound : (Node.plain "10.0.0.7" 9000).Sound := ⟨by decide, by decide, rfl⟩
  have hroot : Http.Target.read "/" = .ok (.origin "/") := by decide
  have htext : (Node.plain "10.0.0.7" 9000).urlText "/" =
      "http://" ++ String.ofList "10.0.0.7:9000".toList ++ "/" := by decide
  rw [← htext]
  exact hsound.leadsTo_of_slash isPlain_repeated (by decide) (by simp [Node.plain])
    (Http.Target.isPathAndQuery_of_read hroot rfl)

end SpillSample

/-- A node that is reached under its base path, and one that is reached although it is named as the
user of itself. -/
theorem reaches_itself : SpillSample.config.validated = .ok SpillSample.config ∧
    (∃ u, SpillSample.named.url "/x?y" = .ok u ∧
      u.host? = some (.domain "backend-1.example") ∧ u.port? = some 80) ∧
    ∃ u, SpillSample.repeated.url "/x?y" = .ok u ∧ u.host? = some (.v4 10 0 0 7) ∧
      u.port? = some 9000 := by
  have hvalid : SpillSample.config.validated = .ok SpillSample.config := rfl
  have hspill : SpillSample.repeated.spill = "admin".toList ++ '@' :: "10.0.0.7:9000".toList := by
    decide
  refine ⟨hvalid, ?_, ?_⟩
  · obtain ⟨hiff, hname, -⟩ := reaches_iff hvalid List.mem_cons_self (by simp)
      SpillSample.isPlain_named SpillSample.isPathAndQuery
    have hnamed := hname (by decide)
    obtain ⟨host, hhost, hurl⟩ := hiff.mpr ⟨_, hnamed, .inl (by decide)⟩
    obtain rfl := Option.some.inj (hnamed.symm.trans hhost)
    exact hurl
  · obtain ⟨hiff, -, haddress⟩ := reaches_iff hvalid List.mem_cons_self (by simp)
      SpillSample.isPlain_repeated SpillSample.isPathAndQuery
    have hrepeated := @haddress 10 0 0 7 (by decide) (by decide) (by decide) (by decide) rfl
    obtain ⟨host, hhost, hurl⟩ := hiff.mpr
      ⟨_, hrepeated, .inr ⟨_, _, hspill, by decide, SpillSample.leadsTo_repeated⟩⟩
    obtain rfl := Option.some.inj (hrepeated.symm.trans hhost)
    exact hurl

/-- A node that has no URL for what spills over, one whose URL is that of another host, and one that
has no URL for its name. -/
theorem spills_astray : SpillSample.config.validated = .ok SpillSample.config ∧
    (∃ s ∈ SpillSample.config.services, SpillSample.glued ∈ s.nodes ∧
      SpillSample.astray ∈ s.nodes ∧ SpillSample.numbered ∈ s.nodes) ∧
    Url.IsPlain SpillSample.glued.host.toList ∧
    SpillSample.astray.host = SpillSample.glued.host ∧
    Url.plainHost? SpillSample.glued.host.toList = some (.domain "h") ∧
    Http.Target.read "/x?y" = .ok (.origin "/x?y") ∧
    SpillSample.glued.url "/x?y" = .error .invalidPort ∧
    (∃ u, SpillSample.astray.url "/x?y" = .ok u ∧ u.host? = some (.domain "other.example") ∧
      u.port? = some 80) ∧
    SpillSample.numbered.url "/x?y" = .error .invalidV4 := by
  have hglued : SpillSample.glued.Sound := ⟨by decide, by decide, rfl⟩
  have hastray : SpillSample.astray.Sound := ⟨by decide, by decide, rfl⟩
  have hnumbered : SpillSample.numbered.Sound := ⟨by decide, by decide, rfl⟩
  have hh : Url.plainHost? SpillSample.glued.host.toList = some (.domain "h") := by decide
  have hspill : SpillSample.astray.spill = [] ++ '@' :: "other.example".toList := by decide
  have hother : Url.LeadsTo (SpillSample.astray.urlText "/x?y") (.domain "other.example") 80 := by
    rw [Url.leadsTo_iff, ← Node.url, hastray.map_site?_of_mem SpillSample.isPlain_glued
      SpillSample.isPathAndQuery hspill (by decide), ← Url.leadsTo_iff]
    exact SpillSample.isPlain_other.leadsTo_http (by decide)
  refine ⟨rfl, ⟨_, List.mem_cons_self, by simp, by simp, by simp⟩, SpillSample.isPlain_glued, rfl,
    hh, SpillSample.read_path, ?_, hother, ?_⟩
  · exact hglued.url_eq_invalidPort SpillSample.isPlain_glued hh SpillSample.isPathAndQuery
      (by decide) ⟨'v', by decide, rfl⟩
  · exact hnumbered.url_eq_invalidV4 SpillSample.isPlain_numbered (by decide)
      SpillSample.isPathAndQuery (by decide)

end Config

end Gatehouse
