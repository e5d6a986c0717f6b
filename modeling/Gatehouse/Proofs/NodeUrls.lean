import Gatehouse.Http.Target
import Gatehouse.Proofs.Authorities

/-!
# URLs of nodes

A node is asked for a path by joining texts: scheme, host, port, base path and the path and query of
the request. The text is read as a URL again. What was joined as text is taken apart by the rules of
URLs, and they do not know where one text ended and the next one began.

## Where the joints hold

The host ends at its colon, the port at the slash that comes next, whatever the request says, so a
request cannot lead to another node. The base path has no such end. Its segments and those of the
request are one path to the reader, which resolves it as a whole: a request that climbs takes
segments of the base away (`Url.climbs`). What is left of the base then stands in front of what the
request would be alone, and that is under the base only if the request names again what it took.

## Main definitions

* `Node.IsUnder` — a node of the web at a host name, under a base path of ordinary segments
* `Http.IsPathAndQuery` — what a request can carry as path and query
* `Url.asked` — the segments that a path and query ask for, as they are written

## Main results

* `Url.read_http` — a URL put together from host, port and path is read part by part
* `Url.cutPath_text_append` — segments in front of a path are the place that its walk begins at
* `Node.IsUnder.url_eq`, `Node.IsUnder.parts_of_url` — the URL at which a node is asked
* `Node.url_under_iff` — when that is a URL under the base path
-/

namespace Gatehouse

namespace Url

/-! ### Reading the whole -/

variable {s t : List Char}

/-- A URL that was put together from a host, a port and what follows a slash is read part by
part. -/
theorem read_http (hne : s ≠ []) (hs : ∀ c ∈ s, isForbidden c = false) {port : Nat}
    (hport : port ≤ 65535) (ht : ∀ c ∈ t, 0x20 < c.toNat) {text : String}
    (htext : text.toList = "http://".toList ++ (s ++ ':' :: ((toString port).toList ++ '/' :: t))) :
    read text = (readHost s).map fun host =>
      finish "http"
        (some ⟨"", "", some host, if some port = defaultPort? "http" then none else some port⟩)
        (cutPath .special t).1 (cutPath .special t).2 := by
  have ha := endsAuthority_hostPort (a := []) hs port (by simp)
  have hat := notMem_hostPort (a := []) hs port (by simp)
  have hvisible := visible_hostPort hs port
  have hport := cutPort_toString "http" hport
  rw [List.append_nil] at ha hat
  generalize (toString port).toList = digits at *
  have hassoc : s ++ ':' :: (digits ++ '/' :: t) = s ++ ':' :: digits ++ '/' :: t := by simp
  rw [hassoc] at htext
  have hrest : ∀ c ∈ s ++ ':' :: digits ++ '/' :: t, 0x20 < c.toNat := by
    intro c hc
    rcases List.mem_append.mp hc with hc | hc
    · exact hvisible c hc
    · rcases List.mem_cons.mp hc with rfl | hc
      · decide
      · exact ht c hc
  have hend : endsAuthority .special '/' = true := rfl
  have hsite := cutSite_append hne hs "http" (r := ':' :: digits) (by simp)
  rw [cutColonPort, hport] at hsite
  rw [read_eq_readAfterSlashes htext (fun c hc => hrest c (List.mem_of_getLast? hc))
      (withoutLineEnds_of_visible hrest) (by simp) ha,
    readAfterSlashes, cutAuthority_eq rfl, cutUser_of_notMem ha hend hat]
  simp only [Except.bind, cutSite_append_end ha hend, hsite]
  cases readHost s with
  | error f => rfl
  | ok host => rfl

/-! ### The path behind a base -/

variable {base : List String}

theorem cutSegments_slash (kind : Kind) (t : List Char) :
    cutSegments kind ('/' :: t) = [] :: cutSegments kind t := by
  rw [cutSegments, cutSegments]
  split <;> simp [List.splitOn_cons_eq_if_modifyHead]

theorem text_alphanumeric (hbase : ∀ s ∈ base, IsOrdinary s) :
    ∀ c ∈ (Path.segments base).text.toList, c = '/' ∨ isAlphanumeric c = true := by
  intro c hc
  rw [toList_text_segments] at hc
  obtain ⟨s, hs, hc⟩ := List.mem_flatMap.mp hc
  rcases List.mem_cons.mp hc with rfl | hc
  · exact .inl rfl
  · exact .inr ((hbase s hs).2 c hc)

theorem cutSegments_text_append (kind : Kind) (hbase : ∀ s ∈ base, IsOrdinary s) (t : List Char) :
    cutSegments kind ((Path.segments base).text.toList ++ '/' :: t) =
      [] :: base.map String.toList ++ cutSegments kind t := by
  have hslashless : ∀ s ∈ base, '/' ∉ s.toList := fun s hs => (hbase s hs).notMem
  have hkeep : (Path.segments base).text.toList.map (fun c => if c = '\\' then '/' else c) =
      (Path.segments base).text.toList := by
    have hsame : ∀ c ∈ (Path.segments base).text.toList, (if c = '\\' then '/' else c) = c := by
      intro c hc
      rcases text_alphanumeric hbase c hc with rfl | hc
      · rfl
      · exact if_neg (ne_of_alphanumeric hc (by decide))
    rw [List.map_congr_left hsame, List.map_id']
  rw [cutSegments, cutSegments]
  split
  · exact splitOn_text_append hslashless t
  · rw [List.map_append, hkeep, List.map_cons]
    exact splitOn_text_append hslashless _

/-- Ordinary segments in front of a path are read as the place that its walk begins at. -/
theorem cutPath_text_append (hbase : ∀ s ∈ base, IsOrdinary s) {r : List Char}
    (ht : '/' :: t = (Path.segments base).text.toList ++ '/' :: r) :
    (cutPath .special t).1 =
      .segments (walk .special base (cutSegments .special (r.takeWhile fun c => !endsPath c))) := by
  have hpath : ∀ c ∈ (Path.segments base).text.toList, (!endsPath c) = true := by
    intro c hc
    rcases text_alphanumeric hbase c hc with rfl | hc
    · rfl
    · simp [endsPath_of_alphanumeric hc]
  have htake : '/' :: t.takeWhile (fun c => !endsPath c) =
      (Path.segments base).text.toList ++ '/' :: r.takeWhile (fun c => !endsPath c) := by
    have h := congrArg (List.takeWhile fun c => !endsPath c) ht
    rwa [List.takeWhile_cons_of_pos rfl, List.takeWhile_append_of_pos hpath,
      List.takeWhile_cons_of_pos rfl] at h
  have hcut := congrArg (cutSegments .special) htake
  rw [cutSegments_slash, cutSegments_text_append .special hbase, List.cons_append,
    List.cons.injEq] at hcut
  have hwalk := walk_ordinary (show Kind.special ≠ .file by decide) hbase []
    (cutSegments .special (r.takeWhile fun c => !endsPath c))
  rw [← hcut.2, List.nil_append] at hwalk
  rw [← hwalk]
  rfl

/-! ### What a URL leads to -/

/-- The host of a URL. -/
def host? (u : Url) : Option Host := u.authority.bind Authority.host

/-- The port of a URL, which is that of the scheme where none is written. -/
def port? (u : Url) : Option Nat := (u.authority.bind Authority.port).or (defaultPort? u.scheme)

/-- Query and fragment are read apart from the rest. -/
theorem finish_parts (scheme : String) (authority : Option Authority) (path : Path)
    (rest : List Char) :
    (finish scheme authority path rest).scheme = scheme ∧
      (finish scheme authority path rest).authority = authority ∧
      (finish scheme authority path rest).path = path := by
  rw [finish.eq_def]
  split
  · split <;> exact ⟨rfl, rfl, rfl⟩
  · exact ⟨rfl, rfl, rfl⟩
  · exact ⟨rfl, rfl, rfl⟩

/-- The segments that a path and query ask for, as they are written. -/
def asked (pathAndQuery : String) : List (List Char) :=
  let path := (Text.after? ['/'] pathAndQuery.toList).getD pathAndQuery.toList
  cutSegments .special (path.takeWhile fun c => !endsPath c)

theorem notMem_asked (pathAndQuery : String) : ∀ s ∈ asked pathAndQuery, '/' ∉ s :=
  fun _ hs => Text.notMem_of_mem_splitOn hs

theorem asked_ne_nil (pathAndQuery : String) : asked pathAndQuery ≠ [] :=
  List.splitOn_ne_nil '/' _

end Url

/-! ### What a request carries -/

namespace Http

/-- A path and query as a request may carry it. -/
def IsPathAndQuery (p : String) : Prop := ∃ s, Target.readPathAndQuery s = .ok p

namespace Target

/-- A class that holds no character up to the space within ASCII holds none at all. -/
theorem visible_of_class {p : Char → Bool}
    (hp : ∀ n < 128, p (Char.ofNat n) = true → 0x20 < (Char.ofNat n).toNat) {c : Char}
    (h : p c = true) : 0x20 < c.toNat := by
  rcases Nat.lt_or_ge c.toNat 0x80 with hascii | hwide
  · exact Text.forall_ascii (P := fun c => p c = true → 0x20 < c.toNat) hp hascii h
  · omega

theorem isPathAndQuery_of_readFull {cs : List Char} {p : String} {t : Target}
    (h : readFull cs = .ok t) (hp : t.pathAndQuery? = some p) : IsPathAndQuery p := by
  simp only [readFull, bind, Except.bind] at h
  split at h
  · simp at h
  · split at h
    -- an authority alone has no path and query
    · split at h
      · simp at h
      · split at h
        · simp at h
        · rw [← Except.ok.inj h] at hp
          simp [pathAndQuery?] at hp
    · split at h
      · simp at h
      · split at h
        · simp at h
        · split at h
          · simp at h
          · rename_i p' hread
            rw [← Except.ok.inj h] at hp
            obtain rfl := Option.some.inj hp
            split
            · exact ⟨['/'], rfl⟩
            · exact ⟨_, hread⟩

/-- What a request asks for, whatever its form, is a path and query. -/
theorem isPathAndQuery_of_read {text p : String} {t : Target} (h : read text = .ok t)
    (hp : t.pathAndQuery? = some p) : IsPathAndQuery p := by
  rw [read] at h
  split at h
  · simp at h
  · split at h
    · simp at h
    · obtain rfl := Except.ok.inj h
      obtain rfl := Option.some.inj hp
      exact ⟨['/'], rfl⟩
    · obtain rfl := Except.ok.inj h
      obtain rfl := Option.some.inj hp
      exact ⟨['*'], rfl⟩
    · rename_i r _ _
      cases hread : readPathAndQuery ('/' :: r) with
      | error f => simp [hread, Except.map] at h
      | ok p' =>
        rw [hread] at h
        obtain rfl := Except.ok.inj h
        obtain rfl := Option.some.inj hp
        exact ⟨_, hread⟩
    · exact isPathAndQuery_of_readFull h hp

end Target

theorem IsPathAndQuery.visible {p : String} (h : IsPathAndQuery p) :
    ∀ c ∈ p.toList, 0x20 < c.toNat := by
  obtain ⟨s, h⟩ := h
  simp only [Target.readPathAndQuery] at h
  split at h
  · simp at h
  · rename_i hpath
    have hpath : ∀ c ∈ s.takeWhile (fun c => c ≠ '?' && c ≠ '#'), 0x20 < c.toNat := by
      rw [Bool.not_eq_true, Bool.not_eq_false', List.all_eq_true] at hpath
      exact fun c hc => Target.visible_of_class (by decide) (hpath c hc)
    split at h
    · split at h
      · rename_i r _ hquery
        rw [List.all_eq_true] at hquery
        rw [← Except.ok.inj h, String.toList_ofList]
        intro c hc
        rcases List.mem_append.mp hc with hc | hc
        · exact hpath c hc
        · rcases List.mem_cons.mp hc with rfl | hc
          · decide
          · exact Target.visible_of_class (by decide) (hquery c hc)
      · simp at h
    · rw [← Except.ok.inj h, String.toList_ofList]
      exact hpath

end Http

namespace Node

/-- A node of the web at a host name, whose base path, without the slashes at its end, is made of
segments of letters and digits. -/
structure IsUnder (n : Node) (base : List String) : Prop where
  http : n.scheme = "http"
  host : Url.IsName n.host.toList
  basePath : Text.trimEndOf '/' n.basePath = (Url.Path.segments base).text
  ordinary : ∀ s ∈ base, Url.IsOrdinary s

variable {n : Node} {base : List String} {p : String}

/-- What is asked for stands behind the base path and one slash. -/
theorem toList_urlText (n : Node) (p : String) :
    ∃ r, (n.urlText p).toList = n.scheme.toList ++ "://".toList ++ (n.host.toList ++
        ':' :: ((toString n.port.toNat).toList ++
          ((Text.trimEndOf '/' n.basePath).toList ++ '/' :: r))) ∧
      Url.asked p = Url.cutSegments .special (r.takeWhile fun c => !Url.endsPath c) ∧
      r ⊆ p.toList := by
  cases hp : Text.after? ['/'] p.toList with
  | some r =>
    have hp' := Text.after?_eq_some_iff.mp hp
    exact ⟨r, by simp [urlText, authority, hp'], by rw [Url.asked, hp, Option.getD_some],
      by simp [hp']⟩
  | none =>
    refine ⟨p.toList, ?_, by rw [Url.asked, hp, Option.getD_none], List.Subset.refl _⟩
    rw [urlText]
    split
    · rename_i r hr
      rw [Text.after?_eq_some_iff.mpr (show p.toList = ['/'] ++ r from hr)] at hp
      exact absurd hp (by simp)
    · simp [authority]

theorem exists_cons_text (base : List String) (r : List Char) :
    ∃ t, '/' :: t = (Url.Path.segments base).text.toList ++ '/' :: r := by
  rw [Url.toList_text_segments]
  cases base with
  | nil => exact ⟨r, rfl⟩
  | cons s b => exact ⟨_, rfl⟩

/-- The URL at which a node is asked: its own host and port, and a walk from its base path. -/
theorem IsUnder.url_eq (hn : n.IsUnder base) (hp : ∀ c ∈ p.toList, 0x20 < c.toNat) :
    ∃ rest, n.url p = (Url.readHost n.host.toList).map fun host =>
      Url.finish "http" (some ⟨"", "", some host,
          if some n.port.toNat = Url.defaultPort? "http" then none else some n.port.toNat⟩)
        (.segments (Url.walk .special base (Url.asked p))) rest := by
  obtain ⟨r, htext, hasked, hr⟩ := toList_urlText n p
  obtain ⟨t, ht⟩ := exists_cons_text base r
  rw [hn.http, hn.basePath, ← ht] at htext
  have hport : n.port.toNat ≤ 65535 := Nat.le_of_lt_succ n.port.toNat_lt
  have hvisible : ∀ c ∈ t, 0x20 < c.toNat := by
    intro c hc
    have hmem : c ∈ (Url.Path.segments base).text.toList ++ '/' :: r :=
      ht ▸ List.mem_cons_of_mem '/' hc
    rcases List.mem_append.mp hmem with hmem | hmem
    · rcases Url.text_alphanumeric hn.ordinary c hmem with rfl | hmem
      · decide
      · exact (Url.range_of_alphanumeric hmem).1
    · rcases List.mem_cons.mp hmem with rfl | hmem
      · decide
      · exact hp c (hr hmem)
  rw [hasked, ← Url.cutPath_text_append hn.ordinary ht]
  exact ⟨(Url.cutPath .special t).2,
    Url.read_http hn.host.nonempty hn.host.allowed hport hvisible htext⟩

/-- A node at a name of plain labels has a URL for everything that is asked of it. -/
theorem IsUnder.exists_url (hn : n.IsUnder base)
    (hplain : ∀ l ∈ List.splitOn '.' (n.host.toList.map Text.lowerAscii),
      Text.after? "xn--".toList l = none) (hp : ∀ c ∈ p.toList, 0x20 < c.toNat) :
    ∃ u, n.url p = .ok u := by
  obtain ⟨rest, hurl⟩ := hn.url_eq hp
  rw [Url.readHost_of_isName hn.host hplain] at hurl
  exact ⟨_, hurl⟩

/-- The URL at which a node is asked, part by part. -/
theorem IsUnder.parts_of_url (hn : n.IsUnder base) (hp : ∀ c ∈ p.toList, 0x20 < c.toNat) {u : Url}
    (hu : n.url p = .ok u) :
    u.scheme = "http" ∧
      u.host? = some (.domain (String.ofList (n.host.toList.map Text.lowerAscii))) ∧
      u.port? = some n.port.toNat ∧ u.path = .segments (Url.walk .special base (Url.asked p)) := by
  obtain ⟨rest, hurl⟩ := hn.url_eq hp
  rw [hurl] at hu
  cases hhost : Url.readHost n.host.toList with
  | error f => simp [hhost, Except.map] at hu
  | ok host =>
    obtain rfl := Url.eq_domain_of_readHost hn.host hhost
    rw [hhost, Except.map, Except.ok.injEq] at hu
    subst hu
    obtain ⟨hscheme, hauthority, hpath⟩ := Url.finish_parts "http"
      (some ⟨"", "", some (.domain (String.ofList (n.host.toList.map Text.lowerAscii))),
        if some n.port.toNat = Url.defaultPort? "http" then none else some n.port.toNat⟩)
      (.segments (Url.walk .special base (Url.asked p))) rest
    refine ⟨hscheme, by rw [Url.host?, hauthority]; rfl, ?_, hpath⟩
    rw [Url.port?, hauthority, hscheme]
    by_cases hown : some n.port.toNat = Url.defaultPort? "http"
    · simp [← hown]
    · simp [hown]

/-- **A node is asked for paths under its base path, unless the request climbs.** A node is asked at
its own host and port. The path is walked from the base path: of that remain as many segments as the
request does not climb over, and behind them stands what the request's path is alone. So it is a
path under the base path if the request does not climb at all, and otherwise just if it names again
what it took away. The walk does not climb over a segment of the request that looks like the name of
a drive (`Url.dropLastSegment`). -/
theorem url_under_iff (hn : n.IsUnder base) (hp : Http.IsPathAndQuery p) {u : Url}
    (hu : n.url p = .ok u) :
    u.scheme = "http" ∧
      u.host? = some (.domain (String.ofList (n.host.toList.map Text.lowerAscii))) ∧
      u.port? = some n.port.toNat ∧
      u.path = .segments
        (base.take (base.length - Url.climbs .special [] (Url.asked p)) ++
          Url.walk .special [] (Url.asked p)) ∧
      (Url.climbs .special [] (Url.asked p) = 0 →
        ∃ rest, u.path.text = Text.trimEndOf '/' n.basePath ++ "/" ++ rest) ∧
      ((∃ rest, u.path.text = Text.trimEndOf '/' n.basePath ++ "/" ++ rest) ↔
        ∃ s r, Url.walk .special [] (Url.asked p) =
          base.drop (base.length - Url.climbs .special [] (Url.asked p)) ++ s :: r) := by
  obtain ⟨hscheme, hhost, hport, hpath⟩ := hn.parts_of_url hp.visible hu
  have hwalk := Url.walk_append (show Url.Kind.special ≠ .file by decide) hn.ordinary []
    (Url.asked p)
  rw [List.append_nil] at hwalk
  rw [hpath, hn.basePath]
  exact ⟨hscheme, hhost, hport, congrArg Url.Path.segments hwalk,
    Url.walk_isBelow_of_climbs_eq_zero (by decide) hn.ordinary (Url.asked_ne_nil p)
      (Url.notMem_asked p),
    Url.walk_isBelow_iff (by decide) hn.ordinary (Url.notMem_asked p)⟩

namespace BaseSample

/-- A node under two segments, at the port of its scheme. -/
def deep : Node := { host := "Backend-1.example", port := 80, basePath := "/api/v2//" }

/-- A node under one segment. -/
def flat : Node := { host := "h", port := 9000, basePath := "/v2" }

theorem deep_isUnder : deep.IsUnder ["api", "v2"] where
  http := rfl
  host := by decide
  basePath := by decide
  ordinary := by decide

theorem flat_isUnder : flat.IsUnder ["v2"] where
  http := rfl
  host := by decide
  basePath := by decide
  ordinary := by decide

end BaseSample

/-- A request that climbs over one segment of the base and names it again. -/
theorem url_under_again : BaseSample.deep.IsUnder ["api", "v2"] ∧
    Http.IsPathAndQuery "/a/%2e%2E/../v2/x?y=/.." ∧
    ∃ u, BaseSample.deep.url "/a/%2e%2E/../v2/x?y=/.." = .ok u ∧
      u.host? = some (.domain "backend-1.example") ∧ u.port? = some 80 ∧
      ∃ rest, u.path.text = "/api/v2" ++ "/" ++ rest := by
  have hread : Http.Target.read "/a/%2e%2E/../v2/x?y=/.." =
      .ok (.origin "/a/%2e%2E/../v2/x?y=/..") := by decide
  have hp : Http.IsPathAndQuery "/a/%2e%2E/../v2/x?y=/.." :=
    Http.Target.isPathAndQuery_of_read hread rfl
  obtain ⟨u, hu⟩ := BaseSample.deep_isUnder.exists_url (by decide) hp.visible
  obtain ⟨-, hhost, hport, -, -, hunder⟩ := url_under_iff BaseSample.deep_isUnder hp hu
  have hlower : String.ofList (BaseSample.deep.host.toList.map Text.lowerAscii) =
      "backend-1.example" := by decide
  have hbase : Text.trimEndOf '/' BaseSample.deep.basePath = "/api/v2" := by decide
  rw [hlower] at hhost
  rw [hbase] at hunder
  exact ⟨BaseSample.deep_isUnder, hp, u, hu, hhost, hport, hunder.mpr ⟨"x", [], by decide⟩⟩

/-- A request that climbs over the base and goes elsewhere. -/
theorem url_above_base : BaseSample.flat.IsUnder ["v2"] ∧
    Http.Target.read "/../admin" = .ok (.origin "/../admin") ∧
    ∃ u, BaseSample.flat.url "/../admin" = .ok u ∧ u.path.text = "/admin" ∧
      ¬ ∃ rest, u.path.text = Text.trimEndOf '/' BaseSample.flat.basePath ++ "/" ++ rest := by
  have hread : Http.Target.read "/../admin" = .ok (.origin "/../admin") := by decide
  have hp : Http.IsPathAndQuery "/../admin" := Http.Target.isPathAndQuery_of_read hread rfl
  obtain ⟨u, hu⟩ := BaseSample.flat_isUnder.exists_url (by decide) hp.visible
  obtain ⟨-, -, -, hpath⟩ := BaseSample.flat_isUnder.parts_of_url hp.visible hu
  have htext : u.path.text = "/admin" := by
    rw [hpath]
    decide
  have hbase : Text.trimEndOf '/' BaseSample.flat.basePath = "/v2" := by decide
  refine ⟨BaseSample.flat_isUnder, hread, u, hu, htext, ?_⟩
  rintro ⟨rest, hrest⟩
  rw [hbase, htext, ← String.toList_inj] at hrest
  simp at hrest

end Node

end Gatehouse
