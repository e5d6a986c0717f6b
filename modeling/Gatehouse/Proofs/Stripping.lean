import Gatehouse.Gateway.Dispatch
import Gatehouse.Proofs.Texts

/-!
# Paths that are matched and paths that are stripped

A path prefix is read twice. The table tests it on the path of a request; a service that removes it
before forwarding tests it again, on path and query together. Both drop the slashes at its end and
both let it end only where a segment of the path ends.

## The end of a segment

A segment of a path ends at a slash or with the path. In path and query together it can also end at
the question mark, and where a whole address was written without a path there is nothing before it.
So the two tests look at different texts; they agree because a path has no question mark in it, and
because the path that stands for none, a single slash, is what stripping puts there.

## Main definitions

* `Http.Target.queryText` — the query with its question mark, as it stands behind the path

## Main results

* `Http.Target.pathAndQuery?_parts` — path and query taken apart
* `Gateway.forwardedPath_of_holds` — what is forwarded where the prefix of a service holds
-/

namespace Gatehouse

/-! ### The parts of a target -/

namespace Http.Target

/-- The query behind its question mark, or nothing. -/
def queryText (t : Target) : String :=
  match t.query? with
  | some q => "?" ++ q
  | none => ""

/-- Path and query are what was written of the path and the query behind its question mark. A path
of which nothing was written is a slash. -/
theorem origin_parts (s : String) : ∃ a, s.toList = a ++ (origin s).queryText.toList ∧ '?' ∉ a ∧
    (pathOf s).toList = if a = [] then ['/'] else a := by
  have hpath (a : List Char) (ha : s.toList.takeWhile (· ≠ '?') = a) :
      (pathOf s).toList = if a = [] then ['/'] else a := by
    rw [pathOf, ha]
    cases a <;> simp
  cases hcut : Text.cutFirst '?' s.toList with
  | none =>
    have hnot := Text.cutFirst_eq_none_iff.mp hcut
    refine ⟨s.toList, ?_, hnot, hpath _ (Text.takeWhile_ne_of_notMem hnot)⟩
    simp [queryText, query?, hcut]
  | some parts =>
    obtain ⟨a, b⟩ := parts
    obtain ⟨hs, hnot⟩ := Text.cutFirst_eq_some hcut
    have hquery : (origin s).queryText.toList = '?' :: b := by simp [queryText, query?, hcut]
    exact ⟨a, by rw [hquery, hs], hnot, hpath _ (by rw [hs, Text.takeWhile_ne_append hnot])⟩

/-- Only an authority alone has no path and query, and its path is empty. -/
theorem exists_pathAndQuery? {t : Target} {c : Char} (h : t.path.toList.head? = some c) :
    ∃ s, t.pathAndQuery? = some s := by
  cases t with
  | authority a => simp [path] at h
  | origin s => exact ⟨s, rfl⟩
  | absolute scheme authority s => exact ⟨_, rfl⟩

theorem pathAndQuery?_parts {t : Target} {s : String} (h : t.pathAndQuery? = some s) :
    ∃ a, s.toList = a ++ t.queryText.toList ∧ '?' ∉ a ∧
      t.path.toList = if a = [] then ['/'] else a := by
  cases t with
  | origin p =>
    obtain rfl : p = s := by simpa [pathAndQuery?] using h
    exact origin_parts p
  | authority a => simp [pathAndQuery?] at h
  | absolute scheme authority p =>
    by_cases hp : p = ""
    · obtain rfl : "/" = s := by simpa [pathAndQuery?, hp] using h
      subst hp
      exact ⟨['/'], by simp [queryText, query?, Text.cutFirst], by decide, by simp [path, pathOf]⟩
    · obtain rfl : p = s := by simpa [pathAndQuery?, hp] using h
      exact origin_parts p

end Http.Target

/-! ### One prefix, two tests -/

/-- A path is under a prefix if it begins with it and goes on with a slash, or not at all. -/
theorem Condition.isUnder_iff {start path : List Char} : Condition.isUnder start path = true ↔
    start = [] ∨ ∃ rest, path = start ++ rest ∧ (rest = [] ∨ rest.head? = some '/') := by
  rw [isUnder, Bool.or_eq_true, decide_eq_true_eq]
  refine or_congr_right ?_
  cases hafter : Text.after? start path with
  | none =>
    refine iff_of_false (by simp) ?_
    rintro ⟨rest, hpath, -⟩
    rw [Text.after?_eq_some_iff.mpr hpath] at hafter
    exact absurd hafter (by simp)
  | some rest =>
    obtain rfl := Text.after?_eq_some_iff.mp hafter
    cases rest <;> simp

namespace Service

/-- What is left of a path and query behind a prefix, if it begins with a slash or the question mark
or is nothing. -/
theorem strip_append {p rest query : List Char}
    (hrest : rest = [] ∨ rest.head? = some '/') (hquery : query = [] ∨ query.head? = some '?') :
    strip p (Text.dropEndWhile (· == '/') p ++ (rest ++ query)) =
      (if rest = [] then ['/'] else rest) ++ query := by
  rw [strip, Text.after?_eq_some_iff.mpr rfl]
  rcases hrest with rfl | hrest
  · rcases hquery with rfl | hquery
    · rfl
    · obtain ⟨q, rfl⟩ := List.head?_eq_some_iff.mp hquery
      rfl
  · obtain ⟨r, rfl⟩ := List.head?_eq_some_iff.mp hrest
    rfl

/-- No prefix is a slash once the slashes at its end are gone. -/
theorem trimmed_ne_slash (p : List Char) : Text.dropEndWhile (· == '/') p ≠ ['/'] := by
  intro h
  exact Text.getLast?_dropEndWhile_ne '/' p (by rw [h]; rfl)

/-- Where the first test holds of a path, so does the second of the path and query. -/
theorem strip_of_isUnder {p path written query : List Char}
    (hunder : Condition.isUnder (Text.dropEndWhile (· == '/') p) path = true)
    (hslash : path.head? = some '/') (hwritten : path = if written = [] then ['/'] else written)
    (hquery : query = [] ∨ query.head? = some '?') :
    ∃ rest, path = Text.dropEndWhile (· == '/') p ++ rest ∧
      (rest = [] ∨ rest.head? = some '/') ∧
      strip p (written ++ query) = (if rest = [] then ['/'] else rest) ++ query ∧
      (Text.dropEndWhile (· == '/') p ≠ [] → strip p (written ++ query) ≠ written ++ query) := by
  obtain ⟨rest, hpath, hrest⟩ : ∃ rest, path = Text.dropEndWhile (· == '/') p ++ rest ∧
      (rest = [] ∨ rest.head? = some '/') := by
    rcases Condition.isUnder_iff.mp hunder with hnone | hsome
    · exact ⟨path, by rw [hnone, List.nil_append], .inr hslash⟩
    · exact hsome
  have hstrip : strip p (Text.dropEndWhile (· == '/') p ++ (rest ++ query)) =
      (if rest = [] then ['/'] else rest) ++ query := strip_append hrest hquery
  by_cases hnone : written = []
  · -- Nothing was written of the path, so it is a slash, and the prefix is nothing.
    rw [if_pos hnone] at hwritten
    have hempty : Text.dropEndWhile (· == '/') p = [] := by
      rw [hwritten, eq_comm, List.append_eq_singleton_iff] at hpath
      rcases hpath with h | h
      · exact h.1
      · exact absurd h.1 (trimmed_ne_slash p)
    have hbare : strip p (Text.dropEndWhile (· == '/') p ++ ([] ++ query)) = '/' :: query :=
      strip_append (.inl rfl) hquery
    rw [hempty] at hpath hbare ⊢
    refine ⟨rest, hpath, hrest, ?_, fun h => absurd rfl h⟩
    rw [hwritten, List.nil_append] at hpath
    subst hnone hpath
    exact hbare
  · rw [if_neg hnone, hpath] at hwritten
    rw [← hwritten, List.append_assoc, hstrip]
    refine ⟨rest, hpath, hrest, rfl, fun hne he => ?_⟩
    rw [← List.append_assoc, List.append_cancel_right_eq] at he
    by_cases hend : rest = []
    · rw [if_pos hend, hend, List.append_nil] at he
      exact trimmed_ne_slash p he.symm
    · rw [if_neg hend] at he
      exact hne (List.self_eq_append_left.mp he)

end Service

namespace Http.Target

theorem queryText_head (t : Target) :
    t.queryText.toList = [] ∨ t.queryText.toList.head? = some '?' := by
  rw [queryText]
  split <;> simp

/-- The query of a target is found again behind any other path. -/
theorem query?_origin {t : Target} {s : String} {a : List Char}
    (hs : s.toList = a ++ t.queryText.toList) (hnot : '?' ∉ a) : (origin s).query? = t.query? := by
  rw [query?, hs, queryText]
  cases t.query? with
  | none => simp [Text.cutFirst_eq_none_iff.mpr hnot]
  | some q =>
    have hquery : ("?" ++ q).toList = '?' :: q.toList := by simp
    simp [hquery, Text.cutFirst_append hnot]

end Http.Target

namespace Gateway

/-- **A prefix that is matched is stripped.** Let a request have a path that begins with a slash and
is at or under the prefix of a service which removes it. Then the path begins with the prefix, its
slashes at the end apart, and what is forwarded is the rest of the path, or a slash if there is
none, and the query as it was. A prefix of more than slashes is always gone from it. -/
theorem forwardedPath_of_holds {c : ServiceConfig} {p : String} {head : RequestHead}
    (hstrips : c.stripsPath = true) (hp : c.pathPrefix = some p)
    (hholds : Condition.holds head (.ofPathPrefix p) = true)
    (hslash : head.target.path.toList.head? = some '/') (generation : Nat) :
    let forwarded := forwardedPath (Service.ofConfig c generation) head
    ∃ rest, head.target.path = Text.trimEndOf '/' p ++ rest ∧
      forwarded = (if rest = "" then "/" else rest) ++ head.target.queryText ∧
      forwarded.toList.head? = some '/' ∧
      (Http.Target.origin forwarded).query? = head.target.query? ∧
      (Text.trimEndOf '/' p ≠ "" → some forwarded ≠ head.target.pathAndQuery?) := by
  obtain ⟨s, hs⟩ := Http.Target.exists_pathAndQuery? hslash
  obtain ⟨written, hparts, hnot, hpath⟩ := Http.Target.pathAndQuery?_parts hs
  rw [Condition.ofPathPrefix, Condition.holds] at hholds
  obtain ⟨rest, hrest, hbegins, hstrip, hchanged⟩ :=
    Service.strip_of_isUnder hholds hslash hpath head.target.queryText_head
  have hforwarded : (forwardedPath (Service.ofConfig c generation) head).toList =
      (if rest = [] then ['/'] else rest) ++ head.target.queryText.toList := by
    rw [forwardedPath, hs, Option.getD_some, Service.forwardedPath, Service.ofConfig, hstrips,
      hp, if_pos rfl, ← hstrip, ← hparts, String.toList_ofList]
  have hmark : '?' ∉ head.target.path.toList := by
    rw [hpath]
    split
    · decide
    · exact hnot
  have hleft : '?' ∉ if rest = [] then ['/'] else rest := by
    split
    · decide
    · exact fun h => hmark (hrest ▸ List.mem_append_right _ h)
  refine ⟨String.ofList rest, ?_, ?_, ?_, Http.Target.query?_origin hforwarded hleft, ?_⟩
  · rw [← String.toList_inj, hrest, String.toList_append, Text.trimEndOf, String.toList_ofList,
      String.toList_ofList]
  · rw [← String.toList_inj, hforwarded, String.toList_append]
    by_cases hend : rest = [] <;> simp [hend]
  · rw [hforwarded]
    rcases hbegins with rfl | hbegins
    · rfl
    · obtain ⟨r, rfl⟩ := List.head?_eq_some_iff.mp hbegins
      rfl
  · intro hne he
    rw [hs, Option.some.injEq, ← String.toList_inj, hforwarded, ← hstrip, hparts] at he
    refine hchanged (fun hnil => hne ?_) he
    rw [Text.trimEndOf, hnil]

namespace StrippingSample

def orders : ServiceConfig :=
  { id := "orders", pathPrefix := some "/orders//", stripsPath := true, nodes := [] }

/-- The whole path is the prefix, and the query looks like one. -/
def bare : RequestHead := { target := .absolute "http" "shop.local" "/orders?next=/orders/7" }

end StrippingSample

theorem forwardedPath_of_bare :
    Condition.holds StrippingSample.bare (.ofPathPrefix "/orders//") = true ∧
    StrippingSample.bare.target.path.toList.head? = some '/' ∧
    forwardedPath (Service.ofConfig StrippingSample.orders 3) StrippingSample.bare =
      "/?next=/orders/7" := by
  have hholds : Condition.holds StrippingSample.bare (.ofPathPrefix "/orders//") = true := by
    decide
  have hslash : StrippingSample.bare.target.path.toList.head? = some '/' := by decide
  obtain ⟨rest, hpath, hforwarded, -⟩ := forwardedPath_of_holds (c := StrippingSample.orders)
    rfl rfl hholds hslash 3
  have hrest : rest = "" := by
    rw [show Text.trimEndOf '/' "/orders//" = StrippingSample.bare.target.path by decide] at hpath
    simpa using congrArg String.toList hpath
  refine ⟨hholds, hslash, ?_⟩
  rw [hforwarded, if_pos hrest]
  decide

end Gateway

end Gatehouse
