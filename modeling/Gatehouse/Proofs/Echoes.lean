import Gatehouse.Proofs.SessionKeys
import Gatehouse.Selection.Selector

/-!
# Cookies that come back

A backend gives a session a value in a cookie that it sets. The client sends the cookie back as it
was set, and the value is read from it again. Under the key that it makes the session is filed as
well, so the two readings should agree.

## Before and after the quotes

Both cut the pair at its first equals sign and take blanks and then quotes off the value. They
differ in when they ask whether there is a value at all: the first before the quotes are gone, the
second after. So they agree on every value but one of quotes alone, which the first takes for a
value and the second does not.

## Main definitions

* `Http.pairText` — the pair in a field that sets a cookie, as the client sends it back
* `Http.Issues` — a field sets a cookie to a value

## Main results

* `Http.Headers.issues_of_issuedCookie?` — the field that a value comes from
* `Http.Headers.cookie?_echo` — the value in a pair that comes back
* `Session.key?_echo` — the session of a client that sends a cookie back
-/

namespace Gatehouse

namespace Http

/-! ### The field that a value comes from -/

/-- The pair in a field that sets a cookie, up to the first semicolon. -/
def pairText (field : String) : String := String.ofList (field.toList.takeWhile (· ≠ ';'))

/-- A field sets a cookie to a value, which is not blank as it stands in the field. -/
def Issues (field name : String) (raw : List Char) : Prop :=
  cookiePair? (pairText field).toList = some (name.toList, raw) ∧
    Text.trimWhere Text.isBlank raw ≠ []

theorem Headers.issues_of_issuedCookie? {h : Headers} {name v : String}
    (hv : h.issuedCookie? name = some v) :
    ∃ before field after raw, h.readAll "set-cookie" = before ++ field :: after ∧
      Issues field name raw ∧ cookieText raw = v ∧ ∀ f ∈ after, ∀ r, ¬ Issues f name r := by
  obtain ⟨raw, hraw, rfl⟩ := Option.map_eq_some_iff.mp hv
  obtain ⟨pair, hlast, rfl⟩ := Option.map_eq_some_iff.mp hraw
  rw [issuedCookies, List.filter_filterMap] at hlast
  obtain ⟨front, hfront⟩ := List.getLast?_eq_some_iff.mp hlast
  obtain ⟨first, second, hsplit, -, hsecond⟩ := List.filterMap_eq_append_iff.mp hfront
  obtain ⟨between, field, after, rfl, -, hfield, hafter⟩ :=
    List.filterMap_eq_cons_iff.mp hsecond
  have hissues (f : String) (r : List Char) : Issues f name r ↔
      (cookiePair? (f.toList.takeWhile (· ≠ ';'))).filter (fun p =>
        p.1 = name.toList && !(Text.trimWhere Text.isBlank p.2).isEmpty) =
          some (name.toList, r) := by
    simp [Issues, pairText, Option.filter_eq_some_iff]
  obtain ⟨hpair, hkept⟩ := Option.filter_eq_some_iff.mp hfield
  simp only [Bool.and_eq_true, decide_eq_true_eq] at hkept
  refine ⟨first ++ between, field, after, pair.2, by rw [hsplit, List.append_assoc], ?_, rfl, ?_⟩
  · rw [hissues, hfield, ← hkept.1]
  · intro f hf r hr
    rw [hissues, List.filterMap_eq_nil_iff.mp hafter f hf] at hr
    exact absurd hr (by simp)

/-! ### The pair that comes back -/

theorem isReadable_pairText {field : String} (h : isReadable field = true) :
    isReadable (pairText field) = true := by
  rw [isReadable, List.all_eq_true] at h ⊢
  rw [pairText, String.toList_ofList]
  exact fun c hc => h c ((List.takeWhile_sublist _).subset hc)

/-- A pair that is sent back is read as it was set. -/
theorem Headers.cookie?_echo {request : Headers} {field name : String} {raw : List Char}
    (hread : isReadable field = true) (hissues : Issues field name raw)
    (hecho : request.all "cookie" = [pairText field]) :
    request.cookie? name = some (cookieText raw) := by
  have hcookies : request.cookies = [(name.toList, raw)] := by
    have hpieces : List.splitOn ';' (pairText field).toList = [(pairText field).toList] := by
      refine List.splitOn_eq_singleton ?_
      rw [pairText, String.toList_ofList]
      exact Text.notMem_takeWhile_ne
    simp [cookies, readAll, hecho, readable?, isReadable_pairText hread, cookiesIn, hpieces,
      hissues.1]
  simp [cookie?, hcookies]

theorem cookieText_eq_empty_iff {raw : List Char} :
    cookieText raw = "" ↔ ∀ c ∈ Text.trimWhere Text.isBlank raw, c = '"' := by
  rw [cookieText, ← String.toList_inj, String.toList_ofList, String.toList_empty, unquote,
    Text.trimWhere_eq_nil_iff]
  simp

/-- A pair is cut at its first equals sign, so there is none in the name. -/
theorem notMem_of_issues {field name : String} {raw : List Char} (h : Issues field name raw) :
    '=' ∉ name.toList := by
  obtain ⟨⟨a, b⟩, hcut, hname⟩ := Option.map_eq_some_iff.mp h.1
  rw [← (Prod.mk.inj hname).1]
  exact fun hmem => (Text.cutFirst_eq_some hcut).2 (Text.trimWhere_subset _ _ hmem)

end Http

namespace Session

/-- A cookie that is sent back is of the session that is filed under its value, if that is not
empty. -/
theorem key?_echo {request : Http.Headers} {field name : String} {raw : List Char}
    (hread : Http.isReadable field = true) (hissues : Http.Issues field name raw)
    (hecho : request.all "cookie" = [Http.pairText field]) (query : Option String) :
    Session.key? ⟨name, .cookie⟩ request query =
      if Http.cookieText raw = "" then none else some (Session.key name (Http.cookieText raw)) := by
  rw [key?, value?, Http.Headers.cookie?_echo hread hissues hecho]

/-- **An issued value comes back.** Let a backend give a session a value in a cookie. It stands in
the last of the fields that set the cookie to something. A client that sends the pair of that field
back, as it was set and alone, is of the session that is filed under the value, unless the value is
empty; then the client is of no session. The value is empty if, without the blanks around it, it was
written in double quotes alone. -/
theorem issued_value_comes_back {headers : Http.Headers} {param v : String}
    (hv : headers.issuedCookie? param = some v) :
    ∃ before field after raw, headers.readAll "set-cookie" = before ++ field :: after ∧
      Http.Issues field param raw ∧ (∀ f ∈ after, ∀ r, ¬ Http.Issues f param r) ∧
      (∀ request : Http.Headers, request.all "cookie" = [Http.pairText field] → ∀ query,
        Session.key? ⟨param, .cookie⟩ request query =
          if v = "" then none else some (Session.key param v)) ∧
      (∀ earlier i a, (⟨Session.key param earlier, i, v⟩ : SessionRecord).alias? = some a →
        a.sessionKey = Session.key param v) ∧
      (v = "" ↔ ∀ c ∈ Text.trimWhere Text.isBlank raw, c = '"') := by
  obtain ⟨before, field, after, raw, hfields, hissues, rfl, hafter⟩ :=
    Http.Headers.issues_of_issuedCookie? hv
  have hread : Http.isReadable field = true := by
    have hmem : field ∈ headers.readAll "set-cookie" := by simp [hfields]
    obtain ⟨f, -, hf⟩ := List.mem_filterMap.mp hmem
    rw [Http.readable?] at hf
    split at hf
    · rename_i hreadable
      exact Option.some.inj hf ▸ hreadable
    · simp at hf
  refine ⟨before, field, after, raw, hfields, hissues, hafter,
    fun request hecho => key?_echo hread hissues hecho, fun earlier i a ha => ?_,
    Http.cookieText_eq_empty_iff⟩
  rw [SessionRecord.alias?] at ha
  split at ha
  · simp at ha
  · rw [← Option.some.inj ha, paramOf_key (Http.notMem_of_issues hissues)]

namespace EchoSample

/-- Blanks, quotes and attributes around a value. -/
def quoted : Http.Headers := ⟨[("set-cookie", " aff = \" s 1\" ; Path=/")]⟩

/-- A value of quotes alone. -/
def hollow : Http.Headers := ⟨[("set-cookie", "aff=\"\"; Path=/")]⟩

end EchoSample

theorem quoted_value_comes_back : EchoSample.quoted.issuedCookie? "aff" = some " s 1" ∧
    Session.key? ⟨"aff", .cookie⟩ ⟨[("cookie", " aff = \" s 1\" ")]⟩ none =
      some (Session.key "aff" " s 1") := by
  have hv : EchoSample.quoted.issuedCookie? "aff" = some " s 1" := by decide
  refine ⟨hv, ?_⟩
  obtain ⟨before, field, after, raw, hfields, -, -, hecho, -⟩ := issued_value_comes_back hv
  have hone : EchoSample.quoted.readAll "set-cookie" = [" aff = \" s 1\" ; Path=/"] := by decide
  rw [hone, eq_comm, List.append_eq_singleton_iff] at hfields
  have hfield : field = " aff = \" s 1\" ; Path=/" := by
    rcases hfields with ⟨-, h⟩ | ⟨-, h⟩
    · exact (List.cons.inj h).1
    · exact absurd h (by simp)
  rw [hecho _ (by rw [hfield]; decide)]
  exact if_neg (by decide)

/-- The value that a backend gave is empty, and the session is filed under a key that no client can
send. -/
theorem hollow_value_lost : EchoSample.hollow.issuedCookie? "aff" = some "" ∧
    Http.pairText "aff=\"\"; Path=/" = "aff=\"\"" ∧
    (⟨"aff=A", 0, ""⟩ : SessionRecord).alias? = some ⟨Session.key "aff" "", 0, ""⟩ ∧
    Session.key? ⟨"aff", .cookie⟩ ⟨[("cookie", "aff=\"\"")]⟩ none ≠
      some (Session.key "aff" "") := by
  decide

end Session

end Gatehouse
