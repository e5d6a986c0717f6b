import Gatehouse.Http.Cookie
import Gatehouse.Proofs.Fields

/-!
# Cookies over one field or many

A client may send all its cookies in one field, with semicolons between them, or spread them over
several. A cookie is looked up by its name, and the first one of the name gives the value.

## Parts in one line

Two kinds of boundary stand between two cookies, the semicolon inside a field and the end of a
field, and the look-up sees neither. It runs along one line of parts, in which every part is
trimmed before it is read; so the blank that a joining semicolon leaves behind is lost again. What
a part without an equals sign, or a field that cannot be read, puts into that line is nothing, and
what stands before and behind it is not touched.

## Main definitions

* `Http.Headers.cookieParts` — the parts between the semicolons of all the fields, in one line
* `Http.Sets` — a part gives a name a value
* `Http.PlainCookie` — a cookie that can be written as it is

## Main results

* `Http.cookiePair?_eq` — trimming a part does not move its first equals sign
* `Http.cookiesIn_intercalate` — fields that are joined hold the cookies that they held apart
* `Http.Headers.cookie?_first` — what a look-up finds, however the cookies are spread
-/

namespace Gatehouse

namespace Http

open Text (isBlank trimWhere dropEndWhile cutFirst)

/-! ### One part -/

/-- A part gives a name a value: they stand before and behind its first equals sign. Blanks around
the name are not part of it. -/
def Sets (part : List Char) (name : String) (raw : List Char) : Prop :=
  ∃ key, part = key ++ '=' :: raw ∧ '=' ∉ key ∧ trimWhere isBlank key = name.toList

/-- A pair may be cut before it is trimmed: no blank is an equals sign. -/
theorem cookiePair?_eq (s : List Char) :
    cookiePair? s = (cutFirst '=' s).map fun p =>
      (trimWhere isBlank p.1, dropEndWhile isBlank p.2) := by
  cases hcut : cutFirst '=' s with
  | none =>
    have hnot : '=' ∉ trimWhere isBlank s := fun h =>
      Text.cutFirst_eq_none_iff.mp hcut (Text.trimWhere_subset _ _ h)
    rw [cookiePair?, Text.cutFirst_eq_none_iff.mpr hnot]
    rfl
  | some parts =>
    obtain ⟨key, raw⟩ := parts
    obtain ⟨rfl, hkey⟩ := Text.cutFirst_eq_some hcut
    have hnot : '=' ∉ key.dropWhile isBlank := fun h =>
      hkey ((List.dropWhile_suffix isBlank).subset h)
    rw [cookiePair?, Text.trimWhere_append_cons (by decide), Text.cutFirst_append hnot]
    simp [Text.trimWhere_dropWhile]

theorem sets_iff {part raw : List Char} {name : String} :
    Sets part name raw ↔
      ∃ key, cutFirst '=' part = some (key, raw) ∧ trimWhere isBlank key = name.toList := by
  simp only [Sets, Text.cutFirst_eq_some_iff, and_assoc]

/-- Whether a part is of a name, as the look-up asks. -/
def isOf (name : String) (part : List Char) : Bool :=
  (cookiePair? part).any fun p => p.1 = name.toList

theorem isOf_iff {part : List Char} {name : String} :
    isOf name part = true ↔ ∃ raw, Sets part name raw := by
  rw [isOf, cookiePair?_eq]
  cases hcut : cutFirst '=' part with
  | none => simp [sets_iff, hcut]
  | some parts =>
    obtain ⟨key, raw⟩ := parts
    simp [sets_iff, hcut]

theorem cookieText_dropEndWhile (raw : List Char) :
    cookieText (dropEndWhile isBlank raw) = cookieText raw := by
  rw [cookieText, Text.trimWhere_dropEndWhile, cookieText]

/-- Of a part that gives a name a value the look-up takes that value. -/
theorem Sets.cookieText_eq {part raw : List Char} {name : String} (h : Sets part name raw) :
    (cookiePair? part).map (fun p => cookieText p.2) = some (cookieText raw) := by
  obtain ⟨key, hcut, -⟩ := sets_iff.mp h
  rw [cookiePair?_eq, hcut]
  simp [cookieText_dropEndWhile]

/-! ### The line of parts -/

namespace Headers

/-- The parts between the semicolons of all the fields that can be read: field by field, and in
each from its start. -/
def cookieParts (h : Headers) : List (List Char) :=
  (h.readAll "cookie").flatMap fun field => List.splitOn ';' field.toList

theorem cookies_eq (h : Headers) : h.cookies = h.cookieParts.filterMap cookiePair? := by
  rw [cookies, cookieParts, List.filterMap_flatMap]
  rfl

theorem cookie?_eq (h : Headers) (name : String) :
    h.cookie? name = (h.cookieParts.find? (isOf name)).bind fun part =>
      (cookiePair? part).map fun p => cookieText p.2 := by
  rw [cookie?, cookies_eq, List.find?_filterMap, Option.map_bind, Option.map_bind]
  simp only [Function.comp_def, Option.map_map]
  rfl

theorem cookie?_eq_none_iff {h : Headers} {name : String} :
    h.cookie? name = none ↔ ∀ part ∈ h.cookieParts, ∀ raw, ¬ Sets part name raw := by
  have hfound : h.cookie? name = none ↔ h.cookieParts.find? (isOf name) = none := by
    rw [cookie?_eq]
    cases hfind : h.cookieParts.find? (isOf name) with
    | none => simp
    | some part =>
      obtain ⟨raw, hsets⟩ := isOf_iff.mp (List.find?_some hfind)
      rw [Option.bind_some, hsets.cookieText_eq]
      simp
  rw [hfound, List.find?_eq_none]
  simp only [isOf_iff, not_exists]

theorem cookie?_eq_some_iff {h : Headers} {name v : String} :
    h.cookie? name = some v ↔ ∃ before part after raw, h.cookieParts = before ++ part :: after ∧
      (∀ p ∈ before, ∀ r, ¬ Sets p name r) ∧ Sets part name raw ∧ cookieText raw = v := by
  rw [cookie?_eq, Option.bind_eq_some_iff]
  constructor
  · rintro ⟨part, hfind, hv⟩
    obtain ⟨hof, before, after, hparts, hbefore⟩ := List.find?_eq_some_iff_append.mp hfind
    obtain ⟨raw, hsets⟩ := isOf_iff.mp hof
    rw [hsets.cookieText_eq] at hv
    refine ⟨before, part, after, raw, hparts, fun p hp r hr => ?_, hsets, Option.some.inj hv⟩
    have hnot := hbefore p hp
    rw [isOf_iff.mpr ⟨r, hr⟩] at hnot
    exact absurd hnot (by decide)
  · rintro ⟨before, part, after, raw, hparts, hbefore, hsets, rfl⟩
    refine ⟨part, List.find?_eq_some_iff_append.mpr
      ⟨isOf_iff.mpr ⟨raw, hsets⟩, before, after, hparts, fun p hp => ?_⟩, hsets.cookieText_eq⟩
    rw [Bool.not_eq_true', ← Bool.not_eq_true, isOf_iff]
    exact fun ⟨r, hr⟩ => hbefore p hp r hr

end Headers

/-! ### Fields that are joined -/

/-- The cookies in the text of a field. -/
theorem cookiesIn_eq (field : String) :
    cookiesIn field = (List.splitOn ';' field.toList).filterMap cookiePair? := rfl

theorem cookiePair?_append_of_blank {gap : List Char} (hgap : ∀ c ∈ gap, isBlank c = true)
    (s : List Char) : cookiePair? (gap ++ s) = cookiePair? s := by
  rw [cookiePair?, Text.trimWhere_append_of_forall hgap, cookiePair?]

/-- Blanks at the start of a field are blanks around its first part. -/
theorem cookies_splitOn_append_of_blank {gap : List Char} (hgap : ∀ c ∈ gap, isBlank c = true)
    (s : List Char) :
    (List.splitOn ';' (gap ++ s)).filterMap cookiePair? = (List.splitOn ';' s).filterMap cookiePair? := by
  have hnot : ';' ∉ gap := fun h => absurd (hgap _ h) (by decide)
  rw [Text.splitOn_append_of_notMem hnot]
  cases List.splitOn ';' s with
  | nil => rfl
  | cons piece more =>
    rw [List.modifyHead_cons, List.filterMap_cons, List.filterMap_cons,
      cookiePair?_append_of_blank hgap]

/-- Fields that are joined by a semicolon and blanks hold the cookies that they held apart. -/
theorem cookiesIn_intercalate {gap : String} (hgap : ∀ c ∈ gap.toList, isBlank c = true)
    (fields : List String) :
    cookiesIn ((";" ++ gap).intercalate fields) = fields.flatMap cookiesIn := by
  have hsep : (";" ++ gap).toList = ';' :: gap.toList := by simp
  induction fields with
  | nil => simp [cookiesIn, cookiePair?, trimWhere, dropEndWhile, cutFirst]
  | cons f rest ih =>
    cases rest with
    | nil => simp
    | cons g more =>
      rw [cookiesIn_eq, String.intercalate_cons_cons, String.toList_append, String.toList_append,
        hsep, List.append_assoc, List.cons_append, List.splitOn_append_cons_self, List.filterMap_append,
        cookies_splitOn_append_of_blank hgap, ← cookiesIn_eq, ← cookiesIn_eq, ih]
      exact List.flatMap_cons.symm

/-! ### Cookies that are written -/

/-- A text that stands in a cookie as it is: it can be read, ends no part, and loses nothing where
blanks are trimmed. -/
structure IsPlain (s : String) : Prop where
  readable : isReadable s = true
  noSemicolon : ';' ∉ s.toList
  bareStart : ∀ c ∈ s.toList.head?, isBlank c = false
  bareEnd : ∀ c ∈ s.toList.getLast?, isBlank c = false

/-- A cookie that can be written as it is. -/
structure PlainCookie where
  name : String
  value : String
  plainName : IsPlain name
  plainValue : IsPlain value
  noEquals : '=' ∉ name.toList
  noQuote : '"' ∉ value.toList

namespace PlainCookie

/-- The cookie as it is written. -/
def text (c : PlainCookie) : String := c.name ++ "=" ++ c.value

/-- A field of cookies. -/
def field (cs : List PlainCookie) : String := "; ".intercalate (cs.map text)

theorem toList_text (c : PlainCookie) :
    c.text.toList = c.name.toList ++ '=' :: c.value.toList := by
  simp [text]

theorem isReadable_text (c : PlainCookie) : isReadable c.text = true := by
  rw [text, isReadable_append, isReadable_append, c.plainName.readable, c.plainValue.readable]
  decide

theorem isReadable_field (cs : List PlainCookie) : isReadable (field cs) = true := by
  refine isReadable_intercalate (by decide) fun f hf => ?_
  obtain ⟨c, -, rfl⟩ := List.mem_map.mp hf
  exact c.isReadable_text

theorem cookieText_value (c : PlainCookie) : cookieText c.value.toList = c.value := by
  have hbare : trimWhere isBlank c.value.toList = c.value.toList :=
    Text.trimWhere_eq_self c.plainValue.bareStart c.plainValue.bareEnd
  have hquotes : unquote c.value.toList = c.value.toList :=
    Text.trimWhere_of_forall fun d hd => by
      simpa using fun he : d = '"' => c.noQuote (he ▸ hd)
  rw [cookieText, hbare, hquotes, String.ofList_toList]

theorem cookiesIn_text (c : PlainCookie) :
    cookiesIn c.text = [(c.name.toList, c.value.toList)] := by
  have hone : ';' ∉ c.text.toList := by
    rw [toList_text]
    simp [c.plainName.noSemicolon, c.plainValue.noSemicolon]
  have hname : trimWhere isBlank c.name.toList = c.name.toList :=
    Text.trimWhere_eq_self c.plainName.bareStart c.plainName.bareEnd
  have hvalue : dropEndWhile isBlank c.value.toList = c.value.toList :=
    Text.dropEndWhile_eq_self c.plainValue.bareEnd
  rw [cookiesIn_eq, List.splitOn_eq_singleton hone, toList_text]
  simp [cookiePair?_eq, Text.cutFirst_append c.noEquals, hname, hvalue]

theorem cookiesIn_field (cs : List PlainCookie) :
    cookiesIn (field cs) = cs.map fun c => (c.name.toList, c.value.toList) := by
  have hjoin := @cookiesIn_intercalate " " (by simp [isBlank]) (cs.map text)
  rw [field, show "; " = ";" ++ " " by decide, hjoin, List.flatMap_map]
  simp only [cookiesIn_text]
  exact List.map_eq_flatMap.symm

end PlainCookie

/-! ### However they are spread -/

namespace Headers

/-- Fields that cannot be read are passed over, and hide nothing behind them. -/
theorem cookies_filter {h h' : Headers}
    (hfields : h'.all "cookie" = (h.all "cookie").filter isReadable) : h'.cookies = h.cookies := by
  rw [cookies, cookies, readAll_eq_filter, readAll_eq_filter, hfields, List.filter_filter]
  simp only [Bool.and_self]

theorem cookies_intercalate {h h' : Headers} {before fields after : List String} {gap : String}
    (hgap : ∀ c ∈ gap.toList, c = ' ') (hread : ∀ f ∈ fields, isReadable f = true)
    (hfields : h.all "cookie" = before ++ fields ++ after)
    (hjoined : h'.all "cookie" = before ++ [(";" ++ gap).intercalate fields] ++ after) :
    h'.cookies = h.cookies := by
  have hsep : isReadable (";" ++ gap) = true := by
    rw [isReadable_append, Bool.and_eq_true]
    refine ⟨by decide, List.all_eq_true.mpr fun c hc => ?_⟩
    rw [hgap c hc]
    decide
  have hkept : fields.filter isReadable = fields := List.filter_eq_self.mpr hread
  have hblank : ∀ c ∈ gap.toList, isBlank c = true := fun c hc => hgap c hc ▸ (by decide)
  rw [cookies, cookies, readAll_eq_filter, readAll_eq_filter, hfields, hjoined]
  simp only [List.filter_append, List.flatMap_append, hkept, List.filter_cons,
    isReadable_intercalate hsep hread, if_true, List.filter_nil, List.flatMap_singleton,
    cookiesIn_intercalate hblank]

theorem cookie?_fields {h : Headers} {groups : List (List PlainCookie)}
    (hfields : h.all "cookie" = groups.map PlainCookie.field) (name : String) :
    h.cookie? name = (groups.flatten.find? fun c => c.name = name).map PlainCookie.value := by
  have hread : (h.all "cookie").filter isReadable = h.all "cookie" := by
    refine List.filter_eq_self.mpr fun f hf => ?_
    rw [hfields] at hf
    obtain ⟨cs, -, rfl⟩ := List.mem_map.mp hf
    exact PlainCookie.isReadable_field cs
  have hcookies : h.cookies = groups.flatten.map fun c => (c.name.toList, c.value.toList) := by
    rw [cookies, readAll_eq_filter, hread, hfields, List.flatMap_map, List.map_flatten,
      ← List.flatMap_def]
    simp only [PlainCookie.cookiesIn_field]
  rw [cookie?, hcookies, List.find?_map, Option.map_map, Option.map_map]
  simp [Function.comp_def, PlainCookie.cookieText_value, String.toList_inj]

/-- **The first cookie of a name, however the cookies are spread.** A look-up goes along the line
of parts and takes the value of the first one that gives the name a value; it finds nothing if
there is none. So fields may be joined by semicolons, with spaces behind them or without, and a
field may be cut at any of its semicolons. Fields that cannot be read may be left out. Of cookies
that were written as they are, in any number of fields, the first value of a name comes back. -/
theorem cookie?_first (name : String) :
    (∀ (h : Headers) (v : String), h.cookie? name = some v ↔
      ∃ before part after raw, h.cookieParts = before ++ part :: after ∧
        (∀ p ∈ before, ∀ r, ¬ Sets p name r) ∧ Sets part name raw ∧ cookieText raw = v) ∧
    (∀ h : Headers, h.cookie? name = none ↔ ∀ p ∈ h.cookieParts, ∀ r, ¬ Sets p name r) ∧
    (∀ (h h' : Headers) (before fields after : List String) (gap : String),
      (∀ c ∈ gap.toList, c = ' ') → (∀ f ∈ fields, isReadable f = true) →
      h.all "cookie" = before ++ fields ++ after →
      h'.all "cookie" = before ++ [(";" ++ gap).intercalate fields] ++ after →
      h'.cookie? name = h.cookie? name) ∧
    (∀ h h' : Headers, h'.all "cookie" = (h.all "cookie").filter isReadable →
      h'.cookie? name = h.cookie? name) ∧
    (∀ (h : Headers) (groups : List (List PlainCookie)),
      h.all "cookie" = groups.map PlainCookie.field →
      h.cookie? name = (groups.flatten.find? fun c => c.name = name).map PlainCookie.value) := by
  have hcongr {h h' : Headers} (hcookies : h'.cookies = h.cookies) :
      h'.cookie? name = h.cookie? name := by
    rw [cookie?, hcookies, cookie?]
  refine ⟨fun h v => cookie?_eq_some_iff, fun h => cookie?_eq_none_iff, ?_, ?_, ?_⟩
  · intro h h' before fields after gap hgap hread hfields hjoined
    exact hcongr (cookies_intercalate hgap hread hfields hjoined)
  · intro h h' hfields
    exact hcongr (cookies_filter hfields)
  · intro h groups hfields
    exact cookie?_fields hfields name

namespace SpreadSample

/-- A part without a name, a field that cannot be read, and one name twice. -/
def apart : Headers :=
  ⟨[("cookie", "flag"), ("cookie", "aff=é"), ("cookie", "x=1;"), ("cookie", " aff = \"a=b\" "),
    ("cookie", "aff=c")]⟩

/-- The last three fields in one. -/
def joined : Headers :=
  ⟨[("cookie", "flag"), ("cookie", "aff=é"), ("cookie", "x=1;;  aff = \"a=b\" ; aff=c")]⟩

/-- The fields that can be read. -/
def readable : Headers :=
  ⟨[("cookie", "flag"), ("cookie", "x=1;;  aff = \"a=b\" ; aff=c")]⟩

/-- A cookie whose value has an equals sign in it. -/
def first : PlainCookie where
  name := "aff"
  value := "a=b"
  plainName := ⟨by decide, by decide, by simp [isBlank], by simp [isBlank]⟩
  plainValue := ⟨by decide, by decide, by simp [isBlank], by simp [isBlank]⟩
  noEquals := by decide
  noQuote := by decide

/-- A cookie of the same name without a value. -/
def second : PlainCookie where
  name := "aff"
  value := ""
  plainName := ⟨by decide, by decide, by simp [isBlank], by simp [isBlank]⟩
  plainValue := ⟨by decide, by decide, by simp [isBlank], by simp [isBlank]⟩
  noEquals := by decide
  noQuote := by decide

end SpreadSample

theorem cookie?_first_spread :
    SpreadSample.apart.cookie? "aff" = some "a=b" ∧
      SpreadSample.joined.cookie? "aff" = some "a=b" ∧
      SpreadSample.readable.cookie? "aff" = some "a=b" ∧
      (⟨[("cookie", ""), ("cookie", "aff=a=b; aff=")]⟩ : Headers).cookie? "aff" = some "a=b" := by
  obtain ⟨hfound, -, hjoined, hreadable, hwritten⟩ := cookie?_first "aff"
  have hothers : ∀ p ∈ ["flag".toList, "x=1".toList, []], isOf "aff" p = false := by decide
  have hapart : SpreadSample.apart.cookie? "aff" = some "a=b" := by
    refine (hfound _ _).mpr ⟨["flag".toList, "x=1".toList, []], " aff = \"a=b\" ".toList,
      ["aff=c".toList], " \"a=b\" ".toList, by decide, fun p hp r hr => ?_,
      ⟨" aff ".toList, by decide⟩, by decide⟩
    exact absurd (isOf_iff.mpr ⟨r, hr⟩) (by simp [hothers p hp])
  have hsame := hjoined SpreadSample.apart SpreadSample.joined ["flag", "aff=é"]
    ["x=1;", " aff = \"a=b\" ", "aff=c"] [] " " (by simp) (by decide) (by decide) (by decide)
  have hfiltered := hreadable SpreadSample.joined SpreadSample.readable (by decide)
  refine ⟨hapart, hsame.trans hapart, (hfiltered.trans hsame).trans hapart, ?_⟩
  exact hwritten _ [[], [SpreadSample.first, SpreadSample.second]] (by decide)

end Headers

end Http

end Gatehouse
