import Gatehouse.Proofs.Stripping

/-!
# Path prefixes as segments

A path prefix is tested on text: what stands behind it in the path must be nothing or begin with a
slash. What is meant is a rule about segments: those of the prefix come first among those of the
path.

## Where a piece ends

A text may begin with another one and still break off inside one of its pieces. It is cut into the
pieces of the other one, and more behind them, exactly if the other one ends where a piece ends
(`Text.splitOn_isPrefix_iff`), and that is what the test looks for.

Slashes at the end of a prefix would be empty segments, which the path would have to have as well;
so they do not count. A prefix of nothing else is one empty segment, and a path that begins with a
slash has that one in front of it.

## Main definitions

* `Condition.segments` — a path cut at its slashes

## Main results

* `Text.splitOn_isPrefix_iff` — when the pieces of one text are the first ones of another
* `Condition.isUnder_iff_segments` — the test on text as the rule about segments
* `Condition.ofPathPrefix_segments` — which paths a prefix matches, and which prefixes a path
-/

namespace Gatehouse

/-! ### Pieces that come first -/

namespace Text

variable {sep : Char} {a s : List Char}

theorem intercalate_append {l m : List (List Char)} (hl : l ≠ []) (hm : m ≠ []) :
    [sep].intercalate (l ++ m) = [sep].intercalate l ++ sep :: [sep].intercalate m := by
  induction l with
  | nil => exact absurd rfl hl
  | cons piece more ih =>
    rw [List.cons_append]
    by_cases hmore : more = []
    · simp [hmore, List.intercalate_cons_of_ne_nil hm]
    · have hne : more ++ m ≠ [] := by simp [hm]
      rw [List.intercalate_cons_of_ne_nil hne, List.intercalate_cons_of_ne_nil hmore, ih hmore]
      simp

/-- The pieces of one text are the first ones of another exactly if it begins the other one and
ends where a piece ends. -/
theorem splitOn_isPrefix_iff : List.splitOn sep a <+: List.splitOn sep s ↔
    ∃ rest, s = a ++ rest ∧ (rest = [] ∨ rest.head? = some sep) := by
  constructor
  · rintro ⟨more, hmore⟩
    have hjoin := congrArg [sep].intercalate hmore
    by_cases hnone : more = []
    · rw [hnone, List.append_nil, List.intercalate_splitOn, List.intercalate_splitOn] at hjoin
      exact ⟨[], by rw [List.append_nil, hjoin], .inl rfl⟩
    · rw [intercalate_append (List.splitOn_ne_nil sep a) hnone, List.intercalate_splitOn,
        List.intercalate_splitOn] at hjoin
      exact ⟨_, hjoin.symm, .inr rfl⟩
  · rintro ⟨rest, rfl, rfl | hrest⟩
    · simp
    · obtain ⟨r, rfl⟩ := List.head?_eq_some_iff.mp hrest
      rw [List.splitOn_append_cons_self]
      exact List.prefix_append _ _

/-- Separators dropped at the end take no piece away from a start that does not end in one. -/
theorem splitOn_isPrefix_dropEndWhile (ha : a.getLast? ≠ some sep)
    (h : List.splitOn sep a <+: List.splitOn sep s) :
    List.splitOn sep a <+: List.splitOn sep (dropEndWhile (· == sep) s) := by
  obtain ⟨rest, rfl, hrest⟩ := splitOn_isPrefix_iff.mp h
  rw [splitOn_isPrefix_iff]
  by_cases hall : ∀ c ∈ rest, c = sep
  · have hself : dropEndWhile (· == sep) a = a :=
      dropEndWhile_eq_self fun c hc => by
        have hne : c ≠ sep := fun he => ha (he ▸ hc)
        simpa using hne
    refine ⟨[], ?_, .inl rfl⟩
    rw [dropEndWhile_append_of_forall (by simpa using hall), hself, List.append_nil]
  · -- Up to the last character that is none of them, what is behind the start stays.
    obtain ⟨c, hc, hne⟩ : ∃ c ∈ rest, c ≠ sep := by simpa using hall
    obtain ⟨front, back, rfl⟩ := List.append_of_mem hc
    refine ⟨front ++ c :: dropEndWhile (· == sep) back, ?_, ?_⟩
    · rw [← List.append_assoc, dropEndWhile_append_cons (by simpa using hne), List.append_assoc]
    · cases front with
      | nil => simp [hne] at hrest
      | cons d r => exact .inr (by simpa using hrest)

end Text

/-! ### Prefixes of paths -/

namespace Condition

variable {start path more : List Char} {r : RequestHead} {p : String}

/-- The segments of a path: what stands between its slashes, in front of the first one and behind
the last one. -/
def segments (path : String) : List (List Char) := List.splitOn '/' path.toList

/-- A path is under a prefix if the segments of the prefix are its first ones. -/
theorem isUnder_iff_segments (hslash : path.head? = some '/') :
    isUnder start path = true ↔ List.splitOn '/' start <+: List.splitOn '/' path := by
  rw [isUnder_iff, Text.splitOn_isPrefix_iff]
  refine or_iff_right_of_imp ?_
  rintro rfl
  exact ⟨path, rfl, .inr hslash⟩

/-- More behind a path leaves it under a prefix, unless it goes on in the path's last segment. -/
theorem isUnder_append (hstart : start.getLast? ≠ some '/') (h : isUnder start path = true)
    (hmore : more = [] ∨ more.head? = some '/' ∨ path.getLast? = some '/') :
    isUnder start (path ++ more) = true := by
  rw [isUnder_iff] at h ⊢
  rcases h with h | ⟨rest, rfl, hrest⟩
  · exact .inl h
  · refine .inr ⟨rest ++ more, List.append_assoc _ _ _, ?_⟩
    rcases hrest with rfl | hrest
    · rw [List.append_nil] at hmore
      rw [List.nil_append]
      exact hmore.imp_right fun h => h.resolve_right hstart
    · exact .inr (by rw [List.head?_append, hrest, Option.some_or])

theorem holds_ofPathPrefix (r : RequestHead) (p : String) :
    holds r (.ofPathPrefix p) =
      isUnder (Text.dropEndWhile (· == '/') p.toList) r.target.path.toList := by
  rw [ofPathPrefix, holds]

theorem segments_trimEndOf (p : String) :
    segments (Text.trimEndOf '/' p) =
      List.splitOn '/' (Text.dropEndWhile (· == '/') p.toList) := by
  rw [segments, Text.trimEndOf, String.toList_ofList]

/-- **A path prefix matches whole segments.** A path that begins with a slash is matched exactly if
the segments of the prefix, its slashes at the end apart, are the first segments of the path; a
prefix of slashes alone, or of nothing, matches everything. So whatever matches a path also matches
the path with further segments behind it, and any prefix that is made of the first segments of one
that matches does too. -/
theorem ofPathPrefix_segments (p : String) (hslash : r.target.path.toList.head? = some '/') :
    (holds r (.ofPathPrefix p) = true ↔
      segments (Text.trimEndOf '/' p) <+: segments r.target.path) ∧
    ((∀ c ∈ p.toList, c = '/') → ∀ r', holds r' (.ofPathPrefix p) = true) ∧
    (holds r (.ofPathPrefix p) = true →
      (∀ r' : RequestHead, segments r.target.path <+: segments r'.target.path ∨
        (r.target.path.toList.getLast? = some '/' ∧
          r.target.path.toList <+: r'.target.path.toList) →
        holds r' (.ofPathPrefix p) = true) ∧
      ∀ q : String, segments (Text.trimEndOf '/' q) <+: segments p →
        holds r (.ofPathPrefix q) = true) := by
  have hmatches (q : String) : holds r (.ofPathPrefix q) = true ↔
      segments (Text.trimEndOf '/' q) <+: segments r.target.path := by
    rw [holds_ofPathPrefix, segments_trimEndOf, isUnder_iff_segments hslash, segments]
  refine ⟨hmatches p, fun hall r' => ?_, fun h => ⟨fun r' hlonger => ?_, fun q hshorter => ?_⟩⟩
  · have hnone : Text.dropEndWhile (· == '/') p.toList = [] := by
      rw [Text.dropEndWhile_eq_rdropWhile, List.rdropWhile_eq_nil_iff]
      simpa using hall
    rw [holds_ofPathPrefix, hnone, isUnder_iff]
    exact .inl rfl
  · rw [holds_ofPathPrefix] at h ⊢
    rcases hlonger with hlonger | ⟨hlast, more, hmore⟩
    · obtain ⟨more, hpath, hmore⟩ := Text.splitOn_isPrefix_iff.mp hlonger
      rw [hpath]
      exact isUnder_append (Text.getLast?_dropEndWhile_ne '/' _) h (hmore.imp_right .inl)
    · rw [← hmore]
      exact isUnder_append (Text.getLast?_dropEndWhile_ne '/' _) h (.inr (.inr hlast))
  · rw [hmatches, segments_trimEndOf]
    rw [segments_trimEndOf] at hshorter
    rw [hmatches, segments_trimEndOf] at h
    have hends := Text.getLast?_dropEndWhile_ne '/' q.toList
    exact (Text.splitOn_isPrefix_dropEndWhile hends hshorter).trans h

namespace SegmentSample

/-- A request with an empty segment in its path and a query. -/
def deep : RequestHead := { target := .origin "/api//v1/?x=/api" }

/-- The same path with more behind it. -/
def deeper : RequestHead := { target := .origin "/api//v1/users" }

end SegmentSample

theorem ofPathPrefix_segments_deep :
    SegmentSample.deep.target.path.toList.head? = some '/' ∧
    holds SegmentSample.deep (.ofPathPrefix "/api//v1//") = true ∧
    holds SegmentSample.deeper (.ofPathPrefix "/api//v1//") = true ∧
    holds SegmentSample.deep (.ofPathPrefix "/api/") = true ∧
    holds SegmentSample.deep (.ofPathPrefix "/api/v1") = false := by
  have hslash : SegmentSample.deep.target.path.toList.head? = some '/' := by decide
  obtain ⟨hmatches, -, hmore⟩ := ofPathPrefix_segments "/api//v1//" hslash
  have hholds := hmatches.mpr (by decide)
  obtain ⟨hlonger, hshorter⟩ := hmore hholds
  refine ⟨hslash, hholds, hlonger _ (.inr (by decide)), hshorter _ (by decide), ?_⟩
  rw [← Bool.not_eq_true, (ofPathPrefix_segments "/api/v1" hslash).1]
  decide

end Condition

end Gatehouse
