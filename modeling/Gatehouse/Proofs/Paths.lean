import Gatehouse.Proofs.Texts
import Gatehouse.Url.Reader

/-!
# Paths under a base

A path that is put behind another one need not stay there: its segments are walked, and `..` leads
up.

## How far a path climbs

`climbs` counts the segments that mean the place above and find nothing of the path itself to take
away. It does not look at what the path was put behind, so what a walk makes of a base is settled
before the base is known: it loses as many segments as the path climbs, and the rest of the result
is what the path would be alone (`walk_append`). At the root there is nothing to lose, which is why
the count is cut off there.

## Main definitions

* `Url.IsOrdinary` — a segment of letters and digits, which stands for itself
* `Url.climbs` — how many segments of its base a path takes away
* `Url.Path.IsBelow` — a path and another one behind it

## Main results

* `Url.walk_ordinary` — ordinary segments are walked to as they are
* `Url.walk_append` — a walk behind a base
* `Url.walk_isBelow_iff` — when a walk from a base ends below it
-/

namespace Gatehouse

namespace Url

variable {kind : Kind} {base place : List String}

/-! ### Letters and digits -/

/-- The letters and digits of ASCII. -/
def isAlphanumeric (c : Char) : Bool := Text.isAlpha c || Text.isDigit c

section

variable {c d : Char}

theorem range_of_alphanumeric (h : isAlphanumeric c = true) : 0x20 < c.toNat ∧ c.toNat < 0x80 := by
  simp only [isAlphanumeric, Text.isAlpha, Text.isDigit, Bool.or_eq_true, Bool.and_eq_true,
    decide_eq_true_eq, Char.le_def, UInt32.le_iff_toNat_le] at h
  have h0 : ('0' : Char).val.toNat = 48 := rfl
  have h9 : ('9' : Char).val.toNat = 57 := rfl
  have ha : ('a' : Char).val.toNat = 97 := rfl
  have hz : ('z' : Char).val.toNat = 122 := rfl
  have hA : ('A' : Char).val.toNat = 65 := rfl
  have hZ : ('Z' : Char).val.toNat = 90 := rfl
  rw [Char.toNat]
  omega

theorem ne_of_alphanumeric (h : isAlphanumeric c = true) (hd : isAlphanumeric d = false) :
    c ≠ d := by
  rintro rfl
  exact absurd (h.symm.trans hd) (by decide)

theorem lowerAscii_of_alphanumeric (h : isAlphanumeric c = true) :
    isAlphanumeric (Text.lowerAscii c) = true :=
  Text.forall_ascii
    (P := fun c => isAlphanumeric c = true → isAlphanumeric (Text.lowerAscii c) = true)
    (by decide) (range_of_alphanumeric h).2 h

theorem codedInPath_of_alphanumeric (h : isAlphanumeric c = true) : codedInPath c = false :=
  Text.forall_ascii (P := fun c => isAlphanumeric c = true → codedInPath c = false) (by decide)
    (range_of_alphanumeric h).2 h

theorem endsPath_of_alphanumeric (h : isAlphanumeric c = true) : endsPath c = false := by
  simp [endsPath, ne_of_alphanumeric h (d := '?') (by decide),
    ne_of_alphanumeric h (d := '#') (by decide)]

end

/-! ### Ordinary segments -/

/-- A segment of letters and digits. -/
def IsOrdinary (s : String) : Prop := s ≠ "" ∧ ∀ c ∈ s.toList, isAlphanumeric c = true

theorem isOrdinary_iff {s : String} :
    IsOrdinary s ↔ s ≠ "" ∧ s.toList.all isAlphanumeric = true := by
  rw [IsOrdinary, List.all_eq_true]

instance (s : String) : Decidable (IsOrdinary s) := decidable_of_iff' _ isOrdinary_iff

namespace IsOrdinary

variable {s : String}

/-- An ordinary segment does not begin as those that mean a place do. -/
theorem exists_cons (h : IsOrdinary s) : ∃ c r, s.toList = c :: r ∧ Text.lowerAscii c ≠ '.' ∧
    Text.lowerAscii c ≠ '%' := by
  cases hs : s.toList with
  | nil => exact absurd (String.toList_eq_nil_iff.mp hs) h.1
  | cons c r =>
    have hlower := lowerAscii_of_alphanumeric (h.2 c (by simp [hs]))
    exact ⟨c, r, rfl, ne_of_alphanumeric hlower (by decide), ne_of_alphanumeric hlower (by decide)⟩

theorem isDoubleDot (h : IsOrdinary s) : isDoubleDot s.toList = false := by
  obtain ⟨c, r, hs, hdot, hpercent⟩ := h.exists_cons
  simp [Url.isDoubleDot, hs, hdot, hpercent]

theorem isSingleDot (h : IsOrdinary s) : isSingleDot s.toList = false := by
  obtain ⟨c, r, hs, hdot, hpercent⟩ := h.exists_cons
  simp [Url.isSingleDot, hs, hdot, hpercent]

theorem namesDrive (h : IsOrdinary s) : namesDrive s.toList = false := by
  have hcolon (c : Char) (hc : c ∈ s.toList) : c ≠ ':' := ne_of_alphanumeric (h.2 c hc) (by decide)
  have hbar (c : Char) (hc : c ∈ s.toList) : c ≠ '|' := ne_of_alphanumeric (h.2 c hc) (by decide)
  rw [Url.namesDrive.eq_def]
  split
  · rename_i a b hs
    simp [hcolon b (by simp [hs]), hbar b (by simp [hs])]
  · rename_i a b c r hs
    simp [hcolon b (by simp [hs]), hbar b (by simp [hs])]
  · rfl

theorem notMem (h : IsOrdinary s) : '/' ∉ s.toList :=
  fun hc => ne_of_alphanumeric (h.2 _ hc) (by decide) rfl

/-- An ordinary segment is written as it is. -/
theorem coded (h : IsOrdinary s) : coded codedInPath s.toList = s := by
  have hid : Text.percentEncode codedInPath s.toList = s.toList :=
    Text.percentEncode_eq_self fun c hc =>
      ⟨(range_of_alphanumeric (h.2 c hc)).2, codedInPath_of_alphanumeric (h.2 c hc)⟩
  rw [Url.coded, hid, String.ofList_toList]

end IsOrdinary

/-! ### One segment more -/

/-- The place after one segment more, which may be the last one. -/
def step (kind : Kind) (place : List String) (s : List Char) (last : Bool) : List String :=
  if isDoubleDot s then dropLastSegment place ++ if last then [""] else []
  else if isSingleDot s then place ++ if last then [""] else []
  else place ++ [segmentText kind place.isEmpty s]

theorem walk_cons (kind : Kind) (place : List String) (s : List Char) (r : List (List Char)) :
    walk kind place (s :: r) = walk kind (step kind place s r.isEmpty) r := rfl

theorem segmentText_eq (h : kind ≠ .file) (first : Bool) (s : List Char) :
    segmentText kind first s = coded codedInPath s := by
  cases kind with
  | file => exact absurd rfl h
  | special => rfl
  | other => rfl

/-- Behind a base, the last segment is one of the base only if there is none behind it. -/
theorem dropLastSegment_append (hbase : ∀ s ∈ base, IsOrdinary s) (place : List String) :
    dropLastSegment (base ++ place) =
      base.take (base.length - if place = [] then 1 else 0) ++ dropLastSegment place := by
  by_cases hplace : place = []
  · subst hplace
    cases hlast : base.getLast? with
    | none => simp [dropLastSegment, List.getLast?_eq_none_iff.mp hlast]
    | some s =>
      have hs := (hbase s (List.mem_of_getLast? hlast)).namesDrive
      simp [dropLastSegment, hlast, hs, List.dropLast_eq_take]
  · obtain ⟨front, s, rfl⟩ := List.eq_nil_or_concat' place |>.resolve_left hplace
    by_cases hs : namesDrive s.toList <;>
      simp [dropLastSegment, hs, ← List.append_assoc]

/-- How many segments of its base a segment takes away. -/
def climb (place : List String) (s : List Char) : Nat :=
  if isDoubleDot s ∧ place = [] then 1 else 0

theorem step_append (hkind : kind ≠ .file) (hbase : ∀ s ∈ base, IsOrdinary s)
    (place : List String) (s : List Char) (last : Bool) :
    step kind (base ++ place) s last =
      base.take (base.length - climb place s) ++ step kind place s last := by
  by_cases hdouble : isDoubleDot s
  · simp [step, climb, hdouble, dropLastSegment_append hbase]
  · by_cases hsingle : isSingleDot s
    · simp [step, climb, hdouble, hsingle]
    · simp [step, climb, hdouble, hsingle, segmentText_eq hkind]

theorem mem_of_mem_dropLastSegment {s : String} (h : s ∈ dropLastSegment place) : s ∈ place := by
  rw [dropLastSegment] at h
  split at h
  · split at h
    · exact h
    · exact List.dropLast_subset place h
  · simp at h

/-- One segment more brings in itself at most, or the empty one behind a slash at the end. -/
theorem mem_step (hkind : kind ≠ .file) {s : List Char} {last : Bool} {t : String}
    (h : t ∈ step kind place s last) : t ∈ place ∨ t = "" ∨ t = coded codedInPath s := by
  have hend (h : t ∈ if last then [""] else []) : t = "" := by
    cases last with
    | false => simp at h
    | true => exact List.mem_singleton.mp h
  rw [step] at h
  split at h
  · rcases List.mem_append.mp h with h | h
    · exact .inl (mem_of_mem_dropLastSegment h)
    · exact .inr (.inl (hend h))
  · split at h
    · rcases List.mem_append.mp h with h | h
      · exact .inl h
      · exact .inr (.inl (hend h))
    · rcases List.mem_append.mp h with h | h
      · exact .inl h
      · exact .inr (.inr ((List.mem_singleton.mp h).trans (segmentText_eq hkind _ s)))

/-! ### All segments -/

/-- How many segments of its base a path takes away, from a place behind the base. -/
def climbs (kind : Kind) (place : List String) : List (List Char) → Nat
  | [] => 0
  | s :: r => climb place s + climbs kind (step kind place s r.isEmpty) r

/-- A walk behind a base takes away what it climbs, and goes on as it would alone. -/
theorem walk_append (hkind : kind ≠ .file) (hbase : ∀ s ∈ base, IsOrdinary s)
    (place : List String) (segs : List (List Char)) :
    walk kind (base ++ place) segs =
      base.take (base.length - climbs kind place segs) ++ walk kind place segs := by
  induction segs generalizing base place with
  | nil => simp [walk, climbs]
  | cons s r ih =>
    have hkept : ∀ t ∈ base.take (base.length - climb place s), IsOrdinary t :=
      fun t ht => hbase t (List.mem_of_mem_take ht)
    rw [walk_cons, walk_cons, step_append hkind hbase, ih hkept, List.take_take, climbs]
    congr 2
    simp only [List.length_take]
    omega

theorem walk_ordinary (hkind : kind ≠ .file) (hbase : ∀ s ∈ base, IsOrdinary s)
    (place : List String) (segs : List (List Char)) :
    walk kind place (base.map String.toList ++ segs) = walk kind (place ++ base) segs := by
  induction base generalizing place with
  | nil => simp
  | cons s r ih =>
    have hs := hbase s List.mem_cons_self
    rw [List.map_cons, List.cons_append, walk_cons, step, if_neg (by simp [hs.isDoubleDot]),
      if_neg (by simp [hs.isSingleDot]), segmentText_eq hkind, hs.coded,
      ih (fun t ht => hbase t (List.mem_cons_of_mem s ht)), List.append_assoc,
      List.singleton_append]

theorem walk_ne_nil {segs : List (List Char)} (h : segs ≠ []) : walk kind place segs ≠ [] := by
  induction segs generalizing place with
  | nil => exact absurd rfl h
  | cons s r ih =>
    rw [walk_cons]
    cases r with
    | nil =>
      rw [walk, step]
      split
      · simp
      · split <;> simp
    | cons t r => exact ih (by simp)

/-- A walk keeps slashes out of the segments. -/
theorem notMem_walk (hkind : kind ≠ .file) {segs : List (List Char)}
    (hsegs : ∀ s ∈ segs, '/' ∉ s) (hplace : ∀ s ∈ place, '/' ∉ s.toList) :
    ∀ s ∈ walk kind place segs, '/' ∉ s.toList := by
  induction segs generalizing place with
  | nil => exact hplace
  | cons s r ih =>
    rw [walk_cons]
    refine ih (fun t ht => hsegs t (List.mem_cons_of_mem s ht)) fun t ht => ?_
    rcases mem_step hkind ht with ht | rfl | rfl
    · exact hplace t ht
    · decide
    · rw [coded, String.toList_ofList]
      exact Text.notMem_percentEncode (by decide) (by decide) (hsegs s List.mem_cons_self)

/-! ### The text of a path -/

theorem toList_text_segments (ss : List String) :
    (Path.segments ss).text.toList = ss.flatMap fun s => '/' :: s.toList := by
  rw [Path.text, String.toList_join, List.flatMap_map]
  simp

theorem splitOn_segments {s : List Char} (hs : '/' ∉ s) (hbase : ∀ u ∈ base, '/' ∉ u.toList)
    (t : List Char) :
    List.splitOn '/' (s ++ ((base.flatMap fun u => '/' :: u.toList) ++ '/' :: t)) =
      s :: base.map String.toList ++ List.splitOn '/' t := by
  induction base generalizing s with
  | nil => simp [List.splitOn_append_cons_self_of_not_mem hs]
  | cons u r ih =>
    have hu := ih (hbase u List.mem_cons_self) fun v hv => hbase v (List.mem_cons_of_mem u hv)
    simp only [List.flatMap_cons, List.cons_append, List.append_assoc, List.map_cons]
    rw [List.splitOn_append_cons_self_of_not_mem hs, hu, List.cons_append]

/-- Behind the text of a path, the next segments are cut off after all of its own. -/
theorem splitOn_text_append (hbase : ∀ s ∈ base, '/' ∉ s.toList) (t : List Char) :
    List.splitOn '/' ((Path.segments base).text.toList ++ '/' :: t) =
      [] :: base.map String.toList ++ List.splitOn '/' t := by
  have h := splitOn_segments (s := []) (by simp) hbase t
  rwa [List.nil_append, ← toList_text_segments] at h

theorem splitOn_text {ss : List String} (hss : ∀ s ∈ ss, '/' ∉ s.toList) :
    List.splitOn '/' (Path.segments ss).text.toList = [] :: ss.map String.toList := by
  obtain rfl | ⟨front, last, rfl⟩ := List.eq_nil_or_concat' ss
  · simp [toList_text_segments]
  · have hfront : ∀ s ∈ front, '/' ∉ s.toList := fun s hs => hss s (List.mem_append_left _ hs)
    have hlast : List.splitOn '/' last.toList = [last.toList] :=
      List.splitOn_eq_singleton (hss last (by simp))
    have hcut := splitOn_text_append hfront last.toList
    rw [hlast] at hcut
    simpa [toList_text_segments] using hcut

/-- One path stands below another: it is the other one and a path behind it. -/
def Path.IsBelow (path above : Path) : Prop := ∃ rest, path.text = above.text ++ "/" ++ rest

theorem isBelow_iff {ss : List String} (hbase : ∀ s ∈ base, '/' ∉ s.toList)
    (hss : ∀ s ∈ ss, '/' ∉ s.toList) :
    (Path.segments ss).IsBelow (.segments base) ↔ ∃ s r, ss = base ++ s :: r := by
  constructor
  · rintro ⟨rest, htext⟩
    have hlist : (Path.segments ss).text.toList =
        (Path.segments base).text.toList ++ '/' :: rest.toList := by
      rw [htext]
      simp
    have hcut := splitOn_text_append hbase rest.toList
    rw [← hlist, splitOn_text hss, List.cons_append, List.cons.injEq] at hcut
    obtain ⟨front, behind, rfl, hfront, hbehind⟩ := List.map_eq_append_iff.mp hcut.2
    have hsame : front = base := List.map_injective_iff.mpr (fun _ _ => String.toList_inj.mp) hfront
    cases behind with
    | nil => exact absurd hbehind.symm (List.splitOn_ne_nil '/' rest.toList)
    | cons s r => exact ⟨s, r, by rw [hsame]⟩
  · rintro ⟨s, r, rfl⟩
    refine ⟨s ++ (Path.segments r).text, ?_⟩
    rw [← String.toList_inj]
    simp [toList_text_segments]

/-- A walk from a base ends below it if what it makes of the path alone begins with what the path
took away from the base. -/
theorem walk_isBelow_iff (hkind : kind ≠ .file) (hbase : ∀ s ∈ base, IsOrdinary s)
    {segs : List (List Char)} (hsegs : ∀ s ∈ segs, '/' ∉ s) :
    (Path.segments (walk kind base segs)).IsBelow (.segments base) ↔
      ∃ s r, walk kind [] segs =
        base.drop (base.length - climbs kind [] segs) ++ s :: r := by
  have hslashless : ∀ s ∈ base, '/' ∉ s.toList := fun s hs => (hbase s hs).notMem
  have hwalk := walk_append hkind hbase [] segs
  rw [List.append_nil] at hwalk
  rw [isBelow_iff hslashless (notMem_walk hkind hsegs hslashless), hwalk]
  generalize base.length - climbs kind [] segs = kept
  have hcancel (r : List String) :
      base.take kept ++ walk kind [] segs = base ++ r ↔
        walk kind [] segs = base.drop kept ++ r := by
    rw [← List.append_cancel_left_eq (base.take kept) (walk kind [] segs), ← List.append_assoc,
      List.take_append_drop]
  simp only [hcancel]

/-- A path that does not climb stays below its base. -/
theorem walk_isBelow_of_climbs_eq_zero (hkind : kind ≠ .file) (hbase : ∀ s ∈ base, IsOrdinary s)
    {segs : List (List Char)} (hne : segs ≠ []) (hsegs : ∀ s ∈ segs, '/' ∉ s)
    (h : climbs kind [] segs = 0) :
    (Path.segments (walk kind base segs)).IsBelow (.segments base) := by
  rw [walk_isBelow_iff hkind hbase hsegs, h, Nat.sub_zero, List.drop_length]
  exact List.exists_cons_of_ne_nil (walk_ne_nil hne)

end Url

end Gatehouse
