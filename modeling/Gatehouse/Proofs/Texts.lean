import Gatehouse.Text.Percent
import Mathlib.Data.List.DropRight

/-!
# Text that is cut and trimmed

What the functions on pieces of text do, for the proofs that follow a piece from the place where it
is cut off to the place where it is put in.
-/

namespace Gatehouse

namespace Text

variable {sep : Char} {a b s t : List Char}

/-- What holds of the first 128 characters holds of each in ASCII. -/
theorem forall_ascii {P : Char → Prop} (h : ∀ n < 128, P (Char.ofNat n)) {c : Char}
    (hc : c.toNat < 128) : P c := by
  simpa using h c.toNat hc

theorem after?_eq_some_iff {r : List Char} : after? t s = some r ↔ s = t ++ r := by
  rw [after?, List.isPrefixOf?_eq_some_iff_append_eq, eq_comm]

/-! ### The start of a text -/

section

variable {p : Char → Bool} {c : Char}

theorem takeWhile_append_stop (hc : p c = false) (a b : List Char) :
    (a ++ c :: b).takeWhile p = a.takeWhile p := by
  induction a with
  | nil => exact List.takeWhile_cons_of_neg (by simp [hc])
  | cons d a ih => simp only [List.cons_append, List.takeWhile_cons, ih]

theorem dropWhile_append_stop (hc : p c = false) (a b : List Char) :
    (a ++ c :: b).dropWhile p = a.dropWhile p ++ c :: b := by
  induction a with
  | nil => exact List.dropWhile_cons_of_neg (by simp [hc])
  | cons d a ih =>
    simp only [List.cons_append, List.dropWhile_cons, ih]
    split <;> rfl

theorem takeWhile_append_cons (ha : ∀ d ∈ a, p d = true) (hc : p c = false) (b : List Char) :
    (a ++ c :: b).takeWhile p = a := by
  rw [takeWhile_append_stop hc, List.takeWhile_eq_self_iff.mpr ha]

theorem dropWhile_append_cons (ha : ∀ d ∈ a, p d = true) (hc : p c = false) (b : List Char) :
    (a ++ c :: b).dropWhile p = c :: b := by
  rw [dropWhile_append_stop hc, List.dropWhile_eq_nil_iff.mpr ha, List.nil_append]

end

/-! ### The first separator -/

theorem cutFirst_append (h : sep ∉ a) (b : List Char) :
    cutFirst sep (a ++ sep :: b) = some (a, b) := by
  induction a with
  | nil => simp [cutFirst]
  | cons c r ih =>
    simp only [List.mem_cons, not_or] at h
    simp [cutFirst, Ne.symm h.1, ih h.2]

theorem cutFirst_eq_some_iff : cutFirst sep s = some (a, b) ↔ s = a ++ sep :: b ∧ sep ∉ a :=
  ⟨cutFirst_eq_some, fun h => h.1 ▸ cutFirst_append h.2 b⟩

/-- What was joined at a separator has one first part without it. -/
theorem eq_of_join_eq {a' b' : List Char} (h : sep ∉ a) (h' : sep ∉ a')
    (he : a ++ sep :: b = a' ++ sep :: b') : a = a' ∧ b = b' := by
  have hcut := cutFirst_append h b
  rw [he, cutFirst_append h' b'] at hcut
  simpa [eq_comm] using hcut

theorem cutFirst_eq_none_iff : cutFirst sep s = none ↔ sep ∉ s := by
  induction s with
  | nil => simp [cutFirst]
  | cons c r ih =>
    by_cases hc : c = sep
    · simp [cutFirst, hc]
    · simp [cutFirst, hc, Ne.symm hc, ih]

theorem takeWhile_ne_append (h : sep ∉ a) (b : List Char) :
    (a ++ sep :: b).takeWhile (· ≠ sep) = a := by
  refine takeWhile_append_cons (fun c hc => ?_) (by simp) b
  have hne : c ≠ sep := fun he => h (he ▸ hc)
  simpa using hne

theorem takeWhile_ne_of_notMem (h : sep ∉ s) : s.takeWhile (· ≠ sep) = s := by
  rw [List.takeWhile_eq_self_iff]
  intro c hc
  have hne : c ≠ sep := fun he => h (he ▸ hc)
  simpa using hne

theorem notMem_takeWhile_ne : sep ∉ s.takeWhile (· ≠ sep) := by
  intro h
  simpa using List.mem_takeWhile_imp h

/-! ### The last separator -/

theorem cutLast_of_notMem (h : sep ∉ s) : cutLast sep s = none := by
  induction s with
  | nil => rfl
  | cons c r ih =>
    simp only [List.mem_cons, not_or] at h
    rw [cutLast, ih h.2]
    exact if_neg (Ne.symm h.1)

theorem cutLast_ne_none (h : sep ∈ s) : cutLast sep s ≠ none := by
  induction s with
  | nil => simp at h
  | cons c r ih =>
    rw [cutLast]
    cases hr : cutLast sep r with
    | some parts => simp
    | none =>
      rcases List.mem_cons.mp h with rfl | h
      · simp
      · exact absurd hr (ih h)

theorem cutLast_append (h : sep ∉ b) (a : List Char) :
    cutLast sep (a ++ sep :: b) = some (a, b) := by
  induction a with
  | nil => simp [cutLast, cutLast_of_notMem h]
  | cons c r ih => rw [List.cons_append, cutLast, ih]

theorem cutLast_eq_some (h : cutLast sep s = some (a, b)) : s = a ++ sep :: b ∧ sep ∉ b := by
  induction s generalizing a with
  | nil => simp [cutLast] at h
  | cons c r ih =>
    rw [cutLast] at h
    cases hr : cutLast sep r with
    | some parts =>
      obtain ⟨a', b'⟩ := parts
      rw [hr] at h
      obtain ⟨rfl, rfl⟩ := Prod.mk.inj (Option.some.inj h)
      obtain ⟨rfl, hb⟩ := ih hr
      exact ⟨rfl, hb⟩
    | none =>
      rw [hr] at h
      by_cases hc : c = sep
      · rw [if_pos hc] at h
        obtain ⟨rfl, rfl⟩ := Prod.mk.inj (Option.some.inj h)
        exact ⟨by rw [hc, List.nil_append], fun hb => absurd hr (cutLast_ne_none hb)⟩
      · simp [hc] at h

/-- A map that neither makes nor loses separators leaves the cut where it is. -/
theorem cutLast_map {f : Char → Char} (hf : ∀ c, f c = sep ↔ c = sep) (s : List Char) :
    cutLast sep (s.map f) = (cutLast sep s).map fun p => (p.1.map f, p.2.map f) := by
  induction s with
  | nil => rfl
  | cons c r ih =>
    rw [List.map_cons, cutLast, cutLast, ih]
    cases cutLast sep r with
    | some parts => rfl
    | none => by_cases hc : c = sep <;> simp [hf, hc]

/-! ### All separators -/

theorem splitOn_append_of_notMem (h : sep ∉ a) (b : List Char) :
    (a ++ b).splitOn sep = (b.splitOn sep).modifyHead (a ++ ·) := by
  induction a with
  | nil =>
    rw [List.nil_append]
    cases b.splitOn sep <;> rfl
  | cons c r ih =>
    obtain ⟨hc, hr⟩ := not_or.mp (mt List.mem_cons.mpr h)
    rw [List.cons_append, List.splitOn_cons_eq_if_modifyHead, if_neg (by simpa using Ne.symm hc),
      ih hr, List.modifyHead_modifyHead]
    rfl

/-- A piece is a piece of what follows the first character, or it begins with that character. -/
theorem mem_splitOn_cons {c : Char} (h : a ∈ (c :: s).splitOn sep) :
    a = [] ∨ a ∈ s.splitOn sep ∨ c ≠ sep ∧ ∃ piece ∈ s.splitOn sep, a = c :: piece := by
  rw [List.splitOn_cons_eq_if_modifyHead] at h
  split at h
  · exact (List.mem_cons.mp h).imp_right .inl
  · rename_i hc
    cases hs : s.splitOn sep with
    | nil => exact absurd hs (List.splitOn_ne_nil sep s)
    | cons piece more =>
      rw [hs, List.modifyHead_cons] at h
      rcases List.mem_cons.mp h with rfl | h
      · exact .inr (.inr ⟨by simpa using hc, piece, List.mem_cons_self, rfl⟩)
      · exact .inr (.inl (List.mem_cons_of_mem piece h))

theorem notMem_of_mem_splitOn (h : a ∈ s.splitOn sep) : sep ∉ a := by
  induction s generalizing a with
  | nil => simp_all [List.splitOn_nil]
  | cons c r ih =>
    rcases mem_splitOn_cons h with rfl | h | ⟨hc, piece, hpiece, rfl⟩
    · exact List.not_mem_nil
    · exact ih h
    · simp [Ne.symm hc, ih hpiece]

theorem mem_of_mem_splitOn {c : Char} (h : a ∈ s.splitOn sep) (hc : c ∈ a) : c ∈ s := by
  induction s generalizing a with
  | nil => simp_all [List.splitOn_nil]
  | cons d r ih =>
    rcases mem_splitOn_cons h with rfl | h | ⟨-, piece, hpiece, rfl⟩
    · simp at hc
    · exact List.mem_cons_of_mem d (ih h hc)
    · rcases List.mem_cons.mp hc with rfl | hc
      · exact List.mem_cons_self
      · exact List.mem_cons_of_mem d (ih hpiece hc)

/-! ### Trimming -/

section

variable {p : Char → Bool} {c : Char}

theorem dropEndWhile_eq_rdropWhile (p : Char → Bool) (s : List Char) :
    dropEndWhile p s = s.rdropWhile p := rfl

theorem getLast?_dropEndWhile (h : (dropEndWhile p s).getLast? = some c) : p c = false := by
  have hhead := List.head?_dropWhile_not p s.reverse
  rw [dropEndWhile, List.getLast?_reverse] at h
  rw [h] at hhead
  exact hhead

/-- What is dropped at the end is not the last one any more. -/
theorem getLast?_dropEndWhile_ne (sep : Char) (s : List Char) :
    (dropEndWhile (· == sep) s).getLast? ≠ some sep := by
  intro h
  simpa using getLast?_dropEndWhile h

theorem dropEndWhile_append_cons (hc : p c = false) (a b : List Char) :
    dropEndWhile p (a ++ c :: b) = a ++ c :: dropEndWhile p b := by
  rw [dropEndWhile, dropEndWhile, List.reverse_append, List.reverse_cons, List.append_assoc,
    List.dropWhile_append]
  split
  · rename_i h
    simp [List.isEmpty_iff.mp h, hc]
  · simp

theorem dropEndWhile_append_of_forall {b : List Char} (hb : ∀ d ∈ b, p d = true) (a : List Char) :
    dropEndWhile p (a ++ b) = dropEndWhile p a := by
  have hreverse : ∀ d ∈ b.reverse, p d = true := fun d hd => hb d (List.mem_reverse.mp hd)
  rw [dropEndWhile, List.reverse_append, List.dropWhile_append_of_pos hreverse, dropEndWhile]

theorem trimWhere_eq_nil_iff : trimWhere p s = [] ↔ ∀ c ∈ s, p c = true := by
  rw [trimWhere, dropEndWhile_eq_rdropWhile, List.rdropWhile_eq_nil_iff]
  constructor
  · intro h
    rw [← List.dropWhile_eq_nil_iff]
    cases hrest : s.dropWhile p with
    | nil => rfl
    | cons c r =>
      have hhead := List.head?_dropWhile_not p s
      rw [hrest] at hhead h
      exact absurd ((h c List.mem_cons_self).symm.trans hhead) (by decide)
  · intro h c hc
    exact h c ((List.dropWhile_suffix p).subset hc)

theorem trimWhere_subset (p : Char → Bool) (s : List Char) : trimWhere p s ⊆ s := by
  intro c hc
  rw [trimWhere, dropEndWhile, List.mem_reverse] at hc
  have hdropped := List.mem_reverse.mp ((List.dropWhile_suffix p).subset hc)
  exact (List.dropWhile_suffix p).subset hdropped

theorem dropWhile_eq_self (h : ∀ c ∈ s.head?, p c = false) : s.dropWhile p = s := by
  cases s with
  | nil => rfl
  | cons c r => exact List.dropWhile_cons_of_neg (by simp [h c rfl])

theorem dropEndWhile_eq_self (h : ∀ c ∈ s.getLast?, p c = false) : dropEndWhile p s = s := by
  rw [← List.head?_reverse] at h
  rw [dropEndWhile, dropWhile_eq_self h, List.reverse_reverse]

theorem trimWhere_eq_self (hhead : ∀ c ∈ s.head?, p c = false)
    (hlast : ∀ c ∈ s.getLast?, p c = false) : trimWhere p s = s := by
  rw [trimWhere, dropWhile_eq_self hhead, dropEndWhile_eq_self hlast]

theorem trimWhere_of_forall (h : ∀ c ∈ s, p c = false) : trimWhere p s = s :=
  trimWhere_eq_self (fun c hc => h c (List.mem_of_mem_head? hc))
    fun c hc => h c (List.mem_of_getLast? hc)

/-- What is kept cuts the text in two, and each part is trimmed at its own end. -/
theorem trimWhere_append_cons (hc : p c = false) (a b : List Char) :
    trimWhere p (a ++ c :: b) = a.dropWhile p ++ c :: dropEndWhile p b := by
  rw [trimWhere, dropWhile_append_stop hc, dropEndWhile_append_cons hc]

theorem trimWhere_append_of_forall (ha : ∀ d ∈ a, p d = true) (b : List Char) :
    trimWhere p (a ++ b) = trimWhere p b := by
  rw [trimWhere, List.dropWhile_append_of_pos ha, trimWhere]

theorem trimWhere_dropWhile (s : List Char) : trimWhere p (s.dropWhile p) = trimWhere p s := by
  rw [trimWhere, List.dropWhile_idempotent, trimWhere]

theorem trimWhere_dropEndWhile (s : List Char) :
    trimWhere p (dropEndWhile p s) = trimWhere p s := by
  by_cases hall : ∀ c ∈ s, p c = true
  · have hrest : ∀ c ∈ dropEndWhile p s, p c = true :=
      fun c hc => hall c ((List.rdropWhile_prefix p s).subset hc)
    rw [trimWhere_eq_nil_iff.mpr hall, trimWhere_eq_nil_iff.mpr hrest]
  · obtain ⟨c, hc, hp⟩ : ∃ c ∈ s, p c = false := by simpa using hall
    obtain ⟨a, b, rfl⟩ := List.append_of_mem hc
    have hagain : dropEndWhile p (dropEndWhile p b) = dropEndWhile p b :=
      List.rdropWhile_idempotent p b
    rw [dropEndWhile_append_cons hp, trimWhere_append_cons hp, trimWhere_append_cons hp, hagain]

end

/-! ### Letter case -/

theorem lowerAscii_of_le {c : Char} (h : 128 ≤ c.toNat) : lowerAscii c = c := by
  refine if_neg fun hc => ?_
  simp only [Bool.and_eq_true, decide_eq_true_eq, Char.le_def, UInt32.le_iff_toNat_le] at hc
  have hz : 'Z'.val.toNat = 90 := rfl
  have hval : c.val.toNat = c.toNat := rfl
  omega

theorem lowerToAscii_of_ascii {c : Char} (h : c.toNat < 128) : lowerToAscii c = lowerAscii c :=
  forall_ascii (P := fun c => lowerToAscii c = lowerAscii c) (by decide) h

theorem lowerAscii_idem (c : Char) : lowerAscii (lowerAscii c) = lowerAscii c := by
  by_cases hc : c.toNat < 128
  · exact forall_ascii (P := fun c => lowerAscii (lowerAscii c) = lowerAscii c) (by decide) hc
  · rw [lowerAscii_of_le (Nat.not_lt.mp hc), lowerAscii_of_le (Nat.not_lt.mp hc)]

theorem lowerAscii_eq_colon_iff (c : Char) : lowerAscii c = ':' ↔ c = ':' := by
  by_cases hc : c.toNat < 128
  · exact forall_ascii (P := fun c => lowerAscii c = ':' ↔ c = ':') (by decide) hc
  · rw [lowerAscii_of_le (Nat.not_lt.mp hc)]

theorem isDigit_lowerAscii (c : Char) : isDigit (lowerAscii c) = isDigit c := by
  by_cases hc : c.toNat < 128
  · exact forall_ascii (P := fun c => isDigit (lowerAscii c) = isDigit c) (by decide) hc
  · rw [lowerAscii_of_le (Nat.not_lt.mp hc)]

theorem sameButCase_iff {a b : String} :
    sameButCase a b = true ↔ a.toList.map lowerAscii = b.toList.map lowerAscii := by
  rw [sameButCase, beq_iff_eq]

/-! ### Percent coding -/

theorem percentEncode_eq_self {p : Char → Bool} (h : ∀ c ∈ s, c.toNat < 0x80 ∧ p c = false) :
    percentEncode p s = s := by
  induction s with
  | nil => rfl
  | cons c r ih =>
    obtain ⟨hascii, hp⟩ := h c List.mem_cons_self
    have hc : ¬ (p c || 0x80 ≤ c.toNat) = true := by simp [hp, hascii]
    rw [percentEncode, List.flatMap_cons, if_neg hc]
    exact congrArg (c :: ·) (ih fun d hd => h d (List.mem_cons_of_mem c hd))

theorem notMem_percentByte {c : Char} (h : c ≠ '%') (hdigit : ∀ n < 16, upperHexDigit n ≠ c)
    (b : UInt8) : c ∉ percentByte b := by
  have hb := b.toNat_lt
  simp [percentByte, h, (hdigit (b.toNat / 16) (by omega)).symm,
    (hdigit (b.toNat % 16) (Nat.mod_lt _ (by decide))).symm]

/-- Coding brings in no characters but those of the codes. -/
theorem notMem_percentEncode {p : Char → Bool} {c : Char} (h : c ≠ '%')
    (hdigit : ∀ n < 16, upperHexDigit n ≠ c) (hs : c ∉ s) : c ∉ percentEncode p s := by
  intro hc
  obtain ⟨d, hd, hc⟩ := List.mem_flatMap.mp hc
  split at hc
  · obtain ⟨b, -, hb⟩ := List.mem_flatMap.mp hc
    exact notMem_percentByte h hdigit b hb
  · rw [List.mem_singleton] at hc
    exact hs (hc ▸ hd)

/-! ### Numbers -/

theorem decimal_toString (n : Nat) : decimal (toString n).toList = n := by
  rw [Nat.toString_eq_ofList_toDigits, String.toList_ofList]
  have h := Nat.ofDigitChars_toDigits (b := 10) (n := n) (by decide) (by decide)
  rw [Nat.ofDigitChars_eq_foldl] at h
  exact h

theorem isDigit_of_mem_toString {n : Nat} {c : Char} (h : c ∈ (toString n).toList) :
    isDigit c = true := by
  rw [Nat.toString_eq_ofList_toDigits, String.toList_ofList] at h
  have hdigit := Nat.isDigit_of_mem_toDigits (b := 10) (by decide) (by decide) h
  simpa [Char.isDigit, isDigit, Char.le_def] using hdigit

theorem toString_ne_nil (n : Nat) : (toString n).toList ≠ [] := by
  rw [Nat.toString_eq_ofList_toDigits, String.toList_ofList]
  exact Nat.toDigits_ne_nil

theorem decimal_append_singleton (ds : List Char) (d : Char) :
    decimal (ds ++ [d]) = 10 * decimal ds + (d.toNat - 48) := by
  rw [decimal, List.foldl_append]
  rfl

theorem decimal_le_append (ds more : List Char) : decimal ds ≤ decimal (ds ++ more) := by
  induction more generalizing ds with
  | nil => simp
  | cons d more ih =>
    have hstep := decimal_append_singleton ds d
    have hrest := ih (ds ++ [d])
    rw [List.append_assoc, List.singleton_append] at hrest
    omega

/-- A number other than zero grows with every digit behind it. -/
theorem decimal_lt_append {ds more : List Char} (hds : decimal ds ≠ 0) (hmore : more ≠ []) :
    decimal ds < decimal (ds ++ more) := by
  cases more with
  | nil => exact absurd rfl hmore
  | cons d more =>
    have hstep := decimal_append_singleton ds d
    have hrest := decimal_le_append (ds ++ [d]) more
    rw [List.append_assoc, List.singleton_append] at hrest
    omega

theorem notMem_toString {c : Char} (h : isDigit c = false) (n : Nat) : c ∉ (toString n).toList := by
  intro hc
  rw [isDigit_of_mem_toString hc] at h
  exact absurd h (by decide)

theorem eq_of_toString_eq {m n : Nat} (h : (toString m).toList = (toString n).toList) : m = n := by
  rw [← decimal_toString m, h, decimal_toString]

end Text

end Gatehouse
