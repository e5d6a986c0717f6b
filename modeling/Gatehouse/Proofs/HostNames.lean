import Gatehouse.Proofs.Texts
import Gatehouse.Url.Host

/-!
# Host names as they are written

A host name in ASCII needs no coding and no encoding: read as the host of a URL it is itself, in
lower case. It can only be refused, for a label that claims to stand for another one. Without such
labels nothing else is in the way: no character of ASCII is written from right to left, so no
direction has to be kept.

## Main definitions

* `Url.IsName` — a host name in ASCII that is no address
* `Url.IsPlain`, `Url.plainHost?` — a name or an address, and what it stands for

## Main results

* `Url.eq_of_asciiDomain?` — a name in ASCII is brought to lower case and not changed otherwise
* `Unicode.isRightToLeft_ascii` — ASCII is not written from right to left
* `Url.eq_domain_of_readHost` — if a name is read as a host, then as that name
* `Url.IsPlain.readHost_eq`, `Url.readHost_of_isName` — without labels that stand for others it is
  read
-/

namespace Gatehouse

/-! ### Bytes of ASCII text -/

namespace Text

variable {s : List Char}

theorem utf8EncodeChar_ascii {c : Char} (h : c.toNat < 0x80) :
    String.utf8EncodeChar c = [UInt8.ofNat c.toNat] :=
  forall_ascii (P := fun c => String.utf8EncodeChar c = [UInt8.ofNat c.toNat]) (by decide) h

theorem toBytes_cons_ascii {c : Char} (h : c.toNat < 0x80) (s : List Char) :
    toBytes (c :: s) = UInt8.ofNat c.toNat :: toBytes s := by
  rw [toBytes, List.flatMap_cons, utf8EncodeChar_ascii h]
  rfl

/-- Text in ASCII is read from its bytes as it is. -/
theorem ofBytes_toBytes_ascii (h : ∀ c ∈ s, c.toNat < 0x80) : ofBytes (toBytes s) = s := by
  rw [ofBytes]
  induction s with
  | nil => rfl
  | cons c r ih =>
    have hc := h c List.mem_cons_self
    have hbyte : (UInt8.ofNat c.toNat).toNat = c.toNat := by
      rw [UInt8.toNat_ofNat']
      omega
    have hrest := ih fun d hd => h d (List.mem_cons_of_mem c hd)
    rw [toBytes_cons_ascii hc, readBytes, nextByte, hbyte, firstByte, if_pos hc]
    simp only [Char.ofNat_toNat, hrest, List.singleton_append]

/-- Without a percent sign there is nothing to decode. -/
theorem percentDecode_toBytes_ascii (h : ∀ c ∈ s, c.toNat < 0x80 ∧ c ≠ '%') :
    percentDecode (toBytes s) = toBytes s := by
  induction s with
  | nil => rfl
  | cons c r ih =>
    obtain ⟨hascii, hpercent⟩ := h c List.mem_cons_self
    have hbyte : UInt8.ofNat c.toNat ≠ 0x25 :=
      forall_ascii (P := fun c => c ≠ '%' → UInt8.ofNat c.toNat ≠ 0x25) (by decide) hascii hpercent
    rw [toBytes_cons_ascii hascii, percentDecode.eq_def]
    split
    · rename_i heq
      exact absurd (List.cons.inj heq).1 hbyte
    · rename_i b r' _ heq
      obtain ⟨rfl, rfl⟩ := List.cons.inj heq
      rw [ih fun d hd => h d (List.mem_cons_of_mem c hd)]
    · rename_i heq
      simp at heq

end Text

/-! ### Direction -/

namespace Unicode

/-- An entry of the directions that writes no character of ASCII from right to left: it begins
behind ASCII, or its class is behind those three. -/
def sparesAscii (entry : List Nat) : Bool :=
  match entry with
  | [first, _, value] => 0x80 ≤ first || 3 ≤ value
  | _ => true

/-- The entries of rows are checked row by row. -/
theorem all_readRows {p : List Nat → Bool} {rows : List String}
    (h : ∀ row ∈ rows, ((List.splitOn ' ' row.toList).map readEntry).all p = true) :
    (readRows rows).all p = true := by
  rw [readRows, List.all_flatMap]
  simpa using h

/-- A row that is written out is checked as a list of characters, which spares the check its
decoding. -/
theorem all_readEntry {p : List Nat → Bool} {row : List Char}
    (h : ((List.splitOn ' ' row).map readEntry).all p = true) :
    ((List.splitOn ' ' (String.ofList row).toList).map readEntry).all p = true := by
  rwa [String.toList_ofList]

theorem sparesAscii_directionRanges : directionRanges.all sparesAscii = true := by
  refine all_readRows ?_
  simp only [directionRows, List.forall_mem_cons, List.not_mem_nil, false_implies, implies_true,
    and_true]
  repeat' apply And.intro
  all_goals exact all_readEntry (by decide +kernel)

/-- The classes behind the first three are not those of text from right to left. -/
theorem not_rightToLeft_getD {i : Nat} (h : 3 ≤ i) :
    [Direction.r, .al, .an].contains (directionsInData.getD i .l) = false := by
  obtain ⟨j, rfl⟩ := Nat.exists_eq_add_of_le' h
  rcases j with _ | _ | _ | _ | _ | _ | j <;> rfl

theorem exists_of_rangeValue? {entries : List (List Nat)} {n i : Nat}
    (h : rangeValue? entries n = some i) :
    ∃ first last, [first, last, i] ∈ entries ∧ first ≤ n ∧ n ≤ last := by
  obtain ⟨entry, hentry, hvalue⟩ := List.exists_of_findSome?_eq_some h
  split at hvalue
  · rename_i first last value
    split at hvalue
    · rename_i hrange
      obtain rfl := Option.some.inj hvalue
      exact ⟨first, last, hentry, by simpa using hrange⟩
    · simp at hvalue
  · simp at hvalue

theorem isRightToLeft_ascii {c : Nat} (h : c < 0x80) : isRightToLeft c = false := by
  -- unfolded in place, since an equation of either would be checked by reading the whole table
  unfold isRightToLeft direction
  cases hi : rangeValue? directionRanges c with
  | none => cases isNonspacing c <;> rfl
  | some i =>
    obtain ⟨first, last, hentry, hfirst, -⟩ := exists_of_rangeValue? hi
    have hspared := List.all_eq_true.mp sparesAscii_directionRanges _ hentry
    simp only [sparesAscii, Bool.or_eq_true, decide_eq_true_eq] at hspared
    exact not_rightToLeft_getD (by omega)

end Unicode

namespace Url

/-! ### Labels -/

/-- A label in ASCII is written as it is. -/
theorem fst_of_label? {s : List Char} {l : List Char × List Char} (hs : isAscii s = true)
    (h : label? s = some l) : l.1 = s := by
  rw [label?] at h
  split at h
  · simp at h
  · split at h
    · obtain ⟨label, -, rfl⟩ := Option.map_eq_some_iff.mp h
      rfl
    · rw [← Option.some.inj h]

theorem map_fst_of_mapM_label? {pieces : List (List Char)} {labels : List (List Char × List Char)}
    (hpieces : ∀ s ∈ pieces, isAscii s = true) (h : pieces.mapM label? = some labels) :
    labels.map Prod.fst = pieces := by
  induction pieces generalizing labels with
  | nil => simp_all
  | cons s r ih =>
    simp only [List.mapM_cons, Option.bind_eq_bind, Option.bind_eq_some_iff, Option.pure_def,
      Option.some.injEq] at h
    obtain ⟨l, hl, more, hmore, rfl⟩ := h
    rw [List.map_cons, fst_of_label? (hpieces s List.mem_cons_self) hl,
      ih (fun t ht => hpieces t (List.mem_cons_of_mem s ht)) hmore]

theorem isAscii_iff {s : List Char} : isAscii s = true ↔ ∀ c ∈ s, c.toNat < 0x80 := by
  simp [isAscii]

theorem toNat_lowerAscii_lt {c : Char} (h : c.toNat < 0x80) : (Text.lowerAscii c).toNat < 0x80 :=
  Text.forall_ascii (P := fun c => (Text.lowerAscii c).toNat < 0x80) (by decide) h

/-- A name in ASCII is brought to lower case, if it is a name at all. -/
theorem eq_of_asciiDomain? {s name : List Char} (hs : ∀ c ∈ s, c.toNat < 0x80)
    (h : asciiDomain? s = some name) : name = s.map Text.lowerAscii := by
  have hlower : ∀ c ∈ s.map Text.lowerAscii, c.toNat < 0x80 := by
    rintro _ hc
    obtain ⟨c, hmem, rfl⟩ := List.mem_map.mp hc
    exact toNat_lowerAscii_lt (hs c hmem)
  have hpieces : ∀ t ∈ List.splitOn '.' (s.map Text.lowerAscii), isAscii t = true :=
    fun t ht => isAscii_iff.mpr fun c hc => hlower c (Text.mem_of_mem_splitOn ht hc)
  simp only [asciiDomain?, isAscii_iff.mpr hs, if_true, Option.bind_eq_bind,
    Option.bind_eq_some_iff] at h
  obtain ⟨labels, hlabels, h⟩ := h
  split at h
  · simp at h
  · rw [← Option.some.inj h, map_fst_of_mapM_label? hpieces hlabels, List.intercalate_splitOn]

/-! ### Hosts -/

/-- A host name in ASCII that is no address. -/
structure IsName (s : List Char) : Prop where
  nonempty : s ≠ []
  ascii : ∀ c ∈ s, c.toNat < 0x80
  allowed : ∀ c ∈ s, isForbidden c = false
  noNumber : endsInNumber (s.map Text.lowerAscii) = false

theorem isName_iff {s : List Char} : IsName s ↔ s ≠ [] ∧ isAscii s = true ∧
    s.any isForbidden = false ∧ endsInNumber (s.map Text.lowerAscii) = false := by
  have hallowed : s.any isForbidden = false ↔ ∀ c ∈ s, isForbidden c = false := by simp
  rw [isAscii_iff, hallowed]
  exact ⟨fun h => ⟨h.nonempty, h.ascii, h.allowed, h.noNumber⟩,
    fun ⟨hne, hascii, hall, hnumber⟩ => ⟨hne, hascii, hall, hnumber⟩⟩

instance (s : List Char) : Decidable (IsName s) := decidable_of_iff' _ isName_iff

theorem ne_of_allowed {c d : Char} (h : isForbidden c = false) (hd : isForbidden d = true) :
    c ≠ d := by
  rintro rfl
  exact absurd (h.symm.trans hd) (by decide)

theorem v4OfDomain?_ne_domain (name : List Char) (s : String) :
    v4OfDomain? name ≠ some (.domain s) := by
  intro h
  simp only [v4OfDomain?, Option.bind_eq_bind, Option.bind_eq_some_iff] at h
  obtain ⟨ns, -, last, -, h⟩ := h
  split at h
  · simp at h
  · split at h <;> simp at h

/-- A host is never an empty name. -/
theorem readHost_ne_empty (s : List Char) : readHost s ≠ .ok (.domain "") := by
  intro h
  rw [readHost.eq_def] at h
  split at h
  · rw [readBracketed] at h
    split at h
    · split at h <;> simp at h
    · simp at h
  · split at h
    · simp at h
    · simp at h
    · rename_i name hne hname
      split at h
      · split at h
        · rename_i host hhost
          exact v4OfDomain?_ne_domain name "" (Except.ok.inj h ▸ hhost)
        · simp at h
      · have hempty : String.ofList name = "" := Host.domain.inj (Except.ok.inj h)
        exact hne (by simpa using hempty)

/-- Text in ASCII without a forbidden character is taken as it is written: there is nothing to
decode. -/
theorem decoded_of_allowed {s : List Char} (hascii : ∀ c ∈ s, c.toNat < 0x80)
    (hallowed : ∀ c ∈ s, isForbidden c = false) :
    Text.ofBytes (Text.percentDecode (Text.toBytes s)) = s := by
  rw [Text.percentDecode_toBytes_ascii fun c hc =>
      ⟨hascii c hc, ne_of_allowed (hallowed c hc) (by decide)⟩,
    Text.ofBytes_toBytes_ascii hascii]

theorem IsName.decoded {s : List Char} (hs : IsName s) :
    Text.ofBytes (Text.percentDecode (Text.toBytes s)) = s :=
  decoded_of_allowed hs.ascii hs.allowed

theorem eq_domain_of_readHost {s : List Char} {host : Host} (hs : IsName s)
    (h : readHost s = .ok host) : host = .domain (String.ofList (s.map Text.lowerAscii)) := by
  rw [readHost.eq_def] at h
  split at h
  · exact absurd (hs.allowed '[' List.mem_cons_self) (by decide)
  · rw [hs.decoded] at h
    split at h
    · simp at h
    · simp at h
    · rename_i name _ hname
      have hlower := eq_of_asciiDomain? hs.ascii hname
      have hnamed : ¬ endsInNumber name = true := by simp [hlower, hs.noNumber]
      rw [if_neg hnamed] at h
      rw [← Except.ok.inj h, hlower]

theorem isForbidden_lowerAscii {c : Char} (hascii : c.toNat < 0x80) (h : isForbidden c = false) :
    isForbidden (Text.lowerAscii c) = false :=
  Text.forall_ascii (P := fun c => isForbidden c = false → isForbidden (Text.lowerAscii c) = false)
    (by decide) hascii h

theorem label?_of_plain {l : List Char} (hascii : isAscii l = true)
    (hallowed : ∀ c ∈ l, isForbidden c = false) (hplain : Text.after? "xn--".toList l = none) :
    label? l = some (l, l) := by
  have hno : ¬ l.any isForbidden = true := by simpa using hallowed
  rw [label?, if_neg hno, hplain]
  simp [hascii]

theorem mapM_label?_of_plain {pieces : List (List Char)}
    (h : ∀ l ∈ pieces, label? l = some (l, l)) :
    pieces.mapM label? = some (pieces.map fun l => (l, l)) := by
  induction pieces with
  | nil => rfl
  | cons l r ih =>
    simp [h l List.mem_cons_self, ih fun t ht => h t (List.mem_cons_of_mem l ht)]

/-- A host as it is plainly written: a name in ASCII none of whose labels claims to stand for
another one, or an address of numbers. -/
structure IsPlain (s : List Char) : Prop where
  nonempty : s ≠ []
  ascii : ∀ c ∈ s, c.toNat < 0x80
  allowed : ∀ c ∈ s, isForbidden c = false
  unencoded : ∀ l ∈ List.splitOn '.' (s.map Text.lowerAscii), Text.after? "xn--".toList l = none

theorem isPlain_iff {s : List Char} : IsPlain s ↔ s ≠ [] ∧ isAscii s = true ∧
    s.any isForbidden = false ∧ (List.splitOn '.' (s.map Text.lowerAscii)).all
      (fun l => (Text.after? "xn--".toList l).isNone) = true := by
  have hallowed : s.any isForbidden = false ↔ ∀ c ∈ s, isForbidden c = false := by simp
  have hlabels : (List.splitOn '.' (s.map Text.lowerAscii)).all
      (fun l => (Text.after? "xn--".toList l).isNone) = true ↔
        ∀ l ∈ List.splitOn '.' (s.map Text.lowerAscii), Text.after? "xn--".toList l = none := by
    simp
  rw [isAscii_iff, hallowed, hlabels]
  exact ⟨fun h => ⟨h.nonempty, h.ascii, h.allowed, h.unencoded⟩,
    fun ⟨hne, hascii, hall, hplain⟩ => ⟨hne, hascii, hall, hplain⟩⟩

instance (s : List Char) : Decidable (IsPlain s) := decidable_of_iff' _ isPlain_iff

/-- What a plain host stands for: itself in lower case, or an address if its last part is a number,
which not every such name is. -/
def plainHost? (s : List Char) : Option Host :=
  if endsInNumber (s.map Text.lowerAscii) then v4OfDomain? (s.map Text.lowerAscii)
  else some (.domain (String.ofList (s.map Text.lowerAscii)))

theorem IsPlain.asciiDomain?_eq {s : List Char} (hs : IsPlain s) :
    asciiDomain? s = some (s.map Text.lowerAscii) := by
  have hlower : ∀ c ∈ s.map Text.lowerAscii, c.toNat < 0x80 ∧ isForbidden c = false := by
    intro c hc
    obtain ⟨d, hd, rfl⟩ := List.mem_map.mp hc
    exact ⟨toNat_lowerAscii_lt (hs.ascii d hd), isForbidden_lowerAscii (hs.ascii d hd)
      (hs.allowed d hd)⟩
  have hlabels : (List.splitOn '.' (s.map Text.lowerAscii)).mapM label? =
      some ((List.splitOn '.' (s.map Text.lowerAscii)).map fun l => (l, l)) := by
    refine mapM_label?_of_plain fun l hl => ?_
    have hmem := fun c (hc : c ∈ l) => hlower c (Text.mem_of_mem_splitOn hl hc)
    exact label?_of_plain (isAscii_iff.mpr fun c hc => (hmem c hc).1) (fun c hc => (hmem c hc).2)
      (hs.unencoded l hl)
  have hleft : ((List.splitOn '.' (s.map Text.lowerAscii)).map fun l => (l, l)).any
      (fun l => l.2.any fun c => Unicode.isRightToLeft c.toNat) = false := by
    rw [List.any_map, List.any_eq_false]
    intro l hl
    simp only [Function.comp_apply, Bool.not_eq_true, List.any_eq_false]
    intro c hc
    exact Unicode.isRightToLeft_ascii (hlower c (Text.mem_of_mem_splitOn hl hc)).1
  simp only [asciiDomain?, isAscii_iff.mpr hs.ascii, if_true, hlabels, Option.bind_eq_bind,
    Option.bind_some, hleft]
  simp [List.intercalate_splitOn, Function.comp_def]

/-- A plain host is read as what it stands for, if it stands for anything. -/
theorem IsPlain.readHost_eq {s : List Char} (hs : IsPlain s) :
    readHost s = match plainHost? s with
      | some host => .ok host
      | none => .error .invalidV4 := by
  rw [readHost.eq_def]
  split
  · exact absurd (hs.allowed '[' List.mem_cons_self) (by decide)
  · rw [decoded_of_allowed hs.ascii hs.allowed, hs.asciiDomain?_eq]
    split
    · rename_i heq
      simp at heq
    · rename_i heq
      exact absurd (by simpa using heq) hs.nonempty
    · rename_i name _ heq
      obtain rfl := Option.some.inj heq
      rw [plainHost?]
      split <;> rfl

theorem IsName.plainHost?_eq {s : List Char} (hs : IsName s) :
    plainHost? s = some (.domain (String.ofList (s.map Text.lowerAscii))) := by
  rw [plainHost?, hs.noNumber]
  rfl

/-- A name none of whose labels claims to stand for another one is read. -/
theorem readHost_of_isName {s : List Char} (hs : IsName s)
    (hplain : ∀ l ∈ List.splitOn '.' (s.map Text.lowerAscii), Text.after? "xn--".toList l = none) :
    readHost s = .ok (.domain (String.ofList (s.map Text.lowerAscii))) := by
  have hs' : IsPlain s := ⟨hs.nonempty, hs.ascii, hs.allowed, hplain⟩
  rw [hs'.readHost_eq, hs.plainHost?_eq]

end Url

end Gatehouse
