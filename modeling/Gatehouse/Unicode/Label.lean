import Gatehouse.Unicode.Composition
import Gatehouse.Unicode.HostMapping
import Gatehouse.Unicode.LabelData

/-!
# Rules for labels

What a part of a host name must be like when it is not plain ASCII: it begins with no mark, joiners
stand only where they join something, and text from right to left is not mixed with other text.
-/

namespace Gatehouse

namespace Unicode

/-! ## Marks -/

/-- Ranges of marks. -/
def markRanges : List (List Nat) := readRows markRows

/-- Whether a character is a mark. -/
def isMark (c : Nat) : Bool := (rangeValue? markRanges c).isSome

/-- Whether a character is a mark that takes up no space. -/
def isNonspacing (c : Nat) : Bool := rangeValue? markRanges c == some 1

/-! ## Direction -/

/-- Ranges of characters by direction. -/
def directionRanges : List (List Nat) := readRows directionRows

/-- The classes of characters by direction. -/
inductive Direction where
  /-- Left to right. -/
  | l
  /-- Right to left. -/
  | r
  /-- Right to left, Arabic. -/
  | al
  /-- Arabic digits. -/
  | an
  /-- European digits. -/
  | en
  | es
  | cs
  | et
  /-- Neutral. -/
  | on
  | bn
  /-- Marks that take up no space. -/
  | nsm
  deriving DecidableEq, Repr

/-- The classes in the order of the data. -/
def directionsInData : List Direction := [.r, .al, .an, .en, .es, .cs, .et, .on, .bn]

/-- The class of a character. -/
def direction (c : Nat) : Direction :=
  match rangeValue? directionRanges c with
  | some i => directionsInData.getD i .l
  | none => if isNonspacing c then .nsm else .l

/-- Whether a character makes its host name one with text from right to left. -/
def isRightToLeft (c : Nat) : Bool := [Direction.r, .al, .an].contains (direction c)

/-- The last class in a label, marks without space apart. -/
def lastDirection? (ds : List Direction) : Option Direction :=
  (ds.filter (· ≠ .nsm)).getLast?

/-- Whether a label in a host name with text from right to left keeps its direction. -/
def keepsDirection (label : List Nat) : Bool :=
  let ds := label.map direction
  let last := lastDirection? ds
  match ds.head? with
  | some .l =>
    ds.all (fun d => [.l, .en, .es, .cs, .et, .on, .bn, .nsm].contains d) &&
      (last == some .l || last == some .en)
  | some .r | some .al =>
    ds.all (fun d => [.r, .al, .an, .en, .es, .cs, .et, .on, .bn, .nsm].contains d) &&
      [some .r, some .al, some .en, some .an].contains last &&
      !(ds.contains .en && ds.contains .an)
  | some _ => false
  | none => true

/-! ## Joiners -/

/-- Ranges of characters that are joined in writing. -/
def joiningRanges : List (List Nat) := readRows joiningRows

/-- The class of marks that silence a vowel. -/
def viramaClass : Nat := 9

/-- Whether a character is passed over when letters are joined. -/
def isTransparent (c : Nat) : Bool := isNonspacing c

/-- Whether the first letter of a text, transparent ones apart, is joined to what is before it;
`types` are the types of letters that are. -/
def joins (types : List Nat) (s : List Nat) : Bool :=
  match s.dropWhile isTransparent with
  | c :: _ =>
    match rangeValue? joiningRanges c with
    | some t => types.contains t
    | none => false
  | [] => false

/-- Whether the joiners in a text stand where they may; `before` is what precedes it, the last
first. -/
def joinersStand (before : List Nat) : List Nat → Bool
  | [] => true
  | c :: r =>
    let afterVirama := match before with
      | b :: _ => combiningClass b == viramaClass
      | [] => false
    let stands :=
      if c = 0x200d then afterVirama
      else if c = 0x200c then afterVirama || (joins [0, 1] before && joins [0, 2] r)
      else true
    stands && joinersStand (c :: before) r

/-! ## Labels -/

/-- Whether a label may stand in a host name, direction apart. -/
def isLabel (label : List Nat) : Bool :=
  label.all isHostChar && !((label.head?.map isMark).getD false) && joinersStand [] label &&
    compose label == label

end Unicode

end Gatehouse
