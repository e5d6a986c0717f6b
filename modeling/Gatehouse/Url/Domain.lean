import Gatehouse.Text.Percent
import Gatehouse.Text.Punycode
import Gatehouse.Unicode.Label

/-!
# Host names

A host name in any script is written in ASCII, label by label: a label with other characters becomes
`xn--` and its encoding. Names that differ only in form become the same name.
-/

namespace Gatehouse

namespace Url

/-- The ASCII characters that stand in no host name. -/
def isForbidden (c : Char) : Bool :=
  c.toNat ≤ 0x20 || c.toNat == 0x7f || "%#/:<>?@[\\]^|".toList.contains c

/-- Whether a text is plain ASCII. -/
def isAscii (s : List Char) : Bool := s.all fun c => c.toNat < 0x80

/-- A text as numbers of characters. -/
def numbers (s : List Char) : List Nat := s.map Char.toNat

/-- Numbers of characters as text. -/
def ofNumbers (s : List Nat) : List Char := s.map Char.ofNat

/-- The label that an encoded one stands for, if it stands for one that had to be encoded. -/
def decodeLabel? (encoded : List Char) : Option (List Char) := do
  let label ← Punycode.decode? encoded
  if isAscii label || !Unicode.isLabel (numbers label) then none else some label

/-- A label in the form that is compared: what is written, and what it stands for. -/
def label? (s : List Char) : Option (List Char × List Char) :=
  if s.any isForbidden then none
  else
    match Text.after? "xn--".toList s with
    | some encoded =>
      if isAscii s then (decodeLabel? encoded).map fun label => (s, label) else none
    | none =>
      if isAscii s then some (s, s)
      else if Unicode.isLabel (numbers s) then
        some ("xn--".toList ++ Punycode.encode s, s)
      else none

/-- A host name in ASCII, if it is one. -/
def asciiDomain? (name : List Char) : Option (List Char) := do
  let mapped :=
    if isAscii name then name.map Text.lowerAscii
    else ofNumbers (Unicode.compose (Unicode.mapHost (numbers name)))
  let labels ← (List.splitOn '.' mapped).mapM label?
  let mixed := labels.any fun l => l.2.any fun c => Unicode.isRightToLeft c.toNat
  if mixed && !(labels.all fun l => Unicode.keepsDirection (numbers l.2)) then none
  else some (['.'].intercalate (labels.map Prod.fst))

end Url

end Gatehouse
