import Gatehouse.Text.Utf8
import Gatehouse.Text.Chars

/-!
# Percent coding

A byte of a text can be written as a percent sign and two hexadecimal digits. Reading undoes that
and nothing else: a percent sign without two digits after it stands for itself.
-/

namespace Gatehouse

namespace Text

/-- The bytes that a percent-coded text stands for. -/
def percentDecode : List UInt8 → List UInt8
  | 0x25 :: a :: b :: r =>
    match hexValue? (Char.ofNat a.toNat), hexValue? (Char.ofNat b.toNat) with
    | some x, some y => UInt8.ofNat (16 * x + y) :: percentDecode r
    | _, _ => 0x25 :: percentDecode (a :: b :: r)
  | b :: r => b :: percentDecode r
  | [] => []

/-- The upper-case hexadecimal digit of a number below sixteen. -/
def upperHexDigit (n : Nat) : Char := Char.ofNat (if n < 10 then 48 + n else 55 + n)

/-- A byte as a percent sign and two digits. -/
def percentByte (b : UInt8) : List Char :=
  ['%', upperHexDigit (b.toNat / 16), upperHexDigit (b.toNat % 16)]

/-- A text in which the characters satisfying `p` are percent-coded, and every character outside
ASCII. -/
def percentEncode (p : Char → Bool) (s : List Char) : List Char :=
  s.flatMap fun c =>
    if p c || 0x80 ≤ c.toNat then (String.utf8EncodeChar c).flatMap percentByte else [c]

end Text

end Gatehouse
