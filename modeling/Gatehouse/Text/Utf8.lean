/-!
# Bytes as text

Reading bytes that claim to be UTF-8. A byte sequence that no character has is read as the
replacement character, one for each longest piece that could still have begun a character, and
reading goes on at the byte that broke the piece off.

## Implementation notes

The reader is a machine fed one byte at a time. Between characters it holds nothing; inside one it
holds how many bytes are owed, which range the next one must lie in, and the bits read so far. The
narrowed range after the first byte is what rules out overlong forms and surrogates.
-/

namespace Gatehouse

namespace Text

/-- The character that stands for bytes that are no character. -/
def replacement : Char := Char.ofNat 0xfffd

/-- A character under way. -/
structure Pending where
  /-- Bytes owed after the ones read. -/
  owed : Nat
  /-- Least value of the next byte. -/
  least : Nat
  /-- Greatest value of the next byte. -/
  most : Nat
  /-- Bits read so far. -/
  bits : Nat

/-- Reads a byte between characters. -/
def firstByte (b : Nat) : List Char × Option Pending :=
  if b < 0x80 then ([Char.ofNat b], none)
  else if 0xc2 ≤ b && b ≤ 0xdf then ([], some ⟨1, 0x80, 0xbf, b % 32⟩)
  else if b == 0xe0 then ([], some ⟨2, 0xa0, 0xbf, b % 16⟩)
  else if b == 0xed then ([], some ⟨2, 0x80, 0x9f, b % 16⟩)
  else if 0xe1 ≤ b && b ≤ 0xef then ([], some ⟨2, 0x80, 0xbf, b % 16⟩)
  else if b == 0xf0 then ([], some ⟨3, 0x90, 0xbf, b % 8⟩)
  else if 0xf1 ≤ b && b ≤ 0xf3 then ([], some ⟨3, 0x80, 0xbf, b % 8⟩)
  else if b == 0xf4 then ([], some ⟨3, 0x80, 0x8f, b % 8⟩)
  else ([replacement], none)

/-- Reads the next byte: what it completes, and what is under way after it. -/
def nextByte (state : Option Pending) (b : Nat) : List Char × Option Pending :=
  match state with
  | none => firstByte b
  | some p =>
    if p.least ≤ b && b ≤ p.most then
      let bits := p.bits * 64 + b % 64
      if p.owed ≤ 1 then ([Char.ofNat bits], none)
      else ([], some ⟨p.owed - 1, 0x80, 0xbf, bits⟩)
    else
      let (out, state) := firstByte b
      (replacement :: out, state)

/-- Reads all bytes from a given state. A character still under way at the end is broken off. -/
def readBytes (state : Option Pending) : List UInt8 → List Char
  | [] => if state.isSome then [replacement] else []
  | b :: r =>
    let (out, state) := nextByte state b.toNat
    out ++ readBytes state r

/-- Bytes as text, with replacement characters where they are not UTF-8. -/
def ofBytes (bytes : List UInt8) : List Char := readBytes none bytes

/-- The UTF-8 bytes of a text. -/
def toBytes (s : List Char) : List UInt8 := s.flatMap String.utf8EncodeChar

/-- Bytes as text, if they are UTF-8. -/
def ofBytes? (bytes : List UInt8) : Option (List Char) :=
  let s := ofBytes bytes
  if toBytes s = bytes then some s else none

end Text

end Gatehouse
