import Gatehouse.Text.Chars

/-!
# Identifiers of events

An identifier is 128 bits, shown as thirty-two hexadecimal digits in five groups. It is read with or
without the hyphens, in braces, or as a name of the `urn:uuid:` kind, with digits of either case.

## Main results

* `ofDigits?_digits` — an identifier is read back from its own digits.
-/

namespace Gatehouse

/-- An identifier: its hexadecimal digits. -/
structure Uuid where
  digits : List (Fin 16)
  length_digits : digits.length = 32
  deriving DecidableEq, Repr

namespace Uuid

/-- The identifier of nothing. -/
def zero : Uuid := ⟨List.replicate 32 0, by simp⟩

instance : Inhabited Uuid := ⟨zero⟩

/-- A digit as a character. -/
def digitChar (d : Fin 16) : Char := Char.ofNat (if d.val < 10 then 48 + d.val else 87 + d.val)

/-- A character as a digit. -/
def digit? (c : Char) : Option (Fin 16) :=
  match Text.hexValue? c with
  | some n => if h : n < 16 then some ⟨n, h⟩ else none
  | none => none

/-- Every character as a digit, if they all are. -/
def readDigits? : List Char → Option (List (Fin 16))
  | [] => some []
  | c :: r =>
    match digit? c, readDigits? r with
    | some d, some ds => some (d :: ds)
    | _, _ => none

/-- The identifier with the given digits. -/
def ofDigits? (cs : List Char) : Option Uuid :=
  match readDigits? cs with
  | some ds => if h : ds.length = 32 then some ⟨ds, h⟩ else none
  | none => none

/-- The digits as characters. -/
def chars (u : Uuid) : List Char := u.digits.map digitChar

/-- Five groups of digits with hyphens between. -/
def hyphenate (cs : List Char) : List Char :=
  cs.take 8 ++ '-' :: ((cs.drop 8).take 4 ++ '-' :: ((cs.drop 12).take 4 ++ '-' ::
    ((cs.drop 16).take 4 ++ '-' :: cs.drop 20)))

/-- The groups of digits without the hyphens, if those are in their places. -/
def unhyphenate? (cs : List Char) : Option (List Char) :=
  if cs.length = 36 ∧ cs[8]? = some '-' ∧ cs[13]? = some '-' ∧ cs[18]? = some '-' ∧
      cs[23]? = some '-' then
    some (cs.take 8 ++ (cs.drop 9).take 4 ++ (cs.drop 14).take 4 ++ (cs.drop 19).take 4 ++
      cs.drop 24)
  else none

/-- The text of an identifier. -/
def text (u : Uuid) : String := String.ofList (hyphenate u.chars)

/-- Reads an identifier in any of its written forms. -/
def read? (s : String) : Option Uuid :=
  let cs := s.toList
  if cs.length = 32 then ofDigits? cs
  else if cs.length = 36 then (unhyphenate? cs).bind ofDigits?
  else if cs.length = 38 then
    if cs.head? = some '\x7b' ∧ cs.getLast? = some '\x7d' then
      (unhyphenate? ((cs.drop 1).take 36)).bind ofDigits?
    else none
  else
    match Text.after? "urn:uuid:".toList cs with
    | some r => (unhyphenate? r).bind ofDigits?
    | none => none

theorem digit?_digitChar (d : Fin 16) : digit? (digitChar d) = some d := by
  revert d
  decide

theorem readDigits?_map (ds : List (Fin 16)) : readDigits? (ds.map digitChar) = some ds := by
  induction ds with
  | nil => rfl
  | cons d r ih => simp [readDigits?, digit?_digitChar, ih]

theorem ofDigits?_digits (u : Uuid) : ofDigits? u.chars = some u := by
  simp [ofDigits?, chars, readDigits?_map, u.length_digits]

end Uuid

end Gatehouse
