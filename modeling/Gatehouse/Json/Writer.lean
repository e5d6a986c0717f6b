import Gatehouse.Datum

/-!
# Writing JSON

A data tree as JSON text without layout: fields in their order, characters outside ASCII as
themselves, and only what must be escaped escaped.
-/

namespace Gatehouse

namespace Json

/-- The lower-case hexadecimal digit of a number below sixteen. -/
def hexDigit (n : Nat) : Char := Char.ofNat (if n < 10 then 48 + n else 87 + n)

/-- A character as it stands in a string. Control characters without a letter of their own are
written by number. -/
def escape (c : Char) : List Char :=
  if c = '"' then ['\\', '"']
  else if c = '\\' then ['\\', '\\']
  else if c = '\n' then ['\\', 'n']
  else if c = '\r' then ['\\', 'r']
  else if c = '\t' then ['\\', 't']
  else if c.toNat = 8 then ['\\', 'b']
  else if c.toNat = 12 then ['\\', 'f']
  else if c.toNat < 0x20 then
    ['\\', 'u', '0', '0', hexDigit (c.toNat / 16), hexDigit (c.toNat % 16)]
  else [c]

/-- A string between its quotes. -/
def quote (s : String) : List Char := '"' :: s.toList.flatMap escape ++ ['"']

mutual

/-- The text of a value. -/
def chars : Datum → List Char
  | .null => ['n', 'u', 'l', 'l']
  | .bool true => ['t', 'r', 'u', 'e']
  | .bool false => ['f', 'a', 'l', 's', 'e']
  | .int i => (toString i).toList
  | .real literal => literal.toList
  | .text s => quote s
  | .moment literal => quote literal
  | .list items => '[' :: charsOfItems items ++ [']']
  | .record fields => '\x7b' :: charsOfFields fields ++ ['\x7d']

/-- The items of a list, with commas between. -/
def charsOfItems : List Datum → List Char
  | [] => []
  | [d] => chars d
  | d :: r => chars d ++ ',' :: charsOfItems r

/-- The fields of a record, with commas between. -/
def charsOfFields : List (String × Datum) → List Char
  | [] => []
  | [(k, d)] => quote k ++ ':' :: chars d
  | (k, d) :: r => quote k ++ ':' :: chars d ++ ',' :: charsOfFields r

end

/-- The text of a value. -/
def write (d : Datum) : String := String.ofList (chars d)

end Json

end Gatehouse
