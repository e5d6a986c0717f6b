import Gatehouse.Net.Address
import Gatehouse.Url.Domain

/-!
# Hosts in URLs

A host is a name, an address of four numbers, or a long address in brackets. Where the scheme is one of
the usual ones, a name is brought to the form that is compared, and a name whose last part is a
number is an address; elsewhere a name is taken as it is.
-/

namespace Gatehouse

namespace Url

/-- Why a text is no URL. -/
inductive Fault where
  | emptyHost
  | invalidDomain
  | invalidPort
  | invalidV4
  | invalidV6
  | forbiddenCharacter
  | relative
  deriving DecidableEq, Repr

/-- The fault in words. -/
def Fault.message : Fault → String
  | .emptyHost => "empty host"
  | .invalidDomain => "invalid international domain name"
  | .invalidPort => "invalid port number"
  | .invalidV4 => "invalid IPv4 address"
  | .invalidV6 => "invalid IPv6 address"
  | .forbiddenCharacter => "invalid domain character"
  | .relative => "relative URL without a base"

/-- A host. -/
inductive Host where
  | domain (name : String)
  | v4 (a b c d : Nat)
  | v6 (groups : List Nat)
  deriving DecidableEq, Repr

/-- The text of a host. -/
def Host.text : Host → String
  | .domain name => name
  | .v4 a b c d => Net.dottedText a b c d
  | .v6 groups => "[" ++ Net.groupsText groups ++ "]"

/-! ## Addresses of four numbers -/

/-- A number in base ten, or in base eight after a zero, or in base sixteen after `0x`. -/
def number? (s : List Char) : Option Nat :=
  let based (base : Nat) (ds : List Char) : Option Nat :=
    (ds.mapM fun d => (Text.hexValue? d).filter (· < base)).map fun vs =>
      vs.foldl (fun n v => base * n + v) 0
  match s with
  | [] => none
  | '0' :: 'x' :: r | '0' :: 'X' :: r => based 16 r
  | '0' :: d :: r => based 8 (d :: r)
  | _ => based 10 s

/-- The parts of a name, without the empty one behind a dot at its end. -/
def domainParts (name : List Char) : List (List Char) :=
  let parts := List.splitOn '.' name
  if 1 < parts.length && parts.getLast? == some [] then parts.dropLast else parts

/-- Whether the last part of a name is a number, or looks like one. -/
def endsInNumber (name : List Char) : Bool :=
  match (domainParts name).getLast? with
  | some last => (last ≠ [] && last.all Text.isDigit) || (number? last).isSome
  | none => false

/-- The address that a name of numbers stands for. The last number fills all bytes that the others
leave. -/
def v4OfDomain? (name : List Char) : Option Host := do
  let ns ← (domainParts name).mapM number?
  let last ← ns.getLast?
  let first := ns.dropLast
  if 3 < first.length || first.any (255 < ·) || Nat.pow 256 (4 - first.length) ≤ last then none
  else
    let bytes := first ++
      (List.range (4 - first.length)).reverse.map fun i => last / Nat.pow 256 i % 256
    match bytes with
    | [a, b, c, d] => some (.v4 a b c d)
    | _ => none

/-! ## Reading -/

/-- Reads a long address with the bracket that closes it. -/
def readBracketed (s : List Char) : Except Fault Host :=
  if s.getLast? = some ']' then
    match Net.v6Groups? s.dropLast with
    | some groups => .ok (.v6 groups)
    | none => .error .invalidV6
  else .error .invalidV6

/-- Reads a host where the scheme is one of the usual ones. -/
def readHost (s : List Char) : Except Fault Host :=
  match s with
  | '[' :: r => readBracketed r
  | _ =>
    match asciiDomain? (Text.ofBytes (Text.percentDecode (Text.toBytes s))) with
    | none => .error .invalidDomain
    | some [] => .error .emptyHost
    | some name =>
      if endsInNumber name then
        match v4OfDomain? name with
        | some h => .ok h
        | none => .error .invalidV4
      else .ok (.domain (String.ofList name))

/-- The characters that stand in no host. -/
def isForbiddenOpaque (c : Char) : Bool :=
  c.toNat == 0 || "\t\n\r #/:<>?@[\\]^|".toList.contains c

/-- The controls. -/
def isControl (c : Char) : Bool := c.toNat < 0x20 || c.toNat == 0x7f

/-- Reads a host as it is. -/
def readOpaqueHost (s : List Char) : Except Fault Host :=
  match s with
  | '[' :: r => readBracketed r
  | _ =>
    if s.any isForbiddenOpaque then .error .forbiddenCharacter
    else .ok (.domain (String.ofList (Text.percentEncode isControl s)))

end Url

end Gatehouse
