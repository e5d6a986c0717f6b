import Gatehouse.Text.Chars

/-!
# Request targets

What a request asks for, in one of three forms: a path and query alone, a whole address with scheme
and authority, or an authority alone.

## Contract

* Reading refuses what cannot stand in a target and keeps everything else as it was written, letter
  case and percent coding included. Only a fragment is dropped.
* A target with a scheme has a path, which is `/` where none was written.
-/

namespace Gatehouse

namespace Http

/-- Why a text is not a target. -/
inductive TargetFault where
  | empty
  | tooLong
  | schemeTooLong
  | invalidCharacter
  | invalidAuthority
  | invalidFormat
  deriving DecidableEq, Repr

/-- The fault in words. -/
def TargetFault.message : TargetFault → String
  | .empty => "empty string"
  | .tooLong => "uri too long"
  | .schemeTooLong => "scheme too long"
  | .invalidCharacter => "invalid uri character"
  | .invalidAuthority => "invalid authority"
  | .invalidFormat => "invalid format"

/-- What a request asks for. -/
inductive Target where
  /-- A path and query. -/
  | origin (pathAndQuery : String)
  /-- An authority alone. -/
  | authority (authority : String)
  /-- A whole address. The path and query may be empty. -/
  | absolute (scheme authority pathAndQuery : String)
  deriving DecidableEq, Repr

namespace Target

/-! ## Parts -/

/-- The path in a path and query, `/` when it is empty. -/
def pathOf (pathAndQuery : String) : String :=
  match pathAndQuery.toList.takeWhile (· ≠ '?') with
  | [] => "/"
  | p => String.ofList p

/-- The path. An authority alone has none. -/
def path : Target → String
  | origin p => pathOf p
  | authority _ => ""
  | absolute _ _ p => pathOf p

/-- The query, without its question mark. -/
def query? : Target → Option String
  | origin p | absolute _ _ p =>
    (Text.cutFirst '?' p.toList).map fun parts => String.ofList parts.2
  | authority _ => none

/-- Path and query, if the target is more than an authority. -/
def pathAndQuery? : Target → Option String
  | origin p => some p
  | authority _ => none
  | absolute _ _ p => some (if p = "" then "/" else p)

/-- The host in an authority: without user information and port, in brackets if it was. -/
def hostOf (authority : String) : String :=
  let cs := authority.toList
  let hostPort := match Text.cutLast '@' cs with
    | some (_, r) => r
    | none => cs
  match hostPort with
  | '[' :: r => String.ofList ('[' :: r.takeWhile (· ≠ ']') ++ [']'])
  | r => String.ofList (r.takeWhile (· ≠ ':'))

/-- The host, if the target names one. -/
def host? : Target → Option String
  | origin _ => none
  | authority a | absolute _ a _ => some (hostOf a)

/-! ## Reading -/

/-- Greatest length of a target in bytes. -/
def maxLength : Nat := 65534

/-- Greatest length of a scheme. -/
def maxSchemeLength : Nat := 64

/-- The characters of a scheme. -/
def isSchemeChar (c : Char) : Bool :=
  Text.isAlpha c || Text.isDigit c || c == '+' || c == '-' || c == '.' || c == '~'

/-- The characters of an authority, percent sign apart. -/
def isAuthorityChar (c : Char) : Bool :=
  Text.isAlpha c || Text.isDigit c || "!#$&'()*+,-./:;=?@[]_~".toList.contains c

/-- The characters of a path. Three of them are read although they should have been coded. -/
def isPathChar (c : Char) : Bool :=
  let n := c.toNat
  n == 0x21 || (0x24 ≤ n && n ≤ 0x3b) || n == 0x3d || (0x40 ≤ n && n ≤ 0x5f) ||
    (0x61 ≤ n && n ≤ 0x7a) || n == 0x7c || 0x7e ≤ n || c == '"' || c == '\x7b' || c == '\x7d'

/-- The characters of a query. -/
def isQueryChar (c : Char) : Bool :=
  let n := c.toNat
  n == 0x21 || (0x24 ≤ n && n ≤ 0x3b) || n == 0x3d || 0x3f ≤ n

/-- What was met in an authority, as far as it bears on what may follow. -/
structure Scan where
  /-- Colons since the user information and the bracketed address. -/
  colons : Nat := 0
  /-- Whether a bracket was opened. -/
  opened : Bool := false
  /-- Whether it was closed. -/
  closed : Bool := false
  /-- Whether a percent sign stands in what may be a name. -/
  percent : Bool := false

/-- Greatest number of colons in a row of parts: those of an address of eight parts and a port. -/
def maxColons : Nat := 8

/-- Takes one character of an authority into account. -/
def Scan.next (s : Scan) (c : Char) : Except TargetFault Scan :=
  if c = ':' then
    if maxColons ≤ s.colons then .error .invalidAuthority else .ok { s with colons := s.colons + 1 }
  else if c = '[' then
    if s.percent || s.opened then .error .invalidAuthority else .ok { s with opened := true }
  else if c = ']' then
    if !s.opened || s.closed then .error .invalidAuthority
    else .ok { s with closed := true, colons := 0, percent := false }
  else if c = '@' then .ok { s with colons := 0, percent := false }
  else if c = '%' then .ok { s with percent := true }
  else if isAuthorityChar c then .ok s
  else .error .invalidCharacter

/-- Whether a character ends an authority. -/
def endsAuthority (c : Char) : Bool := c == '/' || c == '?' || c == '#'

/-- The authority at the start of a text, and what follows it. -/
def cutAuthority (s : List Char) : Except TargetFault (List Char × List Char) := do
  let a := s.takeWhile fun c => !endsAuthority c
  let scan ← a.foldlM Scan.next {}
  if scan.opened != scan.closed then .error .invalidAuthority
  else if 1 < scan.colons then .error .invalidAuthority
  else if a.getLast? = some '@' then .error .invalidAuthority
  else if scan.percent then .error .invalidAuthority
  else .ok (a, s.dropWhile fun c => !endsAuthority c)

/-- Reads path and query, and drops the fragment. -/
def readPathAndQuery (s : List Char) : Except TargetFault String :=
  let path := s.takeWhile fun c => c ≠ '?' && c ≠ '#'
  let rest := s.dropWhile fun c => c ≠ '?' && c ≠ '#'
  if !path.all isPathChar then .error .invalidCharacter
  else
    match rest with
    | '?' :: r =>
      let query := r.takeWhile (· ≠ '#')
      if query.all isQueryChar then .ok (String.ofList (path ++ '?' :: query))
      else .error .invalidCharacter
    | _ => .ok (String.ofList path)

/-- The scheme at the start of a text and what follows its `://`, if the text begins with one. -/
def cutScheme (s : List Char) : Except TargetFault (Option (String × List Char)) :=
  let scheme := s.takeWhile isSchemeChar
  match s.dropWhile isSchemeChar with
  | ':' :: '/' :: '/' :: r =>
    if s.length ≤ 3 then .ok none
    else if maxSchemeLength < scheme.length then .error .schemeTooLong
    else .ok (some (String.ofList scheme, r))
  | _ => .ok none

/-- Reads a target that begins with a scheme or an authority. -/
def readFull (s : List Char) : Except TargetFault Target := do
  match ← cutScheme s with
  | none =>
    let (a, rest) ← cutAuthority s
    if rest ≠ [] then .error .invalidFormat else .ok (authority (String.ofList a))
  | some (scheme, r) =>
    let (a, rest) ← cutAuthority r
    if a = [] then .error .invalidFormat
    else return absolute scheme (String.ofList a) (← readPathAndQuery rest)

/-- Reads a target. -/
def read (s : String) : Except TargetFault Target :=
  if maxLength < s.utf8ByteSize then .error .tooLong
  else
    match s.toList with
    | [] => .error .empty
    | ['/'] => .ok (origin "/")
    | ['*'] => .ok (origin "*")
    | '/' :: r => (readPathAndQuery ('/' :: r)).map origin
    | cs => readFull cs

end Target

end Http

end Gatehouse
