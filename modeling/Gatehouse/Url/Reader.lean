import Gatehouse.Node
import Gatehouse.Url.Basic

/-!
# Reading URLs

From text to a URL. Controls and spaces around the text are dropped, and tabs and line ends
everywhere. What cannot stand in a part as it is, is percent-coded; what is coded already is left so.

## Contract

* A path never climbs above its root: `..` takes the last segment away if there is one. A segment
  that names a drive is not taken away.
* A port that is the scheme's own is dropped.
-/

namespace Gatehouse

namespace Url

/-! ## What is coded -/

/-- Characters coded in fragments. -/
def codedInFragment (c : Char) : Bool :=
  isControl c || " \"<>".toList.contains c || c.toNat == 0x60

/-- Characters coded in paths. -/
def codedInPath (c : Char) : Bool := codedInFragment c || "#?\x7b\x7d".toList.contains c

/-- Characters coded in user names. -/
def codedInUser (c : Char) : Bool := codedInPath c || "/:;=@[\\]^|".toList.contains c

/-- Characters coded in queries. -/
def codedInQuery (kind : Kind) (c : Char) : Bool :=
  isControl c || " \"#<>".toList.contains c || (kind ≠ .other && c.toNat == 39)

/-- A text with some characters coded. -/
def coded (p : Char → Bool) (s : List Char) : String := String.ofList (Text.percentEncode p s)

/-! ## Paths -/

/-- Whether a segment means the present place. -/
def isSingleDot (s : List Char) : Bool :=
  let t := s.map Text.lowerAscii
  t == ".".toList || t == "%2e".toList

/-- Whether a segment means the place above. -/
def isDoubleDot (s : List Char) : Bool :=
  let t := s.map Text.lowerAscii
  t == "..".toList || t == ".%2e".toList || t == "%2e.".toList || t == "%2e%2e".toList

/-- Whether a text begins with the name of a drive, with nothing or a backslash behind it. -/
def namesDrive : List Char → Bool
  | [a, b] => Text.isAlpha a && (b == ':' || b == '|')
  | a :: b :: c :: _ => Text.isAlpha a && (b == ':' || b == '|') && c == '\\'
  | _ => false

/-- The segments without the last one, unless that names a drive. It is kept then whatever the kind
of the URL, as widespread readers of URLs do; the URL Standard keeps it in the path of a file only. -/
def dropLastSegment (segments : List String) : List String :=
  match segments.getLast? with
  | some s => if namesDrive s.toList then segments else segments.dropLast
  | none => []

/-- A segment as it stands: in a file's path a drive at the start has a colon. -/
def segmentText (kind : Kind) (first : Bool) (s : List Char) : String :=
  match kind, first, s with
  | .file, true, [a, '|'] => if Text.isAlpha a then String.ofList [a, ':'] else coded codedInPath s
  | _, _, _ => coded codedInPath s

/-- Walks along segments from a place. -/
def walk (kind : Kind) (place : List String) : List (List Char) → List String
  | [] => place
  | s :: r =>
    let last := r.isEmpty
    let place :=
      if isDoubleDot s then dropLastSegment place ++ if last then [""] else []
      else if isSingleDot s then place ++ if last then [""] else []
      else place ++ [segmentText kind place.isEmpty s]
    walk kind place r

/-- A text cut at slashes, and at backslashes where they count as such. -/
def cutSegments (kind : Kind) (s : List Char) : List (List Char) :=
  List.splitOn '/' (if kind = .other then s else s.map fun c => if c = '\\' then '/' else c)

/-- Whether a character ends a path. -/
def endsPath (c : Char) : Bool := c == '?' || c == '#'

/-- The path at the start of a text, and what is left of the text. The path of a file begins with no
empty segment. -/
def cutPath (kind : Kind) (s : List Char) : Path × List Char :=
  let text := s.takeWhile fun c => !endsPath c
  let segments := walk kind [] (cutSegments kind text)
  let segments := match kind, segments.dropWhile (· = "") with
    | .file, [] => [""]
    | .file, r => r
    | _, _ => segments
  (.segments segments, s.dropWhile fun c => !endsPath c)

/-- The path after an authority. -/
def cutPathAfterAuthority (kind : Kind) (s : List Char) : Path × List Char :=
  match s with
  | '/' :: r => cutPath kind r
  | '\\' :: r => if kind = .other then cutPath kind ('\\' :: r) else cutPath kind r
  | _ =>
    if kind = .other && (match s with | [] => true | c :: _ => endsPath c) then (.segments [], s)
    else cutPath kind s

/-! ## Authorities -/

/-- Whether a character ends an authority. -/
def endsAuthority (kind : Kind) (c : Char) : Bool :=
  c == '/' || endsPath c || (c == '\\' && kind ≠ .other)

/-- The user name and the password in user information. -/
def readUser (s : List Char) : String × String :=
  match Text.cutFirst ':' s with
  | some (u, p) => (coded codedInUser u, coded codedInUser p)
  | none => (coded codedInUser s, "")

/-- User information at the start of a text, and what follows its `@`. The last `@` of the authority
counts. -/
def cutUser (kind : Kind) (s : List Char) : Except Fault (Option (String × String) × List Char) :=
  let authority := s.takeWhile fun c => !endsAuthority kind c
  let rest := s.dropWhile fun c => !endsAuthority kind c
  match Text.cutLast '@' authority with
  | none => .ok (none, s)
  | some ([], []) => if rest = [] then .ok (none, []) else .error .emptyHost
  | some ([], host) => .ok (none, host ++ rest)
  | some (user, host) => .ok (some (readUser user), host ++ rest)

/-- The host at the start of a text, as text, and what is left. A colon ends it, outside of
brackets. -/
def cutHostText (kind : Kind) (bracketed : Bool) : List Char → List Char × List Char
  | [] => ([], [])
  | c :: r =>
    if (c == ':' && !bracketed) || endsAuthority kind c then ([], c :: r)
    else
      let (h, rest) := cutHostText kind (if c = '[' then true else if c = ']' then false else bracketed) r
      (c :: h, rest)

/-- The port at the start of a text, unless it is the scheme's own, and what is left. -/
def cutPort (scheme : String) (s : List Char) : Except Fault (Option Nat × List Char) :=
  let ds := s.takeWhile Text.isDigit
  let rest := s.dropWhile Text.isDigit
  let ends := match rest with
    | [] => true
    | c :: _ => c == '/' || c == '\\' || endsPath c
  if 65535 < Text.decimal ds || !ends then .error .invalidPort
  else if ds = [] || some (Text.decimal ds) = defaultPort? scheme then .ok (none, rest)
  else .ok (some (Text.decimal ds), rest)

/-- The authority at the start of a text, and what is left. -/
def cutAuthority (scheme : String) (s : List Char) : Except Fault (Authority × List Char) := do
  let kind := kindOf scheme
  let (user, s) ← cutUser kind s
  let (hostText, rest) := cutHostText kind false s
  if kind = .special && hostText = [] then .error .emptyHost
  let host ← if kind = .special then readHost hostText else readOpaqueHost hostText
  let host := if host = .domain "" then none else some host
  match rest with
  | ':' :: r =>
    if host = none then .error .emptyHost
    let (port, rest) ← cutPort scheme r
    return (⟨(user.map Prod.fst).getD "", (user.map Prod.snd).getD "", host, port⟩, rest)
  | _ =>
    match user with
    | some (username, password) =>
      if host = none && (username ≠ "" || password ≠ "") then .error .emptyHost
      else return (⟨username, password, host, none⟩, rest)
    | none => return (⟨"", "", host, none⟩, rest)

/-- The host of a file at the start of a text, if it is not the machine itself, and what is left. A
drive is no host. -/
def cutFileHost (s : List Char) : Except Fault (Option Host × List Char) := do
  let text := s.takeWhile fun c => !endsAuthority .file c
  let rest := s.dropWhile fun c => !endsAuthority .file c
  if namesDrive text && text.length = 2 then return (none, s)
  else if text = [] then return (none, rest)
  else
    let host ← readHost text
    return (if host = .domain "localhost" then none else some host, rest)

/-! ## Whole URLs -/

/-- A URL from its parts, with query and fragment read from what is left. -/
def finish (scheme : String) (authority : Option Authority) (path : Path) (rest : List Char) : Url :=
  let query (s : List Char) : String := coded (codedInQuery (kindOf scheme)) s
  let fragment (s : List Char) : String := coded codedInFragment s
  match rest with
  | '?' :: r =>
    match Text.cutFirst '#' r with
    | some (q, f) => ⟨scheme, authority, path, some (query q), some (fragment f)⟩
    | none => ⟨scheme, authority, path, some (query r), none⟩
  | '#' :: r => ⟨scheme, authority, path, none, some (fragment r)⟩
  | _ => ⟨scheme, authority, path, none, none⟩

/-- Reads what follows two slashes. -/
def readAfterSlashes (scheme : String) (s : List Char) : Except Fault Url := do
  let (authority, rest) ← cutAuthority scheme s
  let (path, rest) := cutPathAfterAuthority (kindOf scheme) rest
  return finish scheme (some authority) path rest

/-- Whether the first segment of a path names a drive. -/
def Path.beginsWithDrive : Path → Bool
  | .segments (s :: _) => namesDrive s.toList && s.length = 2
  | _ => false

/-- Reads what follows the scheme of files. A host before a drive is dropped. -/
def readFile (s : List Char) : Except Fault Url := do
  let isSlash (c : Char) : Bool := c == '/' || c == '\\'
  let located (host : Option Host) (s : List Char) : Url :=
    let (path, rest) := match s with
      | c :: r => if isSlash c then cutPath .file r else cutPath .file s
      | [] => cutPath .file []
    let host := if path.beginsWithDrive then none else host
    finish "file" (some ⟨"", "", host, none⟩) path rest
  match s with
  | a :: b :: r =>
    if isSlash a && isSlash b then
      let (host, rest) ← cutFileHost r
      return located host rest
    else return located none s
  | _ => return located none s

/-- Reads what follows a scheme without rules of its own. -/
def readOther (scheme : String) (s : List Char) : Except Fault Url :=
  match s with
  | '/' :: '/' :: r => readAfterSlashes scheme r
  | '/' :: r =>
    let (path, rest) := cutPath .other r
    .ok (finish scheme none path rest)
  | _ =>
    let text := s.takeWhile fun c => !endsPath c
    let rest := s.dropWhile fun c => !endsPath c
    .ok (finish scheme none (.whole (coded isControl text)) rest)

/-- Characters of a scheme behind its first letter. -/
def isSchemeChar (c : Char) : Bool :=
  Text.isAlpha c || Text.isDigit c || c == '+' || c == '-' || c == '.'

/-- The scheme at the start of a text, in lower case, and what follows its colon. -/
def cutScheme? (s : List Char) : Option (String × List Char) :=
  match s with
  | c :: r =>
    if Text.isAlpha c then
      match r.dropWhile isSchemeChar with
      | ':' :: rest =>
        some (String.ofList ((c :: r.takeWhile isSchemeChar).map Text.lowerAscii), rest)
      | _ => none
    else none
  | [] => none

/-- Reads a URL. -/
def read (s : String) : Except Fault Url :=
  let blank (c : Char) : Bool := c.toNat ≤ 0x20
  let lineEnd (c : Char) : Bool := c == '\t' || c == '\n' || c == '\r'
  let cs := (Text.trimWhere blank s.toList).filter fun c => !lineEnd c
  match cutScheme? cs with
  | none => .error .relative
  | some (scheme, rest) =>
    match kindOf scheme with
    | .special => readAfterSlashes scheme (rest.dropWhile fun c => c == '/' || c == '\\')
    | .file => readFile rest
    | .other => readOther scheme rest

end Url

/-- The URL at which a path and query are asked of a node. -/
def Node.url (n : Node) (pathAndQuery : String) : Except Url.Fault Url :=
  Url.read (n.urlText pathAndQuery)

end Gatehouse
