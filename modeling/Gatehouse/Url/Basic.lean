import Gatehouse.Url.Host

/-!
# URLs

A URL is a scheme and what it leads to: mostly an authority, a path of segments, a query and a
fragment. The schemes of the web have rules of their own for what is left out or written differently.
-/

namespace Gatehouse

namespace Url

/-- How a scheme is read. -/
inductive Kind where
  /-- As one of the usual ones, with an authority. -/
  | special
  /-- As that of files. -/
  | file
  /-- As any other. -/
  | other
  deriving DecidableEq, Repr

/-- How a scheme is read. -/
def kindOf (scheme : String) : Kind :=
  if ["http", "https", "ws", "wss", "ftp"].contains scheme then .special
  else if scheme = "file" then .file
  else .other

/-- The port of a scheme, if it has one. -/
def defaultPort? : String → Option Nat
  | "http" | "ws" => some 80
  | "https" | "wss" => some 443
  | "ftp" => some 21
  | _ => none

/-- Who a URL leads to. -/
structure Authority where
  username : String := ""
  password : String := ""
  /-- The host; absent where it is empty. -/
  host : Option Host
  /-- The port, unless it is that of the scheme. -/
  port : Option Nat
  deriving DecidableEq, Repr

/-- The text of an authority. -/
def Authority.text (a : Authority) : String :=
  let user := a.username ++ if a.password = "" then "" else ":" ++ a.password
  (if user = "" then "" else user ++ "@") ++ ((a.host.map Host.text).getD "") ++
    match a.port with
    | some p => ":" ++ toString p
    | none => ""

/-- Where a URL leads at its authority. -/
inductive Path where
  /-- Segments, each after a slash. -/
  | segments (segments : List String)
  /-- A text without structure. -/
  | whole (text : String)
  deriving DecidableEq, Repr

/-- The text of a path. -/
def Path.text : Path → String
  | .segments ss => String.join (ss.map fun s => "/" ++ s)
  | .whole t => t

end Url

/-- A URL. -/
structure Url where
  scheme : String
  authority : Option Url.Authority
  path : Url.Path
  query : Option String
  fragment : Option String
  deriving DecidableEq, Repr

namespace Url

/-- Whether a path would be taken for an authority. -/
def Path.looksLikeAuthority : Path → Bool
  | .segments ("" :: _ :: _) => true
  | _ => false

/-- The text of a URL. -/
def text (u : Url) : String :=
  u.scheme ++ ":" ++
    (match u.authority with
      | some a => "//" ++ a.text
      | none => if u.path.looksLikeAuthority then "/." else "") ++
    u.path.text ++
    (match u.query with
      | some q => "?" ++ q
      | none => "") ++
    match u.fragment with
    | some f => "#" ++ f
    | none => ""

end Url

end Gatehouse
