import Gatehouse.Shape
import Gatehouse.Text.Chars

/-!
# Backend nodes

A node is one backend of a service. The nodes of a service are in a fixed order, because a session
is bound to a node by its position.
-/

namespace Gatehouse

/-- One backend of a service. -/
structure Node where
  /-- Host name or address. -/
  host : String
  /-- Port. -/
  port : UInt16
  /-- Path under which everything forwarded to the node goes. -/
  basePath : String := ""
  /-- Scheme of the node's URLs. -/
  scheme : String := "http"
  deriving DecidableEq, Repr

namespace Node

/-- The short name `host:port` of a node in messages. -/
def authority (n : Node) : String := n.host ++ ":" ++ toString n.port.toNat

/-- The full name of a node. -/
def display (n : Node) : String := n.scheme ++ "://" ++ n.authority ++ n.basePath

/-- A node from host and port, with the usual scheme and no base path. -/
def plain (host : String) (port : UInt16) : Node := { host, port }

/-- The text of the URL at which a path and query are asked of the node: the base path loses its
trailing slashes, and the path starts with a slash. -/
def urlText (n : Node) (pathAndQuery : String) : String :=
  let tail := match pathAndQuery.toList with
    | '/' :: _ => pathAndQuery
    | _ => "/" ++ pathAndQuery
  n.scheme ++ "://" ++ n.authority ++ Text.trimEndOf '/' n.basePath ++ tail

/-- Reads a node. -/
def ofDatum (dialect : Dialect) (d : Datum) : Except Mismatch Node := do
  let p ← Shape.parts dialect ["host", "port", "base_path", "scheme"] d
  let host ← p.required "host" Shape.text
  let port ← p.required "port" Shape.uint16
  let basePath ← p.withDefault "base_path" "" Shape.text
  let scheme ← p.withDefault "scheme" "http" Shape.text
  return { host, port, basePath, scheme }

/-- Writes a node with all its fields. -/
def toDatum (n : Node) : Datum :=
  .record [("host", .text n.host), ("port", .nat n.port.toNat), ("base_path", .text n.basePath),
    ("scheme", .text n.scheme)]

end Node

end Gatehouse
