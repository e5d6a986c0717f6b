import Gatehouse.Config.Schema
import Gatehouse.Http.Cookie
import Gatehouse.Http.Query

/-!
# Session keys

A session is named by a parameter and its value, as `param=value`. The value comes with the request,
in a cookie, a header or the query; a request without one, or with an empty one, is of no session.
A backend may give the session a new value in a cookie that it sets.

In the store a session is filed under its service and the generation of the service as well.
-/

namespace Gatehouse

namespace Session

/-- The key of a session. -/
def key (param value : String) : String := param ++ "=" ++ value

/-- The value in a session key: what follows the first equals sign, or everything. -/
def valueOf (key : String) : String :=
  match Text.cutFirst '=' key.toList with
  | some (_, v) => String.ofList v
  | none => key

/-- The parameter in a session key: what precedes the first equals sign. -/
def paramOf (key : String) : String :=
  match Text.cutFirst '=' key.toList with
  | some (p, _) => String.ofList p
  | none => ""

/-- Where the session of a key is filed for a generation of a service. -/
def storeKey (service : String) (generation : Nat) (key : String) : String :=
  "sticky:" ++ service ++ ":" ++ toString generation ++ ":" ++ key

/-- The value that a request gives for an affinity. -/
def value? (a : Affinity) (headers : Http.Headers) (query : Option String) : Option String :=
  match a.source with
  | .cookie => headers.cookie? a.param
  | .header =>
    (headers.read? (String.ofList (a.param.toList.map Text.lowerAscii))).map Text.trim
  | .query => query.bind fun q => Http.queryParam? q a.param

/-- The key of the session that a request is of. -/
def key? (a : Affinity) (headers : Http.Headers) (query : Option String) : Option String :=
  match value? a headers query with
  | some v => if v = "" then none else some (key a.param v)
  | none => none

end Session

end Gatehouse
