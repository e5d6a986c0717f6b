import Gatehouse.Http.Header
import Gatehouse.Http.Target

/-!
# Conditions on requests

A service can ask that requests be addressed to a host or to paths under a prefix.

## Contract

* Hosts are compared without regard to the case of ASCII letters and to the port of the request.
* A path prefix ends where a segment ends: `/api` holds `/api` and `/api/v1`, and not `/apiv2`.
* A conjunction of nothing holds always.
-/

namespace Gatehouse

/-- What can be seen of a request before its body is read. -/
structure RequestHead where
  method : String := "GET"
  target : Http.Target := .origin "/"
  headers : Http.Headers := Http.Headers.empty
  deriving DecidableEq, Repr

/-- The host that a request is addressed to: of its header, or else of its target. -/
def RequestHead.host? (r : RequestHead) : Option String :=
  match r.headers.read? "host" with
  | some h => some h
  | none => r.target.host?

/-- A condition on requests. -/
inductive Condition where
  /-- The request is addressed to this host. -/
  | host (expected : String)
  /-- The path is this one or under it. -/
  | path (start : List Char)
  /-- All the conditions hold. -/
  | all (conditions : List Condition)

namespace Condition

/-- The condition that requests be addressed to a host. -/
def ofHost (h : String) : Condition := host (Text.lower h)

/-- The condition that the path begin with a prefix, whose slashes at the end do not count. -/
def ofPathPrefix (p : String) : Condition := path (Text.dropEndWhile (· == '/') p.toList)

/-- A host without its port. What stands after the last colon is a port if it is made of digits. -/
def withoutPort (h : List Char) : List Char :=
  match Text.cutLast ':' h with
  | some (name, port) => if port.all Text.isDigit then name else h
  | none => h

/-- Whether a request is addressed to a host. -/
def hostMatches (expected : String) (r : RequestHead) : Bool :=
  match r.host? with
  | some h => Text.sameButCase (String.ofList (withoutPort h.toList)) expected
  | none => false

/-- Whether a path is at or under a prefix without slashes at its end. -/
def isUnder (start path : List Char) : Bool :=
  start = [] ||
    match Text.after? start path with
    | some [] => true
    | some (c :: _) => c == '/'
    | none => false

mutual

/-- Whether a condition holds of a request. -/
def holds (r : RequestHead) : Condition → Bool
  | host expected => hostMatches expected r
  | path start => isUnder start r.target.path.toList
  | all conditions => allHold r conditions

/-- Whether all conditions of a list hold of a request. -/
def allHold (r : RequestHead) : List Condition → Bool
  | [] => true
  | c :: cs => holds r c && allHold r cs

end

end Condition

end Gatehouse
