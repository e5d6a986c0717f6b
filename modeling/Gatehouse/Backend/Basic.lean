import Gatehouse.Http.Message
import Gatehouse.Node

/-!
# Asking a backend

One attempt sends one request to one node. It ends with a response, with an error, or not at all:
the client may give up while it waits.
-/

namespace Gatehouse

/-- Why an attempt produced no response. -/
inductive BackendError where
  | invalidUrl (reason : String)
  | unsupportedScheme (scheme : String)
  | failed (reason : String)
  deriving DecidableEq, Repr

/-- The error in words. -/
def BackendError.message : BackendError → String
  | .invalidUrl reason => "invalid upstream url: " ++ reason
  | .unsupportedScheme scheme => "unsupported upstream scheme '" ++ scheme ++ "'"
  | .failed reason => "upstream request failed: " ++ reason

/-- How an attempt went. -/
inductive Reply where
  | response (r : Http.Response)
  | error (e : BackendError)
  /-- The client gave up before there was an answer. -/
  | abandoned
  deriving DecidableEq, Repr

/-- Backends in states `β`. -/
class Backends (β : Type) where
  /-- Sends a request to a node. -/
  send : Node → Http.Request → β → Reply × β

end Gatehouse
