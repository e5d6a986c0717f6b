import Gatehouse.Backend.Basic

/-!
# Backends on trial

Backends that answer as they were told and keep a journal of what they were asked. A backend that
was told nothing, or nothing more, answers that all is well.
-/

namespace Gatehouse

/-- Backends on trial, told apart by their port. -/
structure TrialBackends where
  /-- For each port, the answers to come. -/
  script : List (UInt16 × List Reply)
  /-- What was asked of which node, the last first. -/
  journal : List (Node × Http.Request)

namespace TrialBackends

/-- Takes the next answer of a port. -/
def takeReply (port : UInt16) : List (UInt16 × List Reply) → Option Reply × List (UInt16 × List Reply)
  | [] => (none, [])
  | (p, replies) :: r =>
    if p = port then
      match replies with
      | [] => (none, (p, []) :: r)
      | reply :: more => (some reply, (p, more) :: r)
    else
      let (reply, r) := takeReply port r
      (reply, (p, replies) :: r)

end TrialBackends

/-- Backends on trial answer by their script. -/
instance : Backends TrialBackends where
  send node request b :=
    let (reply, script) := TrialBackends.takeReply node.port b.script
    (reply.getD (.response ⟨Http.Status.ok, Http.Headers.empty, []⟩),
      { script, journal := (node, request) :: b.journal })

end Gatehouse
