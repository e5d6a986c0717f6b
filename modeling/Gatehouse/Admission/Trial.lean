import Gatehouse.Admission.Verdict

/-!
# An oracle on trial

An oracle that answers as it was told and keeps a journal of what it was asked. The last answer for a
consumer is repeated; about a consumer that it was told nothing of, it cannot be reached.
-/

namespace Gatehouse

/-- An oracle on trial. -/
structure TrialOracle where
  /-- For each consumer, the answers to come. -/
  script : List (String × List OracleReply)
  /-- The policies and consumers asked about, the last first. -/
  journal : List (String × String)

namespace TrialOracle

/-- The answer about a consumer nothing is known of. -/
def unknown : OracleReply := ⟨0, .error (.transport "no script")⟩

/-- Takes the next answer for a consumer. -/
def takeReply (consumer : String) :
    List (String × List OracleReply) → OracleReply × List (String × List OracleReply)
  | [] => (unknown, [])
  | (c, replies) :: r =>
    if c = consumer then
      match replies with
      | [] => (unknown, (c, []) :: r)
      | [reply] => (reply, (c, [reply]) :: r)
      | reply :: more => (reply, (c, more) :: r)
    else
      let (reply, r) := takeReply consumer r
      (reply, (c, replies) :: r)

end TrialOracle

/-- An oracle on trial answers by its script. -/
instance : Oracle TrialOracle where
  ask policyRef consumer o :=
    let (reply, script) := TrialOracle.takeReply consumer o.script
    (reply, { script, journal := (policyRef, consumer) :: o.journal })

end Gatehouse
