import RepoWatch.Fetch.Plan
import RepoWatch.Graphql.Client
/-!
# Guarding the quota

A reply that leaves no calls is held back until the quota is reset, so that whoever fetches next
does so after the reset.
-/

namespace RepoWatch.Plan

open Graphql

variable {ι : Type}

/-- Holds a reply back until the reset of an exhausted quota. The warning that goes to the log before
the wait is not noted: it tells the span to the nanosecond, and so differs from run to run. -/
def holdBack (reply : Reply) (quota : Payload.Quota) : Plan ι (Except ErrorChain Reply) :=
  .now fun now =>
    match quota.untilReset now with
    | .error e => .done (.error e)
    | .ok span => .wait span fun _ => .done (.ok reply)

/-- A fetch that waits for the reset when its reply leaves no calls. -/
def guarded (fetch : Plan ι (Except ErrorChain Reply)) : Plan ι (Except ErrorChain Reply) :=
  fetch.bind fun
    | .error e => .done (.error e)
    | .ok reply =>
      match reply.quota with
      | some quota => if quota.isExhausted then holdBack reply quota else .done (.ok reply)
      | none => .done (.ok reply)

end RepoWatch.Plan
