import RepoWatch.Fetch.Guard
import RepoWatch.Fetch.Retry
/-!
# Fetches

A fetch asks for the reply to a query. It may be retried, and its quota guarded around that.
-/

namespace RepoWatch

open Graphql

structure FetchOptions where
  retry : Option RetryPolicy
  guardsQuota : Bool
deriving DecidableEq, Repr

/-- The fetch that calls a server whose answers are replies or errors. -/
def directFetch (query : Query) :
    Plan (Except ErrorChain Reply) (Except ErrorChain Reply) :=
  .call query .done

/-- A fetch of a query, strengthened. -/
def FetchOptions.strengthen {ι : Type} (options : FetchOptions)
    (fetch : Query → Plan ι (Except ErrorChain Reply)) (query : Query) :
    Plan ι (Except ErrorChain Reply) :=
  let retried := match options.retry with
    | some policy => Plan.retrying policy query.operation (fetch query)
    | none => fetch query
  if options.guardsQuota then Plan.guarded retried else retried

end RepoWatch
