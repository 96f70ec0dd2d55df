import RepoWatch.Journal
import RepoWatch.Payload.Commits
import RepoWatch.Payload.Detail
import RepoWatch.Payload.Repositories
/-!
# Publications

What the feed publishes for an event of a watch: data that can be decoded gives one value of the
kind that belongs to the operation, anything that went wrong gives one failure, and progress
gives nothing.
-/

namespace RepoWatch

open Payload

inductive Publication where
  | repositories (summaries : List Summary)
  | detail (detail : Detail)
  | commits (edges : List Commits.Edge)
  | failure (failure : QueryFailure)
deriving DecidableEq, Repr

def Operation.decode (operation : Operation) (data : Json) : Except DecodeFault Publication :=
  match operation with
  | .repositories => do return .repositories (← Repositories.decode data).summaries
  | .detail => do return .detail (← Detail.decode data)
  | .commits => do return .commits (← Commits.decode data).edges

def Operation.failure (operation : Operation) (fault : QueryFault) : Publication :=
  .failure ⟨operation.name, fault⟩

def Operation.publicationOf (operation : Operation) (data : Json) : Publication :=
  match operation.decode data with
  | .ok publication => publication
  | .error e => operation.failure (.parse e.message)

def Event.publication (operation : Operation) : Event → Option Publication
  | .response data _ => some (operation.publicationOf data)
  | .failure fault => some (operation.failure fault)
  | .progress _ => none

def Event.notes (operation : Operation) : Event → List Note
  | .response data fromCache =>
    .response operation fromCache ::
      match operation.decode data with
      | .ok _ => []
      | .error e => [.undecodable operation e.message]
  | .failure fault => [.failed operation fault]
  | .progress stage => [.progress stage]

end RepoWatch
