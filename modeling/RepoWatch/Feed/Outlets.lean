import RepoWatch.Channel.Outlet
import RepoWatch.Feed.Publication
/-!
# The outlets of a feed

A feed has one outlet for each kind of value, and one for failures.
-/

namespace RepoWatch

open Payload

structure Outlets where
  repositories : Outlet (List Summary)
  detail : Outlet Detail
  commits : Outlet (List Commits.Edge)
  failures : Outlet QueryFailure

inductive OutletKind where
  | repositories
  | detail
  | commits
  | failures
deriving DecidableEq, Repr

def Operation.outlet : Operation → OutletKind
  | .repositories => .repositories
  | .detail => .detail
  | .commits => .commits

namespace Outlets

/-- Outlets of the given capacity; nothing when it is above the limit. -/
def ofCapacity? (capacity : Nat) : Option Outlets := do
  return ⟨← Outlet.ofCapacity? capacity, ← Outlet.ofCapacity? capacity,
    ← Outlet.ofCapacity? capacity, ← Outlet.ofCapacity? capacity⟩

/-- A change that is possible at every outlet. -/
structure Change where
  apply : {α : Type} → Outlet α → Outlet α

def modify (o : Outlets) (kind : OutletKind) (change : Change) : Outlets :=
  match kind with
  | .repositories => { o with repositories := change.apply o.repositories }
  | .detail => { o with detail := change.apply o.detail }
  | .commits => { o with commits := change.apply o.commits }
  | .failures => { o with failures := change.apply o.failures }

def modifyAll (o : Outlets) (change : Change) : Outlets :=
  ⟨change.apply o.repositories, change.apply o.detail, change.apply o.commits,
    change.apply o.failures⟩

/-- One more handle for an operation: its own outlet and the failures. -/
def clone (o : Outlets) (operation : Operation) : Outlets :=
  (o.modify operation.outlet ⟨Outlet.clone⟩).modify .failures ⟨Outlet.clone⟩

def dropHandle (o : Outlets) (operation : Operation) : Outlets :=
  (o.modify operation.outlet ⟨Outlet.dropHandle⟩).modify .failures ⟨Outlet.dropHandle⟩

def close (o : Outlets) : Outlets := o.modifyAll ⟨Outlet.dropHandle⟩

def subscribe (o : Outlets) (kind : OutletKind) (name : String) : Outlets :=
  o.modify kind ⟨fun outlet => outlet.subscribe name⟩

def unsubscribe (o : Outlets) (name : String) : Outlets :=
  o.modifyAll ⟨fun outlet => outlet.unsubscribe name⟩

def isSubscribed (o : Outlets) (name : String) : Bool :=
  o.repositories.isSubscribed name || o.detail.isSubscribed name || o.commits.isSubscribed name
    || o.failures.isSubscribed name

def publish (o : Outlets) : Publication → Outlets
  | .repositories summaries => { o with repositories := o.repositories.emit summaries }
  | .detail detail => { o with detail := o.detail.emit detail }
  | .commits edges => { o with commits := o.commits.emit edges }
  | .failure failure => { o with failures := o.failures.emit failure }

def audience (o : Outlets) : Publication → Nat
  | .repositories _ => o.repositories.count
  | .detail _ => o.detail.count
  | .commits _ => o.commits.count
  | .failure _ => o.failures.count

private def lift {α : Type} (f : α → Publication) : Arrival α → Arrival Publication
  | .value a => .value (f a)
  | .lagged lost => .lagged lost
  | .empty => .empty
  | .closed => .closed

/-- Everything that a name finds at the outlet it subscribes to. -/
def drain (o : Outlets) (name : String) : List (Arrival Publication) × Outlets :=
  let (repositories, atRepositories) := o.repositories.drain name
  let (detail, atDetail) := o.detail.drain name
  let (commits, atCommits) := o.commits.drain name
  let (failures, atFailures) := o.failures.drain name
  (repositories.map (lift .repositories) ++ detail.map (lift .detail)
      ++ commits.map (lift .commits) ++ failures.map (lift .failure),
    ⟨atRepositories, atDetail, atCommits, atFailures⟩)

end Outlets
end RepoWatch
