import RepoWatch.Query.Basic
import RepoWatch.Watch.Event
/-!
# Followers

A follower handles the events of one watch on behalf of the feed, one after the other. It is
switched off at once when its watch is cancelled or superseded: an event that it has taken but
not handled, and all later ones, are then dropped.
-/

namespace RepoWatch

/-- The one who handles the events of a watch. -/
structure Follower where
  query : Query
  /-- Whether events are still to be handled. -/
  isActive : Bool
  /-- Whether the follower is told to end when it next looks for an event. -/
  isAborted : Bool
  /-- The event that was taken and is not handled yet. -/
  holding : Option Event
  isFinished : Bool

namespace Follower

def create (query : Query) : Follower := ⟨query, true, false, none, false⟩

def cancel (f : Follower) : Follower := { f with isActive := false, isAborted := true }

def finish (f : Follower) : Follower := { f with holding := none, isFinished := true }

end Follower
end RepoWatch
