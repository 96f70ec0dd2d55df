import RepoWatch.Failure
import RepoWatch.Json.Basic
/-!
# Events of a watch

How a query is resolved, and what a watch reports while it resolves the query and after.
-/

namespace RepoWatch

/-- How a query is resolved against the cache and the network. -/
inductive Policy where
  /-- Only read the cache; a miss is a failure. -/
  | cacheOnly
  | networkOnly
  /-- Read the cache, and ask the network on a miss. -/
  | cacheFirst
  /-- Read the cache, and ask the network in any case. -/
  | cacheAndNetwork
deriving DecidableEq, Repr

def Policy.label : Policy → String
  | .cacheOnly => "cache-only"
  | .networkOnly => "network-only"
  | .cacheFirst => "cache-first"
  | .cacheAndNetwork => "cache-and-network"

inductive Progress where
  | scheduled
  | fetchCache
  | fetchNetwork
  | completed
deriving DecidableEq, Repr

def Progress.label : Progress → String
  | .scheduled => "SCHEDULED"
  | .fetchCache => "FETCH_CACHE"
  | .fetchNetwork => "FETCH_NETWORK"
  | .completed => "COMPLETED"

inductive Event where
  /-- Data, from the cache or from the network. -/
  | response (data : Json) (fromCache : Bool)
  | failure (fault : QueryFault)
  | progress (stage : Progress)
deriving Inhabited

end RepoWatch
