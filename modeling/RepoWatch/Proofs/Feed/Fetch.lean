import RepoWatch.Proofs.Feed.Exactness
import RepoWatch.Proofs.Feed.Queue
import RepoWatch.Proofs.Feed.Service
/-!
# A fetch from end to end

What the subscribers get for a fetch when the watches are those over the cache: what was cached, if
anything was, and then what comes of the request, each of them once; and what the cache holds of the
query afterwards.
-/

namespace RepoWatch

section Fetch

variable {w₀ w w' origin : World} {l : Label} {t past : Trace} {number : Nat} {query : Query}
  {x : Watch} {cache : Cache} {outlets : Outlets}

end Fetch
end RepoWatch
