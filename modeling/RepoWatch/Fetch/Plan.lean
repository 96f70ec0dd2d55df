import RepoWatch.Journal
import RepoWatch.Time.Instant
/-!
# Plans of a fetch

A fetch is a plan: a sequence of calls to a server, waits, looks at the clock and notes, each
continued according to what it gave. The plan does not say who carries it out or what the server
answers; `ι` is the type of its answers.
-/

namespace RepoWatch

/-- What a fetch does, step by step, up to its result. -/
inductive Plan (ι α : Type) where
  | done (result : α)
  | call (query : Query) (next : ι → Plan ι α)
  /-- Waits; what follows is not worked out before. -/
  | wait (span : Span) (next : Unit → Plan ι α)
  | now (next : Instant → Plan ι α)
  | note (note : Note) (next : Plan ι α)
  /-- Something is beyond what can be computed. -/
  | crash (reason : String)

namespace Plan

variable {ι α β : Type}

def bind (p : Plan ι α) (f : α → Plan ι β) : Plan ι β :=
  match p with
  | .done a => f a
  | .call query next => .call query fun i => (next i).bind f
  | .wait span next => .wait span fun u => (next u).bind f
  | .now next => .now fun t => (next t).bind f
  | .note n next => .note n (next.bind f)
  | .crash reason => .crash reason

instance : Monad (Plan ι) where
  pure := .done
  bind := bind

end Plan
end RepoWatch
