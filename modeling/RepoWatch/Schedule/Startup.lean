import RepoWatch.Failure
/-!
# Starting up

The executor and the feed start jobs of their own, so each of them can only be made where jobs
are run.
-/

namespace RepoWatch

inductive Part where
  | executor
  | feed
deriving DecidableEq, Repr

/-- What is said when a part is made where no jobs are run. -/
def Part.homeless : Part → String
  | .executor => "WatchingQueryExecutor must be created within a tokio runtime"
  | .feed => "WatcherDataSource must be created within a tokio runtime"

/-- Whether a part can be made; `runsJobs` says whether jobs are run here. -/
def Part.check (part : Part) (runsJobs : Bool) : Except ErrorChain Unit :=
  if runsJobs then .ok ()
  else .error ((ErrorChain.ofText "no job can be started here").wrap (.plain part.homeless))

end RepoWatch
