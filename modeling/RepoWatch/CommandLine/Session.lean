import RepoWatch.CommandLine.Help
import RepoWatch.Graphql.Exchange
import RepoWatch.Schedule.Basic
/-!
# Sessions

A session of the program: one fetch is followed for a while, and what is published meanwhile is
printed. Time is virtual: a session is determined by what the requests come to.
-/

namespace RepoWatch.CommandLine

open Graphql (Client Exchange)

structure Output where
  exitCode : Nat
  text : String
  errors : String
deriving DecidableEq, Repr

/-- What a session is told from outside: the outcome of its requests, and when it starts. -/
structure Surroundings where
  server : Nat → Answer Exchange
  start : Instant

def printers : List (String × OutletKind) :=
  [("repositories", .repositories), ("detail", .detail), ("commits", .commits),
    ("failures", .failures)]

/-- The heading of a list, and its items indented. -/
def listing (heading : String) (items : List String) : String :=
  lines ((toString items.length ++ " " ++ heading) :: items.map ("  " ++ ·))

def Output.print (out : Output) : Publication → Output
  | .repositories summaries =>
    { out with text := out.text ++ listing "repositories" (summaries.map Payload.Summary.text) }
  | .detail detail => { out with text := out.text ++ lines [detail.text] }
  | .commits edges =>
    { out with text := out.text ++ listing "commits" (edges.map Payload.Commits.Edge.text) }
  | .failure failure => { out with errors := out.errors ++ lines ["Error: " ++ failure.text] }

/-- Prints what arrives; a loss and the end are passed over. -/
def Output.printArrival (out : Output) : Arrival Publication → Output
  | .value publication => out.print publication
  | .lagged _ | .empty | .closed => out

def Command.query : Command → Query
  | .repositories => Hub.repositoriesQuery
  | .detail name => Hub.detailQuery name
  | .commits name => Hub.commitsQuery name

def Options.fetch (o : Options) : Query → Plan Exchange (Except ErrorChain Graphql.Reply) :=
  let options : FetchOptions :=
    { retry := some ⟨o.attempts, .ofMilliseconds o.retryDelay⟩, guardsQuota := true }
  options.strengthen (Client.fetch ⟨o.endpoint, o.token⟩)

def Options.schedule (o : Options) (outlets : Outlets) (around : Surroundings) :
    Schedule Exchange :=
  let s := Schedule.initial outlets ⟨around.server, around.start, 0, [], []⟩ o.fetch
  printers.foldl (fun s (name, kind) => s.subscribe kind name) s

/-- Lets a number of seconds pass; what is due when they are over does not happen any more. -/
def watchFor (s : Schedule Exchange) (seconds : Nat) : Schedule Exchange :=
  if seconds = 0 then s else s.advance (seconds * 1000 - 1)

/-- Prints everything that was published. At most one value is published for a fetch that finds an
empty cache, so that no subscriber lags. -/
def printAll (s : Schedule Exchange) : Output :=
  let step := fun ((out, s) : Output × Schedule Exchange) (name : String) =>
    let (arrivals, s) := Schedule.drain s name
    (arrivals.foldl Output.printArrival out, s)
  ((printers.map Prod.fst).foldl step (⟨0, "", ""⟩, s)).1

def Options.run (o : Options) (around : Surroundings) : Output :=
  match Graphql.checkToken o.token with
  | .error e => ⟨1, "", lines ["Error: " ++ e.full]⟩
  | .ok _ =>
    match Outlets.ofCapacity? o.sinkCapacity with
    | none => ⟨101, "", Outlet.capacityExcess⟩
    | some outlets =>
      let s := (o.schedule outlets around).fetchQuery .hub o.command.query
      printAll (watchFor s o.watchDuration)

/-- What is printed when the command line cannot be followed. -/
def Halt.output : Halt → Output
  | .error e => ⟨2, "", lines ["error: " ++ e.message, "", "For more information, try '--help'."]⟩
  | .help none => ⟨0, programHelp, ""⟩
  | .help (some word) => ⟨0, word.help, ""⟩
  | .helpOnHelp => ⟨0, helpWordHelp, ""⟩
  | .version => ⟨0, lines [programName ++ " " ++ programVersion], ""⟩
  | .nothing => ⟨2, "", programHelp⟩

def run (arguments : List String) (token : Option String) (around : Surroundings) : Output :=
  match Options.read arguments token with
  | .ok options => options.run around
  | .error halt => halt.output

end RepoWatch.CommandLine
