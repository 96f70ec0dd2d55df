import RepoWatch.Feed.Hub
import RepoWatch.Fetch.Environment
import RepoWatch.Fetch.Stack
/-!
# Schedules

A hub together with what decides the order of its steps: jobs run one at a time, in the order
in which they became ready, each until it has to wait; time moves only when no job is ready.
-/

namespace RepoWatch

open Graphql

/-- A job: to run a watch, or a follower. -/
inductive Job where
  | watch (number : Nat)
  | follower (number : Nat)
deriving DecidableEq, Repr

structure Suspended (ι : Type) where
  /-- The number of the watch. -/
  number : Nat
  due : Nat
  rest : Plan ι (Except ErrorChain Reply)

/-- A hub with its surroundings, the jobs that are ready, and what the other ones wait for. -/
structure Schedule (ι : Type) where
  hub : Hub
  environment : Environment ι
  fetch : Query → Plan ι (Except ErrorChain Reply)
  /-- The jobs that are ready, the first one next. -/
  ready : List Job
  /-- The watches that wait for a change, in the order in which they began to. -/
  listeners : List Nat
  /-- The requests that wait for their time, in the order in which they began to. -/
  suspended : List (Suspended ι)

namespace Schedule

variable {ι : Type}

/-- The schedule at the beginning: nothing runs. -/
def initial (outlets : Outlets) (environment : Environment ι)
    (fetch : Query → Plan ι (Except ErrorChain Reply)) : Schedule ι :=
  ⟨.initial outlets, environment, fetch, [], [], []⟩

/-- Makes a job ready, unless it is. -/
def wake (s : Schedule ι) (job : Job) : Schedule ι :=
  if job ∈ s.ready then s else { s with ready := s.ready ++ [job] }

def wakeListeners (s : Schedule ι) : Schedule ι :=
  let woken := s.listeners
  woken.foldl (fun s number => s.wake (.watch number)) { s with listeners := [] }

def listen (s : Schedule ι) (number : Nat) : Schedule ι :=
  if number ∈ s.listeners then s else { s with listeners := s.listeners ++ [number] }

/-- A watch neither waits for changes nor for its request. -/
def forget (s : Schedule ι) (number : Nat) : Schedule ι :=
  { s with listeners := s.listeners.filter (· != number)
           suspended := s.suspended.filter (·.number != number) }

def withHub (s : Schedule ι) (hub : Hub) : Schedule ι := { s with hub }

def watch? (s : Schedule ι) (number : Nat) : Option Watch := s.hub.watch? number

def isRunning (s : Schedule ι) (number : Nat) : Bool :=
  ((s.watch? number).map fun watch => !watch.isStopped).getD false

def runningCount (s : Schedule ι) : Nat :=
  (s.hub.pipes.filter fun p => (p.watch.map fun watch => !watch.isStopped).getD false).length

/-- A watch that has stopped is forgotten, and the follower finds its pipe closed. -/
def noticeStop (s : Schedule ι) (number : Nat) : Schedule ι :=
  if s.isRunning number then s else (s.forget number).wake (.follower number)

def wakeFor (s : Schedule ι) (number : Nat) : Effect → Schedule ι
  | .send _ | .call => s.wake (.follower number)
  | .announce => s.wakeListeners
  | .none | .insert _ => s

/-- Moves the notes of the environment to the journal of the hub. -/
def collectNotes (s : Schedule ι) : Schedule ι :=
  { s with hub := s.hub.noteAll s.environment.notes.reverse
           environment := { s.environment with notes := [] } }

/-- Goes on with the request of a watch, until it waits or ends. -/
def proceed (s : Schedule ι) (number : Nat) (plan : Plan ι (Except ErrorChain Reply)) :
    Schedule ι :=
  let (pause, environment) := plan.advance s.environment
  let s := { s with environment }.collectNotes
  match pause with
  | .until due rest => { s with suspended := s.suspended ++ [⟨number, due, rest⟩] }
  | .finished (.ok reply) => s.withHub (s.hub.answerWatch number (.ok reply.data))
  | .finished (.error e) => s.withHub (s.hub.answerWatch number (.error e))
  | .crashed _ => (s.withHub (s.hub.crashWatch number)).noticeStop number

def due? (s : Schedule ι) (number : Nat) : Option (Plan ι (Except ErrorChain Reply)) :=
  (s.suspended.find? fun x => x.number = number && x.due ≤ s.environment.clock).map (·.rest)

/-- Makes a watch wait, if it runs: for its request, or for a change. -/
def rest (s : Schedule ι) (number : Nat) : Schedule ι :=
  match s.watch? number with
  | some watch => if watch.isStopped || watch.isFetching then s else s.listen number
  | none => s

/-- Runs a watch until it has to wait, for at most so many steps. -/
def runWatch (number : Nat) : Nat → Schedule ι → Schedule ι
  | 0, s => s
  | fuel + 1, s =>
    match s.hub.stepWatch number with
    | some (hub, effect) =>
      let s := ((s.withHub hub).wakeFor number effect).noticeStop number
      match effect, s.watch? number with
      | .call, some watch => runWatch number fuel (s.proceed number (s.fetch watch.query))
      | _, _ => runWatch number fuel s
    | none =>
      match s.due? number with
      | some plan => runWatch number fuel ((s.forget number).proceed number plan)
      | none => s.rest number

/-- Runs a follower until it has to wait, for at most so many steps. -/
def runFollower (number : Nat) : Nat → Schedule ι → Schedule ι
  | 0, s => s
  | fuel + 1, s =>
    match s.hub.stepFollower number with
    | some hub => runFollower number fuel (s.withHub hub)
    | none => s

def isAborted (s : Schedule ι) (number : Nat) : Bool :=
  ((s.hub.pipes[number]?.bind Pipe.follower).map Follower.isAborted).getD false

def isReceived (s : Schedule ι) (number : Nat) : Bool := s.hub.isReceived number

/-- More steps than a watch can make before it waits: three for each change that it has not seen,
its own one included, and those of resolving the query. -/
def watchFuel (s : Schedule ι) : Nat := 3 * Cache.changeCapacity + 3 * s.hub.pipes.length + 32

/-- More steps than a follower can make before it waits: two for each event. -/
def followerFuel (s : Schedule ι) (number : Nat) : Nat :=
  2 * (s.hub.pipes[number]?.map fun p => p.events.length).getD 0 + 4

/-- Runs a job. A follower that is told to end does so at once; a watch hears of it. -/
def runJob (s : Schedule ι) : Job → Schedule ι
  | .watch number => runWatch number s.watchFuel s
  | .follower number =>
    let received := s.isReceived number
    let s :=
      if s.isAborted number then s.withHub (s.hub.finishFollower number)
      else runFollower number (s.followerFuel number) s
    if received && !s.isReceived number && s.isRunning number then s.wake (.watch number) else s

/-- Runs jobs until none is ready, at most so many. -/
def settleWithin : Nat → Schedule ι → Schedule ι
  | 0, s => s
  | fuel + 1, s =>
    match s.ready with
    | [] => s
    | job :: ready => settleWithin fuel ({ s with ready }.runJob job)

/-- More jobs than can run before all wait: each watch announces at most one change, which wakes
every other one, and each run of a watch wakes its follower. -/
def settleFuel (s : Schedule ι) : Nat :=
  let n := s.hub.pipes.length + 1
  2 * (s.ready.length + n * n + 3 * n)

def settle (s : Schedule ι) : Schedule ι := settleWithin s.settleFuel s

/-! ## Time -/

/-- The next time at which a request is due, if it is not after `limit`. -/
def nextDue? (s : Schedule ι) (limit : Nat) : Option Nat :=
  ((s.suspended.map Suspended.due).filter (· ≤ limit)).min?

/-- Moves the clock to a time and makes the requests ready that are due then. -/
def moveTo (s : Schedule ι) (time : Nat) : Schedule ι :=
  let s := { s with environment := s.environment.atTime time }
  (s.suspended.filter fun x => x.due ≤ time).foldl (fun s x => s.wake (.watch x.number)) s

/-- Lets time pass until `limit`, at most at so many times when something is due. -/
def advanceWithin (limit : Nat) : Nat → Schedule ι → Schedule ι
  | 0, s => s
  | fuel + 1, s =>
    match s.nextDue? limit with
    | some time => advanceWithin limit fuel (s.moveTo time).settle
    | none => { s with environment := s.environment.atTime limit }

/-- Lets a number of milliseconds pass. Something is due at most once in a millisecond. -/
def advance (s : Schedule ι) (milliseconds : Nat) : Schedule ι :=
  let s := s.settle
  advanceWithin (s.environment.clock + milliseconds) (milliseconds + 1) s

/-! ## What can be done from outside -/

def openWatch (s : Schedule ι) (query : Query) (policy : Policy) : Schedule ι :=
  let number := s.hub.nextNumber
  (s.withHub (s.hub.openWatch query policy)).wake (.watch number)

def openPipe (s : Schedule ι) : Schedule ι := s.withHub s.hub.openPipe

def hangUp (s : Schedule ι) (number : Nat) : Schedule ι :=
  let s := s.withHub (s.hub.hangUp number)
  if s.isRunning number then s.wake (.watch number) else s

def takeEvents (s : Schedule ι) (number : Nat) : List Event × Schedule ι :=
  match s.hub.pipes[number]? with
  | some p => (p.events, s.withHub (s.hub.setPipe number { p with events := [] }))
  | none => ([], s)

def changeCache (s : Schedule ι) (change : Cache → Cache) : Schedule ι :=
  s.withHub { s.hub with cache := change s.hub.cache }

/-- Stores data, and says whether the entry was changed. -/
def put (s : Schedule ι) (query : Query) (data : Json) : Bool × Schedule ι :=
  let changes := !s.hub.cache.holds query data
  let s := s.changeCache fun cache => cache.put query data
  (changes, if changes then s.wakeListeners else s)

/-- Stores data for several queries, and counts the changed entries. -/
def putAll (s : Schedule ι) (queries : List Query) (data : Json) : Nat × Schedule ι :=
  queries.foldl
    (fun (count, s) query =>
      let (changed, s) := s.put query data
      (if changed then count + 1 else count, s))
    (0, s)

/-- Who runs the watches that the feed asks for. -/
inductive Backend where
  | hub
  /-- Somebody outside, who sends into the pipes. -/
  | outside
deriving DecidableEq, Repr

/-- The policy with which the feed watches. -/
def feedPolicy : Policy := .cacheAndNetwork

def fetchQuery (s : Schedule ι) (backend : Backend) (query : Query) : Schedule ι :=
  let number := s.hub.nextNumber
  let s := s.withHub (s.hub.note (.fetching query))
  let s := match backend with
    | .hub => s.openWatch query feedPolicy
    | .outside => s.openPipe
  let previous := s.hub.registry.lookup query
  let s := (s.withHub (s.hub.follow query)).wake (.follower number)
  match previous with
  | some number => s.wake (.follower number)
  | none => s

private def wakeFollowers (s : Schedule ι) (registry : List (Query × Nat)) : Schedule ι :=
  registry.foldl (fun s entry => s.wake (.follower entry.2)) s

def cancel (s : Schedule ι) : Schedule ι :=
  (s.withHub s.hub.cancel).wakeFollowers s.hub.registry

def dropFeed (s : Schedule ι) : Schedule ι :=
  (s.withHub s.hub.dropFeed).wakeFollowers s.hub.registry

/-- Sends an event from outside, and says whether it can be received. -/
def send (s : Schedule ι) (number : Nat) (event : Event) : Bool × Schedule ι :=
  match s.hub.pipes[number]? with
  | some p =>
    if p.senderOpen && p.receiverOpen then
      (true, (s.withHub (s.hub.sendEvent number event)).wake (.follower number))
    else (false, s)
  | none => (false, s)

/-- Closes a pipe from outside, and says whether it was open at that end. -/
def closeSender (s : Schedule ι) (number : Nat) : Bool × Schedule ι :=
  match s.hub.pipes[number]? with
  | some p =>
    if p.senderOpen then
      (true, (s.withHub (s.hub.closeSender number)).wake (.follower number))
    else (false, s)
  | none => (false, s)

def subscribe (s : Schedule ι) (kind : OutletKind) (name : String) : Schedule ι :=
  s.withHub
    { s.hub with outlets := (s.hub.outlets.unsubscribe name).subscribe kind name }

/-- Ends the subscription of a name, and says whether there was one. -/
def unsubscribe (s : Schedule ι) (name : String) : Bool × Schedule ι :=
  (s.hub.outlets.isSubscribed name,
    s.withHub { s.hub with outlets := s.hub.outlets.unsubscribe name })

def drain (s : Schedule ι) (name : String) : List (Arrival Publication) × Schedule ι :=
  let (found, outlets) := s.hub.outlets.drain name
  (found, s.withHub { s.hub with outlets })

/-- Takes the notes of the journal, in order. -/
def takeNotes (s : Schedule ι) : List Note × Schedule ι :=
  (s.hub.journal.reverse, s.withHub { s.hub with journal := [] })

/-- The queries of the calls after the first so many. -/
def callsSince (s : Schedule ι) (count : Nat) : List Query :=
  (s.environment.calls.reverse.drop count).map Prod.fst

end Schedule
end RepoWatch
