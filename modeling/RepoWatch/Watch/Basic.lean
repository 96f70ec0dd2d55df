import RepoWatch.Cache
import RepoWatch.Watch.Event
/-!
# Watches

A watch resolves a query according to its policy and then follows the changes of the cache. It
moves in small steps, between which anything may happen to the cache; a step sends at most one
event, or touches the cache once. To tell that the network is asked, and to ask it, is one step: a
watch has nothing to wait for in between. A watch whose receiver is gone stops at its next step,
unless that step stores what was fetched.
-/

namespace RepoWatch

inductive Phase where
  | created
  | announcingRead
  | reading
  | sendingCached (data : Json)
  | sendingMiss
  | announcingFetch
  | fetching
  | storing (data : Json)
  | notifying (data : Json)
  | sendingFetched (data : Json)
  | sendingFailure (fault : QueryFault)
  | completing
  /-- The query is resolved; the changes of the cache are followed. -/
  | listening
  | rereading
  | sendingChange (data : Json)
  | stopped
deriving Inhabited

structure Watch where
  query : Query
  policy : Policy
  position : Nat
  lastSent : Option Json
  phase : Phase

inductive Effect where
  | none
  | send (event : Event)
  /-- The network is asked, and the receiver is told so. -/
  | call
  /-- The data becomes the cache entry of the watched query. -/
  | insert (data : Json)
  | announce

/-- What an effect sends. -/
def Effect.event? : Effect → Option Event
  | .send event => some event
  | .call => some (.progress .fetchNetwork)
  | .none | .insert _ | .announce => Option.none

/-- What an effect does to the cache, for a watch of a query. -/
def Effect.applyTo (effect : Effect) (query : Query) (cache : Cache) : Cache :=
  match effect with
  | .insert data => cache.insert query data
  | .announce => cache.announce query
  | .none | .send _ | .call => cache

namespace Watch

/-- A watch that sees the changes of the cache from now on. -/
def create (cache : Cache) (query : Query) (policy : Policy) : Watch :=
  ⟨query, policy, cache.follow, none, .created⟩

def goTo (w : Watch) (phase : Phase) : Watch := { w with phase }

def isStopped (w : Watch) : Bool := match w.phase with
  | .stopped => true
  | _ => false

/-- Whether the request of a watch is under way. -/
def isFetching (w : Watch) : Bool := match w.phase with
  | .fetching => true
  | _ => false

/-- Whether a watch follows the changes of the cache. -/
def isListening (w : Watch) : Bool := match w.phase with
  | .listening => true
  | _ => false

/-- The cache after a watch has become another one: a watch holds it until it stops. -/
def leave (w w' : Watch) (cache : Cache) : Cache :=
  if w'.isStopped && !w.isStopped then cache.release else cache

/-- Sends an event and goes on, or stops when nobody receives it. -/
def emit (w : Watch) (heard : Bool) (event : Event) (next : Phase) : Watch × Effect :=
  if heard then (w.goTo next, .send event) else (w.goTo .stopped, .none)

/-- Sends data, remembering it. -/
def emitData (w : Watch) (heard : Bool) (data : Json) (fromCache : Bool) (next : Phase) :
    Watch × Effect :=
  emit { w with lastSent := some data } heard (.response data fromCache) next

def begin : Policy → Phase
  | .networkOnly => .announcingFetch
  | .cacheOnly | .cacheFirst | .cacheAndNetwork => .announcingRead

def afterRead (policy : Policy) : Option Json → Phase
  | some data => .sendingCached data
  | none => if policy = .cacheOnly then .sendingMiss else .announcingFetch

def afterCached (policy : Policy) : Phase :=
  if policy = .cacheAndNetwork then .announcingFetch else .completing

/-- Whether data is equal to what was sent last. -/
def repeats (w : Watch) (data : Json) : Bool :=
  match w.lastSent with
  | some last => last == data
  | none => false

/-- What follows a read of the cache for a change. -/
def afterReread (w : Watch) : Option Json → Phase
  | some data => if w.repeats data then .listening else .sendingChange data
  | none => .listening

/-- What follows a change: a change of the watched query, or a loss of changes, calls for a read
of the cache. The watch ends when no change can come. -/
def afterChange (w : Watch) (change : Arrival Query) (position : Nat) : Option Watch :=
  match change with
  | .value q =>
    some { w with position, phase := if q = w.query then .rereading else .listening }
  | .lagged _ => some { w with position, phase := .rereading }
  | .empty => none
  | .closed => some (w.goTo .stopped)

/-- One step; `heard` says whether the receiver is there. A watch that waits for an answer or for
a change has none. -/
def step (w : Watch) (heard : Bool) (cache : Cache) : Option (Watch × Effect) :=
  match w.phase with
  | .created => some (w.emit heard (.progress .scheduled) (begin w.policy))
  | .announcingRead => some (w.emit heard (.progress .fetchCache) .reading)
  | .reading =>
    some (w.goTo (if heard then afterRead w.policy (cache.get? w.query) else .stopped), .none)
  | .sendingCached data => some (w.emitData heard data true (afterCached w.policy))
  | .sendingMiss => some (w.emit heard (.failure (.cacheMiss w.query.text)) .completing)
  | .announcingFetch => some (if heard then (w.goTo .fetching, .call) else (w.goTo .stopped, .none))
  | .fetching => if heard then none else some (w.goTo .stopped, .none)
  | .storing data =>
    some (w.goTo (if cache.holds w.query data then .sendingFetched data else .notifying data),
      .insert data)
  | .notifying data => some (w.goTo (.sendingFetched data), .announce)
  | .sendingFetched data => some (w.emitData heard data false .completing)
  | .sendingFailure fault => some (w.emit heard (.failure fault) .completing)
  | .completing => some (w.emit heard (.progress .completed) .listening)
  | .listening =>
    if heard then
      let next := cache.nextChange w.position
      (w.afterChange next.1 next.2).map fun w => (w, .none)
    else some (w.goTo .stopped, .none)
  | .rereading => some (w.goTo (w.afterReread (cache.get? w.query)), .none)
  | .sendingChange data => some (w.emitData heard data true .listening)
  | .stopped => none

/-- The outcome of the request arrives: data to be stored, or an error. A watch whose receiver is
gone does not look at it. -/
def answer (w : Watch) (heard : Bool) (outcome : Except ErrorChain Json) : Watch :=
  if !w.isFetching then w
  else if !heard then w.goTo .stopped
  else
    match outcome with
    | .ok data => w.goTo (.storing data)
    | .error e => w.goTo (.sendingFailure e.toFault)

end Watch
end RepoWatch
