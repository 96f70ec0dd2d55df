import RepoWatch.Schedule.Basic
/-!
# Interleavings

A world is a hub with what others are in the middle of: entries that were changed and are not
announced yet, and a call of the feed that has not returned. A step is the smallest thing that can
happen: what is done under one lock, or between two points at which a job may wait. Which step comes
next is left open, so that a run is any interleaving of the watches, their receivers, the followers,
the calls of the feed and all others that use the cache. The calls of the feed come one after the
other, but anything may happen while one of them is under way.
-/

namespace RepoWatch

/-- How a call of the feed ends, once it has switched off the followers that it has to. -/
inductive Ending where
  /-- A query was fetched by the watch with a number. -/
  | fetch (query : Query) (number : Nat)
  /-- So many watches were cancelled. -/
  | cancel (total : Nat)
  | drop
deriving DecidableEq

/-- A call of the feed that is under way. -/
inductive Call where
  /-- The watch of a query is opened and followed, and is not registered yet. -/
  | registering (query : Query) (number : Nat)
  /-- Followers are switched off one by one. -/
  | switchingOff (numbers : List Nat) (ending : Ending)
deriving DecidableEq

/-- A hub and what happens around it. -/
structure World where
  hub : Hub
  /-- The queries whose entry somebody else than a watch has changed and not announced yet. -/
  unannounced : List Query
  /-- How many hold the cache besides the watches. -/
  owners : Nat
  call : Option Call

inductive Label where
  | silent
  /-- A watch sends an event that is received. -/
  | sent (number : Nat) (event : Event)
  /-- Somebody outside sends an event that is received. -/
  | fed (number : Nat) (event : Event)
  /-- A watch asks the network, and its receiver is told so. -/
  | called (number : Nat)
  /-- The outcome of the request of a watch arrives. -/
  | answered (number : Nat) (outcome : Except ErrorChain Json)
  /-- The request of a watch comes to no outcome. -/
  | crashed (number : Nat)
  /-- Data is stored, by a watch or somebody else; `changed` says whether the entry was another. -/
  | put (writer : Option Nat) (query : Query) (data : Json) (changed : Bool)
  | announced (query : Query)
  | removed
  | handled (number : Nat) (event : Event)
  | fetched (query : Query) (number : Nat)
  /-- The feed begins to cancel all watches. -/
  | stopping
  | returned (ending : Ending)

def Effect.label (effect : Effect) (number : Nat) (query : Query) (cache : Cache) : Label :=
  match effect with
  | .none => .silent
  | .send event => .sent number event
  | .call => .called number
  | .insert data => .put (some number) query data (!cache.holds query data)
  | .announce => .announced query

/-- Whether the same values were emitted at two sets of outlets. -/
def Outlets.SameLogs (o o' : Outlets) : Prop :=
  o.repositories.log = o'.repositories.log ∧ o.detail.log = o'.detail.log ∧
    o.commits.log = o'.commits.log ∧ o.failures.log = o'.failures.log

namespace Hub

/-- Opens the pipe for a fetch: a watch of the hub sends into it, or somebody outside. -/
def openFor (s : Hub) (backend : Schedule.Backend) (query : Query) : Hub :=
  match backend with
  | .hub => s.openWatch query Schedule.feedPolicy
  | .outside => s.openPipe

/-- The event that the next step of a follower handles, if it handles one. -/
def handling? (s : Hub) (number : Nat) : Option Event :=
  match s.pipes[number]?.bind Pipe.follower with
  | some f => if !f.isFinished && f.isActive then f.holding else none
  | none => none

def followerLabel (s : Hub) (number : Nat) : Label :=
  match s.handling? number with
  | some event => .handled number event
  | none => .silent

def conclude (s : Hub) : Ending → Hub
  | .fetch _ _ => s
  | .cancel total => s.note (.cancelled total)
  | .drop => s.closeFeed

end Hub

namespace World

/-- A world in which nothing runs yet, over any cache. -/
def start (cache : Cache) (outlets : Outlets) : World :=
  ⟨⟨cache, [], outlets, [], false, []⟩, [], cache.holders, none⟩

def withHub (w : World) (hub : Hub) : World := { w with hub }

def withCache (w : World) (cache : Cache) : World := w.withHub { w.hub with cache }

def calling (w : World) (call : Option Call) : World := { w with call }

end World

open World

/-- The smallest things that can happen. -/
inductive Step : World → Label → World → Prop where
  | openWatch (w : World) (query : Query) (policy : Policy) :
      Step w .silent (w.withHub (w.hub.openWatch query policy))
  | watch {w : World} {number : Nat} {x : Watch} {hub : Hub} {effect : Effect}
      (hx : w.hub.watch? number = some x) (h : w.hub.stepWatch number = some (hub, effect)) :
      Step w (effect.label number x.query w.hub.cache) (w.withHub hub)
  | overhear {w : World} {number : Nat} {hub : Hub} (h : w.hub.overhear number = some hub) :
      Step w .silent (w.withHub hub)
  | answer {w : World} {number : Nat} {x : Watch} (outcome : Except ErrorChain Json)
      (hx : w.hub.watch? number = some x) (hfetching : x.isFetching = true) :
      Step w (.answered number outcome) (w.withHub (w.hub.answerWatch number outcome))
  | crash {w : World} {number : Nat} {x : Watch} (hx : w.hub.watch? number = some x)
      (hfetching : x.isFetching = true) :
      Step w (.crashed number) (w.withHub (w.hub.crashWatch number))
  -- others at the cache
  | store {w : World} {query : Query} {data : Json} (h : w.hub.cache.holds query data = false) :
      Step w (.put none query data true)
        { w.withCache (w.hub.cache.insert query data) with
          unannounced := query :: w.unannounced }
  | storeEqual {w : World} {query : Query} {data : Json}
      (h : w.hub.cache.holds query data = true) : Step w (.put none query data false) w
  | announce {w : World} {query : Query} (h : query ∈ w.unannounced) :
      Step w (.announced query)
        { w.withCache (w.hub.cache.announce query) with
          unannounced := w.unannounced.erase query }
  | erase (w : World) (query : Query) : Step w .removed (w.withCache (w.hub.cache.erase query))
  | clear (w : World) : Step w .removed (w.withCache w.hub.cache.clear)
  | retain (w : World) :
      Step w .silent { w.withCache w.hub.cache.retain with owners := w.owners + 1 }
  | release {w : World} (h : 0 < w.owners) :
      Step w .silent { w.withCache w.hub.cache.release with owners := w.owners - 1 }
  -- the two ends of a pipe that are not in the hands of the hub
  | hangUp {w : World} {number : Nat} {p : Pipe} (hp : w.hub.pipes[number]? = some p)
      (hfollower : p.follower = none) : Step w .silent (w.withHub (w.hub.hangUp number))
  | receive {w : World} {number : Nat} {p : Pipe} {event : Event} {events : List Event}
      (hp : w.hub.pipes[number]? = some p) (hfollower : p.follower = none)
      (hevents : p.events = event :: events) :
      Step w .silent (w.withHub (w.hub.setPipe number { p with events }))
  | feed {w : World} {number : Nat} {p : Pipe} (event : Event)
      (hp : w.hub.pipes[number]? = some p) (hwatch : p.watch = none)
      (hsender : p.senderOpen = true) (hreceiver : p.receiverOpen = true) :
      Step w (.fed number event) (w.withHub (w.hub.sendEvent number event))
  | closeSender {w : World} {number : Nat} {p : Pipe} (hp : w.hub.pipes[number]? = some p)
      (hwatch : p.watch = none) : Step w .silent (w.withHub (w.hub.closeSender number))
  -- the feed
  | fetch {w : World} (backend : Schedule.Backend) (query : Query) (hcall : w.call = none)
      (hdropped : w.hub.isDropped = false) :
      Step w (.fetched query w.hub.nextNumber)
        ((w.withHub (((w.hub.note (.fetching query)).openFor backend query).attach query
          w.hub.nextNumber)).calling (some (.registering query w.hub.nextNumber)))
  | register {w : World} {query : Query} {number : Nat}
      (hcall : w.call = some (.registering query number)) :
      Step w .silent ((w.withHub (w.hub.register query number)).calling
        (some (.switchingOff (w.hub.registered? query).toList (.fetch query number))))
  | cancel {w : World} (hcall : w.call = none) (hdropped : w.hub.isDropped = false) :
      Step w .stopping ((w.withHub w.hub.clearRegistry).calling
        (some (.switchingOff (w.hub.registry.map Prod.snd) (.cancel w.hub.registry.length))))
  | drop {w : World} (hcall : w.call = none) (hdropped : w.hub.isDropped = false) :
      Step w .stopping ((w.withHub w.hub.clearRegistry).calling
        (some (.switchingOff (w.hub.registry.map Prod.snd) .drop)))
  | switchOff {w : World} {number : Nat} {numbers : List Nat} {ending : Ending}
      (hcall : w.call = some (.switchingOff (number :: numbers) ending)) :
      Step w .silent ((w.withHub (w.hub.cancelFollower number)).calling
        (some (.switchingOff numbers ending)))
  | conclude {w : World} {ending : Ending} (hcall : w.call = some (.switchingOff [] ending)) :
      Step w (.returned ending) ((w.withHub (w.hub.conclude ending)).calling none)
  | follower {w : World} {number : Nat} {hub : Hub}
      (h : w.hub.stepFollower number = some hub) :
      Step w (w.hub.followerLabel number) (w.withHub hub)
  | abort {w : World} {number : Nat} {p : Pipe} {f : Follower}
      (hp : w.hub.pipes[number]? = some p) (hfollower : p.follower = some f)
      (haborted : f.isAborted = true) : Step w .silent (w.withHub (w.hub.finishFollower number))
  -- subscribers come, go and read, and so do those who keep the journal
  | subscribers (w : World) {outlets : Outlets} (hlogs : outlets.SameLogs w.hub.outlets) :
      Step w .silent (w.withHub { w.hub with outlets })
  | journal (w : World) (journal : List Note) :
      Step w .silent (w.withHub { w.hub with journal })

/-- A step that was made, and the world after it. -/
structure Moment where
  label : Label
  world : World

/-- What happened in a run, in order. -/
abbrev Trace := List Moment

/-- The runs from a world: what happened, and the world after it. -/
inductive Run (origin : World) : Trace → World → Prop where
  | nil : Run origin [] origin
  | snoc {t : Trace} {w w' : World} {l : Label} (run : Run origin t w) (step : Step w l w') :
      Run origin (t ++ [⟨l, w'⟩]) w'

end RepoWatch
