import RepoWatch.Feed.Follower
import RepoWatch.Feed.Outlets
import RepoWatch.Watch.Basic
/-!
# The hub of watches

A cache, the watches over it, the feed that follows watches and publishes what they report, and
the pipes between them. The transitions here are the smallest things that can happen; in which
order they happen is left open.
-/

namespace RepoWatch

/-- The way of the events of one watch: from a sender, through a queue, to a receiver. -/
structure Pipe where
  /-- The events that were sent and not received. -/
  events : List Event
  senderOpen : Bool
  receiverOpen : Bool
  /-- The watch that sends, if it is one of the hub. -/
  watch : Option Watch
  /-- The follower that receives, if it is one of the feed. -/
  follower : Option Follower

/-- The state of a cache, its watches and a feed. -/
structure Hub where
  cache : Cache
  /-- The pipes, by the number of the watch. -/
  pipes : List Pipe
  outlets : Outlets
  /-- The watch that each fetched query has in the feed. -/
  registry : List (Query × Nat)
  isDropped : Bool
  /-- The notes not taken yet, the latest first. -/
  journal : List Note

namespace Pipe

/-- A pipe into which a watch of the hub sends. -/
def ofWatch (watch : Watch) : Pipe := ⟨[], true, true, some watch, none⟩

/-- A pipe into which somebody else sends. -/
def bare : Pipe := ⟨[], true, true, none, none⟩

/-- Sends an event; it is lost when nobody receives. -/
def send (p : Pipe) (event : Event) : Pipe :=
  if p.receiverOpen then { p with events := p.events ++ [event] } else p

/-- Sends what the step of a watch sends. -/
def deliver (p : Pipe) (effect : Effect) : Pipe :=
  match effect.event? with
  | some event => p.send event
  | none => p

/-- Closes the receiving end; what is in the queue is lost. -/
def hangUp (p : Pipe) : Pipe := { p with events := [], receiverOpen := false }

def closeSender (p : Pipe) : Pipe := { p with senderOpen := false }

/-- Sets the watch; the sending end is closed when the watch has stopped. -/
def withWatch (p : Pipe) (watch : Watch) : Pipe :=
  { p with watch := some watch, senderOpen := p.senderOpen && !watch.isStopped }

end Pipe

namespace Hub

def initial (outlets : Outlets) : Hub := ⟨.empty, [], outlets, [], false, []⟩

def nextNumber (s : Hub) : Nat := s.pipes.length

def note (s : Hub) (n : Note) : Hub := { s with journal := n :: s.journal }

/-- Records notes, in order. -/
def noteAll (s : Hub) (ns : List Note) : Hub := ns.foldl note s

def setPipe (s : Hub) (number : Nat) (p : Pipe) : Hub :=
  { s with pipes := s.pipes.set number p }

def setFollower (s : Hub) (number : Nat) (p : Pipe) (f : Follower) : Hub :=
  s.setPipe number { p with follower := some f }

/-! ## Watches -/

def watch? (s : Hub) (number : Nat) : Option Watch := s.pipes[number]?.bind Pipe.watch

def isReceived (s : Hub) (number : Nat) : Bool :=
  (s.pipes[number]?.map Pipe.receiverOpen).getD false

def openWatch (s : Hub) (query : Query) (policy : Policy) : Hub :=
  let s := s.note (.watching query.operation policy)
  { s with cache := s.cache.retain
           pipes := s.pipes ++ [.ofWatch (.create s.cache query policy)] }

/-- Opens a pipe into which somebody outside the hub sends. -/
def openPipe (s : Hub) : Hub := { s with pipes := s.pipes ++ [.bare] }

/-- The watch of a pipe becomes another one. -/
def moveWatch (s : Hub) (number : Nat) (p : Pipe) (w w' : Watch) : Hub :=
  { s with cache := w.leave w' s.cache }.setPipe number (p.withWatch w')

/-- One step of a watch, with what it did; nothing when the watch waits or has ended. -/
def stepWatch (s : Hub) (number : Nat) : Option (Hub × Effect) := do
  let p ← s.pipes[number]?
  let w ← p.watch
  let (w', effect) ← w.step p.receiverOpen s.cache
  let s := { s with cache := effect.applyTo w.query s.cache }
  return (s.moveWatch number (p.deliver effect) w w', effect)

/-- A watch whose receiver is gone while it follows changes may find a change before it finds
that; nothing when it is not in this position, or there is no change. -/
def overhear (s : Hub) (number : Nat) : Option Hub := do
  let p ← s.pipes[number]?
  let w ← p.watch
  if w.isListening && !p.receiverOpen then
    let (w', _) ← w.step true s.cache
    return s.moveWatch number p w w'
  else none

def answerWatch (s : Hub) (number : Nat) (outcome : Except ErrorChain Json) : Hub :=
  match s.pipes[number]? with
  | some p =>
    match p.watch with
    | some w => s.moveWatch number p w (w.answer p.receiverOpen outcome)
    | none => s
  | none => s

/-- The request of a watch comes to no outcome, and the watch ends. -/
def crashWatch (s : Hub) (number : Nat) : Hub :=
  match s.pipes[number]? with
  | some p =>
    match p.watch with
    | some w => s.moveWatch number p w (w.goTo .stopped)
    | none => s
  | none => s

def hangUp (s : Hub) (number : Nat) : Hub :=
  match s.pipes[number]? with
  | some p => s.setPipe number p.hangUp
  | none => s

def sendEvent (s : Hub) (number : Nat) (event : Event) : Hub :=
  match s.pipes[number]? with
  | some p => s.setPipe number (p.send event)
  | none => s

def closeSender (s : Hub) (number : Nat) : Hub :=
  match s.pipes[number]? with
  | some p => s.setPipe number p.closeSender
  | none => s

/-! ## The feed -/

/-- A follower ends: its receiving end is closed, and its handle of the outlets is dropped. -/
def finishFollower (s : Hub) (number : Nat) : Hub :=
  match s.pipes[number]? with
  | some p =>
    match p.follower with
    | some f =>
      if f.isFinished then s
      else
        { s with outlets := s.outlets.dropHandle f.query.operation }.setFollower number
          p.hangUp f.finish
    | none => s
  | none => s

/-- Publishes a value, and notes when nobody hears it. -/
def publish (s : Hub) (publication : Publication) : Hub :=
  let s := if s.outlets.audience publication = 0 then s.note .unheard else s
  { s with outlets := s.outlets.publish publication }

/-- What handling an event does: it is noted, and what it gives is published. -/
def handle (s : Hub) (operation : Operation) (event : Event) : Hub :=
  let s := s.noteAll (event.notes operation)
  match event.publication operation with
  | some publication => s.publish publication
  | none => s

/-- One step of a follower: it takes an event, or handles the one it has taken, or ends because
it was switched off or no event can come. Nothing when it has to wait or has ended. -/
def stepFollower (s : Hub) (number : Nat) : Option Hub := do
  let p ← s.pipes[number]?
  let f ← p.follower
  if f.isFinished then none
  else
    match f.holding, p.events with
    | some event, _ =>
      if f.isActive then
        some ((s.setFollower number p { f with holding := none }).handle f.query.operation event)
      else some (s.finishFollower number)
    | none, event :: events =>
      some (s.setFollower number { p with events } { f with holding := some event })
    | none, [] => if p.senderOpen then none else some (s.finishFollower number)

def cancelFollower (s : Hub) (number : Nat) : Hub :=
  match s.pipes[number]? with
  | some p =>
    match p.follower with
    | some f => s.setFollower number p f.cancel
    | none => s
  | none => s

/-- A follower begins to handle the events of a pipe, on behalf of a query. -/
def attach (s : Hub) (query : Query) (number : Nat) : Hub :=
  match s.pipes[number]? with
  | some p =>
    { s with outlets := s.outlets.clone query.operation }.setFollower number p (.create query)
  | none => s

def registered? (s : Hub) (query : Query) : Option Nat := s.registry.lookup query

/-- Registers the watch of a query, in place of the one that it had. -/
def register (s : Hub) (query : Query) (number : Nat) : Hub :=
  { s with registry := (query, number) :: s.registry.filter fun entry => entry.1 != query }

/-- Switches off several followers, one after the other. -/
def cancelFollowers (s : Hub) (numbers : List Nat) : Hub := numbers.foldl cancelFollower s

/-- Follows the watch that was opened last, on behalf of a query; the watch that the query had
before is superseded. -/
def follow (s : Hub) (query : Query) : Hub :=
  let number := s.pipes.length - 1
  ((s.attach query number).register query number).cancelFollowers (s.registered? query).toList

def clearRegistry (s : Hub) : Hub := { s with registry := [] }

def cancelAll (s : Hub) : Hub := s.clearRegistry.cancelFollowers (s.registry.map Prod.snd)

/-- Switches off all followers, on request. -/
def cancel (s : Hub) : Hub := s.cancelAll.note (.cancelled s.registry.length)

def closeFeed (s : Hub) : Hub := { s with outlets := s.outlets.close, isDropped := true }

/-- The feed goes: all followers are switched off, and its own handles are dropped. -/
def dropFeed (s : Hub) : Hub := s.cancelAll.closeFeed

def isFollowed (s : Hub) (number : Nat) : Bool :=
  match s.pipes[number]? with
  | some p => (p.follower.map fun f => !f.isFinished).getD false
  | none => false

/-- The number of registered watches that are still followed. -/
def activeCount (s : Hub) : Nat := (s.registry.filter fun entry => s.isFollowed entry.2).length

/-! ## What the feed asks for -/

def repositoriesCount : UInt16 := 50

/-- The query for the repositories of the user: those updated last, first. -/
def repositoriesQuery : Query := .repositories repositoriesCount .updatedAt .descending

/-- The query for a repository with its open pull requests. -/
def detailQuery (name : String) : Query := .detail name [.opened]

def commitsQuery (name : String) : Query := .commits name

end Hub
end RepoWatch
