import RepoWatch.Channel.Multicast
/-!
# Outlets

An outlet publishes values to named subscribers. A subscriber gets the values emitted after it
subscribed, in order, less those it lost by lagging. An outlet has any number of handles by which
values are emitted; once all are dropped, a subscriber that has read everything finds it closed.
-/

namespace RepoWatch

/-- A published stream of values with its subscribers. -/
structure Outlet (α : Type) where
  log : Multicast α
  /-- How many handles are in use. -/
  handles : Nat
  /-- The subscribers with their positions, the latest first. -/
  subscribers : List (String × Nat)

namespace Outlet

variable {α : Type}

/-- The capacity of an outlet for which none was chosen. -/
def defaultCapacity : Nat := 64

def capacityLimit : Nat := 0x7FFFFFFFFFFFFFFF

def capacityExcess : String := "broadcast channel capacity exceeded `usize::MAX / 2`"

/-- The number of values held for a capacity: the next power of two. -/
def slots (capacity : Nat) : Nat :=
  if capacity ≤ 1 then 1 else Nat.pow 2 ((capacity - 1).log2 + 1)

/-- An outlet with one handle; nothing when the capacity is above the limit. -/
def ofCapacity? (capacity : Nat) : Option (Outlet α) :=
  if capacity ≤ capacityLimit then some ⟨.empty (slots capacity), 1, []⟩ else none

def count (o : Outlet α) : Nat := o.subscribers.length

def emit (o : Outlet α) (value : α) : Outlet α := { o with log := o.log.send value }

def isSubscribed (o : Outlet α) (name : String) : Bool := (o.subscribers.lookup name).isSome

def unsubscribe (o : Outlet α) (name : String) : Outlet α :=
  { o with subscribers := o.subscribers.filter fun s => s.1 != name }

/-- Subscribes a name to the values emitted from now on, instead of what it had before. -/
def subscribe (o : Outlet α) (name : String) : Outlet α :=
  { o with subscribers := (name, o.log.sent) :: (o.unsubscribe name).subscribers }

def clone (o : Outlet α) : Outlet α := { o with handles := o.handles + 1 }

def dropHandle (o : Outlet α) : Outlet α := { o with handles := o.handles - 1 }

/-- Whether all handles were dropped. -/
def isClosed (o : Outlet α) : Bool := o.handles == 0

def moveTo (o : Outlet α) (name : String) (position : Nat) : Outlet α :=
  { o with subscribers := o.subscribers.map fun s => if s.1 = name then (name, position) else s }

/-- What a subscriber finds for what the log delivers. -/
def arrival (o : Outlet α) (found : Delivery α) : Arrival α := found.arrival o.isClosed

/-- What a subscriber finds next; nothing for a name that does not subscribe. -/
def receive (o : Outlet α) (name : String) : Option (Arrival α) × Outlet α :=
  match o.subscribers.lookup name with
  | none => (none, o)
  | some position =>
    let next := o.log.receive position
    (some (o.arrival next.1), o.moveTo name next.2)

/-- Everything a subscriber finds until it has read all, and that the outlet is closed if it is. -/
def drain (o : Outlet α) (name : String) : List (Arrival α) × Outlet α :=
  match o.subscribers.lookup name with
  | none => ([], o)
  | some position =>
    let closing := if o.isClosed then [.closed] else []
    ((o.log.drain position).map o.arrival ++ closing, o.moveTo name o.log.sent)

end Outlet
end RepoWatch
